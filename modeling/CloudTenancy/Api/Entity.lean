/-!
CloudTenancy.Api.Entity — what the service sends and stores.

* `EntityRef` — a reference to another entity.
* `Org`, `User`, `Role`, `Region` — the entities.
* `Page` — one page of a collection.
* `SupportedVersions`, `VersionInfo` — the versions of the service's interface.
* `Task`, `TaskFailure` — a long running operation.
* `ErrorBody` — the body of a failure reply.
* `ApiTokenFile`, `ServiceAccountFile`, `TokenGrant` — tokens in files and in replies.
-/

namespace CloudTenancy

/-- A reference to another entity, by id, by name or by both. -/
structure EntityRef where
  id : String := ""
  name : String := ""
  deriving DecidableEq, Repr

def EntityRef.ofId (id : String) : EntityRef := { id }

structure Org where
  id : String := ""
  name : String
  displayName : String := ""
  description : String := ""
  isEnabled : Bool := true
  isClassicTenant : Bool := false
  managedBy? : Option EntityRef := none
  deriving DecidableEq, Repr

structure User where
  id : String := ""
  username : String
  password? : Option String := none
  roleRefs : List EntityRef := []
  orgRef? : Option EntityRef := none
  providerType : String := ""
  enabled : Bool := true
  deriving DecidableEq, Repr

structure Role where
  id : String
  name : String
  description : String := ""
  bundleKey : String := ""
  readOnly : Bool := false
  deriving DecidableEq, Repr

structure Region where
  id : String
  name : String
  description : String := ""
  nsxManager? : Option EntityRef := none
  supervisors : List EntityRef := []
  storagePolicies : List String := []
  isEnabled : Bool := false
  status : String := ""
  deriving DecidableEq, Repr

structure Page (α : Type) where
  resultTotal : Nat := 0
  pageCount : Nat := 0
  page : Nat := 0
  values : List α := []
  deriving DecidableEq, Repr

structure VersionInfo where
  version : String
  deprecated : Bool := false
  deriving DecidableEq, Repr

structure SupportedVersions where
  versionInfo : List VersionInfo := []
  deriving DecidableEq, Repr

structure TaskFailure where
  message : String := ""
  deriving DecidableEq, Repr

/-- A long running operation. -/
structure Task where
  id : String := ""
  status : String
  owner? : Option EntityRef := none
  failure? : Option TaskFailure := none
  deriving DecidableEq, Repr

namespace Task

/-- The operation has come to its end, good or bad. -/
def isFinished (task : Task) : Bool :=
  task.status == "success" || task.status == "error" || task.status == "aborted"

def isSuccess (task : Task) : Bool := task.status == "success"

/-- Why a finished task did not succeed: its own words, or else its status. -/
def failureMessage (task : Task) : String :=
  match task.failure? with
  | some failure =>
    if failure.message.isEmpty then "ended with status " ++ task.status else failure.message
  | none => "ended with status " ++ task.status

end Task

structure ErrorBody where
  minorErrorCode : String := ""
  message : String := ""
  deriving DecidableEq, Repr

structure ApiTokenFile where
  tokenType : String := ""
  refreshToken : String
  deriving DecidableEq, Repr

structure ServiceAccountFile where
  tokenType : String := ""
  refreshToken : String
  clientId : String
  deriving DecidableEq, Repr

/-- The tokens granted in exchange for a refresh token. -/
structure TokenGrant where
  accessToken : String
  refreshToken? : Option String := none
  deriving DecidableEq, Repr

end CloudTenancy
