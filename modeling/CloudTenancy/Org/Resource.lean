import CloudTenancy.Action
import CloudTenancy.Api.Encode
import CloudTenancy.Client.Entity
import CloudTenancy.Org.State

/-!
CloudTenancy.Org.Resource — managing organizations.

* `Org.read` — a look at an organization.
* `Org.planCreate`, `Org.planUpdate`, `Org.planDestroy` — what a change will do.
* `Org.create`, `Org.update`, `Org.destroy` — changes.
* `Org.importState` — an organization that exists already, by id or by name.
* `Org.lookup` — the attributes of an organization of a name.

An enabled organization cannot be removed, so it is disabled first.

Plans leave to the service what the service sets.
-/

namespace CloudTenancy.Org

def path (id : String) : String := Client.memberPath Client.orgsPath id

/-- The summary and the advice for an entity that is gone. -/
def gone (kind id : String) : Diagnostic where
  summary := kind ++ " " ++ id ++ " no longer exists"
  detail := "Remove it from the Terraform state with `terraform state rm` to recreate it"

/-- What is reported of a refresh that fails: the entity is gone, or the failure is another one. -/
def goneOr (kind summary id : String) (error : ClientError) : Diagnostic :=
  if error.isNotFound then gone kind id else .ofError summary error

def readFailure : String → ClientError → Diagnostic :=
  goneOr "Organization" "Failed to read organization"

def read (client? : Option Client) (state : OrgState) (privateData : PrivateData) :
    Action (Kept OrgState) := do
  let client ← Action.configured client?
  let id := state.id.text
  let org ← Action.attempt (readFailure id) (client.get Org.decoder (path id))
  return ⟨state.refresh org, privateData⟩

/-! ## Plans -/

/-- A new organization. What the service sets is unknown. -/
def planCreate (proposed config : OrgState) : OrgState :=
  { proposed.applyDefaults config with
    id := .unknown, managedById := .unknown, managedByName := .unknown }

/-- A changed organization. The kind of tenant cannot be changed in place. -/
def planUpdate (prior proposed config : OrgState) : Plan OrgState :=
  let state := proposed.applyDefaults config
  { state := { state with
      id := prior.id, managedById := prior.managedById, managedByName := prior.managedByName }
    replace := if state.isClassicTenant = prior.isClassicTenant then [] else ["is_classic_tenant"] }

/-! ## Changes -/

def create (client? : Option Client) (planned : OrgState) : Action (Kept OrgState) := do
  let client ← Action.configured client?
  let org ← Action.attempt (.ofError "Failed to create organization")
    (client.create Org.decoder Client.orgsPath planned.toOrg.toJson)
  return { state := planned.refresh org }

/-- What an organization is changed to. It keeps its id. -/
def replacement (prior planned : OrgState) : Org := { planned.toOrg with id := prior.id.text }

def update (client? : Option Client) (prior planned : OrgState) : Action (Kept OrgState) := do
  let client ← Action.configured client?
  let body := (replacement prior planned).toJson
  let org ← Action.attempt (.ofError "Failed to update organization")
    (client.update Org.decoder (path prior.id.text) body)
  return { state := planned.refresh org }

/-- What is asked for when an organization is removed: everything in it goes too. -/
def deleteQuery : List (String × String) := [("force", "true"), ("recursive", "true")]

def disable (client : Client) (path : String) (org : Org) : Action Unit := do
  if org.isEnabled then
    let body := { org with isEnabled := false }.toJson
    let _ ← Action.attempt (.ofError "Failed to disable organization")
      (client.update Org.decoder path body)
  return ()

/-- Removes an organization. One that is not there any more needs no removing. -/
def destroy (client? : Option Client) (prior : OrgState) : Action Unit := do
  let client ← Action.configured client?
  let path := path prior.id.text
  let org? ← Action.attempt (.ofError "Failed to read organization")
    (client.get Org.decoder path).orMissing
  match org? with
  | none => return ()
  | some org =>
    disable client path org
    let _ ← Action.attempt (.ofError "Failed to delete organization")
      (client.delete path deleteQuery).orMissing
    return ()

/-! ## Organizations that exist already -/

def kind : String := "organization"

def find (client : Client) (name : String) : Call Org :=
  client.getByName Org.decoder kind Client.orgsPath name

def importState (client? : Option Client) (id : String) : Action (Kept OrgState) := do
  let client ← Action.configured client?
  let found := if Urn.isOrganization id then client.get Org.decoder (path id) else find client id
  let org ← Action.attempt (.ofError "Failed to import organization") found
  return { state := OrgState.refresh {} org }

def lookup (client? : Option Client) (config : OrgState) : Action OrgState := do
  let client ← Action.configured client?
  let org ← Action.attempt (.ofError "Failed to read organization") (find client config.name.text)
  return config.refresh org

end CloudTenancy.Org
