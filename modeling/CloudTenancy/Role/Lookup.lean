import CloudTenancy.Action
import CloudTenancy.Client.Entity
import CloudTenancy.Role.State

/-!
CloudTenancy.Role.Lookup — roles found by their names.

* `Role.find` — the role of a name.
* `Role.lookup` — its attributes.
-/

namespace CloudTenancy.Role

def kind : String := "role"

def find (client : Client) (orgId name : String) : Call Role :=
  client.getByName Role.decoder kind Client.rolesPath name (some orgId)

def lookup (client? : Option Client) (config : RoleState) : Action RoleState := do
  let client ← Action.configured client?
  let role ← Action.attempt (.ofError "Failed to read role")
    (find client config.orgId.text config.name.text)
  return config.refresh role

end CloudTenancy.Role
