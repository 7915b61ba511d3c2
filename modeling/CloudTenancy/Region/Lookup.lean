import CloudTenancy.Action
import CloudTenancy.Client.Entity
import CloudTenancy.Region.State

/-!
CloudTenancy.Region.Lookup — regions found by their names.

* `Region.find` — the region of a name.
* `Region.lookup` — its attributes.
-/

namespace CloudTenancy.Region

def kind : String := "region"

def find (client : Client) (name : String) : Call Region :=
  client.getByName Region.decoder kind Client.regionsPath name

def lookup (client? : Option Client) (config : RegionState) : Action RegionState := do
  let client ← Action.configured client?
  let region ← Action.attempt (.ofError "Failed to read region") (find client config.name.text)
  return config.refresh region

end CloudTenancy.Region
