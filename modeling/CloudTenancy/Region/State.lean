import CloudTenancy.Api.Decode
import CloudTenancy.Schema
import CloudTenancy.Value

/-!
CloudTenancy.Region.State — regions as attributes.

* `RegionState` — the attributes of a region.
* `RegionState.refresh` — the attributes after the region was found.
* `Region.lookupSchema` — the block that describes them.

The attributes after a region was found depend on those before by the name alone.
-/

namespace CloudTenancy

open Json (Fields Decoder)

structure RegionState where
  id : Value String := .null
  name : Value String := .null
  description : Value String := .null
  nsxManagerId : Value String := .null
  supervisorIds : Value (List (Value String)) := .null
  storagePolicyNames : Value (List (Value String)) := .null
  isEnabled : Value Bool := .null
  status : Value String := .null
  deriving DecidableEq, Repr

namespace RegionState

def fields :
    Fields [Value String, Value String, Value String, Value String, Value (List (Value String)),
      Value (List (Value String)), Value Bool, Value String] :=
  .cons (required "id" Value.stringDecoder) <|
  .cons (required "name" Value.stringDecoder) <|
  .cons (required "description" Value.stringDecoder) <|
  .cons (required "nsx_manager_id" Value.stringDecoder) <|
  .cons (required "supervisor_ids" Value.stringListDecoder) <|
  .cons (required "storage_policy_names" Value.stringListDecoder) <|
  .cons (required "is_enabled" Value.boolDecoder) <|
  .cons (required "status" Value.stringDecoder) .nil

def decoder : Decoder RegionState :=
  Decoder.record "RegionState" fields
    fun (id, name, description, nsxManagerId, supervisorIds, storagePolicyNames, isEnabled,
        status, _) =>
      { id, name, description, nsxManagerId, supervisorIds, storagePolicyNames, isEnabled,
        status }

def toJson (state : RegionState) : Json :=
  .object
    [("id", state.id.toJson .string),
      ("name", state.name.toJson .string),
      ("description", state.description.toJson .string),
      ("nsx_manager_id", state.nsxManagerId.toJson .string),
      ("supervisor_ids", state.supervisorIds.toJson (Value.listToJson .string)),
      ("storage_policy_names", state.storagePolicyNames.toJson (Value.listToJson .string)),
      ("is_enabled", state.isEnabled.toJson .bool),
      ("status", state.status.toJson .string)]

def refresh (state : RegionState) (region : Region) : RegionState :=
  { state with
    id := .known region.id
    description := .known region.description
    nsxManagerId := match region.nsxManager? with
      | some manager => .known manager.id
      | none => .null
    supervisorIds := .known (region.supervisors.map fun ref => .known ref.id)
    storagePolicyNames := .known (region.storagePolicies.map .known)
    isEnabled := .known region.isEnabled
    status := .known region.status }

end RegionState

def Region.lookupSchema : Schema where
  description := "Reads a VCFA region by name"
  attributes :=
    [("id", .computed .string "Region URN"),
      ("name", .required .string "Region name"),
      ("description", .computed .string "Region description"),
      ("nsx_manager_id", .computed .string "URN of the NSX manager backing the region"),
      ("supervisor_ids",
        .computed (.list .string) "URNs of the supervisors in the region"),
      ("storage_policy_names",
        .computed (.list .string) "Storage policies available in the region"),
      ("is_enabled", .computed .bool "Whether the region is enabled"),
      ("status", .computed .string "Realization status of the region")]

end CloudTenancy
