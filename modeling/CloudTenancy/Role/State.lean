import CloudTenancy.Api.Decode
import CloudTenancy.Schema
import CloudTenancy.Value

/-!
CloudTenancy.Role.State — roles as attributes.

* `RoleState` — the attributes of a role.
* `RoleState.refresh` — the attributes after the role was found.
* `Role.lookupSchema` — the block that describes them.

What a role was looked up by stays as it was.
-/

namespace CloudTenancy

open Json (Fields Decoder)

structure RoleState where
  id : Value String := .null
  orgId : Value String := .null
  name : Value String := .null
  description : Value String := .null
  bundleKey : Value String := .null
  readOnly : Value Bool := .null
  deriving DecidableEq, Repr

namespace RoleState

def fields :
    Fields [Value String, Value String, Value String, Value String, Value String, Value Bool] :=
  .cons (required "id" Value.stringDecoder) <|
  .cons (required "org_id" Value.stringDecoder) <|
  .cons (required "name" Value.stringDecoder) <|
  .cons (required "description" Value.stringDecoder) <|
  .cons (required "bundle_key" Value.stringDecoder) <|
  .cons (required "read_only" Value.boolDecoder) .nil

def decoder : Decoder RoleState :=
  Decoder.record "RoleState" fields fun (id, orgId, name, description, bundleKey, readOnly, _) =>
    { id, orgId, name, description, bundleKey, readOnly }

def toJson (state : RoleState) : Json :=
  .object
    [("id", state.id.toJson .string),
      ("org_id", state.orgId.toJson .string),
      ("name", state.name.toJson .string),
      ("description", state.description.toJson .string),
      ("bundle_key", state.bundleKey.toJson .string),
      ("read_only", state.readOnly.toJson .bool)]

def refresh (state : RoleState) (role : Role) : RoleState :=
  { state with
    id := .known role.id
    description := .known role.description
    bundleKey := .known role.bundleKey
    readOnly := .known role.readOnly }

end RoleState

def Role.lookupSchema : Schema where
  description := "Reads a role available to a VCFA organization"
  attributes :=
    [("id", .computed .string "Role URN"),
      ("org_id", .required .string "URN of the organization the role belongs to"),
      ("name", .required .string "Role name"),
      ("description", .computed .string "Role description"),
      ("bundle_key", .computed .string "Key used for localized role names"),
      ("read_only", .computed .bool "Whether the role is predefined and read-only")]

end CloudTenancy
