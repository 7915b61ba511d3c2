import CloudTenancy.Api.Decode
import CloudTenancy.Value

/-!
CloudTenancy.Org.State — organizations as attributes.

* `OrgState` — the attributes of an organization.
* `OrgState.refresh` — the attributes after a look at the service.
* `OrgState.applyDefaults` — the attributes that follow a configuration.
* `OrgState.toOrg` — the organization that attributes ask for.

Main statement: an organization that attributes were refreshed from is the one that they ask for,
but for who manages it.
-/

namespace CloudTenancy

open Json (Fields Decoder)

structure OrgState where
  id : Value String := .null
  name : Value String := .null
  displayName : Value String := .null
  description : Value String := .null
  isEnabled : Value Bool := .null
  isClassicTenant : Value Bool := .null
  managedById : Value String := .null
  managedByName : Value String := .null
  deriving DecidableEq, Repr

namespace OrgState

/-! ## JSON -/

def fields :
    Fields [Value String, Value String, Value String, Value String, Value Bool, Value Bool,
      Value String, Value String] :=
  .cons (required "id" Value.stringDecoder) <|
  .cons (required "name" Value.stringDecoder) <|
  .cons (required "display_name" Value.stringDecoder) <|
  .cons (required "description" Value.stringDecoder) <|
  .cons (required "is_enabled" Value.boolDecoder) <|
  .cons (required "is_classic_tenant" Value.boolDecoder) <|
  .cons (required "managed_by_id" Value.stringDecoder) <|
  .cons (required "managed_by_name" Value.stringDecoder) .nil

def decoder : Decoder OrgState :=
  Decoder.record "OrgState" fields
    fun (id, name, displayName, description, isEnabled, isClassicTenant, managedById,
        managedByName, _) =>
      { id, name, displayName, description, isEnabled, isClassicTenant, managedById,
        managedByName }

def toJson (state : OrgState) : Json :=
  .object
    [("id", state.id.toJson .string),
      ("name", state.name.toJson .string),
      ("display_name", state.displayName.toJson .string),
      ("description", state.description.toJson .string),
      ("is_enabled", state.isEnabled.toJson .bool),
      ("is_classic_tenant", state.isClassicTenant.toJson .bool),
      ("managed_by_id", state.managedById.toJson .string),
      ("managed_by_name", state.managedByName.toJson .string)]

/-! ## The service's view -/

/-- The attributes after a look at the service. The service shows a missing description as an empty
one, so that an empty one does not replace null. -/
def refresh (state : OrgState) (org : Org) : OrgState :=
  let managedBy := org.managedBy?.getD {}
  { id := .known org.id
    name := .known org.name
    displayName := .known org.displayName
    description :=
      if org.description.isEmpty && state.description.isNull then state.description
      else .known org.description
    isEnabled := .known org.isEnabled
    isClassicTenant := .known org.isClassicTenant
    managedById := .known managedBy.id
    managedByName := .known managedBy.name }

/-- Attributes that the configuration leaves out have their default, whatever they were before. -/
def applyDefaults (state config : OrgState) : OrgState :=
  { state with
    isEnabled := if config.isEnabled.isNull then .known true else state.isEnabled
    isClassicTenant :=
      if config.isClassicTenant.isNull then .known false else state.isClassicTenant }

def toOrg (state : OrgState) : Org where
  id := state.id.text
  name := state.name.text
  displayName := state.displayName.text
  description := state.description.text
  isEnabled := state.isEnabled.getD true
  isClassicTenant := state.isClassicTenant.getD false

/-! ## Laws -/

theorem text_of_isNull {value : Value String} (h : value.isNull = true) : value.text = "" := by
  cases value with
  | null => rfl
  | unknown => rfl
  | known s => simp at h

/-- Attributes that have been refreshed ask for the organization they were refreshed from. -/
theorem toOrg_refresh (state : OrgState) (org : Org) :
    (state.refresh org).toOrg = { org with managedBy? := none } := by
  cases org with
  | mk id name displayName description isEnabled isClassicTenant managedBy? =>
    simp only [refresh, toOrg, Value.text_known, Org.mk.injEq, true_and]
    refine ⟨?_, rfl, rfl, trivial⟩
    split
    · rename_i h
      simp only [Bool.and_eq_true, String.isEmpty_iff] at h
      rw [text_of_isNull h.2, h.1]
    · simp

end OrgState

end CloudTenancy
