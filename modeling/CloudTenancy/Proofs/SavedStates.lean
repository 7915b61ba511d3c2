import CloudTenancy.LocalUser.State
import CloudTenancy.Org.State
import CloudTenancy.Proofs.Payloads
import CloudTenancy.Region.State
import CloudTenancy.Role.State
import CloudTenancy.Version.State

/-!
CloudTenancy.Proofs.SavedStates — attributes that have been saved read back.

* `Value.Form` — a way to write the known values of an attribute type that leaves null and the sign
  of unknown alone.
* `Value.Survives` — null, unknown and known values of an attribute type, each read back as what it
  was.

Unknown is written as a list, so a list of attribute values could be taken for it. It is not: the
sign of unknown holds a number, and a number is the text of no attribute value. This goes for lists
and sets of strings with whatever items, and so each attribute type has its form and a state is a
record of attributes.

Main statement: `states_survive`.
-/

namespace CloudTenancy

open Json (Fields Decoder)

variable {α : Type}

/-! ## Attributes -/

namespace Value

/-- Known values are read back, and none of them is written like null or the sign of unknown. -/
structure Form (write : α → Json) (read : Json → Option α) : Prop where
  read_write : ∀ a, read (write a) = some a
  read_null : read .null = none
  read_unknown : read unknownJson = none
  plain : ∀ depth a, Json.Plain (depth + 4) (write a)

/-- Null, unknown and every known value are read back as such. -/
structure Survives (decoder : Decoder (Value α)) (write : α → Json) : Prop where
  null : decoder.run (toJson write null).write = .ok null
  unknown : decoder.run (toJson write unknown).write = .ok unknown
  known : ∀ a, decoder.run (write a).write = .ok (known a)

section

variable {write : α → Json} {read : Json → Option α}

/-- An attribute is taken for what it is. -/
theorem Form.takes (h : Form write read) (depth : Nat) (value : Value α) :
    (decoder read).Takes (depth + 4) (value.toJson write) value := by
  have hplain : Json.Plain (depth + 4) (value.toJson write) := by
    cases value with
    | null => exact .null
    | unknown => exact .unknown
    | known a => exact h.plain depth a
  refine ⟨hplain, fun layout level gap hgap rest => ?_⟩
  -- An attribute is read as JSON first, and then it is told what the JSON stands for.
  have hany := (Json.takes_any hplain).reads layout level gap hgap rest
  have hvalue := ofJson?_toJson h.read_write h.read_null h.read_unknown value
  simp only [decoder, hany, hvalue]

/-- What is read in a form survives being null and unknown as well. -/
theorem Form.survives (h : Form write read) : Survives (decoder read) write :=
  ⟨(h.takes 124 null).run.1, (h.takes 124 unknown).run.1, fun a => (h.takes 124 (known a)).run.1⟩

end

theorem form_string : Form .string stringOfJson? :=
  ⟨stringOfJson?_string, rfl, rfl, fun _ s => .string s⟩

theorem form_bool : Form .bool boolOfJson? := ⟨boolOfJson?_bool, rfl, rfl, fun _ b => .bool b⟩

/-- No item of a list of strings is taken for the sign of unknown. -/
theorem plain_listToJson (depth : Nat) (values : List (Value String)) :
    Json.Plain (depth + 4) (listToJson .string values) := by
  refine .array (List.forall_mem_map.2 fun value _ => ?_)
  cases value with
  | null => exact .null
  | unknown => exact .unknown
  | known s => exact .string s

/-- The number in the sign of unknown is no item of a list of strings. -/
theorem form_list : Form (listToJson .string) (listOfJson? stringOfJson?) :=
  ⟨listOfJson?_listToJson stringOfJson?_string rfl rfl, rfl, rfl, plain_listToJson⟩

/-- A set is read back as a set, in the order in which it was kept. -/
theorem form_set : Form ValueSet.toJson ValueSet.ofJson? :=
  ⟨ValueSet.ofJson?_toJson, rfl, rfl, fun depth set => plain_listToJson depth set.members⟩

/-! ### Members of a state -/

theorem takes_string (value : Value String) :
    stringDecoder.Takes 127 (value.toJson .string) value := form_string.takes 123 value

theorem takes_bool (value : Value Bool) : boolDecoder.Takes 127 (value.toJson .bool) value :=
  form_bool.takes 123 value

theorem takes_list (value : Value (List (Value String))) :
    stringListDecoder.Takes 127 (value.toJson (listToJson .string)) value :=
  form_list.takes 123 value

theorem takes_set (value : Value ValueSet) :
    (decoder ValueSet.ofJson?).Takes 127 (value.toJson ValueSet.toJson) value :=
  form_set.takes 123 value

end Value

/-! ## States -/

section

open Value (takes_string takes_bool takes_list takes_set)

/-- The state of an organization is read back member by member. -/
theorem OrgState.conveys (state : OrgState) :
    Json.Conveys OrgState.decoder OrgState.fields.names (fun _ => False) state.toJson state := by
  refine @Json.conveys_object _ _ OrgState.fields _ (state.id, state.name, state.displayName,
    state.description, state.isEnabled, state.isClassicTenant, state.managedById,
    state.managedByName, ()) _ _ ?_ (by simp)
  exact .cons (takes_string _) <| .cons (takes_string _) <| .cons (takes_string _) <|
    .cons (takes_string _) <| .cons (takes_bool _) <| .cons (takes_bool _) <|
    .cons (takes_string _) <| .cons (takes_string _) .nil

/-- The state of a user is read back member by member, the password with it. -/
theorem LocalUserState.conveys (state : LocalUserState) :
    Json.Conveys LocalUserState.decoder LocalUserState.fields.names (fun _ => False) state.toJson
      state := by
  refine @Json.conveys_object _ _ LocalUserState.fields _ (state.id, state.orgId, state.username,
    state.password, state.roleIds, ()) _ _ ?_ (by simp)
  exact .cons (takes_string _) <| .cons (takes_string _) <| .cons (takes_string _) <|
    .cons (takes_string _) <| .cons (takes_set _) .nil

theorem LocalUserView.conveys (view : LocalUserView) :
    Json.Conveys LocalUserView.decoder LocalUserView.fields.names (fun _ => False) view.toJson
      view := by
  refine @Json.conveys_object _ _ LocalUserView.fields _ (view.id, view.orgId, view.username,
    view.roleIds, ()) _ _ ?_ (by simp)
  exact .cons (takes_string _) <| .cons (takes_string _) <| .cons (takes_string _) <|
    .cons (takes_set _) .nil

theorem RoleState.conveys (state : RoleState) :
    Json.Conveys RoleState.decoder RoleState.fields.names (fun _ => False) state.toJson state := by
  refine @Json.conveys_object _ _ RoleState.fields _ (state.id, state.orgId, state.name,
    state.description, state.bundleKey, state.readOnly, ()) _ _ ?_ (by simp)
  exact .cons (takes_string _) <| .cons (takes_string _) <| .cons (takes_string _) <|
    .cons (takes_string _) <| .cons (takes_string _) <| .cons (takes_bool _) .nil

theorem RegionState.conveys (state : RegionState) :
    Json.Conveys RegionState.decoder RegionState.fields.names (fun _ => False) state.toJson
      state := by
  refine @Json.conveys_object _ _ RegionState.fields _ (state.id, state.name, state.description,
    state.nsxManagerId, state.supervisorIds, state.storagePolicyNames, state.isEnabled,
    state.status, ()) _ _ ?_ (by simp)
  exact .cons (takes_string _) <| .cons (takes_string _) <| .cons (takes_string _) <|
    .cons (takes_string _) <| .cons (takes_list _) <| .cons (takes_list _) <|
    .cons (takes_bool _) <| .cons (takes_string _) .nil

/-- The state of the version lookup is read back member by member. -/
theorem VersionState.conveys (state : VersionState) :
    Json.Conveys VersionState.decoder VersionState.fields.names (fun _ => False) state.toJson
      state := by
  refine @Json.conveys_object _ _ VersionState.fields _ (state.condition, state.failIfNotMatch,
    state.matchesCondition, state.apiVersion, state.supportedVersions, ()) _ _ ?_ (by simp)
  exact .cons (takes_string _) <| .cons (takes_bool _) <| .cons (takes_bool _) <|
    .cons (takes_string _) <| .cons (takes_list _) .nil

end

/-- **States survive.** The attributes of an organization, a user, a role, a region and a look at
the versions are read from their texts as they were, with every attribute, and every item of a list
or a set, null, unknown or known. A known value of no type is read as null or as unknown. -/
theorem states_survive :
    (∀ state : OrgState, Json.Conveys OrgState.decoder OrgState.fields.names (fun _ => False)
      state.toJson state) ∧
    (∀ state : LocalUserState, Json.Conveys LocalUserState.decoder LocalUserState.fields.names
      (fun _ => False) state.toJson state) ∧
    (∀ view : LocalUserView, Json.Conveys LocalUserView.decoder LocalUserView.fields.names
      (fun _ => False) view.toJson view) ∧
    (∀ state : RoleState, Json.Conveys RoleState.decoder RoleState.fields.names (fun _ => False)
      state.toJson state) ∧
    (∀ state : RegionState, Json.Conveys RegionState.decoder RegionState.fields.names
      (fun _ => False) state.toJson state) ∧
    (∀ state : VersionState, Json.Conveys VersionState.decoder VersionState.fields.names
      (fun _ => False) state.toJson state) ∧
    Value.Survives Value.stringDecoder .string ∧
    Value.Survives Value.boolDecoder .bool ∧
    Value.Survives Value.stringListDecoder (Value.listToJson .string) ∧
    Value.Survives (Value.decoder ValueSet.ofJson?) ValueSet.toJson :=
  ⟨OrgState.conveys, LocalUserState.conveys, LocalUserView.conveys, RoleState.conveys,
    RegionState.conveys, VersionState.conveys, Value.form_string.survives, Value.form_bool.survives,
    Value.form_list.survives, Value.form_set.survives⟩

end CloudTenancy
