import CloudTenancy.Api.Decode
import CloudTenancy.ValueSet

/-!
CloudTenancy.LocalUser.State — local users as attributes.

* `LocalUserState` — the attributes of a user that is managed.
* `LocalUserState.refresh` — the attributes after a look at the service, which never tells
  passwords.
* `LocalUserState.roleRefs` — references to the roles that are known.
* `LocalUserState.toUser` — the user that attributes ask for.
* `LocalUserView` — the attributes of a user that is looked up.

Main statement: the roles of a user that attributes ask for are the known ones, ascending.
-/

namespace CloudTenancy

open Json (Fields Decoder)

/-- The ids that references name, as a set. -/
def roleSet (refs : List EntityRef) : ValueSet :=
  .ofList (refs.map fun ref => .known ref.id)

theorem mem_roleSet {refs : List EntityRef} {v : Value String} :
    v ∈ (roleSet refs).members ↔ ∃ id ∈ refs.map (·.id), v = .known id := by
  rw [roleSet, ValueSet.mem_ofList]
  constructor
  · intro hv
    obtain ⟨ref, href, rfl⟩ := List.mem_map.1 hv
    exact ⟨ref.id, List.mem_map_of_mem href, rfl⟩
  · rintro ⟨id, hid, rfl⟩
    obtain ⟨ref, href, rfl⟩ := List.mem_map.1 hid
    exact List.mem_map_of_mem href

/-! ## Users that are managed -/

structure LocalUserState where
  id : Value String := .null
  orgId : Value String := .null
  username : Value String := .null
  password : Value String := .null
  roleIds : Value ValueSet := .null
  deriving DecidableEq, Repr

namespace LocalUserState

def fields : Fields [Value String, Value String, Value String, Value String, Value ValueSet] :=
  .cons (required "id" Value.stringDecoder) <|
  .cons (required "org_id" Value.stringDecoder) <|
  .cons (required "username" Value.stringDecoder) <|
  .cons (required "password" Value.stringDecoder) <|
  .cons (required "role_ids" (Value.decoder ValueSet.ofJson?)) .nil

def decoder : Decoder LocalUserState :=
  Decoder.record "OrgLocalUserState" fields fun (id, orgId, username, password, roleIds, _) =>
    { id, orgId, username, password, roleIds }

def toJson (state : LocalUserState) : Json :=
  .object
    [("id", state.id.toJson .string),
      ("org_id", state.orgId.toJson .string),
      ("username", state.username.toJson .string),
      ("password", state.password.toJson .string),
      ("role_ids", state.roleIds.toJson ValueSet.toJson)]

/-- The attributes after a look at the service. The organization is kept unless the service names
one. -/
def refresh (state : LocalUserState) (user : User) : LocalUserState :=
  { state with
    id := .known user.id
    username := .known user.username
    orgId := match user.orgRef? with
      | some org => if org.id.isEmpty then state.orgId else .known org.id
      | none => state.orgId
    roleIds := .known (roleSet user.roleRefs) }

def roleRefs (state : LocalUserState) : List EntityRef :=
  match state.roleIds with
  | .known set => set.knownStrings.map EntityRef.ofId
  | _ => []

/-- Users are kept by the service itself. -/
def providerType : String := "LOCAL"

/-- The user that the attributes ask for, with the password or without it. -/
def toUser (state : LocalUserState) (withPassword : Bool) : User where
  id := state.id.text
  username := state.username.text
  password? := if withPassword then some state.password.text else none
  roleRefs := state.roleRefs
  orgRef? := some (.ofId state.orgId.text)
  providerType := providerType

theorem map_id_roleRefs (state : LocalUserState) (set : ValueSet)
    (h : state.roleIds = .known set) :
    state.roleRefs.map (·.id) = set.knownStrings := by
  simp [roleRefs, h, EntityRef.ofId, Function.comp_def]

end LocalUserState

/-! ## Users that are looked up -/

structure LocalUserView where
  id : Value String := .null
  orgId : Value String := .null
  username : Value String := .null
  roleIds : Value ValueSet := .null
  deriving DecidableEq, Repr

namespace LocalUserView

def fields : Fields [Value String, Value String, Value String, Value ValueSet] :=
  .cons (required "id" Value.stringDecoder) <|
  .cons (required "org_id" Value.stringDecoder) <|
  .cons (required "username" Value.stringDecoder) <|
  .cons (required "role_ids" (Value.decoder ValueSet.ofJson?)) .nil

def decoder : Decoder LocalUserView :=
  Decoder.record "OrgLocalUserDataState" fields fun (id, orgId, username, roleIds, _) =>
    { id, orgId, username, roleIds }

def toJson (view : LocalUserView) : Json :=
  .object
    [("id", view.id.toJson .string),
      ("org_id", view.orgId.toJson .string),
      ("username", view.username.toJson .string),
      ("role_ids", view.roleIds.toJson ValueSet.toJson)]

def refresh (view : LocalUserView) (user : User) : LocalUserView :=
  { view with id := .known user.id, roleIds := .known (roleSet user.roleRefs) }

end LocalUserView

end CloudTenancy
