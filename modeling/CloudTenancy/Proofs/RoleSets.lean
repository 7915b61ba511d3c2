import CloudTenancy.Proofs.LocalUserConvergence
import CloudTenancy.Proofs.OrgViews
import CloudTenancy.Proofs.Payloads

/-!
CloudTenancy.Proofs.RoleSets — the roles of a user, sent to the service and read back.

* `SameIds` — lists of references that name the same ids, in any order and any number of times.
* `LocalUser.Complete` — attributes that say all that is sent of a user.
* `LocalUser.Sends` — a body that refers to a role.
* `LocalUser.ListedAs` — the service lists a user alone for a name.

Roles leave as a list of references and come back as a list, of which a set is made. A set depends
on its members only, and a reference to the empty id, which has no member at all in a body, comes
back as that. So what is compared here are ids, and both looks at a user make the same set of them.

Main statement: `roles_read_back`.
-/

namespace CloudTenancy

/-! ## Sets of references -/

/-- The references name the same ids. -/
def SameIds (first second : List EntityRef) : Prop :=
  ∀ id, id ∈ first.map (·.id) ↔ id ∈ second.map (·.id)

/-- A set of roles depends on their ids only. -/
theorem roleSet_congr {first second : List EntityRef} (h : SameIds first second) :
    roleSet first = roleSet second := by
  refine ValueSet.eq_of_mem_iff fun v => ?_
  simp only [mem_roleSet, h _]

namespace LocalUserState

variable {state : LocalUserState} {set : ValueSet}

/-- The roles that are sent make up the set of the known ones. -/
theorem mem_roleSet_roleRefs (h : state.roleIds = .known set) {v : Value String} :
    v ∈ (roleSet state.roleRefs).members ↔ v ∈ set.members ∧ ∃ id, v = .known id := by
  rw [mem_roleSet, map_id_roleRefs state set h]
  constructor
  · rintro ⟨id, hid, rfl⟩
    exact ⟨ValueSet.mem_knownStrings.1 hid, id, rfl⟩
  · rintro ⟨hv, id, rfl⟩
    exact ⟨id, ValueSet.mem_knownStrings.2 hv, rfl⟩

/-- The order of roles in an answer, and how often they are named, does not show in the state. -/
theorem refresh_roleRefs_congr {refs : List EntityRef} {user : User}
    (h : SameIds refs user.roleRefs) (state : LocalUserState) :
    state.refresh { user with roleRefs := refs } = state.refresh user := by
  simp only [refresh, roleSet_congr h]

end LocalUserState

/-- Nor does it show in what the data source reads. -/
theorem LocalUserView.refresh_roleRefs_congr {refs : List EntityRef} {user : User}
    (h : SameIds refs user.roleRefs) (view : LocalUserView) :
    view.refresh { user with roleRefs := refs } = view.refresh user := by
  simp only [refresh, roleSet_congr h]

namespace LocalUser

/-! ## What is sent -/

/-- Attributes that say all that is sent of a user, but for the password. -/
structure Complete (state : LocalUserState) : Prop where
  id : ∃ s, state.id = .known s
  orgId : ∃ s, state.orgId = .known s ∧ s ≠ ""
  username : ∃ s, state.username = .known s
  roleIds : ∃ set, state.roleIds = .known set ∧ ∀ v ∈ set.members, ∃ s, v = .known s

/-- A body refers to the role of an id. -/
def Sends (body : Json) (id : String) : Prop :=
  ∃ refs, body.member? "roleEntityRefs" = some (.array refs) ∧ reference id ∈ refs

/-- A body refers to the roles of the set, and to no others. -/
theorem sends_toUser_iff {state : LocalUserState} {set : ValueSet}
    (h : state.roleIds = .known set) (withPassword : Bool) (id : String) :
    Sends (state.toUser withPassword).toJson id ↔ .known id ∈ set.members := by
  obtain ⟨set', ids, hset', hmember, hids, -, -⟩ := listsRoles_toUser h withPassword state.id.text
  have hsame : set' = set := Value.known.inj (hset'.symm.trans h)
  subst hsame
  rw [← hids]
  constructor
  · rintro ⟨refs, hrefs, hid⟩
    have hlist : refs = ids.map reference :=
      Json.array.inj (Option.some.inj (hrefs.symm.trans hmember))
    rw [hlist] at hid
    obtain ⟨other, hother, hreference⟩ := List.mem_map.1 hid
    exact reference_injective hreference ▸ hother
  · intro hid
    exact ⟨_, hmember, List.mem_map_of_mem hid⟩

/-- Attributes that are complete come back, but for the password. -/
theorem Complete.refresh_toUser {state : LocalUserState} (h : Complete state) (withPassword : Bool)
    (before : LocalUserState) :
    before.refresh (state.toUser withPassword) = { state with password := before.password } := by
  obtain ⟨id, hid⟩ := h.id
  obtain ⟨org, horg, hnamed⟩ := h.orgId
  obtain ⟨username, husername⟩ := h.username
  obtain ⟨set, hset, hknown⟩ := h.roleIds
  have hroles : roleSet state.roleRefs = set := by
    refine ValueSet.eq_of_mem_iff fun v => ?_
    rw [LocalUserState.mem_roleSet_roleRefs hset]
    exact and_iff_left_of_imp (hknown v)
  -- An organization that is named counts, and not the one before.
  have horgId : (before.refresh (state.toUser withPassword)).orgId = state.orgId := by
    simp [LocalUserState.refresh, LocalUserState.toUser, EntityRef.ofId, horg, hnamed]
  calc before.refresh (state.toUser withPassword)
      = { id := .known state.id.text
          orgId := (before.refresh (state.toUser withPassword)).orgId
          username := .known state.username.text
          password := before.password
          roleIds := .known (roleSet state.roleRefs) } := rfl
    _ = { state with password := before.password } := by
      rw [horgId, hroles, hid, husername, ← hset]
      rfl

/-! ## Looks at a user -/

/-- The service lists a user of an organization alone for a name. -/
abbrev ListedAs (client : Client) (orgId : String) (net : Network) (username : String)
    (user : User) : Prop :=
  client.ListsAlone (some orgId) net User.decoder Client.usersPath "username" username user

variable {client : Client} {start : ActionState} {user : User}

/-- The data source gives the user that is listed for the name. -/
theorem gives_lookup {config : LocalUserView}
    (h : ListedAs client config.orgId.text start.network config.username.text user) :
    (lookup (some client) config).Gives start (config.refresh user) :=
  Action.gives_call (Client.findOne_ok_iff.2 h)

/-- A refresh gives the user that is shown at the path of the state. -/
theorem gives_read {state : LocalUserState} {privateData : PrivateData}
    (h : client.Shows (some state.orgId.text) start.network User.decoder (path state.id.text)
      (· = user)) :
    (read (some client) state privateData).Gives start ⟨state.refresh user, privateData⟩ := by
  obtain ⟨_, rfl, hget⟩ := h.get
  exact Action.gives_call hget

/-- **Roles.** Complete attributes come back from the text of the user that they ask for, with its
password or without it, whatever the attributes before; these keep their password. To list the roles
in another order or repeatedly makes no difference to any look at a user. So a lookup that finds the
user with references to the same roles has the id and the set of roles that a read has. Of a set of
roles, null and unknown ones are not sent, and all others are. -/
theorem roles_read_back :
    (∀ state, Complete state → ∀ withPassword, ∃ user,
      User.decoder.run (state.toUser withPassword).toJson.write = .ok user ∧
        ∀ before : LocalUserState,
          before.refresh user = { state with password := before.password }) ∧
    (∀ (user : User) (refs : List EntityRef), SameIds refs user.roleRefs → ∃ other,
      User.decoder.run (User.toJson { user with roleRefs := refs }).write = .ok other ∧
        (∀ state : LocalUserState, state.refresh other = state.refresh user) ∧
        ∀ view : LocalUserView, view.refresh other = view.refresh user) ∧
    (∀ client start config client' start' state privateData found user,
      ListedAs client config.orgId.text start.network config.username.text found →
      client'.Shows (some state.orgId.text) start'.network User.decoder (path state.id.text)
        (· = user) →
      found.id = user.id → SameIds found.roleRefs user.roleRefs →
      ∃ view kept, (lookup (some client) config).Gives start view ∧
        (read (some client') state privateData).Gives start' kept ∧
        view.id = kept.state.id ∧ view.roleIds = kept.state.roleIds) ∧
    ∀ (state : LocalUserState) set withPassword, state.roleIds = .known set →
      ∀ v ∈ set.members, (v = .null ∨ v = .unknown) ↔
        ¬ ∃ id, v = .known id ∧ Sends (state.toUser withPassword).toJson id := by
  refine ⟨?_, ?_, ?_, ?_⟩
  · intro state hstate withPassword
    exact ⟨_, (User.conveys _).compact, hstate.refresh_toUser withPassword⟩
  · intro user refs hrefs
    exact ⟨_, (User.conveys _).compact, LocalUserState.refresh_roleRefs_congr hrefs,
      LocalUserView.refresh_roleRefs_congr hrefs⟩
  · intro client start config client' start' state privateData found user hlisted hshows hid hrefs
    refine ⟨_, _, gives_lookup hlisted, gives_read hshows, congrArg Value.known hid, ?_⟩
    exact congrArg Value.known (roleSet_congr hrefs)
  · intro state set withPassword hset v hv
    cases v with
    | known id => simp [sends_toUser_iff hset, hv]
    | null => simp
    | unknown => simp

/-! ## Samples -/

def sampleState : LocalUserState :=
  { sampleConfig with id := .known "u", roleIds := .known (roleSet [.ofId "b", .ofId ""]) }

/-- The user that they ask for, with one of the roles twice. -/
def sampleFound : User :=
  { sampleState.toUser false with roleRefs := [.ofId "b", .ofId "", .ofId "b"] }

theorem complete_sampleState : Complete sampleState := by
  refine ⟨⟨_, rfl⟩, ⟨_, rfl, by decide⟩, ⟨_, rfl⟩, ⟨_, rfl, ?_⟩⟩
  intro v hv
  obtain ⟨id, -, rfl⟩ := mem_roleSet.1 hv
  exact ⟨id, rfl⟩

theorem sameIds_sampleFound : SameIds sampleFound.roleRefs (sampleState.toUser false).roleRefs := by
  have hroles : (sampleState.toUser false).roleRefs.map (·.id) = ["", "b"] := by decide +kernel
  intro id
  rw [hroles]
  simp only [sampleFound, EntityRef.ofId, List.map_cons, List.map_nil, List.mem_cons,
    List.not_mem_nil, or_false]
  tauto

theorem listedAs_sampleFound :
    ListedAs (Client.sample "t" 3) "o"
      (.holding (.object [("values", .array [sampleFound.toJson])])) "n" sampleFound := by
  have hdecode : Reply.decode
      { body := (Json.object [("values", .array [sampleFound.toJson])]).write }
      (Page.decoder User.decoder) = .ok { values := [sampleFound] } :=
    ok_of_toOption (by decide +kernel)
  exact Client.listsAlone_of_reply join_users_sample (by decide) rfl rfl rfl hdecode (by decide) rfl

theorem shows_sampleState :
    (Client.sample "t" 3).Shows (some "o") (.holding (sampleState.toUser false).toJson) User.decoder
      (path "u") (· = sampleState.toUser false) := by
  have hdecode : Reply.decode { body := (sampleState.toUser false).toJson.write } User.decoder =
      .ok (sampleState.toUser false) :=
    ok_of_toOption (by decide +kernel)
  exact Client.shows_of_reply join_user_sample (by decide) rfl rfl rfl hdecode

/-- The role with the empty id among others: sent and read back, listed repeatedly, and looked up. A
role that is not known yet is not sent. -/
theorem roles_read_back_with_empty_id :
    (∃ user, User.decoder.run (sampleState.toUser true).toJson.write = .ok user ∧
      ∀ before : LocalUserState,
        before.refresh user = { sampleState with password := before.password }) ∧
    (∃ other, User.decoder.run sampleFound.toJson.write = .ok other ∧
      ∀ state : LocalUserState,
        state.refresh other = state.refresh (sampleState.toUser false)) ∧
    (∃ view kept,
      (lookup (some (Client.sample "t" 3)) { orgId := .known "o", username := .known "n" }).Gives
        { network := .holding (.object [("values", .array [sampleFound.toJson])]) } view ∧
      (read (some (Client.sample "t" 3)) sampleState .null).Gives
        { network := .holding (sampleState.toUser false).toJson } kept ∧
      view.id = kept.state.id ∧ view.roleIds = kept.state.roleIds) ∧
    ¬ ∃ id, (.unknown : Value String) = .known id ∧
      Sends (LocalUserState.toUser { roleIds := .known (.ofList [.unknown]) } true).toJson id := by
  obtain ⟨hback, hrepeated, hviews, hsent⟩ := roles_read_back
  refine ⟨hback _ complete_sampleState true, ?_, ?_, ?_⟩
  · obtain ⟨other, hother, hlook, -⟩ := hrepeated _ _ sameIds_sampleFound
    exact ⟨other, hother, hlook⟩
  · exact hviews _ _ _ _ _ _ _ _ _ listedAs_sampleFound shows_sampleState rfl sameIds_sampleFound
  · exact (hsent _ _ true rfl _ (ValueSet.mem_ofList.2 (by simp))).1 (.inr rfl)

end LocalUser

end CloudTenancy
