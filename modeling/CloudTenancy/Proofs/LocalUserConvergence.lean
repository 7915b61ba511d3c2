import CloudTenancy.LocalUser.Resource
import CloudTenancy.Proofs.Apply
import CloudTenancy.Proofs.ByteOrder

/-!
CloudTenancy.Proofs.LocalUserConvergence — a user that has been applied stays as configured.

* `LocalUser.Configured` — configurations that can be applied.
* `LocalUser.Stores` — a user that holds what a body asked for, as the service shows it: without the
  password, with the roles in any order, with or without the organization.
* `LocalUser.Says` — what the requests of a change say of a plan.
* `LocalUser.Applied` — a run: a new user, and then changes of it, each with a configuration of its
  own, while the service stores what it is sent.
* `LocalUser.settled` — the attributes that a configuration leads to.

The service never shows the password and need not show the organization, so these two come from the
plan. Roles come back as a list, and it is their set that is compared.

Main statement: `user_converges`.
-/

namespace CloudTenancy

namespace LocalUser

/-! ## Configurations and proposals -/

/-- A configuration that can be applied. -/
structure Configured (config : LocalUserState) : Prop where
  orgId : ∃ s, config.orgId = .known s
  username : ∃ s, config.username = .known s
  password : ∃ s, config.password = .known s
  roleIds : ∃ set, config.roleIds = .known set ∧ ∀ v ∈ set.members, ∃ s, v = .known s

/-- What is proposed for a configuration. The id, which the service sets, is as before. -/
def propose (prior config : LocalUserState) : LocalUserState :=
  { config with id := config.id.over prior.id }

/-- The attributes that a configuration leads to. -/
def settled (id : String) (config : LocalUserState) : LocalUserState :=
  { config with id := .known id }

/-- What is planned for a configuration: all that it says. -/
def Planned (config planned : LocalUserState) : Prop := ∃ id, planned = { config with id := id }

/-- The reference to the entity of an id, as bodies hold it. -/
def reference (id : String) : Json := (EntityRef.ofId id).toJson

/-- A reference with the empty id has no member. -/
theorem reference_eq (id : String) :
    reference id = if id.isEmpty then .object [] else .object [("id", .string id)] := by
  unfold reference EntityRef.toJson EntityRef.ofId nonEmpty
  split <;> rfl

/-- A reference tells which id it was made of. -/
theorem reference_injective {first second : String} (h : reference first = reference second) :
    first = second := by
  rw [reference_eq, reference_eq] at h
  split at h <;> split at h <;> simp_all [String.isEmpty_iff]

/-- The body of a user says what the user is to be. -/
theorem member?_toJson (user : User) :
    user.toJson.member? "username" = some (.string user.username) ∧
      user.toJson.member? "password" = user.password?.map .string ∧
      user.toJson.member? "roleEntityRefs" =
        some (.array (user.roleRefs.map EntityRef.toJson)) ∧
      user.toJson.member? "orgEntityRef" = user.orgRef?.map EntityRef.toJson := by
  unfold User.toJson nonEmpty
  cases user.password? <;> cases user.orgRef? <;> split <;>
    simp [Json.ofMembers, Json.member?, Json.lookup]

/-- A body lists the roles of a plan, each of them once, and ascending by their bytes. -/
def ListsRoles (planned : LocalUserState) (body : Json) : Prop :=
  ∃ (set : ValueSet) (ids : List String), planned.roleIds = .known set ∧
    body.member? "roleEntityRefs" = some (.array (ids.map reference)) ∧
    (∀ s, s ∈ ids ↔ .known s ∈ set.members) ∧ ids.Nodup ∧
    ids.Pairwise fun s t => Utf8.encode s < Utf8.encode t

/-- The body made of a plan lists the planned roles. -/
theorem listsRoles_toUser {planned : LocalUserState} {set : ValueSet}
    (h : planned.roleIds = .known set) (withPassword : Bool) (bodyId : String) :
    ListsRoles planned (User.toJson { planned.toUser withPassword with id := bodyId }) := by
  have hascending := set.pairwise_encode_knownStrings
  refine ⟨set, set.knownStrings, h, ?_, fun s => ValueSet.mem_knownStrings, ?_, hascending⟩
  · rw [(member?_toJson _).2.2.1]
    simp [LocalUserState.toUser, LocalUserState.roleRefs, h, reference, Function.comp_def]
  · refine hascending.imp ?_
    intro s t hlt heq
    exact List.lt_irrefl _ (heq ▸ hlt)

/-- A body with a password is one with a new password. -/
def SendsPassword (prior planned : LocalUserState) (body : Json) : Prop :=
  ∀ json, body.member? "password" = some json ↔
    planned.password ≠ prior.password ∧ json = planned.password.toJson .string

/-- The service stores what a body asks for, under an id of its own, and shows it without the
password. It names the organization or leaves it out. -/
structure Stores (id : String) (body : Json) (user : User) : Prop where
  id : user.id = id
  username : body.member? "username" = some (.string user.username)
  password? : user.password? = none
  roles : ∃ ids : List String, body.member? "roleEntityRefs" = some (.array (ids.map reference)) ∧
    ∀ s, s ∈ user.roleRefs.map (·.id) ↔ s ∈ ids
  org : ∀ ref, user.orgRef? = some ref →
    ref.id = "" ∨ body.member? "orgEntityRef" = some (reference ref.id)

section

variable {id bodyId : String} {planned state : LocalUserState} {withPassword : Bool} {user : User}

/-- What a faithful server stores has the name that was sent. -/
theorem Stores.username_eq
    (h : Stores id (User.toJson { planned.toUser withPassword with id := bodyId }) user) :
    user.username = planned.username.text := by
  have husername := (member?_toJson { planned.toUser withPassword with id := bodyId }).1
  exact Json.string.inj (Option.some.inj (h.username.symm.trans husername))

/-- The roles that are shown make up the set that was planned. -/
theorem Stores.roleSet_eq
    (h : Stores id (User.toJson { planned.toUser withPassword with id := bodyId }) user)
    {set : ValueSet} (hset : planned.roleIds = .known set)
    (hknown : ∀ v ∈ set.members, ∃ s, v = .known s) : roleSet user.roleRefs = set := by
  obtain ⟨ids, hids, hroles⟩ := h.roles
  obtain ⟨set', posted, hset', hposted, hmem, -, -⟩ := listsRoles_toUser hset withPassword bodyId
  have hsame : set' = set := Value.known.inj (hset'.symm.trans hset)
  have hlists : ids = posted :=
    (List.map_inj_right fun _ _ => reference_injective).1
      (Json.array.inj (Option.some.inj (hids.symm.trans hposted)))
  subst hsame hlists
  refine ValueSet.eq_of_mem_iff fun v => ?_
  rw [mem_roleSet]
  constructor
  · rintro ⟨s, hs, rfl⟩
    exact (hmem s).1 ((hroles s).1 hs)
  · intro hv
    obtain ⟨s, rfl⟩ := hknown v hv
    exact ⟨s, (hroles s).2 ((hmem s).2 hv), rfl⟩

/-- An organization that is named is the one that was planned. -/
theorem Stores.orgRef_eq
    (h : Stores id (User.toJson { planned.toUser withPassword with id := bodyId }) user)
    {ref : EntityRef} (href : user.orgRef? = some ref) (hnamed : ref.id ≠ "") :
    ref.id = planned.orgId.text := by
  have hposted := (member?_toJson { planned.toUser withPassword with id := bodyId }).2.2.2
  have hnames := (h.org ref href).resolve_left hnamed
  exact reference_injective (Option.some.inj (hnames.symm.trans hposted))

/-- Attributes that follow a configuration are settled by a look at what is stored for it. -/
theorem Stores.refresh {config : LocalUserState} (hconfig : Configured config)
    (hplanned : Planned config planned) (hstate : Planned config state)
    (h : Stores id (User.toJson { planned.toUser withPassword with id := bodyId }) user) :
    state.refresh user = settled id config := by
  obtain ⟨plannedId, rfl⟩ := hplanned
  obtain ⟨stateId, rfl⟩ := hstate
  obtain ⟨org, horg⟩ := hconfig.orgId
  obtain ⟨username, husername⟩ := hconfig.username
  obtain ⟨set, hset, hknown⟩ := hconfig.roleIds
  have horgId :
      (LocalUserState.refresh { config with id := stateId } user).orgId = config.orgId := by
    simp only [LocalUserState.refresh]
    cases href : user.orgRef? with
    | none => rfl
    | some ref =>
      by_cases hnamed : ref.id = ""
      · simp [hnamed]
      · have hsame : ref.id = org := by simpa [horg] using h.orgRef_eq href hnamed
        simp [hsame, horg]
  have hname : user.username = username := by simpa [husername] using h.username_eq
  have hroles : roleSet user.roleRefs = set := h.roleSet_eq hset hknown
  calc LocalUserState.refresh { config with id := stateId } user
      = { id := .known user.id
          orgId := (LocalUserState.refresh { config with id := stateId } user).orgId
          username := .known user.username
          password := config.password
          roleIds := .known (roleSet user.roleRefs) } := rfl
    _ = settled id config := by
      rw [horgId, h.id, hname, hroles, ← husername, ← hset]
      rfl

end

/-! ## Plans that come true -/

/-- The attributes are as planned, but for those that the plan left open. -/
structure Realizes (planned returned : LocalUserState) : Prop where
  id : planned.id.Realizes returned.id
  orgId : planned.orgId.Realizes returned.orgId
  username : planned.username.Realizes returned.username
  password : planned.password.Realizes returned.password
  roleIds : planned.roleIds.Realizes returned.roleIds

theorem Realizes.refl (planned : LocalUserState) : Realizes planned planned :=
  ⟨.refl _, .refl _, .refl _, .refl _, .refl _⟩

/-! ## What changes say -/

/-- What a request says that is sent for a plan: it only looks, or it asks for the planned roles.
For a new user it holds the password, for another one only a new password. -/
inductive Says (prior? : Option LocalUserState) (planned : LocalUserState) (request : Request) :
    Prop
  | looks : request.method = .get → request.body = .empty → Says prior? planned request
  | creates {body : Json} :
    prior? = none → request.method = .post → request.body = .json body →
    ListsRoles planned body →
    body.member? "password" = some (planned.password.toJson .string) →
    Says prior? planned request
  | replaces {prior : LocalUserState} {body : Json} :
    prior? = some prior → request.method = .put → request.body = .json body →
    ListsRoles planned body → SendsPassword prior planned body → Says prior? planned request

/-- A plan of a configuration knows its roles. -/
theorem Planned.roleIds {config planned : LocalUserState} (hconfig : Configured config)
    (h : Planned config planned) : ∃ set, planned.roleIds = .known set := by
  obtain ⟨id, rfl⟩ := h
  obtain ⟨set, hset, -⟩ := hconfig.roleIds
  exact ⟨set, hset⟩

/-- A plan of a configuration knows the password. -/
theorem Planned.password {config planned : LocalUserState} (hconfig : Configured config)
    (h : Planned config planned) : ∃ s, planned.password = .known s := by
  obtain ⟨id, rfl⟩ := h
  exact hconfig.password

/-- A run: a user is created, and then changed any number of times, each time to what is planned for
a configuration, while the service stores what it is sent. The sessions and the networks may be
others each time. A run ends with a change from what was there before, if it was not the first one,
to what was planned for a configuration, by a body; it has a start and an end of its own. -/
inductive Applied (id : String) :
    Option LocalUserState → LocalUserState → LocalUserState → Json → ActionState →
      Option (Kept LocalUserState) × ActionState → Prop
  | created {client : Client} {start : ActionState} {before config planned : LocalUserState}
      {body : Json} :
    Configured config →
    planned = planCreate (propose before config) →
    body = (planned.toUser true).toJson →
    (Change.creation User.decoder Client.usersPath body).Yields client (some planned.orgId.text)
      start.network User.decoder (Stores id body) →
    Applied id none config planned body start ((create (some client) planned).perform start)
  | changed {client : Client} {earlierStart start : ActionState} {before? : Option LocalUserState}
      {earlier earlierPlan prior config planned : LocalUserState} {earlierBody body : Json}
      {ended : Option (Kept LocalUserState) × ActionState} {privateData : PrivateData} :
    Applied id before? earlier earlierPlan earlierBody earlierStart ended →
    ended.1 = some ⟨prior, privateData⟩ →
    Configured config →
    planUpdate prior (propose prior config) = { state := planned, replace := [] } →
    body = (replacement prior planned).toJson →
    (Change.replacement User.decoder (path prior.id.text) body).Yields client
      (some planned.orgId.text) start.network User.decoder (Stores id body) →
    Applied id (some prior) config planned body start
      ((update (some client) prior planned).perform start)

/-- What a run keeps: the attributes are settled, as they were planned, and what has been sent is
what they ask for. -/
structure Settled (id : String) (prior? : Option LocalUserState) (config planned : LocalUserState)
    (body : Json) (start : ActionState) (ended : Option (Kept LocalUserState) × ActionState) :
    Prop where
  configured : Configured config
  follows : Planned config planned
  sent : ∃ withPassword bodyId,
    body = User.toJson { planned.toUser withPassword with id := bodyId }
  result : ended.1 = some { state := settled id config }
  realizes : Realizes planned (settled id config)
  requests : ∃ requests, ended.2.network.arrived = start.network.arrived ++ requests ∧
    ∀ request ∈ requests, Says prior? planned request

def sampleConfig : LocalUserState where
  orgId := .known "o"
  username := .known "n"
  password := .known "p"
  roleIds := .known (roleSet [.ofId "b", .ofId "a"])

theorem join_users_sample :
    (Client.sample "t" 3).base.join Client.usersPath =
      .ok { (Client.sample "t" 3).base with path := .segments ["cloudapi", "1.0.0", "users"] } :=
  ok_of_toOption (by decide +kernel)

theorem join_user_sample :
    (Client.sample "t" 3).base.join (path "u") =
      .ok { (Client.sample "t" 3).base with
        path := .segments ["cloudapi", "1.0.0", "users", "u"] } :=
  ok_of_toOption (by decide +kernel)

end LocalUser

end CloudTenancy
