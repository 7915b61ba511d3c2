import CloudTenancy.Proofs.Addresses
import CloudTenancy.Proofs.Provenance
import CloudTenancy.Proofs.Removal

/-!
CloudTenancy.Proofs.Lifecycle — managed entities from their first state on.

* `Managed` — a kind of managed entities, `Org.managed` and `LocalUser.managed` the two kinds.
* `Managed.IsRegular` — what the calls about a kind of entities send and come to.
* `ResourceCall.GoesOn` — a call that can be made with states in hand.
* `Lifecycle` — calls in a row, with the states that they have come to and the requests that have
  arrived.
* `Managed.Keeps` — the invariant: states are named by what the script shows, and what replaces or
  removes something goes to the address of one of these names.
* `Managed.Spares` — the same with names that stand as one segment: nothing that replaces or removes
  goes to a collection.

The id of a state is what a reply shows, or empty if the reply leaves it out, and it is put behind
the path of the collection as it is. Nothing checks that it stands as one segment.

Main statement: `collections_are_spared`.
-/

namespace CloudTenancy

variable {σ : Type}

/-! ## Kinds of entities -/

/-- A kind of managed entities. -/
structure Managed (σ : Type) where
  manage : Option Client → ResourceCall σ → Action (ResourceAnswer σ)
  Edits : ResourceCall σ → Edit → Prop
  /-- The id in the attributes. -/
  id : σ → Value String
  /-- The path of the collection. -/
  collection : String
  /-- The ids of the entities that a script shows. -/
  ShownId : List Answer → String → Prop

def Org.managed : Managed OrgState where
  manage := Org.manage
  Edits := Org.Edits
  id := OrgState.id
  collection := Client.orgsPath
  ShownId := Org.ShownId

def LocalUser.managed : Managed LocalUserState where
  manage := LocalUser.manage
  Edits := LocalUser.Edits
  id := LocalUserState.id
  collection := Client.usersPath
  ShownId := LocalUser.ShownId

/-- The state that a call is made on. -/
def ResourceCall.subject? : ResourceCall σ → Option σ
  | .read state _ => some state
  | .update prior _ => some prior
  | .destroy prior => some prior
  | _ => none

def Method.isRuinous : Method → Bool
  | put => true
  | delete => true
  | _ => false

namespace Managed

/-- What the calls about a kind of entities send and come to. Whatever replaces or removes something
goes to the path of the entity whose state the call is made on. -/
structure IsRegular (kind : Managed σ) : Prop where
  plain : Reference.IsPlain kind.collection
  unconfigured : ∀ call, call.needsSession = true → (kind.manage none call).Unconfigured
  draws : ∀ answers client? call,
    (kind.manage client? call).Draws answers (call.Names kind.id (kind.ShownId answers))
  sends : ∀ client call, (kind.manage (some client) call).Sends (client.Makes (kind.Edits call))
  edits : ∀ call edit, kind.Edits call edit → edit.method.isRuinous = true →
    ∃ state, call.subject? = some state ∧
      edit.path = Client.memberPath kind.collection (kind.id state).text

end Managed

/-- The handlers of organizations do what is asked of every kind of resource. -/
theorem Org.isRegular_managed : Org.managed.IsRegular where
  plain := Client.isPlain_orgsPath
  unconfigured := fun _ => Org.needSession_handlers.unconfigured
  draws := fun _ _ => Org.draws_handlers.manage
  sends := Org.sends_manage
  edits := by
    intro call edit hedit hruinous
    cases hedit with
    | create => cases hruinous
    | update prior => exact ⟨prior, rfl, rfl⟩
    | disable prior => exact ⟨prior, rfl, rfl⟩
    | remove prior => exact ⟨prior, rfl, rfl⟩

theorem LocalUser.isRegular_managed : LocalUser.managed.IsRegular where
  plain := Client.isPlain_usersPath
  unconfigured := fun _ => LocalUser.needSession_handlers.unconfigured
  draws := fun _ _ => LocalUser.draws_handlers.manage
  sends := LocalUser.sends_manage
  edits := by
    intro call edit hedit hruinous
    cases hedit with
    | create => cases hruinous
    | update prior => exact ⟨prior, rfl, rfl⟩
    | remove prior => exact ⟨prior, rfl, rfl⟩

/-! ## Calls in a row -/

/-- With states in hand, entities are created or imported, and each of the states can be read,
updated or destroyed. -/
def ResourceCall.GoesOn (states : List σ) (call : ResourceCall σ) : Prop :=
  call.needsSession = true ∧ ∀ state, call.subject? = some state → state ∈ states

/-- The state that a call has come to, if there is one. -/
def ResourceAnswer.states : Option (ResourceAnswer σ) → List σ
  | some (.kept result) => [result.state]
  | _ => []

/-- Calls in a row about a kind of entities, on networks with answers of a script: the states that
they have come to, and the requests that have arrived, each with the session it was made with. -/
inductive Lifecycle (kind : Managed σ) (answers : List Answer) :
    List σ → List (Option Client × Request) → Prop
  | start : Lifecycle kind answers [] []
  | call {states : List σ} {sent : List (Option Client × Request)} {client? : Option Client}
      {call : ResourceCall σ} {start ended : ActionState} {answer? : Option (ResourceAnswer σ)}
      {requests : List Request} :
    Lifecycle kind answers states sent → call.GoesOn states → start.network.answers ⊆ answers →
    (kind.manage client? call).perform start = (answer?, ended) →
    ended.network.arrived = start.network.arrived ++ requests →
    Lifecycle kind answers (states ++ ResourceAnswer.states answer?)
      (sent ++ requests.map (client?, ·))

namespace Managed

/-- States are named by what the script shows, and what replaces or removes something goes to the
path of one of these names. -/
structure Keeps (kind : Managed σ) (answers : List Answer) (states : List σ)
    (sent : List (Option Client × Request)) : Prop where
  named : ∀ state ∈ states, ∃ id, kind.ShownId answers id ∧ kind.id state = .known id
  addressed : ∀ client? request, (client?, request) ∈ sent → request.method.isRuinous = true →
    ∃ client id, client? = some client ∧ kind.ShownId answers id ∧
      client.Addresses (Client.memberPath kind.collection id) request

/-- States have a name, and what replaces or removes something goes to the segment of a name below
the collection, and not to the collection. -/
structure Spares (kind : Managed σ) (answers : List Answer) (states : List σ)
    (sent : List (Option Client × Request)) : Prop where
  named : ∀ state ∈ states, ∃ id, id ≠ "" ∧ kind.id state = .known id
  spared : ∀ client? request, (client?, request) ∈ sent → request.method.isRuinous = true →
    ∃ client id parent parts, client? = some client ∧ kind.ShownId answers id ∧
      client.base.join kind.collection = .ok parent ∧ parent.path = .segments parts ∧
      Reference.segment id ≠ "" ∧
      request.url.path = .segments (parts ++ [Reference.segment id]) ∧
      request.url.path ≠ parent.path

variable {kind : Managed σ} {answers : List Answer} {states : List σ}
  {sent : List (Option Client × Request)}

/-- The requests that arrive during a call on a state go to its path, if they replace or remove
anything. -/
theorem IsRegular.addresses (h : kind.IsRegular) {client? : Option Client} {call : ResourceCall σ}
    (hneeds : call.needsSession = true) {start : ActionState} {requests : List Request}
    (harrived : ((kind.manage client? call).perform start).2.network.arrived =
      start.network.arrived ++ requests)
    {request : Request} (hmem : request ∈ requests) (hruinous : request.method.isRuinous = true) :
    ∃ client state, client? = some client ∧ call.subject? = some state ∧
      client.Addresses (Client.memberPath kind.collection (kind.id state).text) request := by
  cases client? with
  | none =>
    rw [h.unconfigured call hneeds start] at harrived
    have hnone : requests = [] := List.self_eq_append_right.1 harrived
    rw [hnone] at hmem
    cases hmem
  | some client =>
    obtain ⟨made, hmade, hkind⟩ := h.sends client call start
    have hsame : made = requests := List.append_cancel_left (hmade.symm.trans harrived)
    cases hkind request (hsame ▸ hmem) with
    -- A look replaces nothing, so only the edits of the call are left.
    | look hbuilt =>
      obtain ⟨hmethod, -⟩ := Request.make_ok hbuilt
      rw [hmethod] at hruinous
      cases hruinous
    | @edit edit url tenant? hedit hjoin hbuilt =>
      obtain ⟨hmethod, -⟩ := Request.make_ok hbuilt
      obtain ⟨state, hsubject, hpath⟩ := h.edits call edit hedit (hmethod ▸ hruinous)
      refine ⟨client, state, rfl, hsubject, url, edit.query, edit.body, tenant?, hpath ▸ hjoin, ?_⟩
      rw [hmethod]
      exact hbuilt

/-- A call keeps the invariant. -/
theorem IsRegular.keeps_call (h : kind.IsRegular) (hkeeps : kind.Keeps answers states sent)
    {client? : Option Client} {call : ResourceCall σ} {start ended : ActionState}
    {answer? : Option (ResourceAnswer σ)} {requests : List Request} (hgoes : call.GoesOn states)
    (hscript : start.network.answers ⊆ answers)
    (hperform : (kind.manage client? call).perform start = (answer?, ended))
    (harrived : ended.network.arrived = start.network.arrived ++ requests) :
    kind.Keeps answers (states ++ ResourceAnswer.states answer?)
      (sent ++ requests.map (client?, ·)) where
  named := by
    intro state hmem
    rcases List.mem_append.1 hmem with hold | hnew
    · exact hkeeps.named state hold
    · have hresult := (h.draws answers client? call start hscript).result
      rw [hperform] at hresult
      cases answer? with
      | none => cases hnew
      | some answer =>
        cases answer with
        | kept kept =>
          rw [List.mem_singleton.1 hnew]
          exact hresult _ rfl hgoes.1 kept rfl
        | _ => cases hnew
  addressed := by
    intro client?' request hmem hruinous
    rcases List.mem_append.1 hmem with hold | hnew
    · exact hkeeps.addressed client?' request hold hruinous
    · obtain ⟨other, hother, heq⟩ := List.mem_map.1 hnew
      cases heq
      obtain ⟨client, state, hclient, hsubject, haddresses⟩ :=
        h.addresses hgoes.1 (by rw [hperform]; exact harrived) hother hruinous
      -- The state was in hand before the call, so its id has been shown.
      obtain ⟨id, hshown, hid⟩ := hkeeps.named state (hgoes.2 state hsubject)
      rw [hid, Value.text_known] at haddresses
      exact ⟨client, id, hclient, hshown, haddresses⟩

end Managed

/-- Calls in a row keep the invariant. -/
theorem Lifecycle.keeps {kind : Managed σ} (hkind : kind.IsRegular) {answers : List Answer}
    {states : List σ} {sent : List (Option Client × Request)}
    (h : Lifecycle kind answers states sent) : kind.Keeps answers states sent := by
  induction h with
  | start => exact ⟨by simp, by simp⟩
  | call _ hgoes hscript hperform harrived ih =>
    exact hkind.keeps_call ih hgoes hscript hperform harrived

/-- Names that stand as one segment keep all that replaces or removes something off the
collection. -/
theorem Managed.Keeps.spares {kind : Managed σ} (hkind : kind.IsRegular) {answers : List Answer}
    {states : List σ} {sent : List (Option Client × Request)}
    (h : kind.Keeps answers states sent)
    (hsegments : ∀ id, kind.ShownId answers id → Reference.IsSegment id) :
    kind.Spares answers states sent where
  named := by
    intro state hmem
    obtain ⟨id, hshown, hid⟩ := h.named state hmem
    exact ⟨id, (hsegments id hshown).ne_empty, hid⟩
  spared := by
    intro client? request hmem hruinous
    obtain ⟨client, id, hclient, hshown, haddresses⟩ := h.addressed client? request hmem hruinous
    obtain ⟨parent, parts, hjoin, hparts, hpath⟩ :=
      haddresses.path_eq hkind.plain (hsegments id hshown)
    refine ⟨client, id, parent, parts, hclient, hshown, hjoin, hparts,
      (hsegments id hshown).segment_ne_empty, hpath, ?_⟩
    rw [hpath, hparts]
    simp

/-- **Collections.** From a creation or an import on, whatever the service answers: every state has
the id of an entity that was shown, and what replaces or removes something goes to such an id below
the collection. If all ids that are shown stand as one segment, the ids of the states are not empty,
and nothing that replaces or removes goes to a collection. -/
theorem collections_are_spared (answers : List Answer) :
    (∀ states sent, Lifecycle Org.managed answers states sent →
      Org.managed.Keeps answers states sent ∧
        ((∀ id, Org.ShownId answers id → Reference.IsSegment id) →
          Org.managed.Spares answers states sent)) ∧
    ∀ states sent, Lifecycle LocalUser.managed answers states sent →
      LocalUser.managed.Keeps answers states sent ∧
        ((∀ id, LocalUser.ShownId answers id → Reference.IsSegment id) →
          LocalUser.managed.Spares answers states sent) := by
  refine ⟨fun states sent h => ?_, fun states sent h => ?_⟩
  · have hkeeps := h.keeps Org.isRegular_managed
    exact ⟨hkeeps, hkeeps.spares Org.isRegular_managed⟩
  · have hkeeps := h.keeps LocalUser.isRegular_managed
    exact ⟨hkeeps, hkeeps.spares LocalUser.isRegular_managed⟩

/-! ## Samples -/

namespace LocalUser

def foundlingPlan : LocalUserState := { orgId := .known "o", username := .known "n" }

def foundling (id : String) : User := { id := id, username := "n" }

def foundlingReply (id : String) : Reply where
  status := ⟨201⟩
  body := (Json.object [("id", .string id), ("username", .string "n")]).write

def removedReply : Reply := { status := ⟨204⟩ }

/-- A service that shows the user when it is created, and then removes what it is told to. -/
def foundlingScript (id : String) : List Answer :=
  [⟨some (foundlingReply id), none⟩, ⟨some removedReply, none⟩]

def foundlingRequest : Request where
  method := .post
  url := { (Client.sample "t" 60).base with path := .segments ["cloudapi", "1.0.0", "users"] }
  headers := [("accept", Client.accept), ("authorization", Request.bearer "t"),
    ("x-vmware-vcloud-tenant-context", "o"), ("content-type", "application/json"),
    ("user-agent", Request.userAgent)]
  body := .json (foundlingPlan.toUser true).toJson

theorem join_usersPath :
    (Client.sample "t" 60).base.join Client.usersPath = .ok foundlingRequest.url :=
  ok_of_toOption (by decide +kernel)

theorem before_deadline (answers : List Answer) :
    ({ answers } : Network).now + (Client.sample "t" 60).timeout < Clock.bound := by
  change 0 + (Client.sample "t" 60).timeout < Clock.bound
  decide

theorem arrived_of_answers (request : Request) (answers : List Answer) :
    (Network.exchange request { answers }).2.arrived = [request] := by
  cases answers <;> rfl

/-- The user is created with the id that the service shows. -/
theorem perform_create_foundling {id : String}
    (hdecode : (foundlingReply id).decode User.decoder = .ok (foundling id)) :
    (manage (some (Client.sample "t" 60)) (.create foundlingPlan)).perform
        { network := { answers := foundlingScript id } } =
      (some (.kept { state := foundlingPlan.refresh (foundling id) }), { network :=
        (Network.exchange foundlingRequest { answers := foundlingScript id }).2 }) := by
  have hstatus : (foundlingReply id).status ≠ .accepted := by
    change (⟨201⟩ : Status) ≠ .accepted
    decide
  have hchange := @Change.perform_of_reply _
    (.creation User.decoder Client.usersPath (foundlingPlan.toUser true).toJson)
    (Client.sample "t" 60) (some "o") { answers := foundlingScript id } _ foundlingRequest
    (foundlingReply id) join_usersPath (before_deadline _) rfl rfl rfl hstatus
  have hcreate : ((Client.sample "t" 60).create User.decoder Client.usersPath
      (foundlingPlan.toUser true).toJson (some "o")).perform { answers := foundlingScript id } =
        (.ok (foundling id),
          (Network.exchange foundlingRequest { answers := foundlingScript id }).2) := by
    rw [Change.call_creation, hchange]
    exact congrArg (·, _) (received_ok hdecode)
  refine Action.perform_bind_of_some ?_
  change (create (some (Client.sample "t" 60)) foundlingPlan).perform _ = _
  rw [create, Action.perform_bind_of_some (Action.perform_configured _ _)]
  exact Action.perform_bind_of_some (Action.perform_attempt_of_ok hcreate)

/-- The user is removed at the address that its id leads to. -/
theorem perform_destroy_foundling {id : String} {url : Url}
    (hjoin : (Client.sample "t" 60).base.join (path id) = .ok url)
    (hrequest : (Client.sample "t" 60).request .delete url [] .empty (some "o") =
      .ok { sampleRequest with url }) :
    (manage (some (Client.sample "t" 60)) (.destroy (foundlingPlan.refresh (foundling id)))).perform
        { network := { answers := [⟨some removedReply, none⟩] } } =
      (some .done, { network := (Network.exchange { sampleRequest with url }
        { answers := [⟨some removedReply, none⟩] }).2 }) := by
  have hreply : Network.scripted { answers := [⟨some removedReply, none⟩] }
      { sampleRequest with url } 0 = .ok removedReply := by
    simp [Network.scripted, Answer.outcome]
  have hchange := @Change.perform_of_reply _ (.removal (path id) []) (Client.sample "t" 60)
    (some "o") { answers := [⟨some removedReply, none⟩] } _ { sampleRequest with url } removedReply
    hjoin (before_deadline _) hrequest hreply rfl (by decide)
  have hdelete : ((Client.sample "t" 60).delete (path id) [] (some "o")).perform
      { answers := [⟨some removedReply, none⟩] } =
        (.ok (), (Network.exchange { sampleRequest with url }
          { answers := [⟨some removedReply, none⟩] }).2) := by
    rw [Change.call_removal, hchange]
    rfl
  refine Action.perform_bind_of_some (a := ()) ?_
  change (destroy (some (Client.sample "t" 60)) _).perform _ = _
  rw [destroy, Action.perform_bind_of_some (Action.perform_configured _ _)]
  exact Action.perform_bind_of_some (Action.perform_orMissing_of_ok hdelete)

/-- The user is created, and what has come of it is destroyed. -/
theorem lifecycle_foundling {id : String} {url : Url}
    (hdecode : (foundlingReply id).decode User.decoder = .ok (foundling id))
    (hjoin : (Client.sample "t" 60).base.join (path id) = .ok url)
    (hrequest : (Client.sample "t" 60).request .delete url [] .empty (some "o") =
      .ok { sampleRequest with url }) :
    Lifecycle managed (foundlingScript id) [foundlingPlan.refresh (foundling id)]
      [(some (Client.sample "t" 60), foundlingRequest),
        (some (Client.sample "t" 60), { sampleRequest with url })] := by
  have hcreated := @Lifecycle.call _ managed (foundlingScript id) [] []
    (some (Client.sample "t" 60)) (.create foundlingPlan)
    { network := { answers := foundlingScript id } } _ _ [foundlingRequest]
    .start ⟨rfl, by rintro _ ⟨⟩⟩ (List.Subset.refl _) (perform_create_foundling hdecode)
    (arrived_of_answers _ _)
  refine @Lifecycle.call _ managed (foundlingScript id) _ _ (some (Client.sample "t" 60))
    (.destroy (foundlingPlan.refresh (foundling id)))
    { network := { answers := [⟨some removedReply, none⟩] } } _ _ [{ sampleRequest with url }]
    hcreated ⟨rfl, ?_⟩ ?_ (perform_destroy_foundling hjoin hrequest)
    (arrived_of_answers _ _)
  · rintro _ ⟨⟩
    exact List.mem_singleton.2 rfl
  · exact fun answer hmem => List.mem_cons_of_mem _ hmem

/-- The script shows no user but the one that is created. -/
theorem eq_of_shownId {id : String} (h : ShownId (foundlingScript "u") id) : id = "u" := by
  have hshown : (foundlingReply "u").decode User.decoder = .ok (foundling "u") :=
    ok_of_toOption (by decide +kernel)
  have hlisted : (foundlingReply "u").decode (Page.decoder User.decoder) = .ok {} :=
    ok_of_toOption (by decide +kernel)
  have hsilent : (removedReply.decode User.decoder).toOption = none := by decide +kernel
  have hblank : (removedReply.decode (Page.decoder User.decoder)).toOption = none := by
    decide +kernel
  have hreplies : ∀ {reply : Reply}, reply.IsTold (foundlingScript "u") →
      reply.status.isSuccess = true → reply = foundlingReply "u" ∨ reply = removedReply := by
    rintro reply (rfl | ⟨answer, hmem, hreply⟩) hsuccess
    · cases hsuccess
    rcases List.mem_cons.1 hmem with rfl | hmem
    · exact .inl (Option.some.inj hreply).symm
    · rw [List.mem_singleton.1 hmem] at hreply
      exact .inr (Option.some.inj hreply).symm
  -- Of two replies, each read alone and as a page, one shows a user.
  obtain ⟨user, hshow, rfl⟩ := h
  cases hshow with
  | alone htold hsuccess hdecode =>
    rcases hreplies htold hsuccess with rfl | rfl
    · rw [hshown] at hdecode
      cases hdecode
      rfl
    · rw [hdecode] at hsilent
      cases hsilent
  | listed htold hsuccess hdecode hmem =>
    rcases hreplies htold hsuccess with rfl | rfl
    · rw [hlisted] at hdecode
      cases hdecode
      cases hmem
    · rw [hdecode] at hblank
      cases hblank

/-- The user is created and removed, and the collection is left alone. -/
theorem collections_are_spared_at_removal :
    Lifecycle managed (foundlingScript "u") [foundlingPlan.refresh (foundling "u")]
        [(some (Client.sample "t" 60), foundlingRequest),
          (some (Client.sample "t" 60), sampleRequest)] ∧
      managed.Spares (foundlingScript "u") [foundlingPlan.refresh (foundling "u")]
        [(some (Client.sample "t" 60), foundlingRequest),
          (some (Client.sample "t" 60), sampleRequest)] := by
  have hlifecycle := @lifecycle_foundling "u" _ (ok_of_toOption (by decide +kernel))
    join_samplePath rfl
  refine ⟨hlifecycle, ((collections_are_spared _).2 _ _ hlifecycle).2 fun id hshown => ?_⟩
  have hunmarked : ∀ c ∈ Url.ending "u", c ≠ ':' → Reference.isMark c = false := by
    simp [Url.ending, isOuterBlank, isDropped, Reference.isMark]
  rw [eq_of_shownId hshown]
  exact ⟨by decide, hunmarked, by decide⟩

/-- The address of a user whose id the service leaves empty. -/
def namelessUrl : Url :=
  { (Client.sample "t" 60).base with path := .segments ["cloudapi", "1.0.0", "users", ""] }

/-- An empty id makes a state without a name, and an id with dot segments leads to the collection
itself. -/
theorem collection_is_removed :
    (∃ states sent, Lifecycle managed (foundlingScript "") states sent ∧
      (∃ state ∈ states, state.id = .known "") ∧
      ∃ request, (some (Client.sample "t" 60), request) ∈ sent ∧ request.method = .delete ∧
        request.url = namelessUrl) ∧
    ∃ states sent, Lifecycle managed (foundlingScript "../users") states sent ∧
      ∃ request, (some (Client.sample "t" 60), request) ∈ sent ∧ request.method = .delete ∧
        (Client.sample "t" 60).base.join Client.usersPath = .ok request.url := by
  refine ⟨?_, ?_⟩
  · have hlifecycle := @lifecycle_foundling "" namelessUrl (ok_of_toOption (by decide +kernel))
      (ok_of_toOption (by decide +kernel)) rfl
    exact ⟨_, _, hlifecycle, ⟨_, List.mem_singleton.2 rfl, rfl⟩, _,
      List.mem_cons_of_mem _ (List.mem_singleton.2 rfl), rfl, rfl⟩
  · have hlifecycle := @lifecycle_foundling "../users" foundlingRequest.url
      (ok_of_toOption (by decide +kernel)) (ok_of_toOption (by decide +kernel)) rfl
    exact ⟨_, _, hlifecycle, _, List.mem_cons_of_mem _ (List.mem_singleton.2 rfl), rfl,
      join_usersPath⟩

end LocalUser

end CloudTenancy
