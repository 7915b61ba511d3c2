import CloudTenancy.Provider
import CloudTenancy.Proofs.Apply
import CloudTenancy.Proofs.Effects
import CloudTenancy.Proofs.Paging

/-!
CloudTenancy.Proofs.Requests — what the calls of the provider send.

* `Network.Adds` — requests of a kind that have arrived.
* `Call.Sends`, `Action.Sends` — what sends only requests of a kind.
* `Edit` — what a request that changes something asks for.
* `Client.Makes` — a request of a session that is a look or one of the edits of a call,
  `Client.MakesFor` — one that is made for a given organization, or for none.
* `Org.Edits`, `LocalUser.Edits` — the edits of each call about managed entities.

A call is a look, or a change whose own request comes first and which only looks from then on. So
what a handler sends is told by the edits that stand in its text.

Main statements: `Org.sends_manage` and `LocalUser.sends_manage`, and that what is looked up sends
no edits. Each handler that names one organization names it in all its requests.
-/

namespace CloudTenancy

variable {α β : Type} {P Q : Request → Prop}

/-! ## What calls send -/

/-- Requests of a kind have arrived in between, and no others. -/
def Network.Adds (P : Request → Prop) (net later : Network) : Prop :=
  ∃ requests, later.arrived = net.arrived ++ requests ∧ ∀ request ∈ requests, P request

instance : Network.Composes (Network.Adds P) where
  refl net := ⟨[], by simp, by simp⟩
  trans := by
    rintro net later last ⟨first, hlater, hfirst⟩ ⟨more, hlast, hmore⟩
    refine ⟨first ++ more, by rw [hlast, hlater, List.append_assoc], ?_⟩
    intro request hmem
    exact (List.mem_append.1 hmem).elim (hfirst request) (hmore request)

theorem Network.Adds.mono {net later : Network} (h : net.Adds P later)
    (himp : ∀ request, P request → Q request) : net.Adds Q later := by
  obtain ⟨requests, harrived, hrequests⟩ := h
  exact ⟨requests, harrived, fun request hmem => himp request (hrequests request hmem)⟩

/-- All requests that arrive during the call are of a kind. -/
def Call.Sends (P : Request → Prop) (call : Call α) : Prop := call.Obeys (Network.Adds P)

def Action.Sends (P : Request → Prop) (action : Action α) : Prop := action.Obeys (Network.Adds P)

theorem Call.Sends.mono {call : Call α} (h : call.Sends P)
    (himp : ∀ request, P request → Q request) : call.Sends Q :=
  fun net => (h net).mono himp

theorem Action.Sends.mono {action : Action α} (h : action.Sends P)
    (himp : ∀ request, P request → Q request) : action.Sends Q :=
  fun start => (h start).mono himp

/-! ## Looks and edits -/

/-- What a request that changes something asks for. -/
structure Edit where
  method : Method
  path : String
  query : List (String × String) := []
  body : Body := .empty

/-- The request is one of the session: a look, or one of the edits. -/
inductive Client.Makes (client : Client) (Edits : Edit → Prop) (request : Request) : Prop
  | look {url : Url} {query : List (String × String)} {tenant? : Option String} :
    client.request .get url query .empty tenant? = .ok request → Makes client Edits request
  | edit {edit : Edit} {url : Url} {tenant? : Option String} :
    Edits edit → client.base.join edit.path = .ok url →
    client.request edit.method url edit.query edit.body tenant? = .ok request →
    Makes client Edits request

/-- The request is one of the session that is made for an organization, or for none: a look, or one
of the edits. -/
inductive Client.MakesFor (client : Client) (tenant? : Option String) (Edits : Edit → Prop)
    (request : Request) : Prop
  | look {url : Url} {query : List (String × String)} :
    client.request .get url query .empty tenant? = .ok request →
    MakesFor client tenant? Edits request
  | edit {edit : Edit} {url : Url} :
    Edits edit → client.base.join edit.path = .ok url →
    client.request edit.method url edit.query edit.body tenant? = .ok request →
    MakesFor client tenant? Edits request

/-- A request for a tenant is one that the session makes. -/
theorem Client.MakesFor.makes {client : Client} {tenant? : Option String} {E : Edit → Prop}
    {request : Request} (h : client.MakesFor tenant? E request) : client.Makes E request := by
  cases h with
  | look hbuilt => exact .look hbuilt
  | edit hedit hjoin hbuilt => exact .edit hedit hjoin hbuilt

def Change.edit (change : Change α) : Edit where
  method := change.method
  path := change.path
  query := change.query
  body := change.body

namespace Client

variable (client : Client) (decoder : Json.Decoder α) (tenant? : Option String) {E : Edit → Prop}

/-- What follows steps makes the requests that the steps ask for. -/
theorem sends_of_follow {call : Call α}
    (h : ∀ net, ∃ steps, (call.perform net).2 = client.follow tenant? net steps ∧
      ∀ method url query body, .ask method url query body ∈ steps →
        ∀ request, client.request method url query body tenant? = .ok request → P request) :
    call.Sends P := by
  intro net
  obtain ⟨steps, hsteps, hkind⟩ := h net
  obtain ⟨requests, harrived, hcopies⟩ := client.arrived_follow tenant? steps net
  refine ⟨requests, by rw [hsteps, harrived], ?_⟩
  intro request hmem
  obtain ⟨method, url, query, body, hstep, hbuilt⟩ := hcopies.asked hmem
  exact hkind method url query body hstep request hbuilt

/-- A step that only looks asks for a look. -/
theorem makesFor_of_reads {method : Method} {url : Url} {query : List (String × String)}
    {body : Body} {request : Request} (hreads : (Step.ask method url query body).Reads)
    (h : client.request method url query body tenant? = .ok request) :
    client.MakesFor tenant? E request := by
  obtain ⟨rfl, rfl⟩ := hreads
  exact .look h

/-- A change makes its edit, and looks at its task. -/
theorem sends_change (change : Change α) (hedit : E change.edit) :
    (change.call client tenant?).Sends (client.MakesFor tenant? E) := by
  refine client.sends_of_follow tenant? fun net => ?_
  obtain ⟨steps, result, hruns⟩ := change.exists_runs client tenant? net
  refine ⟨steps, by rw [hruns.perform], ?_⟩
  intro method url query body hstep request hbuilt
  rcases hruns.steps_eq with rfl | ⟨target, rest, hjoin, rfl, hreads⟩
  · cases hstep
  rcases List.mem_cons.1 hstep with hown | hlater
  · cases hown
    exact .edit hedit hjoin hbuilt
  · exact client.makesFor_of_reads tenant? (hreads _ hlater) hbuilt

theorem sends_create (path : String) (body : Json)
    (h : E { method := .post, path, body := .json body }) :
    (client.create decoder path body tenant?).Sends (client.MakesFor tenant? E) := by
  rw [Change.call_creation]
  exact client.sends_change tenant? _ h

theorem sends_update (path : String) (body : Json)
    (h : E { method := .put, path, body := .json body }) :
    (client.update decoder path body tenant?).Sends (client.MakesFor tenant? E) := by
  rw [Change.call_replacement]
  exact client.sends_change tenant? _ h

theorem sends_delete (path : String) (query : List (String × String))
    (h : E { method := .delete, path, query }) :
    (client.delete path query tenant?).Sends (client.MakesFor tenant? E) := by
  rw [Change.call_removal]
  exact client.sends_change tenant? _ h

theorem sends_get (path : String) :
    (client.get decoder path tenant?).Sends (client.MakesFor tenant? E) := by
  refine .bind (.ofExcept _ _) fun url => client.sends_of_follow tenant? fun net => ?_
  simp only [Change.decode_eq]
  refine ⟨[.get url], by rw [Change.perform_fetch], ?_⟩
  intro method target query body hstep request hbuilt
  exact client.makesFor_of_reads tenant? (List.mem_singleton.1 hstep ▸ Step.reads_get url) hbuilt

theorem reads_pageSteps (url : Url) (filter? : Option String) (first n : Nat) :
    ∀ step ∈ pageSteps url filter? first n, step.Reads := by
  intro step hstep
  obtain ⟨i, -, rfl⟩ := List.mem_map.1 hstep
  exact ⟨rfl, rfl⟩

/-- Listing only looks. -/
theorem sends_list (path : String) (filter? : Option String) :
    (client.list decoder path filter? tenant?).Sends (client.MakesFor tenant? E) := by
  refine .bind (.ofExcept _ _) fun url => client.sends_of_follow tenant? fun net => ?_
  obtain ⟨n, result, hwalk⟩ := client.exists_walk decoder url filter? tenant? 1 net
  refine ⟨_, by rw [Call.perform_of, hwalk.pagesFrom], ?_⟩
  intro method target query body hstep request hbuilt
  exact client.makesFor_of_reads tenant? (reads_pageSteps url filter? 1 n _ hstep) hbuilt

/-- So does a lookup. -/
theorem sends_findOne (kind path field value : String) :
    (client.findOne decoder kind path field value tenant?).Sends (client.MakesFor tenant? E) :=
  .bind (client.sends_list decoder tenant? path _) fun _ => .ofExcept _ _

theorem sends_getByName (kind path name : String) :
    (client.getByName decoder kind path name tenant?).Sends (client.MakesFor tenant? E) :=
  client.sends_findOne decoder tenant? kind path "name" name

end Client

/-! ## Managed entities -/

section

variable (client : Client) {E : Edit → Prop}

namespace Org

/-- The edits of each call about organizations. -/
inductive Edits : ResourceCall OrgState → Edit → Prop
  | create (planned : OrgState) :
    Edits (.create planned)
      { method := .post, path := Client.orgsPath, body := .json planned.toOrg.toJson }
  | update (prior planned : OrgState) :
    Edits (.update prior planned)
      { method := .put, path := path prior.id.text
        body := .json (replacement prior planned).toJson }
  | disable (prior : OrgState) (org : Org) :
    Edits (.destroy prior)
      { method := .put, path := path prior.id.text
        body := .json { org with isEnabled := false }.toJson }
  | remove (prior : OrgState) :
    Edits (.destroy prior)
      { method := .delete, path := path prior.id.text, query := deleteQuery }

theorem sends_find (name : String) : (find client name).Sends (client.MakesFor none E) :=
  client.sends_getByName _ none _ _ _

theorem sends_disable (prior : OrgState) (org : Org) :
    (disable client (path prior.id.text) org).Sends
      (client.MakesFor none (Edits (.destroy prior))) := by
  unfold disable
  split
  · exact .bind (.attempt _ (client.sends_update _ none _ _ (.disable prior org))) fun _ => .pure ()
  · exact .pure ()

/-- A removal makes the two edits that are its own. -/
theorem sends_destroy (prior : OrgState) :
    (destroy (some client) prior).Sends (client.MakesFor none (Edits (.destroy prior))) := by
  refine .configured (.bind (.attempt _ (.orMissing (client.sends_get _ none _))) fun org? => ?_)
  cases org? with
  | none => exact .pure ()
  | some org =>
    refine .bind (sends_disable client prior org) fun _ => ?_
    exact .bind (.attempt _ (.orMissing (client.sends_delete none _ _ (.remove prior))))
      fun _ => .pure ()

theorem sends_importState (id : String) :
    (importState (some client) id).Sends (client.MakesFor none E) := by
  refine .configured (.bind (.attempt _ ?_) fun org => .pure _)
  split
  · exact client.sends_get _ none _
  · exact sends_find client id

/-- Calls about organizations are made for none of them. -/
theorem makesFor_manage (call : ResourceCall OrgState) :
    (manage (some client) call).Sends (client.MakesFor none (Edits call)) := by
  refine Handlers.Each.manage (P := fun call _ action =>
    action.Sends (client.MakesFor none (Edits call))) ⟨?_, ?_, ?_, ?_, ?_, ?_⟩
    (fun _ _ a _ => .pure a) (fun _ _ _ _ form h => h.bind_pure form) call
  · exact fun _ => .pure ()
  · exact fun _ _ => .asked _ (client.sends_get _ none _)
  · exact fun planned => .asked _ (client.sends_create _ none _ _ (.create planned))
  · exact fun prior planned => .asked _ (client.sends_update _ none _ _ (.update prior planned))
  · exact sends_destroy client
  · exact fun id => sends_importState client id

/-- A call about organizations makes its edits, and looks. -/
theorem sends_manage (call : ResourceCall OrgState) :
    (manage (some client) call).Sends (client.Makes (Edits call)) :=
  (makesFor_manage client call).mono fun _ => Client.MakesFor.makes

end Org

namespace LocalUser

/-- The edits of each call about local users. -/
inductive Edits : ResourceCall LocalUserState → Edit → Prop
  | create (planned : LocalUserState) :
    Edits (.create planned)
      { method := .post, path := Client.usersPath, body := .json (planned.toUser true).toJson }
  | update (prior planned : LocalUserState) :
    Edits (.update prior planned)
      { method := .put, path := path prior.id.text
        body := .json (replacement prior planned).toJson }
  | remove (prior : LocalUserState) :
    Edits (.destroy prior) { method := .delete, path := path prior.id.text }

/-- The organization that a call other than an import is made for. -/
def tenant? : ResourceCall LocalUserState → Option String
  | .read state _ => some state.orgId.text
  | .create planned => some planned.orgId.text
  | .update _ planned => some planned.orgId.text
  | .destroy prior => some prior.orgId.text
  | _ => none

theorem sends_find (orgId username : String) :
    (find client orgId username).Sends (client.MakesFor (some orgId) E) :=
  client.sends_findOne _ (some orgId) _ _ _ _

/-- Nothing is sent to take an import id apart. -/
theorem sends_importNames {P : Request → Prop} (id : String) :
    (importNames client id).Sends P := by
  unfold importNames
  split
  · exact .pure _
  · exact .fail _

theorem sends_importState (id : String) :
    (importState (some client) id).Sends (client.Makes E) := by
  have hmakes : ∀ {tenant? : Option String} request,
      client.MakesFor tenant? E request → client.Makes E request := fun _ => Client.MakesFor.makes
  refine .configured (.bind (sends_importNames client id) fun names => ?_)
  refine .bind (.attempt _ ((Org.sends_find client _).mono hmakes)) fun org => ?_
  exact .bind (.attempt _ ((sends_find client _ _).mono hmakes)) fun _ => .pure _

/-- A call about local users is made for the organization that owns the user. An import has to find
out which one that is. -/
theorem makesFor_manage {call : ResourceCall LocalUserState}
    (hknown : ∀ id, call ≠ .importState id) :
    (manage (some client) call).Sends (client.MakesFor (tenant? call) (Edits call)) := by
  refine Handlers.Each.manage (P := fun call _ action => (∀ id, call ≠ .importState id) →
    action.Sends (client.MakesFor (tenant? call) (Edits call))) ⟨?_, ?_, ?_, ?_, ?_, ?_⟩
    (fun _ _ a _ _ => .pure a) (fun _ _ _ _ form h hother => (h hother).bind_pure form) call hknown
  · exact fun _ _ => .forM_record _
  · exact fun _ _ _ => .asked _ (client.sends_get _ (some _) _)
  · exact fun planned _ => .asked _ (client.sends_create _ (some _) _ _ (.create planned))
  · exact fun prior planned _ =>
      .asked _ (client.sends_update _ (some _) _ _ (.update prior planned))
  · exact fun prior _ => .asked _ (.orMissing (client.sends_delete (some _) _ _ (.remove prior)))
  · exact fun id hother => absurd rfl (hother id)

/-- A call about local users makes its edits, and looks. -/
theorem sends_manage (call : ResourceCall LocalUserState) :
    (manage (some client) call).Sends (client.Makes (Edits call)) := by
  by_cases himport : ∃ id, call = .importState id
  · obtain ⟨id, rfl⟩ := himport
    exact .bind_pure (sends_importState client id) _
  · have hknown : ∀ id, call ≠ .importState id := fun id h => himport ⟨id, h⟩
    exact (makesFor_manage client hknown).mono fun _ => Client.MakesFor.makes

end LocalUser

/-! ## Entities that are looked up -/

/-- What is looked up is validated without the service, and sends what the look sends. -/
theorem LookupCall.sends_answer {σ : Type} {validate : σ → Action Unit} {lookup : σ → Action σ}
    (hvalidate : ∀ config, (validate config).Sends P) (hlookup : ∀ config, (lookup config).Sends P)
    (call : LookupCall σ) : (LookupCall.answer validate lookup call).Sends P := by
  cases call with
  | validate config => exact .bind (hvalidate config) fun _ => .pure _
  | read config => exact .bind (hlookup config) fun _ => .pure _

theorem Org.sends_lookup (config : OrgState) :
    (Org.lookup (some client) config).Sends (client.MakesFor none E) :=
  .asked _ (Org.sends_find client _)

theorem LocalUser.sends_lookup (config : LocalUserView) :
    (LocalUser.lookup (some client) config).Sends (client.MakesFor (some config.orgId.text) E) :=
  .asked _ (LocalUser.sends_find client _ _)

theorem Role.sends_lookup (config : RoleState) :
    (Role.lookup (some client) config).Sends (client.MakesFor (some config.orgId.text) E) :=
  .asked _ (client.sends_getByName _ (some _) _ _ _)

theorem Region.sends_lookup (config : RegionState) :
    (Region.lookup (some client) config).Sends (client.MakesFor none E) :=
  .asked _ (client.sends_getByName _ none _ _ _)

theorem Version.sends_lookup (config : VersionState) :
    (Version.lookup (some client) config).Sends (client.MakesFor none E) := by
  refine .configured (.bind (.attempt _ (client.sends_get _ none _)) fun versions => ?_)
  split
  · exact .pure _
  · exact .fail _

end

/-! ## A sample -/

/-- A service that lists an organization, and then one of its users. -/
def LocalUser.household : Network :=
  Client.answering
    [{ body := (Json.object [("values", .array
          [.object [("id", .string "urn:vcloud:org:42"), ("name", .string "acme")]])]).write },
      { body := (Json.object [("values", .array
          [.object [("id", .string "v"), ("username", .string "alice.smith")]])]).write }]

end CloudTenancy
