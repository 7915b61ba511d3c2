import CloudTenancy.Proofs.Disabling
import CloudTenancy.Proofs.Tenants

/-!
CloudTenancy.Proofs.Methods — by which methods a call of the provider uses the service.

* `Request.IsLook` — a request that changes nothing.
* `Edit.Asked`, `Edit.Made` — a request for an edit; copies of it, and looks from then on.
* `Usage` — how a call uses the service: not at all, by looks, by one edit, by several.
* `Errand.usage` — the usage of each errand.
* `Request.Repeats` — requests that change something are not mixed: of each method there is one.

A change waits for a busy entity and for its task, so one edit may be many requests. What each
errand may send is written down once, in `Errand.usage`, beside its handler's text.

Main statement: `calls_keep_to_their_methods`.
-/

namespace CloudTenancy

variable {α : Type}

/-! ## Requests of one edit -/

/-- The request only looks. -/
def Request.IsLook (request : Request) : Prop := request.method = .get ∧ request.body = .empty

/-- The request asks for an edit, at the address of its path. -/
structure Edit.Asked (edit : Edit) (client : Client) (request : Request) : Prop where
  method : request.method = edit.method
  address : ∃ url, client.base.join edit.path = .ok url ∧
    request.url = Request.address
      (if edit.query.isEmpty then url else url.appendQuery (String.ofList (Form.pairs edit.query)))
  body : request.body = edit.body

/-- Copies of one request for an edit, and looks from then on. An edit that cannot be sent sends
nothing else either. -/
inductive Edit.Made (edit : Edit) (client : Client) : List Request → Prop
  | unsent : Made edit client []
  | sent {request : Request} {looks : List Request} (n : Nat) :
    edit.Asked client request → (∀ look ∈ looks, look.IsLook) →
    Made edit client (List.replicate (n + 1) request ++ looks)

/-- Requests that change something by one method are the same. -/
def Request.Repeats (requests : List Request) : Prop :=
  ∀ first ∈ requests, ∀ second ∈ requests, first.method ≠ .get → first.method = second.method →
    first = second

/-- Looks may be repeated as often as one likes. -/
theorem Request.repeats_of_looks {requests : List Request}
    (h : ∀ request ∈ requests, request.IsLook) : Request.Repeats requests :=
  fun first hfirst _ _ hchanges _ => absurd (h first hfirst).1 hchanges

/-- An edit that is made repeats nothing but itself and looks. -/
theorem Edit.Made.repeats {edit : Edit} {client : Client} {requests : List Request}
    (h : edit.Made client requests) : Request.Repeats requests := by
  cases h with
  | unsent => exact Request.repeats_of_looks (by simp)
  | @sent request looks n _ hlooks =>
    have hown : ∀ other ∈ List.replicate (n + 1) request ++ looks, other.method ≠ .get →
        other = request := by
      intro other hmem hchanges
      rcases List.mem_append.1 hmem with hcopy | hlook
      · exact List.eq_of_mem_replicate hcopy
      · exact absurd (hlooks other hlook).1 hchanges
    intro first hfirst second hsecond hchanges hsame
    rw [hown first hfirst hchanges, hown second hsecond (hsame ▸ hchanges)]

/-! ### Changes -/

/-- What has arrived in between is told as a whole. -/
def Network.Gains (P : List Request → Prop) (net later : Network) : Prop :=
  ∃ requests, later.arrived = net.arrived ++ requests ∧ P requests

namespace Client

variable {client : Client} {tenant? : Option String} {net : Network} {method : Method} {url : Url}
  {query : List (String × String)} {body : Body} {requests : List Request}

/-- What one sending brings to the service is the same request over and over. -/
theorem Sent.eq_replicate (h : client.Sent tenant? net method url query body requests) :
    requests = [] ∨ ∃ request n,
      client.request method url query body tenant? = .ok request ∧
        requests = List.replicate (n + 1) request := by
  cases requests with
  | nil => exact .inl rfl
  | cons request rest =>
    have hbuilt := h.built request List.mem_cons_self
    refine .inr ⟨request, rest.length, hbuilt, List.eq_replicate_iff.2 ⟨rfl, ?_⟩⟩
    intro other hother
    exact Except.ok.inj ((h.built other hother).symm.trans hbuilt)

theorem Copies.isLook {steps : List Step} (h : client.Copies tenant? net steps requests)
    (hreads : ∀ step ∈ steps, step.Reads) : ∀ request ∈ requests, request.IsLook := by
  intro request hmem
  obtain ⟨method, url, query, body, hstep, hbuilt⟩ := h.asked hmem
  obtain ⟨hmethod, -, hbody, -⟩ := Request.make_ok hbuilt
  obtain ⟨rfl, rfl⟩ := hreads _ hstep
  exact ⟨hmethod, hbody⟩

end Client

/-- A request that was built for a change asks for its edit. -/
theorem Change.asked_of_request {change : Change α} {client : Client} {tenant? : Option String}
    {url : Url} {request : Request} (hjoin : client.base.join change.path = .ok url)
    (h : client.request change.method url change.query change.body tenant? = .ok request) :
    change.edit.Asked client request := by
  obtain ⟨hmethod, hurl, hbody, -⟩ := Request.make_ok h
  exact ⟨hmethod, ⟨url, hjoin, hurl⟩, hbody⟩

/-- A change makes its edit. -/
theorem Change.made_call (change : Change α) (client : Client) (tenant? : Option String) :
    (change.call client tenant?).Obeys (Network.Gains (change.edit.Made client)) := by
  intro net
  obtain ⟨steps, result, hruns⟩ := change.exists_runs client tenant? net
  obtain ⟨requests, harrived, hcopies⟩ := client.arrived_follow tenant? steps net
  refine ⟨requests, by rw [hruns.perform, harrived], ?_⟩
  rcases hruns.steps_cases with rfl | ⟨url, hjoin, rfl | ⟨reply, rest, hreply, rfl, hreads⟩⟩
  · cases hcopies
    exact .unsent
  · cases hcopies with
    | ask hsent hrest =>
      cases hrest
      rcases hsent.eq_replicate with rfl | ⟨request, n, hbuilt, rfl⟩
      · exact .unsent
      · exact .sent n (asked_of_request hjoin hbuilt) (by simp)
  · cases hcopies with
    | ask hsent hrest =>
      -- Looks follow an answer only, and what is answered has arrived.
      rcases hsent.eq_replicate with rfl | ⟨request, n, hbuilt, rfl⟩
      · exact absurd rfl (hsent.answered reply hreply)
      · exact .sent n (asked_of_request hjoin hbuilt) (hrest.isLook hreads)

/-! ## Usages -/

/-- How a call uses the service. -/
inductive Usage
  | nothing
  /-- It only looks. -/
  | looks
  /-- It makes one edit, and looks from then on. -/
  | edit (edit : Edit)
  /-- It looks, and makes edits. -/
  | edits (Edits : Edit → Prop)

def Usage.Allows (client : Client) : Usage → List Request → Prop
  | nothing, requests => requests = []
  | looks, requests => ∀ request ∈ requests, request.IsLook
  | edit e, requests => e.Made client requests
  | edits E, requests => ∀ request ∈ requests,
    request.IsLook ∨ ∃ edit, E edit ∧ edit.Asked client request

/-- The usage of a call about a managed entity, by the edits of its changes. Plans and validations
do without the service. -/
def ResourceCall.usage {σ : Type} (create : σ → Edit) (update : σ → σ → Edit)
    (destroy : σ → Usage) : ResourceCall σ → Usage
  | .validate _ => .nothing
  | .read _ _ => .looks
  | .planCreate _ _ => .nothing
  | .planUpdate _ _ _ => .nothing
  | .planDestroy _ _ => .nothing
  | .create planned => .edit (create planned)
  | .update prior planned => .edit (update prior planned)
  | .destroy prior => destroy prior
  | .importState _ => .looks

/-- A call that needs no session sends nothing. -/
theorem ResourceCall.usage_of_plan {σ : Type} {create : σ → Edit} {update : σ → σ → Edit}
    {destroy : σ → Usage} {call : ResourceCall σ} (h : call.needsSession = false) :
    call.usage create update destroy = .nothing := by
  cases call <;> first | rfl | cases h

def LookupCall.usage {σ : Type} : LookupCall σ → Usage
  | .validate _ => .nothing
  | .read _ => .looks

def Org.usage : ResourceCall OrgState → Usage :=
  ResourceCall.usage
    (fun planned =>
      { method := .post, path := Client.orgsPath, body := .json planned.toOrg.toJson })
    (fun prior planned =>
      { method := .put, path := Client.orgsPath ++ "/" ++ prior.id.text
        body := .json (replacement prior planned).toJson })
    (fun prior => .edits (Edits (.destroy prior)))

def LocalUser.usage : ResourceCall LocalUserState → Usage :=
  ResourceCall.usage
    (fun planned =>
      { method := .post, path := Client.usersPath, body := .json (planned.toUser true).toJson })
    (fun prior planned =>
      { method := .put, path := Client.usersPath ++ "/" ++ prior.id.text
        body := .json (replacement prior planned).toJson })
    (fun prior => .edit { method := .delete, path := Client.usersPath ++ "/" ++ prior.id.text })

def Errand.usage : Errand → Usage
  | .org call => Org.usage call
  | .localUser call => LocalUser.usage call
  | .orgLookup call => call.usage
  | .localUserLookup call => call.usage
  | .roleLookup call => call.usage
  | .regionLookup call => call.usage
  | .versionLookup call => call.usage

/-- The requests of a call keep to a usage, and those that change something repeat each other. -/
def Usage.Keeps (usage : Usage) (client : Client) (requests : List Request) : Prop :=
  usage.Allows client requests ∧ Request.Repeats requests

/-! ### Calls that change nothing -/

theorem Action.Sends.keeps_nothing {action : Action α} {client : Client}
    (h : action.Sends fun _ => False) :
    action.Obeys (Network.Gains (Usage.nothing.Keeps client)) := by
  intro start
  obtain ⟨requests, harrived, hnone⟩ := h start
  obtain rfl := List.eq_nil_iff_forall_not_mem.2 hnone
  exact ⟨[], harrived, rfl, Request.repeats_of_looks (by simp)⟩

/-- A request that a session makes is a look or asks for an edit. -/
theorem Client.Makes.isLook_or_asked {client : Client} {E : Edit → Prop} {request : Request}
    (h : client.Makes E request) : request.IsLook ∨ ∃ edit, E edit ∧ edit.Asked client request := by
  cases h with
  | look hbuilt =>
    obtain ⟨hmethod, -, hbody, -⟩ := Request.make_ok hbuilt
    exact .inl ⟨hmethod, hbody⟩
  | @edit edit url _ hedit hjoin hbuilt =>
    obtain ⟨hmethod, hurl, hbody, -⟩ := Request.make_ok hbuilt
    exact .inr ⟨edit, hedit, hmethod, ⟨url, hjoin, hurl⟩, hbody⟩

/-- An action that edits nothing sends nothing but looks. -/
theorem Action.Sends.keeps_looks {action : Action α} {client : Client}
    (h : action.Sends (client.Makes fun _ => False)) :
    action.Obeys (Network.Gains (Usage.looks.Keeps client)) := by
  intro start
  obtain ⟨requests, harrived, hmakes⟩ := h start
  have hlooks : ∀ request ∈ requests, request.IsLook := by
    intro request hmem
    rcases (hmakes request hmem).isLook_or_asked with hlook | ⟨_, hnone, -⟩
    · exact hlook
    · exact hnone.elim
  exact ⟨requests, harrived, hlooks, Request.repeats_of_looks hlooks⟩

theorem Action.Sends.keeps_looks_for {action : Action α} {client : Client}
    {tenant? : Option String} (h : action.Sends (client.MakesFor tenant? fun _ => False)) :
    action.Obeys (Network.Gains (Usage.looks.Keeps client)) :=
  (h.mono fun _ => Client.MakesFor.makes).keeps_looks

/-! ### Calls that make one edit -/

/-- An action that makes one change makes its edit. -/
theorem Action.Obeys.keeps_edit {action : Action α} {client : Client} {edit : Edit}
    (h : action.Obeys (Network.Gains (edit.Made client))) :
    action.Obeys (Network.Gains ((Usage.edit edit).Keeps client)) := by
  intro start
  obtain ⟨requests, harrived, hmade⟩ := h start
  exact ⟨requests, harrived, hmade, hmade.repeats⟩

/-- A creation makes its own edit. -/
theorem Client.made_create {client : Client} {decoder : Json.Decoder α} {path : String}
    {body : Json} {tenant? : Option String} :
    (client.create decoder path body tenant?).Obeys
      (Network.Gains (Edit.Made { method := .post, path, body := .json body } client)) := by
  rw [Change.call_creation]
  exact Change.made_call _ client tenant?

/-- So does a replacement. -/
theorem Client.made_update {client : Client} {decoder : Json.Decoder α} {path : String}
    {body : Json} {tenant? : Option String} :
    (client.update decoder path body tenant?).Obeys
      (Network.Gains (Edit.Made { method := .put, path, body := .json body } client)) := by
  rw [Change.call_replacement]
  exact Change.made_call _ client tenant?

/-- So does a removal. -/
theorem Client.made_delete {client : Client} {path : String} {query : List (String × String)}
    {tenant? : Option String} :
    (client.delete path query tenant?).Obeys
      (Network.Gains (Edit.Made { method := .delete, path, query } client)) := by
  rw [Change.call_removal]
  exact Change.made_call _ client tenant?

/-! ### The removal of an organization -/

/-- A removal disables by one request and removes by one request, however often it sends them. -/
theorem Org.Dissolves.repeats {client : Client} {path : String} {net : Network}
    {steps : List Step} {report? : Option Diagnostic} {requests : List Request}
    (h : Dissolves client path net steps report?)
    (hcopies : client.Copies none net steps requests) :
    Request.Repeats requests := by
  intro first hfirst second hsecond hchanges hsame
  obtain ⟨method, url, query, body, hstep, hbuilt⟩ := hcopies.asked hfirst
  obtain ⟨method', url', query', body', hstep', hbuilt'⟩ := hcopies.asked hsecond
  rw [(Request.make_ok hbuilt).1] at hchanges hsame
  rw [(Request.make_ok hbuilt').1] at hsame
  cases h.acts _ hstep with
  | looks hreads => exact absurd hreads.1 hchanges
  | disables hjoin hget =>
    cases h.acts _ hstep' with
    | looks hreads => exact absurd (hsame.trans hreads.1) hchanges
    | disables hjoin' hget' =>
      cases hjoin.symm.trans hjoin'
      cases hget.symm.trans hget'
      exact Except.ok.inj (hbuilt.symm.trans hbuilt')
    | deletes => cases hsame
  | deletes hjoin =>
    cases h.acts _ hstep' with
    | looks hreads => exact absurd (hsame.trans hreads.1) hchanges
    | disables => cases hsame
    | deletes hjoin' =>
      cases hjoin.symm.trans hjoin'
      exact Except.ok.inj (hbuilt.symm.trans hbuilt')

/-- A removal keeps to its two edits, disabling and deleting. -/
theorem Org.keeps_destroy (client : Client) (prior : OrgState) :
    (destroy (some client) prior).Obeys
      (Network.Gains ((Usage.edits (Edits (.destroy prior))).Keeps client)) := by
  intro start
  obtain ⟨steps, report?, hdissolves⟩ :=
    exists_dissolves client (Org.path prior.id.text) start.network
  obtain ⟨requests, harrived, hcopies⟩ := client.arrived_follow none steps start.network
  obtain ⟨sent, hsent, hmakes⟩ := sends_destroy client prior start
  have hnetwork : ((destroy (some client) prior).perform start).2.network =
      client.follow none start.network steps := by
    rw [hdissolves.perform]
    cases report? <;> rfl
  rw [hnetwork] at hsent ⊢
  obtain rfl := List.append_cancel_left (hsent.symm.trans harrived)
  exact ⟨sent, harrived, fun request hmem => (hmakes request hmem).makes.isLook_or_asked,
    hdissolves.repeats hcopies⟩

/-! ## Errands -/

section

variable (client : Client)

/-- Calls keep to their usages if the handlers do. -/
theorem Handlers.Each.keeps {σ : Type} {handlers : Handlers σ} {client : Client}
    {create : σ → Edit} {update : σ → σ → Edit} {destroy : σ → Usage}
    (h : handlers.Each (some client) fun call _ action =>
      action.Obeys (Network.Gains ((call.usage create update destroy).Keeps client)))
    (call : ResourceCall σ) :
    (handlers.manage (some client) call).Obeys
      (Network.Gains ((call.usage create update destroy).Keeps client)) := by
  refine h.manage (fun call _ a hplan => ?_) (fun _ _ _ _ form hkeeps => hkeeps.bind_pure form) call
  rw [call.usage_of_plan hplan]
  exact Action.Sends.keeps_nothing (.pure a)

/-- Every call to manage organizations keeps to the edits it may make. -/
theorem Org.keeps_manage (call : ResourceCall OrgState) :
    (manage (some client) call).Obeys (Network.Gains ((usage call).Keeps client)) := by
  refine Handlers.Each.keeps ⟨?_, ?_, ?_, ?_, ?_, ?_⟩ call
  · exact fun _ => Action.Sends.keeps_nothing (.pure ())
  · exact fun _ _ => Action.Sends.keeps_looks_for (.asked _ (client.sends_get _ none _))
  · exact fun planned => Action.Obeys.keeps_edit (.asked _ Client.made_create)
  · exact fun prior planned => Action.Obeys.keeps_edit (.asked _ Client.made_update)
  · exact keeps_destroy client
  · exact fun id => (sends_importState client id).keeps_looks_for

/-- Every call to manage users keeps to the edits it may make. -/
theorem LocalUser.keeps_manage (call : ResourceCall LocalUserState) :
    (manage (some client) call).Obeys (Network.Gains ((usage call).Keeps client)) := by
  refine Handlers.Each.keeps ⟨?_, ?_, ?_, ?_, ?_, ?_⟩ call
  · exact fun _ => Action.Sends.keeps_nothing (.forM_record _)
  · exact fun _ _ => Action.Sends.keeps_looks_for (.asked _ (client.sends_get _ (some _) _))
  · exact fun planned => Action.Obeys.keeps_edit (.asked _ Client.made_create)
  · exact fun prior planned => Action.Obeys.keeps_edit (.asked _ Client.made_update)
  · exact fun prior => Action.Obeys.keeps_edit (.asked _ (.orMissing Client.made_delete))
  · exact fun id => (sends_importState client id).keeps_looks

/-- What is looked up is only looked at, and validated without the service. -/
theorem LookupCall.keeps_answer {σ : Type} {tenant? : σ → Option String}
    {validate : σ → Action Unit} {lookup : σ → Action σ}
    (hvalidate : ∀ config, (validate config).Sends fun _ => False)
    (hlookup : ∀ config, (lookup config).Sends (client.MakesFor (tenant? config) fun _ => False))
    (call : LookupCall σ) :
    (LookupCall.answer validate lookup call).Obeys (Network.Gains (call.usage.Keeps client)) := by
  cases call with
  | validate config => exact .bind_pure (Action.Sends.keeps_nothing (hvalidate config)) _
  | read config => exact .bind_pure (hlookup config).keeps_looks_for _

/-- Every errand keeps to its usage. -/
theorem Errand.keeps_act (errand : Errand) :
    (errand.act (some client)).Obeys (Network.Gains (errand.usage.Keeps client)) := by
  cases errand with
  | org call => exact Org.keeps_manage client call
  | localUser call => exact LocalUser.keeps_manage client call
  | orgLookup call =>
    exact LookupCall.keeps_answer client (fun _ => .pure ()) (Org.sends_lookup client) call
  | localUserLookup call =>
    exact LookupCall.keeps_answer client (fun _ => .pure ()) (LocalUser.sends_lookup client) call
  | roleLookup call =>
    exact LookupCall.keeps_answer client (fun _ => .pure ()) (Role.sends_lookup client) call
  | regionLookup call =>
    exact LookupCall.keeps_answer client (fun _ => .pure ()) (Region.sends_lookup client) call
  | versionLookup call =>
    exact LookupCall.keeps_answer client (fun _ => .forM_record _) (Version.sends_lookup client)
      call

end

/-! ## The ids of replacements -/

/-- The body of an organization names its id, unless that is empty. -/
theorem Org.member?_id_toJson (org : Org) : org.toJson.member? "id" = nonEmpty org.id := by
  unfold toJson nonEmpty
  cases org.managedBy? <;> split <;> simp [Json.ofMembers, Json.member?, Json.lookup]

theorem User.member?_id_toJson (user : User) : user.toJson.member? "id" = nonEmpty user.id := by
  unfold toJson nonEmpty
  cases user.password? <;> cases user.orgRef? <;> split <;>
    simp [Json.ofMembers, Json.member?, Json.lookup]

/-! ## The provider -/

/-- **Methods.** Whatever the service answers: validations and plans send nothing, and so does every
call without a session; what is read, imported or looked up is only looked at; a create sends copies
of one request to its collection, an update copies of one replacement to the path of the prior id,
the removal of a user copies of one removal from its path, and all of these look from then on;
and of the requests of a call that change something by one method, all are the same. The body of a
replacement has the prior id, whatever id was planned. -/
theorem calls_keep_to_their_methods :
    (∀ (provider : Provider) (errand : Errand) (net : Network), ∃ requests,
      (provider.serve errand net).2.arrived = net.arrived ++ requests ∧
        (provider.client? = none → requests = []) ∧
        (∀ client, provider.client? = some client → errand.usage.Allows client requests) ∧
        Request.Repeats requests) ∧
    (∀ (prior planned : OrgState) (id : Value String),
      (Org.replacement prior planned).toJson.member? "id" = nonEmpty prior.id.text ∧
        Org.replacement prior { planned with id } = Org.replacement prior planned) ∧
    ∀ (prior planned : LocalUserState) (id : Value String),
      (LocalUser.replacement prior planned).toJson.member? "id" = nonEmpty prior.id.text ∧
        LocalUser.replacement prior { planned with id } = LocalUser.replacement prior planned := by
  refine ⟨?_, fun prior planned id => ⟨Org.member?_id_toJson _, rfl⟩,
    fun prior planned id => ⟨User.member?_id_toJson _, rfl⟩⟩
  intro provider errand net
  rw [Provider.serve_eq]
  cases hclient : provider.client? with
  | none =>
    obtain ⟨requests, harrived, hnone⟩ :=
      Errand.quiet_act (P := fun _ => False) errand { network := net }
    obtain rfl := List.eq_nil_iff_forall_not_mem.2 hnone
    exact ⟨[], harrived, fun _ => rfl, by rintro _ ⟨⟩, Request.repeats_of_looks (by simp)⟩
  | some client =>
    obtain ⟨requests, harrived, hallows, hrepeats⟩ :=
      Errand.keeps_act client errand { network := net }
    refine ⟨requests, harrived, by rintro ⟨⟩, ?_, hrepeats⟩
    rintro _ ⟨⟩
    exact hallows

/-! ## A sample -/

/-- A service that is busy with an organization, then unavailable, and then replaces it. -/
def Org.busyTwice : Network :=
  Client.answering
    [{ status := ⟨409⟩, body := (Json.object [("minorErrorCode", .string "BUSY_ENTITY")]).write },
      { status := .unavailable }, { body := (Org.toJson { id := "u", name := "n" }).write }]

/-- An update is sent until it goes through, as copies of one replacement at the prior id. -/
theorem update_is_repeated_as_it_was :
    ∃ requests, (Org.usage (.update { id := .known "u" }
        { id := .known "v", name := .known "n" })).Allows (Client.sample "t" 60) requests ∧
      Request.Repeats requests ∧
      requests.map (fun request => (request.method, request.url.text)) =
        List.replicate 3 (.put, "http://h/cloudapi/1.0.0/orgs/u") := by
  obtain ⟨requests, harrived, -, hallows, hrepeats⟩ := calls_keep_to_their_methods.1
    ⟨some (Client.sample "t" 60)⟩
    (.org (.update { id := .known "u" } { id := .known "v", name := .known "n" })) Org.busyTwice
  have hlog : Client.log ((⟨some (Client.sample "t" 60)⟩ : Provider).serve
      (.org (.update { id := .known "u" } { id := .known "v", name := .known "n" }))
      Org.busyTwice).2 = List.replicate 3 (.put, "http://h/cloudapi/1.0.0/orgs/u") := by
    decide +kernel
  rw [Client.log, harrived] at hlog
  exact ⟨requests, hallows _ rfl, hrepeats, hlog⟩

end CloudTenancy
