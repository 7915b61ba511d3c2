import CloudTenancy.Proofs.Requests

/-!
CloudTenancy.Proofs.Sessions — which session a call of the provider is made with.

* `Client.Carries` — a request that shows the token of a session.
* `Action.Unconfigured` — an action that ends for want of a session.
* `Errand` — what the provider can be asked for once it has been configured, `Provider.serve` the
  call.
* `Event` — one call of the provider, on a network of its own. `Event.opened?` is the session that
  it opens.
* `Provider.session` — the provider after calls.
* `Provider.LastOpened` — the session that the last successful configuration opened.

The networks of the calls are arbitrary, so that nothing is assumed about how one call leaves them
to the next one.

Main statement: `sessions_are_atomic`.
-/

namespace CloudTenancy

variable {α β : Type}

/-! ## The credentials of requests -/

/-- The request asks for the version that is spoken and shows the token of the session. User info in
an address stands before the token, as an authorization of its own. -/
structure Client.Carries (client : Client) (request : Request) : Prop where
  accepts : request.header "accept" = ["application/json;version=40.0"]
  authorized : ∃ own, request.header "authorization" = own ++ ["Bearer " ++ client.token] ∧
    ∀ value ∈ own, ∃ user password?, value = Request.basic user password?

theorem Request.headers_of_make {method : Method} {url : Url} {headers : List (String × String)}
    {body : Body} {request : Request} (h : make method url headers body = .ok request) :
    request.headers = ownHeaders url ++ headers ++
      body.contentType?.toList.map (fun type => ("content-type", type)) ++
      [("user-agent", userAgent)] := by
  unfold make at h
  dsimp only at h
  split at h
  · cases h
  · split at h
    · cases h
    · split at h
      · cases h
      · cases h
        rfl

/-- User info is the only header that an address adds. -/
theorem Request.ownHeaders_eq (url : Url) : ownHeaders url = [] ∨
    ∃ user password?, ownHeaders url = [("authorization", basic user password?)] := by
  unfold ownHeaders
  cases credentials? url with
  | none => exact .inl rfl
  | some info => exact .inr ⟨info.1, info.2, rfl⟩

/-- A header of another name than those of kind and tenant has the values that the address and the
session give it. -/
theorem Client.header_of_request {client : Client} {method : Method} {url : Url}
    {query : List (String × String)} {body : Body} {tenant? : Option String} {request : Request}
    (h : client.request method url query body tenant? = .ok request) (name : String)
    (hname : name ∉ ["x-vmware-vcloud-tenant-context", "content-type", "user-agent"]) :
    ∃ own, (own = [] ∨ ∃ user password?, own = [("authorization", Request.basic user password?)]) ∧
      request.header name =
        ((own ++ [("accept", accept), ("authorization", Request.bearer client.token)]).filter
          fun header => header.1 = name).map (·.2) := by
  have htenant : String.ofList (Settings.foldCase tenantHeader) =
      "x-vmware-vcloud-tenant-context" := rfl
  simp only [List.mem_cons, List.not_mem_nil, or_false, not_or] at hname
  obtain ⟨hcontext, hkind, hagent⟩ := hname
  obtain ⟨address, hmake⟩ :
      ∃ address, Request.make method address (client.headers tenant?) body = .ok request := ⟨_, h⟩
  refine ⟨Request.ownHeaders address, Request.ownHeaders_eq address, ?_⟩
  rw [Request.header, Request.headers_of_make hmake, headers, htenant]
  have hmade : ((tenant?.toList.map fun org =>
      ("x-vmware-vcloud-tenant-context", Urn.uuid org)).filter
      fun header => header.1 = name) = [] := by
    cases tenant? <;> simp [Ne.symm hcontext]
  have hannounced : ((body.contentType?.toList.map fun type => ("content-type", type)).filter
      fun header => header.1 = name) = [] := by
    cases body <;> simp [Body.contentType?, Ne.symm hkind]
  simp only [List.filter_append, hmade, hannounced, List.append_nil]
  simp [Ne.symm hagent]

/-- Every request that a session builds shows its token. -/
theorem Client.carries_of_request {client : Client} {method : Method} {url : Url}
    {query : List (String × String)} {body : Body} {tenant? : Option String} {request : Request}
    (h : client.request method url query body tenant? = .ok request) : client.Carries request where
  accepts := by
    obtain ⟨own, hown, hvalues⟩ := header_of_request h "accept" (by decide)
    rw [hvalues]
    obtain rfl | ⟨user, password?, rfl⟩ := hown <;> rfl
  authorized := by
    obtain ⟨own, hown, hvalues⟩ := header_of_request h "authorization" (by decide)
    rw [hvalues]
    obtain rfl | ⟨user, password?, rfl⟩ := hown
    · exact ⟨[], rfl, by simp⟩
    · refine ⟨[Request.basic user password?], rfl, ?_⟩
      intro value hvalue
      exact ⟨user, password?, List.mem_singleton.1 hvalue⟩

/-- Looks and edits of a session show its token. -/
theorem Client.Makes.carries {client : Client} {E : Edit → Prop} {request : Request}
    (h : client.Makes E request) : client.Carries request := by
  cases h with
  | look hbuilt => exact carries_of_request hbuilt
  | edit _ _ hbuilt => exact carries_of_request hbuilt

/-! ## Calls without a session -/

/-- The action ends without a result and reports one error: that there is no session. -/
def Action.Unconfigured (action : Action α) : Prop :=
  ∀ start, action.perform start =
    (none, { start with
      diagnostics := start.diagnostics.error { summary := "provider is not configured" } })

/-- What comes behind the missing session is not reached. -/
theorem Action.Unconfigured.bind {action : Action α} (h : action.Unconfigured)
    (next : α → Action β) : (action >>= next).Unconfigured :=
  fun start => perform_bind_of_none (h start)

/-- An action that starts with the session ends there. -/
theorem Action.unconfigured_bind (next : Client → Action α) :
    (Action.configured none >>= next).Unconfigured :=
  .bind (fun _ => rfl) next

/-! ## Calls of the provider -/

/-- What the provider can be asked for once it has been configured. -/
inductive Errand
  | org (call : ResourceCall OrgState)
  | localUser (call : ResourceCall LocalUserState)
  | orgLookup (call : LookupCall OrgState)
  | localUserLookup (call : LookupCall LocalUserView)
  | roleLookup (call : LookupCall RoleState)
  | regionLookup (call : LookupCall RegionState)
  | versionLookup (call : LookupCall VersionState)

namespace Errand

def Answer : Errand → Type
  | org _ => ResourceAnswer OrgState
  | localUser _ => ResourceAnswer LocalUserState
  | orgLookup _ => Option OrgState
  | localUserLookup _ => Option LocalUserView
  | roleLookup _ => Option RoleState
  | regionLookup _ => Option RegionState
  | versionLookup _ => Option VersionState

def needsSession : Errand → Bool
  | org call => call.needsSession
  | localUser call => call.needsSession
  | orgLookup call => call.needsSession
  | localUserLookup call => call.needsSession
  | roleLookup call => call.needsSession
  | regionLookup call => call.needsSession
  | versionLookup call => call.needsSession

def act (client? : Option Client) : (errand : Errand) → Action errand.Answer
  | org call => Org.manage client? call
  | localUser call => LocalUser.manage client? call
  | orgLookup call => Org.inspect client? call
  | localUserLookup call => LocalUser.inspect client? call
  | roleLookup call => Role.inspect client? call
  | regionLookup call => Region.inspect client? call
  | versionLookup call => Version.inspect client? call

end Errand

/-- A call of the provider, with the session in place. -/
def Provider.serve (provider : Provider) :
    (errand : Errand) → Network → Outcome errand.Answer × Network
  | .org call => provider.run Org.manage call
  | .localUser call => provider.run LocalUser.manage call
  | .orgLookup call => provider.run Org.inspect call
  | .localUserLookup call => provider.run LocalUser.inspect call
  | .roleLookup call => provider.run Role.inspect call
  | .regionLookup call => provider.run Region.inspect call
  | .versionLookup call => provider.run Version.inspect call

/-- An errand is run with the session that is in place. -/
theorem Provider.serve_eq (provider : Provider) (errand : Errand) (net : Network) :
    provider.serve errand net = (errand.act provider.client?).start net := by
  cases errand <;> rfl

/-! ### With a session -/

/-- The edits of an errand. What is looked up is not changed. -/
def Errand.Edits : Errand → Edit → Prop
  | org call => Org.Edits call
  | localUser call => LocalUser.Edits call
  | _ => fun _ => False

/-- An errand makes its edits, and looks. -/
theorem Errand.makes_act (client : Client) (errand : Errand) :
    (errand.act (some client)).Sends (client.Makes errand.Edits) := by
  have haccept : ∀ {σ : Type} (config : σ),
      (LookupCall.accept config).Sends (client.Makes fun _ => False) := fun _ => .pure ()
  have hmakes : ∀ {tenant? : Option String} request,
      client.MakesFor tenant? (fun _ => False) request → client.Makes (fun _ => False) request :=
    fun _ => Client.MakesFor.makes
  cases errand with
  | org call => exact Org.sends_manage client call
  | localUser call => exact LocalUser.sends_manage client call
  | orgLookup call =>
    exact LookupCall.sends_answer haccept
      (fun config => (Org.sends_lookup client config).mono hmakes) call
  | localUserLookup call =>
    exact LookupCall.sends_answer haccept
      (fun config => (LocalUser.sends_lookup client config).mono hmakes) call
  | roleLookup call =>
    exact LookupCall.sends_answer haccept
      (fun config => (Role.sends_lookup client config).mono hmakes) call
  | regionLookup call =>
    exact LookupCall.sends_answer haccept
      (fun config => (Region.sends_lookup client config).mono hmakes) call
  | versionLookup call =>
    exact LookupCall.sends_answer (fun config => .forM_record _)
      (fun config => (Version.sends_lookup client config).mono hmakes) call

/-- All requests of an errand show the token of its session. -/
theorem Errand.sends_act (client : Client) (errand : Errand) :
    (errand.act (some client)).Sends client.Carries :=
  (Errand.makes_act client errand).mono fun _ => Client.Makes.carries

/-! ### Without a session -/

/-- The handlers that need a session end without one. -/
def Handlers.NeedSession {σ : Type} (handlers : Handlers σ) : Prop :=
  handlers.Each none fun call _ action => call.needsSession = true → action.Unconfigured

theorem Handlers.NeedSession.unconfigured {σ : Type} {handlers : Handlers σ}
    (h : handlers.NeedSession) {call : ResourceCall σ} (hneeds : call.needsSession = true) :
    (handlers.manage none call).Unconfigured := by
  refine h.manage (fun call α a hplan hneeds => ?_) (fun call α β action form haction hneeds => ?_)
    call hneeds
  · exact absurd hneeds (by rw [hplan]; decide)
  · exact (haction hneeds).bind _

/-- Handlers that start with the session need one. -/
theorem Handlers.needSession_of_configured {σ : Type} {validate : σ → Action Unit}
    {planCreate : σ → σ → σ} {planUpdate : σ → σ → σ → Plan σ}
    {read : σ → PrivateData → Client → Action (Kept σ)} {create : σ → Client → Action (Kept σ)}
    {update : σ → σ → Client → Action (Kept σ)} {destroy : σ → Client → Action Unit}
    {importState : String → Client → Action (Kept σ)} :
    Handlers.NeedSession {
      validate, planCreate, planUpdate
      read := fun client? state privateData => Action.configured client? >>= read state privateData
      create := fun client? planned => Action.configured client? >>= create planned
      update := fun client? prior planned => Action.configured client? >>= update prior planned
      destroy := fun client? prior => Action.configured client? >>= destroy prior
      importState := fun client? id => Action.configured client? >>= importState id } where
  validate := by rintro _ ⟨⟩
  read _ _ _ := Action.unconfigured_bind _
  create _ _ := Action.unconfigured_bind _
  update _ _ _ := Action.unconfigured_bind _
  destroy _ _ := Action.unconfigured_bind _
  importState _ _ := Action.unconfigured_bind _

theorem Org.needSession_handlers : Org.handlers.NeedSession := Handlers.needSession_of_configured

theorem LocalUser.needSession_handlers : LocalUser.handlers.NeedSession :=
  Handlers.needSession_of_configured

theorem LookupCall.unconfigured_answer {σ : Type} {validate : σ → Action Unit}
    {lookup : σ → Action σ} (hlookup : ∀ config, (lookup config).Unconfigured)
    {call : LookupCall σ} (h : call.needsSession = true) :
    (LookupCall.answer validate lookup call).Unconfigured := by
  cases call with
  | validate => cases h
  | read config => exact .bind (hlookup config) _

/-- Without a session an errand that needs one reports just this. -/
theorem Errand.unconfigured_act {errand : Errand} (h : errand.needsSession = true) :
    (errand.act none).Unconfigured := by
  have hlookup : ∀ {σ α : Type} {next : σ → Client → Action α} (config : σ),
      (Action.configured none >>= next config).Unconfigured :=
    fun _ => Action.unconfigured_bind _
  cases errand with
  | org call => exact Org.needSession_handlers.unconfigured h
  | localUser call => exact LocalUser.needSession_handlers.unconfigured h
  | orgLookup call => exact LookupCall.unconfigured_answer hlookup h
  | localUserLookup call => exact LookupCall.unconfigured_answer hlookup h
  | roleLookup call => exact LookupCall.unconfigured_answer hlookup h
  | regionLookup call => exact LookupCall.unconfigured_answer hlookup h
  | versionLookup call => exact LookupCall.unconfigured_answer hlookup h

/-! ## Calls in a row -/

/-- A call of the provider, with the network that it finds. -/
inductive Event
  | configure (block : ProviderBlock) (env : Environment) (net : Network)
  | errand (errand : Errand) (net : Network)

/-- The session that a call opens. -/
def Event.opened? : Event → Option Client
  | configure block env net => ((Provider.openSession block env).start net).1.value?
  | errand _ _ => none

namespace Provider

def after (provider : Provider) : Event → Provider
  | .configure block env net => (provider.configure block env net).1.2
  | .errand _ _ => provider

/-- The provider after calls, from its start. -/
def session (events : List Event) : Provider := events.foldl after {}

/-- The session that the last successful one of the configurations opened. -/
def LastOpened (events : List Event) (client : Client) : Prop :=
  ∃ before event later, events = before ++ event :: later ∧ event.opened? = some client ∧
    ∀ other ∈ later, other.opened? = none

/-- A configuration puts the session in place that it has opened, with the token of its login, or it
leaves the provider as it is. -/
structure ConfiguresAtOnce (provider : Provider) (block : ProviderBlock) (env : Environment)
    (net : Network) : Prop where
  failed : (provider.configure block env net).1.1.value? = none →
    (Event.configure block env net).opened? = none ∧
      (provider.configure block env net).1.2 = provider
  succeeded : (provider.configure block env net).1.1.value? = some () →
    ∃ settings token, Settings.resolve block env = .ok settings ∧
      ((Login.token settings).perform net).1 = .ok token ∧
      (Event.configure block env net).opened? = some {
        base := settings.url, token
        maxRetryTimeout := settings.maxRetryTimeout
        importSeparator := settings.importSeparator } ∧
      (provider.configure block env net).1.2 =
        { client? := (Event.configure block env net).opened? }

/-- A session that has been opened is that of settings and a login. -/
theorem exists_login_of_openSession {block : ProviderBlock} {env : Environment} {net : Network}
    {client : Client} (h : ((openSession block env).start net).1.value? = some client) :
    ∃ settings token, Settings.resolve block env = .ok settings ∧
      ((Login.token settings).perform net).1 = .ok token ∧
      client = {
        base := settings.url, token
        maxRetryTimeout := settings.maxRetryTimeout
        importSeparator := settings.importSeparator } := by
  unfold openSession at h
  cases hsettings : Settings.resolve block env with
  | error error =>
    rw [hsettings] at h
    cases h
  | ok settings =>
    simp only [hsettings, Action.start, Action.attempt, Action.perform_of] at h
    cases hlogin : (Login.token settings).perform net with
    | mk result net' =>
      cases result with
      | error error =>
        rw [Client.connect, Call.perform_bind_of_error hlogin] at h
        cases h
      | ok token =>
        rw [Client.connect, Call.perform_bind_of_ok hlogin] at h
        cases h
        exact ⟨settings, token, rfl, by rw [hlogin], rfl⟩

/-- A configuration puts its session in place at once, or leaves the one before. -/
theorem configuresAtOnce (provider : Provider) (block : ProviderBlock) (env : Environment)
    (net : Network) : provider.ConfiguresAtOnce block env net where
  failed := by
    intro h
    refine ⟨?_, configure_failed h⟩
    simpa [configure, Event.opened?] using h
  succeeded := by
    intro h
    obtain ⟨client, hopened⟩ :
        ∃ client, ((openSession block env).start net).1.value? = some client := by
      cases hvalue : ((openSession block env).start net).1.value? with
      | none => simp [configure, hvalue] at h
      | some client => exact ⟨client, rfl⟩
    obtain ⟨settings, token, hsettings, hlogin, rfl⟩ := exists_login_of_openSession hopened
    refine ⟨settings, token, hsettings, hlogin, hopened, ?_⟩
    simp only [configure, hopened, Event.opened?, Option.some_or]

/-! ### What is in place -/

/-- An event replaces the session only if it opens one. -/
theorem client?_after (provider : Provider) (event : Event) :
    (provider.after event).client? = event.opened?.or provider.client? := by
  cases event <;> rfl

theorem lastOpened_cons {event : Event} {events : List Event} {client : Client} :
    LastOpened (event :: events) client ↔
      LastOpened events client ∨
        (event.opened? = some client ∧ ∀ other ∈ events, other.opened? = none) := by
  constructor
  · rintro ⟨before, opening, later, heq, hopened, hlater⟩
    cases before with
    | nil =>
      cases heq
      exact .inr ⟨hopened, hlater⟩
    | cons first before =>
      cases heq
      exact .inl ⟨before, opening, later, rfl, hopened, hlater⟩
  · rintro (⟨before, opening, later, rfl, hopened, hlater⟩ | ⟨hopened, hlater⟩)
    · exact ⟨event :: before, opening, later, rfl, hopened, hlater⟩
    · exact ⟨[], event, events, rfl, hopened, hlater⟩

/-- What calls leave in place: the session that was opened last, or the one from before if none has
been opened. -/
theorem client?_foldl_iff {events : List Event} {provider : Provider} {client : Client} :
    (events.foldl after provider).client? = some client ↔
      LastOpened events client ∨
        (provider.client? = some client ∧ ∀ event ∈ events, event.opened? = none) := by
  -- The first call may have opened a session of its own, so the induction is on any provider.
  induction events generalizing provider with
  | nil => simp [LastOpened]
  | cons event events ih =>
    rw [List.foldl_cons, ih, client?_after, lastOpened_cons, List.forall_mem_cons]
    cases event.opened? <;> simp

/-- The session in place is the one that was opened last. -/
theorem client?_session_iff {events : List Event} {client : Client} :
    (session events).client? = some client ↔ LastOpened events client := by
  rw [session, client?_foldl_iff]
  simp

/-- Until one has been opened there is no session. -/
theorem client?_session_of_none_opened {events : List Event}
    (h : ∀ event ∈ events, event.opened? = none) : (session events).client? = none := by
  rw [Option.eq_none_iff_forall_ne_some]
  intro client hclient
  obtain ⟨before, event, later, rfl, hopened, -⟩ := client?_session_iff.1 hclient
  rw [h event (by simp)] at hopened
  cases hopened

/-- **Sessions.** After any calls of the provider: a configuration opens a session and puts it in
place, or leaves everything as it is; the session in place is the one that was opened last; before
the first one every call that needs a session ends with the same one error and touches nothing; and
after it everything that a call sends shows the token of that session. -/
theorem sessions_are_atomic (events : List Event) :
    (∀ block env net, (session events).ConfiguresAtOnce block env net) ∧
    (∀ client, (session events).client? = some client ↔ LastOpened events client) ∧
    ((∀ event ∈ events, event.opened? = none) →
      ∀ errand : Errand, errand.needsSession = true → ∀ net,
        (session events).serve errand net =
          ({ value? := none
             diagnostics := { errors := [{ summary := "provider is not configured" }] } }, net)) ∧
    ∀ client, LastOpened events client → ∀ (errand : Errand) (net : Network), ∃ requests,
      ((session events).serve errand net).2.arrived = net.arrived ++ requests ∧
        ∀ request ∈ requests, client.Carries request := by
  refine ⟨configuresAtOnce _, fun client => client?_session_iff, ?_, ?_⟩
  · intro hnone errand hneeds net
    rw [serve_eq, client?_session_of_none_opened hnone]
    simp only [Action.start, Errand.unconfigured_act hneeds { network := net }]
    rfl
  · intro client hopened errand net
    rw [serve_eq, client?_session_iff.2 hopened]
    exact Errand.sends_act client errand { network := net }

/-! ### A sample -/

def tokenBlock : ProviderBlock where
  url? := some "http://h"
  authType? := some "token"
  token? := some "t"

/-- A provider that is configured, and then once more with a block that says nothing. -/
def configuredTwice : List Event := [.configure tokenBlock .empty {}, .configure {} .empty {}]

/-- The second configuration fails and leaves the first session in place, and a lookup is made with
the token of this session. -/
theorem lookup_shows_token_of_first_session :
    LastOpened configuredTwice (.sample "t" 60) ∧
      ((session [.configure tokenBlock .empty {}]).configure {} .empty {}).1.1.value? = none ∧
      ∃ requests,
        ((session configuredTwice).serve (.orgLookup (.read { name := .known "n" })) {}).2.arrived =
          requests ∧ requests.length = 1 ∧ ∀ request ∈ requests,
            (Client.sample "t" 60).Carries request := by
  obtain ⟨-, hiff, -, hcarries⟩ := sessions_are_atomic configuredTwice
  have hplace : (session configuredTwice).client? = some (.sample "t" 60) := by decide +kernel
  have hopened := (hiff _).1 hplace
  obtain ⟨requests, harrived, hrequests⟩ :=
    hcarries _ hopened (.orgLookup (.read { name := .known "n" })) {}
  have hone : ((session configuredTwice).serve
      (.orgLookup (.read { name := .known "n" })) {}).2.arrived.length = 1 := by decide +kernel
  rw [harrived] at hone
  exact ⟨hopened, by decide +kernel, requests, harrived, hone, hrequests⟩

end Provider

end CloudTenancy
