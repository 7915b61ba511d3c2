import CloudTenancy.Proofs.Sessions

/-!
CloudTenancy.Proofs.Provenance — where the results and the failures of calls come from.

* `Reply.IsTold` — a reply of a script, or the one of a server whose script is used up.
* `Shown` — an entity that a successful reply shows, alone or on a page.
* `ClientError.Stems` — the failures that a script explains: those of the program's own, and those
  that repeat what a reply says.
* `Diagnostic.Stems` — the reports that a script explains.
* `Call.Draws`, `Action.Draws` — what ends, on any network with answers of the script, with a result
  of a kind or with failures that the script explains.

Answers are only ever used up, so whatever a call has heard is in the script it started with.
`Draws` is closed under the ways in which calls and actions are put together, and the handlers
follow along their text.

Main statements: `Provider.stems_serve` and `Provider.stems_configure`.
-/

namespace CloudTenancy

variable {α β : Type} {answers : List Answer}

/-! ## What a script tells -/

/-- The reply is one of a script, or the one of a server whose script is used up. -/
def Reply.IsTold (answers : List Answer) (reply : Reply) : Prop :=
  reply = Network.exhausted ∨ ∃ answer ∈ answers, answer.reply? = some reply

/-- A successful reply shows the entity. -/
inductive Shown (answers : List Answer) (decoder : Json.Decoder α) (entity : α) : Prop
  | alone {reply : Reply} :
    reply.IsTold answers → reply.status.isSuccess = true → reply.decode decoder = .ok entity →
    Shown answers decoder entity
  | listed {reply : Reply} {page : Page α} :
    reply.IsTold answers → reply.status.isSuccess = true →
    reply.decode (Page.decoder decoder) = .ok page → entity ∈ page.values →
    Shown answers decoder entity

/-- The failure repeats nothing that the service says. -/
def ClientError.isOwn : ClientError → Bool
  | api .. => false
  | login _ => false
  | task .. => false
  | _ => true

/-- The failures that a script explains. -/
inductive ClientError.Stems (answers : List Answer) : ClientError → Prop
  | own {error : ClientError} : error.isOwn = true → Stems answers error
  | refused {reply : Reply} :
    reply.IsTold answers → reply.status.isSuccess = false → Stems answers (.ofReply reply)
  | refusedLogin {reply : Reply} :
    reply.IsTold answers → reply.status.isSuccess = false → Stems answers (.ofLoginReply reply)
  /-- A change was accepted, but no task is named. -/
  | unlocated : Stems answers (.task "" "accepted without a task location")
  | failedTask {task : Task} :
    Shown answers Task.decoder task → task.isSuccess = false →
    Stems answers (.task task.id task.failureMessage)
  | ownerless {task : Task} :
    Shown answers Task.decoder task → task.owner? = none →
    Stems answers (.task task.id "task has no owner")

/-- The reports that a script explains. -/
inductive Diagnostic.Stems (answers : List Answer) : Diagnostic → Prop
  /-- All is said in the summary. -/
  | brief {d : Diagnostic} : d.detail = "" → Stems answers d
  | gone (kind id : String) : Stems answers (Org.gone kind id)
  | unusable (error : ConfigError) :
    Stems answers { summary := "Invalid provider configuration", detail := error.message }
  | failure (summary : String) {error : ClientError} :
    error.Stems answers → Stems answers (.ofError summary error)

/-! ## Calls -/

/-- A result of a kind, or a failure that the script explains. -/
def Drawn (answers : List Answer) (A : α → Prop) : Except ClientError α → Prop
  | .ok a => A a
  | .error error => error.Stems answers

/-- On any network with answers of the script, the call ends with a result of a kind or with a
failure that the script explains. -/
def Call.Draws (answers : List Answer) (A : α → Prop) (call : Call α) : Prop :=
  ∀ net, net.answers ⊆ answers →
    (call.perform net).2.answers ⊆ answers ∧ Drawn answers A (call.perform net).1

namespace Call

variable {A : α → Prop} {B : β → Prop}

theorem Draws.of_perform {call : Call α} (h : call.Draws answers A) {net later : Network}
    {result : Except ClientError α} (hnet : net.answers ⊆ answers)
    (hperform : call.perform net = (result, later)) :
    later.answers ⊆ answers ∧ Drawn answers A result := by
  have hdrawn := h net hnet
  rwa [hperform] at hdrawn

theorem Draws.pure {a : α} (h : A a) : (Pure.pure a : Call α).Draws answers A :=
  fun _ hnet => ⟨hnet, h⟩

theorem Draws.throw {error : ClientError} (h : error.Stems answers) :
    (MonadExcept.throw error : Call α).Draws answers A :=
  fun _ hnet => ⟨hnet, h⟩

theorem Draws.ofExcept {ε : Type} {failure : ε → ClientError} {result : Except ε α}
    (hok : ∀ a, result = .ok a → A a)
    (herror : ∀ error, result = .error error → (failure error).Stems answers) :
    (Call.ofExcept failure result).Draws answers A := by
  intro net hnet
  refine ⟨hnet, ?_⟩
  cases hresult : result with
  | ok a => exact hok a hresult
  | error error => exact herror error hresult

theorem Draws.bind {call : Call α} {next : α → Call β} (hcall : call.Draws answers A)
    (hnext : ∀ a, A a → (next a).Draws answers B) : (call >>= next).Draws answers B := by
  intro net hnet
  cases hperform : call.perform net with
  | mk result later =>
    obtain ⟨hanswers, hresult⟩ := hcall.of_perform hnet hperform
    cases result with
    | error error =>
      rw [perform_bind_of_error hperform]
      exact ⟨hanswers, hresult⟩
    | ok a =>
      rw [perform_bind_of_ok hperform]
      exact hnext a hresult later hanswers

/-- What is found draws on the answers; that nothing is found draws on none. -/
theorem Draws.orMissing {call : Call α} (h : call.Draws answers A) :
    call.orMissing.Draws answers fun found? => ∀ a, found? = some a → A a := by
  intro net hnet
  simp only [Call.orMissing, perform_of]
  cases hperform : call.perform net with
  | mk result later =>
    obtain ⟨hanswers, hresult⟩ := h.of_perform hnet hperform
    cases result with
    | ok a => exact ⟨hanswers, fun _ hsome => Option.some.inj hsome ▸ hresult⟩
    | error error =>
      dsimp only
      split
      · refine ⟨hanswers, ?_⟩
        rintro _ ⟨⟩
      · exact ⟨hanswers, hresult⟩

end Call

/-! ## Requests -/

/-- No exchange adds to the answers that are to come. -/
theorem Network.answers_subset_of_exchange {net later : Network} {request : Request}
    {outcome : Except HttpError Reply} (h : net.answers ⊆ answers)
    (hexchange : net.exchange request = (outcome, later)) : later.answers ⊆ answers := by
  have hlater : (net.exchange request).2 = later := congrArg Prod.snd hexchange
  rw [← hlater, answers_exchange]
  split
  · exact fun answer hmem => h (List.mem_of_mem_drop hmem)
  · exact h

/-- A reply that comes back was one of the answers, or says that there are no more. -/
theorem Network.isTold_of_exchange {net later : Network} {request : Request} {reply : Reply}
    (h : net.answers ⊆ answers) (hexchange : net.exchange request = (.ok reply, later)) :
    reply.IsTold answers := by
  have hscripted := net.exchange_fst request
  rw [hexchange, scripted] at hscripted
  split at hscripted
  · split at hscripted
    · rename_i answer hanswer
      refine .inr ⟨answer, h (List.mem_of_getElem? hanswer), ?_⟩
      unfold Answer.outcome at hscripted
      split at hscripted
      · rename_i told htold
        cases hscripted
        exact htold
      · cases hscripted
    · cases hscripted
      exact .inl rfl
  · cases hscripted

/-- A reply of the script that is a success. -/
def Reply.IsGranted (answers : List Answer) (reply : Reply) : Prop :=
  reply.IsTold answers ∧ reply.status.isSuccess = true

namespace Client

variable (client : Client) (decoder : Json.Decoder α) (tenant? : Option String)

/-- A request, repeated or not, ends as one of the answers says. -/
theorem drawn_attempt (deadline : Nat) (request : Request) (net : Network)
    (h : net.answers ⊆ answers) :
    (client.attempt deadline request net).2.answers ⊆ answers ∧
      Drawn answers (Reply.IsGranted answers) (client.attempt deadline request net).1 := by
  have hrefused : ∀ {net later : Network} {reply : Reply}, net.answers ⊆ answers →
      net.exchange request = (.ok reply, later) → ¬ reply.status.isSuccess = true →
      (ClientError.ofReply reply).Stems answers := by
    intro net later reply hnet hexchange hfailure
    exact .refused (Network.isTold_of_exchange hnet hexchange) (by simpa using hfailure)
  -- Each exchange leaves a shorter script of the same answers, whichever attempt it is.
  fun_induction attempt client deadline request net with
  | case1 net error net' hexchange =>
    exact ⟨Network.answers_subset_of_exchange h hexchange, .own rfl⟩
  | case2 net reply net' hexchange hsuccess =>
    have htold := Network.isTold_of_exchange h hexchange
    exact ⟨Network.answers_subset_of_exchange h hexchange, htold, hsuccess⟩
  | case3 net reply net' hexchange =>
    exact ⟨Network.answers_subset_of_exchange h hexchange, .own rfl⟩
  | case4 net reply net' hexchange _ _ _ next _ _ ih =>
    have hanswers := Network.answers_subset_of_exchange h hexchange
    exact ih hanswers
  | case5 net reply net' hexchange hfailure =>
    exact ⟨Network.answers_subset_of_exchange h hexchange, hrefused h hexchange hfailure⟩
  | case6 net reply net' hexchange hfailure =>
    exact ⟨Network.answers_subset_of_exchange h hexchange, hrefused h hexchange hfailure⟩

theorem draws_send (method : Method) (url : Url) (query : List (String × String)) (body : Body) :
    (client.send method url query body tenant?).Draws answers (Reply.IsGranted answers) := by
  intro net hnet
  simp only [send, Call.perform_of]
  split
  · exact ⟨hnet, .own rfl⟩
  · split
    · exact ⟨hnet, .own rfl⟩
    · exact client.drawn_attempt _ _ net hnet

theorem draws_join (path : String) : (client.join path).Draws answers fun _ => True :=
  .ofExcept (fun _ _ => trivial) fun _ _ => .own rfl

/-- What is decoded from a reply was shown in it. -/
theorem draws_decode {reply : Reply} (h : reply.IsGranted answers) :
    (Call.decode decoder reply).Draws answers (Shown answers decoder) :=
  .ofExcept (fun _ hdecode => .alone h.1 h.2 hdecode) fun _ _ => .own rfl

/-! ## Reading -/

theorem draws_get (path : String) :
    (client.get decoder path tenant?).Draws answers (Shown answers decoder) := by
  refine .bind (client.draws_join path) fun url _ => ?_
  exact .bind (client.draws_send tenant? _ _ _ _) fun reply hreply => draws_decode decoder hreply

/-- Every entity of a collection was shown on one of its pages. -/
theorem drawn_pagesFrom (url : Url) (filter? : Option String) (page : Nat) (net : Network)
    (h : net.answers ⊆ answers) :
    (client.pagesFrom decoder url filter? tenant? page net).2.answers ⊆ answers ∧
      Drawn answers (fun found => ∀ entity ∈ found, Shown answers decoder entity)
        (client.pagesFrom decoder url filter? tenant? page net).1 := by
  have hsent : ∀ page, (client.send .get url (pageQuery page filter?) .empty tenant?).Draws answers
      (Reply.IsGranted answers) := fun page => client.draws_send tenant? _ _ _ _
  fun_induction pagesFrom client decoder url filter? tenant? page net with
  | case1 page net error net' hsend => exact (hsent page).of_perform h hsend
  | case2 page net reply net' hsend error => exact ⟨((hsent page).of_perform h hsend).1, .own rfl⟩
  | case3 page net reply net' hsend body hdecode =>
    obtain ⟨hanswers, htold, hsuccess⟩ := (hsent page).of_perform h hsend
    exact ⟨hanswers, fun entity hmem => .listed htold hsuccess hdecode hmem⟩
  | case4 page net reply net' hsend body hdecode hpage error net'' hrest ih =>
    have := ih ((hsent page).of_perform h hsend).1
    rwa [hrest] at this
  | case5 page net reply net' hsend body hdecode hpage more net'' hrest ih =>
    obtain ⟨hanswers, htold, hsuccess⟩ := (hsent page).of_perform h hsend
    obtain ⟨hlater, hmore⟩ := ih hanswers
    rw [hrest] at hlater hmore
    refine ⟨hlater, fun entity hmem => ?_⟩
    rcases List.mem_append.1 hmem with hhere | hthere
    · exact .listed htold hsuccess hdecode hhere
    · exact hmore entity hthere

theorem draws_list (path : String) (filter? : Option String) :
    (client.list decoder path filter? tenant?).Draws answers
      fun found => ∀ entity ∈ found, Shown answers decoder entity :=
  .bind (client.draws_join path) fun url _ net hnet =>
    client.drawn_pagesFrom decoder tenant? url filter? 1 net hnet

/-- The entity that is found was shown. -/
theorem draws_findOne (kind path field value : String) :
    (client.findOne decoder kind path field value tenant?).Draws answers
      (Shown answers decoder) := by
  refine .bind (client.draws_list decoder tenant? path _) fun found hfound => ?_
  match found with
  | [] => exact .ofExcept (fun _ h => nomatch h) fun error h => by cases h; exact .own rfl
  | [entity] =>
    refine .ofExcept (fun only h => ?_) fun error h => nomatch h
    cases h
    exact hfound entity (List.mem_singleton.2 rfl)
  | _ :: _ :: _ => exact .ofExcept (fun _ h => nomatch h) fun error h => by cases h; exact .own rfl

theorem draws_getByName (kind path name : String) :
    (client.getByName decoder kind path name tenant?).Draws answers (Shown answers decoder) :=
  client.draws_findOne decoder tenant? kind path "name" name

/-! ## Tasks -/

/-- The task at the end was shown, however often it was looked at. -/
theorem drawn_poll (url : Url) (net : Network) (h : net.answers ⊆ answers) :
    (client.poll url tenant? net).2.answers ⊆ answers ∧
      Drawn answers (Shown answers Task.decoder) (client.poll url tenant? net).1 := by
  have hsent : (client.send .get url [] .empty tenant?).Draws answers (Reply.IsGranted answers) :=
    client.draws_send tenant? _ _ _ _
  fun_induction poll client url tenant? net with
  | case1 net error net' hsend => exact hsent.of_perform h hsend
  | case2 net reply net' hsend error => exact ⟨(hsent.of_perform h hsend).1, .own rfl⟩
  | case3 net reply net' hsend task hdecode hfinished =>
    obtain ⟨hanswers, htold, hsuccess⟩ := hsent.of_perform h hsend
    have htask : Shown answers Task.decoder task := .alone htold hsuccess hdecode
    refine ⟨hanswers, ?_⟩
    unfold taskResult
    split
    · exact htask
    · rename_i hfailed
      exact .failedTask htask (by simpa using hfailed)
  | case4 net reply net' hsend task hdecode hfinished ih => exact ih (hsent.of_perform h hsend).1

theorem draws_waitForTask (reply : Reply) :
    (client.waitForTask reply tenant?).Draws answers (Shown answers Task.decoder) := by
  have hlocation : (Call.ofExcept id (taskLocation reply)).Draws answers fun _ => True := by
    refine .ofExcept (fun _ _ => trivial) fun error herror => ?_
    unfold taskLocation at herror
    split at herror
    · cases herror
    · cases herror
      exact .unlocated
  refine .bind hlocation fun location _ => ?_
  exact .bind (client.draws_join location) fun url _ net hnet =>
    client.drawn_poll tenant? url net hnet

/-! ## Changing -/

/-- The entity that is created was shown, at once or behind its task. -/
theorem draws_create (path : String) (body : Json) :
    (client.create decoder path body tenant?).Draws answers (Shown answers decoder) := by
  refine .bind (client.draws_join path) fun url _ => ?_
  refine .bind (client.draws_send tenant? _ _ _ _) fun reply hreply => ?_
  split
  · refine .bind (client.draws_waitForTask tenant? reply) fun task htask => ?_
    have howner : (Call.ofExcept id (taskOwner task)).Draws answers fun _ => True := by
      refine .ofExcept (fun _ _ => trivial) fun error herror => ?_
      unfold taskOwner at herror
      split at herror
      · cases herror
      · rename_i hnone
        cases herror
        exact .ownerless htask hnone
    exact .bind howner fun owner _ => client.draws_get decoder tenant? _
  · exact draws_decode decoder hreply

/-- The entity that is replaced was shown, at once or behind its task. -/
theorem draws_update (path : String) (body : Json) :
    (client.update decoder path body tenant?).Draws answers (Shown answers decoder) := by
  refine .bind (client.draws_join path) fun url _ => ?_
  refine .bind (client.draws_send tenant? _ _ _ _) fun reply hreply => ?_
  split
  · exact .bind (client.draws_waitForTask tenant? reply) fun task _ =>
      client.draws_get decoder tenant? path
  · exact draws_decode decoder hreply

theorem draws_delete (path : String) (query : List (String × String)) :
    (client.delete path query tenant?).Draws answers fun _ => True := by
  refine .bind (client.draws_join path) fun url _ => ?_
  refine .bind (client.draws_send tenant? _ _ _ _) fun reply hreply => ?_
  split
  · exact .bind (client.draws_waitForTask tenant? reply) fun _ _ => .pure trivial
  · exact .pure trivial

end Client

/-! ## Logins -/

namespace Login

theorem draws_post (settings : Settings) (path : String) (headers : List (String × String))
    (body : Body) : (post settings path headers body).Draws answers (Reply.IsGranted answers) := by
  refine .bind (.ofExcept (fun _ _ => trivial) fun _ _ => .own rfl) fun url _ => ?_
  refine .bind (.ofExcept (fun _ _ => trivial) fun _ _ => .own rfl) fun request _ => ?_
  have hexchange : (Call.exchange request).Draws answers (Reply.IsTold answers) := by
    intro net hnet
    simp only [Call.exchange, Call.perform_of]
    cases hperform : net.exchange request with
    | mk outcome later =>
      have hanswers := Network.answers_subset_of_exchange hnet hperform
      cases outcome with
      | error error => exact ⟨hanswers, .own rfl⟩
      | ok reply => exact ⟨hanswers, Network.isTold_of_exchange hnet hperform⟩
  refine .bind hexchange fun reply htold => ?_
  split
  · rename_i hsuccess
    exact .pure ⟨htold, hsuccess⟩
  · rename_i hfailure
    exact .throw (.refusedLogin htold (by simpa using hfailure))

theorem draws_refresh (settings : Settings) (token : String) (clientId? : Option String) :
    (refresh settings token clientId?).Draws answers (Shown answers TokenGrant.decoder) :=
  .bind (draws_post settings _ _ _) fun _ hreply => Client.draws_decode TokenGrant.decoder hreply

theorem draws_readFile (decoder : Json.Decoder α) (path : String) :
    (readFile decoder path).Draws answers fun _ => True := by
  intro net hnet
  simp only [readFile, Call.perform_of]
  split
  · exact ⟨hnet, .own rfl⟩
  · split
    · exact ⟨hnet, .own rfl⟩
    · exact ⟨hnet, trivial⟩

theorem draws_writeFile (path : String) (contents : Bytes) :
    (writeFile path contents).Draws answers fun _ => True := by
  intro net hnet
  simp only [writeFile, Call.perform_of]
  split
  · exact ⟨hnet, .own rfl⟩
  · exact ⟨hnet, trivial⟩

/-- What a login fails with stems from the answers, or is its own. -/
theorem draws_token (settings : Settings) : (token settings).Draws answers fun _ => True := by
  have hgranted : ∀ refreshToken clientId?,
      (refresh settings refreshToken clientId? >>=
        fun grant => pure grant.accessToken).Draws answers fun _ => True :=
    fun _ _ => .bind (draws_refresh settings _ _) fun _ _ => .pure trivial
  unfold token
  cases settings.credentials with
  | integrated user password =>
    refine .bind (draws_post settings _ _ _) fun reply _ => ?_
    refine .ofExcept (fun _ _ => trivial) fun error herror => ?_
    unfold accessToken at herror
    split at herror
    · cases herror
    · cases herror
      exact .own rfl
  | token token => exact .pure trivial
  | apiToken token => exact hgranted _ _
  | apiTokenFile path =>
    refine .bind (draws_readFile _ path) fun file _ => ?_
    refine .bind (.ofExcept (A := fun _ => True) (fun _ _ => trivial) fun error herror => ?_)
      fun _ _ => hgranted _ _
    unfold checkType at herror
    split at herror
    · cases herror
    · cases herror
      exact .own rfl
  | serviceAccountTokenFile path =>
    refine .bind (draws_readFile _ path) fun file _ => ?_
    refine .bind (draws_refresh settings _ _) fun grant _ => ?_
    split
    · exact .bind (draws_writeFile path _) fun _ _ => .pure trivial
    · exact .pure trivial

end Login

theorem Client.draws_connect (settings : Settings) :
    (connect settings).Draws answers fun _ => True :=
  .bind (Login.draws_token settings) fun _ _ => .pure trivial

/-! ## Actions -/

/-- An action has ended with a result of a kind or without one, and has added reports of errors that
the script explains. -/
structure Explained (answers : List Answer) (A : α → Prop) (start : ActionState)
    (ended : Option α × ActionState) : Prop where
  network : ended.2.network.answers ⊆ answers
  result : ∀ a, ended.1 = some a → A a
  errors : ∃ reports, ended.2.diagnostics.errors = start.diagnostics.errors ++ reports ∧
    ∀ d ∈ reports, d.Stems answers
  warnings : ended.2.diagnostics.warnings = start.diagnostics.warnings

/-- On any network with answers of the script, what the action comes to is explained by it. -/
def Action.Draws (answers : List Answer) (A : α → Prop) (action : Action α) : Prop :=
  ∀ start, start.network.answers ⊆ answers → Explained answers A start (action.perform start)

section

variable {A : α → Prop} {start : ActionState} {network : Network}

/-- An action that reports nothing. -/
theorem Explained.quiet {a : α} (hnetwork : network.answers ⊆ answers) (h : A a) :
    Explained answers A start (some a, { start with network }) :=
  ⟨hnetwork, fun _ hsome => Option.some.inj hsome ▸ h, ⟨[], by simp, by simp⟩, rfl⟩

/-- An action that ends with a report. -/
theorem Explained.reported {d : Diagnostic} (hnetwork : network.answers ⊆ answers)
    (h : d.Stems answers) :
    Explained answers A start (none, { network, diagnostics := start.diagnostics.error d }) :=
  ⟨hnetwork, (fun _ hnone => nomatch hnone), ⟨[d], rfl, by simpa using h⟩, rfl⟩

end

namespace Action

variable {A : α → Prop} {B : β → Prop}

theorem Draws.pure {a : α} (h : A a) : (Pure.pure a : Action α).Draws answers A :=
  fun _ hstart => .quiet hstart h

theorem Draws.fail {d : Diagnostic} (h : d.Stems answers) :
    (Action.fail d : Action α).Draws answers A :=
  fun _ hstart => .reported hstart h

theorem Draws.record {d : Diagnostic} (h : d.Stems answers) :
    (Action.record d).Draws answers fun _ => True :=
  fun _ hstart => ⟨hstart, fun _ _ => trivial, ⟨[d], rfl, by simpa using h⟩, rfl⟩

theorem Draws.mono {A' : α → Prop} {action : Action α} (h : action.Draws answers A)
    (himp : ∀ a, A a → A' a) : action.Draws answers A' := by
  intro start hstart
  obtain ⟨hnetwork, hresult, herrors, hwarnings⟩ := h start hstart
  exact ⟨hnetwork, fun a ha => himp a (hresult a ha), herrors, hwarnings⟩

theorem Draws.bind {action : Action α} {next : α → Action β} (haction : action.Draws answers A)
    (hnext : ∀ a, A a → (next a).Draws answers B) : (action >>= next).Draws answers B := by
  intro start hstart
  obtain ⟨hnetwork, hresult, ⟨first, hfirst, hstem⟩, hwarnings⟩ := haction start hstart
  cases hperform : action.perform start with
  | mk value? state =>
    rw [hperform] at hnetwork hresult hfirst hwarnings
    cases value? with
    | none =>
      rw [perform_bind_of_none hperform]
      exact ⟨hnetwork, (fun _ hnone => nomatch hnone), ⟨first, hfirst, hstem⟩, hwarnings⟩
    | some a =>
      rw [perform_bind_of_some hperform]
      obtain ⟨hlast, hvalue, ⟨more, hmore, hrest⟩, hquiet⟩ :=
        hnext a (hresult a rfl) state hnetwork
      refine ⟨hlast, hvalue, ⟨first ++ more, ?_, ?_⟩, hquiet.trans hwarnings⟩
      · rw [hmore, hfirst, List.append_assoc]
      · exact fun d hmem => (List.mem_append.1 hmem).elim (hstem d) (hrest d)

theorem Draws.forM_record {reports : List Diagnostic} (h : ∀ d ∈ reports, d.Stems answers) :
    (reports.forM Action.record).Draws answers fun _ => True := by
  induction reports with
  | nil => exact .pure trivial
  | cons d reports ih =>
    refine .bind (.record (h d List.mem_cons_self)) fun _ _ => ?_
    exact ih fun later hmem => h later (List.mem_cons_of_mem d hmem)

/-- What is reported of a failed call stems from where the failure stems from. -/
theorem Draws.attempt {call : Call α} {describe : ClientError → Diagnostic}
    (hcall : call.Draws answers A)
    (hdescribe : ∀ error, error.Stems answers → (describe error).Stems answers) :
    (Action.attempt describe call).Draws answers A := by
  intro start hstart
  cases hperform : call.perform start.network with
  | mk result later =>
    obtain ⟨hnetwork, hresult⟩ := hcall.of_perform hstart hperform
    cases result with
    | ok a =>
      rw [perform_attempt_of_ok hperform]
      exact .quiet hnetwork hresult
    | error error =>
      rw [perform_attempt_of_error hperform]
      exact .reported hnetwork (hdescribe error hresult)

/-- Without a session in place an action ends with a report of its own. -/
theorem Draws.configured {client? : Option Client} {next : Client → Action α}
    (h : ∀ client, (next client).Draws answers A) :
    (Action.configured client? >>= next).Draws answers A := by
  refine @Draws.bind _ _ _ (fun _ => True) _ _ _ ?_ fun client _ => h client
  cases client? with
  | none => exact .fail (.brief rfl)
  | some client => exact .pure trivial

/-- What puts the reply to one call in another form draws on what the call draws on. -/
theorem Draws.asked {client? : Option Client} {describe : ClientError → Diagnostic}
    {call : Client → Call α} {form : α → β} (hcall : ∀ client, (call client).Draws answers A)
    (hdescribe : ∀ error, error.Stems answers → (describe error).Stems answers)
    (hform : ∀ a, A a → B (form a)) :
    (do
      let client ← Action.configured client?
      let a ← Action.attempt describe (call client)
      return form a : Action β).Draws answers B :=
  .configured fun client => .bind (.attempt (hcall client) hdescribe) fun a ha => .pure (hform a ha)

/-- An action that starts with a script reports errors only, and the script explains them. -/
theorem Draws.start {action : Action α} {net : Network} (h : action.Draws net.answers A) :
    (∀ d ∈ (action.start net).1.diagnostics.errors, d.Stems net.answers) ∧
      (action.start net).1.diagnostics.warnings = [] := by
  obtain ⟨-, -, ⟨reports, herrors, hstems⟩, hwarnings⟩ := h ⟨net, {}⟩ (List.Subset.refl _)
  refine ⟨fun d hmem => hstems d ?_, hwarnings⟩
  have hall : (action.start net).1.diagnostics.errors = reports := herrors
  rwa [hall] at hmem

end Action

/-! ## Managed entities -/

/-- The state holds an id of a kind. -/
def Kept.Names {σ : Type} (id : σ → Value String) (Known : String → Prop) (kept : Kept σ) : Prop :=
  ∃ text, Known text ∧ id kept.state = .known text

/-- The states that looks, changes and imports come to hold an id of a kind. -/
def ResourceCall.Names {σ : Type} (call : ResourceCall σ) (id : σ → Value String)
    (Known : String → Prop) (answer : ResourceAnswer σ) : Prop :=
  call.needsSession = true → ∀ kept, answer = .kept kept → kept.Names id Known

section

variable {client? : Option Client}

/-- What comes of each handler is explained by the script, and the states that looks, changes and
imports come to hold an id of a kind. -/
structure Handlers.Draw {σ : Type} (handlers : Handlers σ) (answers : List Answer)
    (client? : Option Client) (id : σ → Value String) (Known : String → Prop) : Prop where
  validate : ∀ config, (handlers.validate config).Draws answers fun _ => True
  read : ∀ state privateData,
    (handlers.read client? state privateData).Draws answers (Kept.Names id Known)
  create : ∀ planned, (handlers.create client? planned).Draws answers (Kept.Names id Known)
  update : ∀ prior planned,
    (handlers.update client? prior planned).Draws answers (Kept.Names id Known)
  destroy : ∀ prior, (handlers.destroy client? prior).Draws answers fun _ => True
  importState : ∀ text,
    (handlers.importState client? text).Draws answers (Kept.Names id Known)

/-- What comes of a call is explained by the script, and states that were read from it hold an id
of the kind. -/
theorem Handlers.Draw.manage {σ : Type} {handlers : Handlers σ} {id : σ → Value String}
    {Known : String → Prop} (h : handlers.Draw answers client? id Known) (call : ResourceCall σ) :
    (handlers.manage client? call).Draws answers (call.Names id Known) := by
  have hkept : ∀ kept : Kept σ, kept.Names id Known → call.Names id Known (.kept kept) := by
    rintro kept hnamed - _ ⟨⟩
    exact hnamed
  cases call with
  | validate config => exact .bind (h.validate config) fun _ _ => .pure nofun
  | read state privateData =>
    exact .bind (h.read state privateData) fun kept hnamed => .pure (hkept kept hnamed)
  | planCreate => exact .pure nofun
  | planUpdate => exact .pure nofun
  | planDestroy => exact .pure nofun
  | create planned => exact .bind (h.create planned) fun kept hnamed => .pure (hkept kept hnamed)
  | update prior planned =>
    exact .bind (h.update prior planned) fun kept hnamed => .pure (hkept kept hnamed)
  | destroy prior => exact .bind (h.destroy prior) fun _ _ => .pure fun _ _ hnone => nomatch hnone
  | importState text =>
    exact .bind (h.importState text) fun kept hnamed => .pure (hkept kept hnamed)

namespace Org

def ShownId (answers : List Answer) (id : String) : Prop :=
  ∃ org, Shown answers Org.decoder org ∧ org.id = id

/-- The attributes name an organization that the script shows. -/
def Named (answers : List Answer) (kept : Kept OrgState) : Prop :=
  kept.Names OrgState.id (ShownId answers)

theorem stems_goneOr (kind summary id : String) {error : ClientError} (h : error.Stems answers) :
    (goneOr kind summary id error).Stems answers := by
  unfold goneOr
  split
  · exact .gone kind id
  · exact .failure _ h

theorem draws_find (client : Client) (name : String) :
    (find client name).Draws answers (Shown answers Org.decoder) :=
  client.draws_getByName Org.decoder none _ _ _

/-- A state that was refreshed names the organization that was shown. -/
theorem named_refresh {state : OrgState} {privateData : PrivateData} {org : Org}
    (h : Shown answers Org.decoder org) : Named answers ⟨state.refresh org, privateData⟩ :=
  ⟨org.id, ⟨org, h, rfl⟩, rfl⟩

theorem draws_destroy (prior : OrgState) :
    (Org.destroy client? prior).Draws answers fun _ => True := by
  refine .configured fun client => ?_
  refine .bind (.attempt (client.draws_get Org.decoder none _).orMissing fun _ => .failure _) ?_
  intro org? _
  cases org? with
  | none => exact .pure trivial
  | some org =>
    have hdisable : (disable client (Org.path prior.id.text) org).Draws answers fun _ => True := by
      unfold disable
      split
      · exact .bind (.attempt (client.draws_update Org.decoder none _ _) fun _ => .failure _)
          fun _ _ => .pure trivial
      · exact .pure trivial
    refine .bind hdisable fun _ _ => ?_
    exact .bind (.attempt (client.draws_delete none _ _).orMissing fun _ => .failure _)
      fun _ _ => .pure trivial

theorem draws_importState (id : String) :
    (Org.importState client? id).Draws answers (Named answers) := by
  refine .asked (A := Shown answers Org.decoder) (fun client => ?_) (fun _ => .failure _)
    fun org => named_refresh
  split
  · exact client.draws_get Org.decoder none _
  · exact draws_find client id

theorem draws_handlers : Org.handlers.Draw answers client? OrgState.id (ShownId answers) where
  validate _ := .pure trivial
  read _ _ := .asked (fun client => client.draws_get Org.decoder none _)
    (fun _ => stems_goneOr _ _ _) fun _ => named_refresh
  create _ := .asked (fun client => client.draws_create Org.decoder none _ _)
    (fun _ => .failure _) fun _ => named_refresh
  update _ _ := .asked (fun client => client.draws_update Org.decoder none _ _)
    (fun _ => .failure _) fun _ => named_refresh
  destroy := draws_destroy
  importState := draws_importState

theorem draws_lookup (config : OrgState) :
    (Org.lookup client? config).Draws answers fun _ => True :=
  .asked (fun client => draws_find client _) (fun _ => .failure _) fun _ _ => trivial

end Org

namespace LocalUser

def ShownId (answers : List Answer) (id : String) : Prop :=
  ∃ user, Shown answers User.decoder user ∧ user.id = id

/-- The attributes name a user that the script shows. -/
def Named (answers : List Answer) (kept : Kept LocalUserState) : Prop :=
  kept.Names LocalUserState.id (ShownId answers)

/-- What the checks of a configuration report is the provider's own. -/
theorem stems_validate {config : LocalUserState} {d : Diagnostic}
    (h : d ∈ checkOrg config.orgId ++ checkRoles config.roleIds) : d.Stems answers := by
  refine .brief ?_
  rcases List.mem_append.1 h with hmem | hmem
  · unfold checkOrg at hmem
    split at hmem
    · split at hmem
      · cases hmem
      · rw [List.mem_singleton.1 hmem]
    · cases hmem
  · unfold checkRoles at hmem
    split at hmem
    · split at hmem
      · rw [List.mem_singleton.1 hmem]
      · cases hmem
    · cases hmem

theorem draws_find (client : Client) (orgId username : String) :
    (find client orgId username).Draws answers (Shown answers User.decoder) :=
  client.draws_findOne User.decoder (some orgId) _ _ _ _

theorem named_refresh {state : LocalUserState} {privateData : PrivateData} {user : User}
    (h : Shown answers User.decoder user) : Named answers ⟨state.refresh user, privateData⟩ :=
  ⟨user.id, ⟨user, h, rfl⟩, rfl⟩

theorem draws_importState (id : String) :
    (LocalUser.importState client? id).Draws answers (Named answers) := by
  refine .configured fun client => ?_
  refine .bind (A := fun _ => True) ?_ fun names _ => ?_
  · unfold importNames
    split
    · exact .pure trivial
    · exact .fail (.brief rfl)
  · refine .bind (.attempt (Org.draws_find client _) fun _ => .failure _) fun org _ => ?_
    exact .bind (.attempt (draws_find client _ _) fun _ => .failure _)
      fun user huser => .pure (named_refresh huser)

theorem draws_handlers :
    LocalUser.handlers.Draw answers client? LocalUserState.id (ShownId answers) where
  validate _ := .forM_record fun _ => stems_validate
  read _ _ := .asked (fun client => client.draws_get User.decoder (some _) _)
    (fun _ => Org.stems_goneOr _ _ _) fun _ => named_refresh
  create _ := .asked (fun client => client.draws_create User.decoder (some _) _ _)
    (fun _ => .failure _) fun _ => named_refresh
  update _ _ := .asked (fun client => client.draws_update User.decoder (some _) _ _)
    (fun _ => .failure _) fun _ => named_refresh
  destroy _ := .asked (fun client => (client.draws_delete (some _) _ _).orMissing)
    (fun _ => .failure _) fun _ _ => trivial
  importState := draws_importState

theorem draws_lookup (config : LocalUserView) :
    (LocalUser.lookup client? config).Draws answers fun _ => True :=
  .asked (fun client => draws_find client _ _) (fun _ => .failure _) fun _ _ => trivial

end LocalUser

/-! ## Entities that are looked up -/

theorem Role.draws_lookup (config : RoleState) :
    (Role.lookup client? config).Draws answers fun _ => True :=
  .asked (fun client => client.draws_getByName Role.decoder (some _) _ _ _) (fun _ => .failure _)
    fun _ _ => trivial

theorem Region.draws_lookup (config : RegionState) :
    (Region.lookup client? config).Draws answers fun _ => True :=
  .asked (fun client => client.draws_getByName Region.decoder none _ _ _) (fun _ => .failure _)
    fun _ _ => trivial

namespace Version

theorem stems_validate {config : VersionState} {d : Diagnostic}
    (h : d ∈ checkCondition config.condition ++ checkFailure config) : d.Stems answers := by
  refine .brief ?_
  rcases List.mem_append.1 h with hmem | hmem
  · unfold checkCondition at hmem
    split at hmem
    · split at hmem
      · cases hmem
      · rw [List.mem_singleton.1 hmem, malformed]
    · cases hmem
  · unfold checkFailure at hmem
    split at hmem
    · rw [List.mem_singleton.1 hmem]
    · cases hmem

/-- What is reported of a version is the provider's own. -/
theorem stems_assess {config : VersionState} {active : List String} {d : Diagnostic}
    (h : assess config active = .error d) : d.Stems answers := by
  refine .brief ?_
  unfold assess at h
  split at h
  · cases h
    rfl
  · rename_i version _
    cases hcondition : assessCondition config version with
    | ok value =>
      rw [hcondition] at h
      cases h
    | error failure =>
      rw [hcondition] at h
      cases h
      unfold assessCondition at hcondition
      split at hcondition
      · split at hcondition
        · cases hcondition
          rfl
        · dsimp only at hcondition
          split at hcondition <;> cases hcondition
          rfl
      · cases hcondition

theorem draws_lookup (config : VersionState) :
    (Version.lookup client? config).Draws answers fun _ => True := by
  refine .configured fun client => ?_
  refine .bind (.attempt (client.draws_get SupportedVersions.decoder none _) fun _ => .failure _) ?_
  intro versions _
  split
  · exact .pure trivial
  · rename_i failure hassess
    exact .fail (stems_assess hassess)

end Version

theorem LookupCall.draws_answer {σ : Type} {validate : σ → Action Unit} {lookup : σ → Action σ}
    (hvalidate : ∀ config, (validate config).Draws answers fun _ => True)
    (hlookup : ∀ config, (lookup config).Draws answers fun _ => True) (call : LookupCall σ) :
    (LookupCall.answer validate lookup call).Draws answers fun _ => True := by
  cases call with
  | validate config => exact .bind (hvalidate config) fun _ _ => .pure trivial
  | read config => exact .bind (hlookup config) fun _ _ => .pure trivial

end

/-! ## Calls of the provider -/

namespace Provider

/-- What comes of a call of the provider is explained by the script. -/
theorem draws_act (client? : Option Client) (errand : Errand) :
    (errand.act client?).Draws answers fun _ => True := by
  have haccept : ∀ {σ : Type} (config : σ),
      (LookupCall.accept config).Draws answers fun _ => True := fun _ => Action.Draws.pure trivial
  cases errand with
  | org call => exact (Org.draws_handlers.manage call).mono fun _ _ => trivial
  | localUser call => exact (LocalUser.draws_handlers.manage call).mono fun _ _ => trivial
  | orgLookup call => exact LookupCall.draws_answer haccept Org.draws_lookup call
  | localUserLookup call => exact LookupCall.draws_answer haccept LocalUser.draws_lookup call
  | roleLookup call => exact LookupCall.draws_answer haccept Role.draws_lookup call
  | regionLookup call => exact LookupCall.draws_answer haccept Region.draws_lookup call
  | versionLookup call =>
    exact LookupCall.draws_answer (fun config => .forM_record fun _ => Version.stems_validate)
      Version.draws_lookup call

/-- What is reported of a session that cannot be opened stems from the answers or the settings. -/
theorem draws_openSession (block : ProviderBlock) (env : Environment) :
    (openSession block env).Draws answers fun _ => True := by
  unfold openSession
  split
  · exact .fail (.unusable _)
  · exact .attempt (Client.draws_connect _) fun _ => .failure _

/-- All that a call of the provider reports is errors, and the script of the call explains them. -/
theorem stems_serve (provider : Provider) (errand : Errand) (net : Network) :
    (∀ d ∈ (provider.serve errand net).1.diagnostics.errors, d.Stems net.answers) ∧
      (provider.serve errand net).1.diagnostics.warnings = [] := by
  rw [serve_eq]
  exact (draws_act provider.client? errand).start

/-- All that a configuration reports is errors, and the script of the configuration explains
them. -/
theorem stems_configure (provider : Provider) (block : ProviderBlock) (env : Environment)
    (net : Network) :
    (∀ d ∈ (provider.configure block env net).1.1.diagnostics.errors, d.Stems net.answers) ∧
      (provider.configure block env net).1.1.diagnostics.warnings = [] :=
  (draws_openSession block env).start

end Provider

end CloudTenancy
