import CloudTenancy.Action
import CloudTenancy.Api.Encode
import CloudTenancy.Proofs.Tasks

/-!
CloudTenancy.Proofs.Apply — plans, and changes that the service carries out.

* `Json.member?` — what a body says.
* `Value.over` — what is proposed for an attribute that the configuration may leave out.
* `Value.Realizes` — what a plan promises of an attribute.
* `Change.Yields`, `Client.Shows` — the service carries out a change, or shows what is at a path,
  and the entity in its reply has a property.
* `Change.Asks` — what the requests of a change are: its own, or looks.

Main statement: a resource gets the entity that the service answers with, on either way that the
answer may take.
-/

namespace CloudTenancy

variable {α : Type}

def Json.member? (json : Json) (key : String) : Option Json :=
  match json with
  | .object members => lookup key members
  | _ => none

def Value.over (configured prior : Value α) : Value α :=
  if configured.isNull then prior else configured

/-- What was planned has come true. What the plan leaves open may become anything. -/
def Value.Realizes (planned returned : Value α) : Prop := planned ≠ .unknown → returned = planned

/-- What is planned is realized by itself. -/
theorem Value.Realizes.refl (planned : Value α) : planned.Realizes planned := fun _ => rfl

/-- The service carries out a change, and the entity it answers with has a property. -/
def Change.Yields (change : Change α) (client : Client) (tenant? : Option String) (net : Network)
    (decoder : Json.Decoder α) (P : α → Prop) : Prop :=
  ∃ reply entity, change.Answers client tenant? net reply ∧
    reply.decode decoder = .ok entity ∧ P entity

/-- The service shows what is at a path, and the entity has a property. -/
def Client.Shows (client : Client) (tenant? : Option String) (net : Network)
    (decoder : Json.Decoder α) (path : String) (P : α → Prop) : Prop :=
  ∃ url reply entity, client.base.join path = .ok url ∧
    client.reply tenant? url net = .ok reply ∧ reply.decode decoder = .ok entity ∧ P entity

/-- A creation that yields an entity with a property returns one. -/
theorem Change.Yields.create {client : Client} {decoder : Json.Decoder α} {path : String}
    {body : Json} {tenant? : Option String} {net : Network} {P : α → Prop}
    (h : (Change.creation decoder path body).Yields client tenant? net decoder P) :
    ∃ entity, P entity ∧
      ((client.create decoder path body tenant?).perform net).1 = .ok entity := by
  obtain ⟨reply, entity, hanswers, hdecode, hP⟩ := h
  refine ⟨entity, hP, ?_⟩
  rw [Change.call_creation, hanswers.perform]
  exact received_ok hdecode

theorem Change.Yields.update {client : Client} {decoder : Json.Decoder α} {path : String}
    {body : Json} {tenant? : Option String} {net : Network} {P : α → Prop}
    (h : (Change.replacement decoder path body).Yields client tenant? net decoder P) :
    ∃ entity, P entity ∧
      ((client.update decoder path body tenant?).perform net).1 = .ok entity := by
  obtain ⟨reply, entity, hanswers, hdecode, hP⟩ := h
  refine ⟨entity, hP, ?_⟩
  rw [Change.call_replacement, hanswers.perform]
  exact received_ok hdecode

theorem Client.Shows.get {client : Client} {decoder : Json.Decoder α} {path : String}
    {tenant? : Option String} {net : Network} {P : α → Prop}
    (h : client.Shows tenant? net decoder path P) :
    ∃ entity, P entity ∧ ((client.get decoder path tenant?).perform net).1 = .ok entity := by
  obtain ⟨url, reply, entity, hjoin, hreply, hdecode, hP⟩ := h
  refine ⟨entity, hP, ?_⟩
  rw [Change.perform_get hjoin, hreply]
  exact received_ok hdecode

/-- A success is what a request comes to. -/
theorem Client.send_of_reply {client : Client} {method : Method} {url : Url}
    {query : List (String × String)} {body : Body} {tenant? : Option String} {net : Network}
    {request : Request} {reply : Reply} (hclock : net.now + client.timeout < Clock.bound)
    (hrequest : client.request method url query body tenant? = .ok request)
    (hreply : net.scripted request 0 = .ok reply) (hsuccess : reply.status.isSuccess = true) :
    (client.send method url query body tenant?).perform net =
      (.ok reply, (net.exchange request).2) := by
  have hsettled : Client.refuses (net.scripted request 0) = false := by
    rw [hreply]
    simp [Client.refuses, hsuccess]
  rw [Client.send_of_settled hclock hrequest hsettled, hreply, Client.settle, if_pos hsuccess]

section

variable {change : Change α} {client : Client} {tenant? : Option String} {net : Network} {url : Url}
  {request : Request} {reply : Reply}

/-- A success that comes at once, and not as a task, is what a change comes to. -/
theorem Change.perform_of_reply (hjoin : client.base.join change.path = .ok url)
    (hclock : net.now + client.timeout < Clock.bound)
    (hrequest : client.request change.method url change.query change.body tenant? = .ok request)
    (hreply : net.scripted request 0 = .ok reply) (hsuccess : reply.status.isSuccess = true)
    (hstatus : reply.status ≠ .accepted) :
    (change.call client tenant?).perform net =
      (change.receive reply, (net.exchange request).2) := by
  have hsend : change.send client tenant? url net = (.ok reply, (net.exchange request).2) :=
    Client.send_of_reply hclock hrequest hreply hsuccess
  have hnet : client.follow tenant? net [change.ask url] = (net.exchange request).2 :=
    congrArg Prod.snd hsend
  rw [(Runs.immediate hjoin hsend hstatus).perform, hnet]

/-- A success that holds an entity is the answer to a look. -/
theorem Client.perform_get_of_reply {decoder : Json.Decoder α} {path : String} {entity : α}
    (hjoin : client.base.join path = .ok url) (hclock : net.now + client.timeout < Clock.bound)
    (hrequest : client.request .get url [] .empty tenant? = .ok request)
    (hreply : net.scripted request 0 = .ok reply) (hsuccess : reply.status.isSuccess = true)
    (hdecode : reply.decode decoder = .ok entity) :
    (client.get decoder path tenant?).perform net = (.ok entity, (net.exchange request).2) := by
  have hsend := Client.send_of_reply hclock hrequest hreply hsuccess
  have hresult : client.reply tenant? url net = .ok reply := congrArg Prod.fst hsend
  have hnet : client.follow tenant? net [.get url] = (net.exchange request).2 :=
    congrArg Prod.snd hsend
  rw [Change.perform_get hjoin, hresult, hnet]
  exact congrArg (·, (net.exchange request).2) (received_ok hdecode)

end

/-! ## What a change sends -/

/-- A step that only looks, or waits. -/
def Step.Reads : Step → Prop
  | .ask method _ _ body => method = .get ∧ body = .empty
  | .pause _ => True

theorem Step.reads_get (url : Url) : (Step.get url).Reads := ⟨rfl, rfl⟩

/-- The looks at a task only read. -/
theorem Client.reads_looks (client : Client) (url : Url) (n : Nat) :
    ∀ step ∈ client.looks url n, step.Reads := by
  induction n with
  | zero => simp [Client.looks]
  | succ n ih =>
    intro step hstep
    rcases List.mem_cons.1 hstep with rfl | hstep
    · exact Step.reads_get url
    rcases List.mem_cons.1 hstep with rfl | hstep
    · trivial
    · exact ih step hstep

/-- The looks at a task and the fetch behind them only read. -/
theorem Client.reads_looks_get (client : Client) (url : Url) (n : Nat) :
    ∀ step ∈ client.looks url n ++ [.get url], step.Reads := by
  intro step hstep
  rcases List.mem_append.1 hstep with hlook | hlast
  · exact client.reads_looks url n step hlook
  · rw [List.mem_singleton.1 hlast]
    exact Step.reads_get url

/-- To wait for a task is to look. -/
theorem Client.Awaits.reads {client : Client} {tenant? : Option String} {reply : Reply}
    {net : Network} {steps : List Step} {result : Except ClientError Task}
    (h : client.Awaits tenant? reply net steps result) : ∀ step ∈ steps, step.Reads := by
  cases h with
  | unlocated => simp
  | unjoined => simp
  | polled _ _ hpolls =>
    cases hpolls with
    | lost n => exact client.reads_looks_get _ n
    | failed n => exact client.reads_looks_get _ n
    | succeeded n => exact client.reads_looks_get _ n

/-- A change sends nothing, or its own request at its own address, and only what is answered with a
success is followed by looks. -/
theorem Change.Runs.steps_cases {change : Change α} {client : Client} {tenant? : Option String}
    {net : Network} {steps : List Step} {result : Except ClientError α}
    (h : change.Runs client tenant? net steps result) :
    steps = [] ∨ ∃ url, client.base.join change.path = .ok url ∧
      (steps = [change.ask url] ∨ ∃ reply rest, (change.send client tenant? url net).1 = .ok reply ∧
        steps = change.ask url :: rest ∧ ∀ step ∈ rest, step.Reads) := by
  cases h with
  | unjoined => exact .inl rfl
  | refused hjoin => exact .inr ⟨_, hjoin, .inl rfl⟩
  | immediate hjoin => exact .inr ⟨_, hjoin, .inl rfl⟩
  | unfinished hjoin hsend _ hawaits =>
    exact .inr ⟨_, hjoin, .inr ⟨_, _, congrArg Prod.fst hsend, rfl, hawaits.reads⟩⟩
  | unowned hjoin hsend _ hawaits =>
    exact .inr ⟨_, hjoin, .inr ⟨_, _, congrArg Prod.fst hsend, rfl, hawaits.reads⟩⟩
  | done hjoin hsend _ hawaits =>
    exact .inr ⟨_, hjoin, .inr ⟨_, _, congrArg Prod.fst hsend, rfl, hawaits.reads⟩⟩
  | unfetched hjoin hsend _ hawaits =>
    exact .inr ⟨_, hjoin, .inr ⟨_, _, congrArg Prod.fst hsend, rfl, hawaits.reads⟩⟩
  | fetched hjoin hsend _ hawaits =>
    refine .inr ⟨_, hjoin, .inr ⟨_, _, congrArg Prod.fst hsend, rfl, ?_⟩⟩
    intro step hstep
    rcases List.mem_append.1 hstep with hwait | hlast
    · exact hawaits.reads step hwait
    · rw [List.mem_singleton.1 hlast]
      exact Step.reads_get _

/-- After its own request, at its own address, a change only looks. -/
theorem Change.Runs.steps_eq {change : Change α} {client : Client} {tenant? : Option String}
    {net : Network} {steps : List Step} {result : Except ClientError α}
    (h : change.Runs client tenant? net steps result) :
    steps = [] ∨ ∃ url rest, client.base.join change.path = .ok url ∧
      steps = change.ask url :: rest ∧ ∀ step ∈ rest, step.Reads := by
  rcases h.steps_cases with hnone | ⟨url, hjoin, halone | ⟨_, rest, -, hsteps, hreads⟩⟩
  · exact .inl hnone
  · exact .inr ⟨url, [], hjoin, halone, by simp⟩
  · exact .inr ⟨url, rest, hjoin, hsteps, hreads⟩

/-- A request of a change is the change's own, or it only looks. -/
def Change.Asks (change : Change α) (request : Request) : Prop :=
  (request.method = change.method ∧ request.body = change.body) ∨
    (request.method = .get ∧ request.body = .empty)

/-- An action that begins with a call ends with a result only if the call does, and then as what
follows the call. -/
theorem Action.attempt_bind_iff {β : Type} {describe : ClientError → Diagnostic} {call : Call α}
    {next : α → Action β} {start : ActionState} {b : β} :
    ((Action.attempt describe call >>= next).perform start).1 = some b ↔
      ∃ a, (call.perform start.network).1 = .ok a ∧
        ((next a).perform { start with network := (call.perform start.network).2 }).1 = some b := by
  cases hcall : call.perform start.network with
  | mk ended net =>
    cases ended with
    | error error =>
      rw [Action.perform_bind_of_none (Action.perform_attempt_of_error hcall)]
      simp
    | ok a =>
      rw [Action.perform_bind_of_some (Action.perform_attempt_of_ok hcall)]
      simp

/-- An action made of one call succeeds only where the call does. -/
theorem Action.ok_of_call {β : Type} {client : Client} {describe : ClientError → Diagnostic}
    {call : Client → Call α} {result : α → β} {start : ActionState} {b : β}
    (h : ((do
      let client ← Action.configured (some client)
      let a ← Action.attempt describe (call client)
      return result a : Action β).perform start).1 = some b) :
    ∃ a, ((call client).perform start.network).1 = .ok a ∧ b = result a := by
  rw [Action.perform_bind_of_some (Action.perform_configured client start)] at h
  obtain ⟨a, hok, hresult⟩ := Action.attempt_bind_iff.1 h
  exact ⟨a, hok, (Option.some.inj hresult).symm⟩

/-- An action that makes one call leaves the network where the call leaves it. -/
theorem Action.network_call {β : Type} {client : Client} {describe : ClientError → Diagnostic}
    {call : Client → Call α} {result : α → β} {start : ActionState} :
    ((do
      let client ← Action.configured (some client)
      let a ← Action.attempt describe (call client)
      return result a : Action β).perform start).2.network =
      ((call client).perform start.network).2 := by
  rw [Action.perform_bind_of_some (Action.perform_configured client start)]
  cases hcall : (call client).perform start.network with
  | mk ended net =>
    cases ended with
    | error error => rw [Action.perform_bind_of_none (Action.perform_attempt_of_error hcall)]
    | ok a =>
      rw [Action.perform_bind_of_some (Action.perform_attempt_of_ok hcall), Action.perform_pure]

/-! ## Samples -/

/-- A network with one answer to come: a success that holds a body. -/
def Network.holding (body : Json) : Network where
  answers := [⟨some { body := body.write }, none⟩]

theorem ok_of_toOption {ε : Type} {result : Except ε α} {a : α} (h : result.toOption = some a) :
    result = .ok a := by
  cases result with
  | error error => simp [Except.toOption] at h
  | ok b => simpa [Except.toOption] using h

end CloudTenancy
