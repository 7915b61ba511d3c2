import CloudTenancy.Client.Call
import CloudTenancy.Client.Basic
import CloudTenancy.Diagnostic
import CloudTenancy.Value

/-!
CloudTenancy.Action — what the provider does when it is called.

* `Action` — what acts on the network, records diagnostics, and ends with a result or without one.
* `Action.fail`, `Action.record` — an error that ends the action, and one that does not.
* `Action.attempt` — a call to the service whose failure is recorded and ends the action.
* `Action.configured` — the session in place.
* `Outcome` — result and diagnostics of an action, `Action.start` the action from its start.
* `Kept`, `Plan` — states with what is kept beside them.

Main statement: an action stops where a part of it ends without a result.
-/

namespace CloudTenancy

structure ActionState where
  network : Network
  diagnostics : Diagnostics := {}

/-- What acts on the network and records diagnostics. It may end without a result. -/
abbrev Action (α : Type) := OptionT (StateM ActionState) α

structure Outcome (α : Type) where
  value? : Option α
  diagnostics : Diagnostics
  deriving DecidableEq, Repr

/-- The report of a failure in words that may be shown. -/
def Diagnostic.ofError (summary : String) (error : ClientError) : Diagnostic where
  summary := summary
  detail := error.redacted

namespace Action

variable {α : Type}

def of (effect : ActionState → Option α × ActionState) : Action α :=
  OptionT.mk (fun state => effect state : StateM ActionState (Option α))

def perform (action : Action α) (state : ActionState) : Option α × ActionState :=
  (action.run : StateM ActionState (Option α)) state

def fail (d : Diagnostic) : Action α :=
  of fun state => (none, { state with diagnostics := state.diagnostics.error d })

/-- Records an error and goes on. -/
def record (d : Diagnostic) : Action Unit :=
  of fun state => (some (), { state with diagnostics := state.diagnostics.error d })

/-- A call to the service. A failure is recorded and ends the action. -/
def attempt (describe : ClientError → Diagnostic) (call : Call α) : Action α :=
  of fun state =>
    match call.perform state.network with
    | (.ok a, network) => (some a, { state with network })
    | (.error error, network) =>
      (none, { network, diagnostics := state.diagnostics.error (describe error) })

def configured (client? : Option Client) : Action Client :=
  match client? with
  | some client => pure client
  | none => fail { summary := "provider is not configured" }

def start (action : Action α) (network : Network) : Outcome α × Network :=
  let (value?, state) := action.perform { network }
  ({ value?, diagnostics := state.diagnostics }, state.network)

/-! ## Laws -/

@[simp] theorem perform_of (effect : ActionState → Option α × ActionState) (state : ActionState) :
    (of effect).perform state = effect state := rfl

@[simp] theorem perform_pure (a : α) (state : ActionState) :
    (pure a : Action α).perform state = (some a, state) := rfl

@[simp] theorem perform_fail (d : Diagnostic) (state : ActionState) :
    (fail d : Action α).perform state =
      (none, { state with diagnostics := state.diagnostics.error d }) := rfl

/-- An action stops where a part of it ends without a result. -/
theorem perform_bind {β : Type} (action : Action α) (next : α → Action β) (state : ActionState) :
    (action >>= next).perform state =
      match action.perform state with
      | (some a, state) => (next a).perform state
      | (none, state) => (none, state) := by
  simp only [perform, OptionT.run_bind, Option.elimM]
  rcases h : action.run state with ⟨_ | a, state'⟩ <;> simp only [bind, StateT.bind, h]
  · rfl
  · rfl

theorem perform_bind_of_some {β : Type} {action : Action α} {next : α → Action β}
    {state state' : ActionState} {a : α} (h : action.perform state = (some a, state')) :
    (action >>= next).perform state = (next a).perform state' := by
  rw [perform_bind, h]

theorem perform_bind_of_none {β : Type} {action : Action α} {next : α → Action β}
    {state state' : ActionState} (h : action.perform state = (none, state')) :
    (action >>= next).perform state = (none, state') := by
  rw [perform_bind, h]

/-- A result that is only put in another form. -/
theorem perform_bind_pure {β : Type} (action : Action α) (form : α → β) (state : ActionState) :
    (action >>= fun a => pure (form a)).perform state =
      ((action.perform state).1.map form, (action.perform state).2) := by
  rw [perform_bind]
  rcases action.perform state with ⟨_ | a, state'⟩ <;> rfl

@[simp] theorem perform_configured (client : Client) (state : ActionState) :
    (configured (some client)).perform state = (some client, state) := rfl

theorem perform_attempt_of_ok {describe : ClientError → Diagnostic} {call : Call α}
    {state : ActionState} {network : Network} {a : α}
    (h : call.perform state.network = (.ok a, network)) :
    (attempt describe call).perform state = (some a, { state with network }) := by
  simp only [attempt, perform_of, h]

theorem perform_attempt_of_error {describe : ClientError → Diagnostic} {call : Call α}
    {state : ActionState} {network : Network} {error : ClientError}
    (h : call.perform state.network = (.error error, network)) :
    (attempt describe call).perform state =
      (none, { network, diagnostics := state.diagnostics.error (describe error) }) := by
  simp only [attempt, perform_of, h]

end Action

/-! ## States and plans -/

/-- Data of the provider's own that are kept beside a state. They are empty, so only their being
null, unknown or known can be told. -/
abbrev PrivateData := Value Unit

structure Kept (σ : Type) where
  state : σ
  privateData : PrivateData := .null
  deriving DecidableEq, Repr

structure Plan (σ : Type) where
  state : σ
  privateData : PrivateData := .null
  /-- The attributes that cannot be changed in place. -/
  replace : List String := []
  deriving DecidableEq, Repr

end CloudTenancy
