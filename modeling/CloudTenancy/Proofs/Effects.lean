import CloudTenancy.Action

/-!
CloudTenancy.Proofs.Effects — what calls and actions do to the network, part by part.

* `Network.Composes` — a relation between networks that holds of steps in a row if it holds of each.
* `Call.Obeys`, `Action.Obeys` — the network before is related to the one afterwards, whatever the
  network and whatever the result.

Calls and actions are built from parts: what all the parts do, the whole does. So a property of all
that a handler does is proved along its text.
-/

namespace CloudTenancy

variable {α β : Type} {R : Network → Network → Prop}

/-- Steps in a row are related as each of them is. -/
class Network.Composes (R : Network → Network → Prop) : Prop where
  refl : ∀ net, R net net
  trans : ∀ {net later last}, R net later → R later last → R net last

/-- The network before the call and the one afterwards are related. -/
def Call.Obeys (R : Network → Network → Prop) (call : Call α) : Prop :=
  ∀ net, R net (call.perform net).2

def Action.Obeys (R : Network → Network → Prop) (action : Action α) : Prop :=
  ∀ start, R start.network (action.perform start).2.network

variable [Network.Composes R]

/-! ## Calls -/

namespace Call

theorem Obeys.pure (a : α) : (Pure.pure a : Call α).Obeys R := Network.Composes.refl

theorem Obeys.throw (error : ClientError) : (MonadExcept.throw error : Call α).Obeys R :=
  Network.Composes.refl

theorem Obeys.ofExcept {ε : Type} (failure : ε → ClientError) (result : Except ε α) :
    (Call.ofExcept failure result).Obeys R :=
  Network.Composes.refl

theorem Obeys.bind {call : Call α} {next : α → Call β} (hcall : call.Obeys R)
    (hnext : ∀ a, (next a).Obeys R) : (call >>= next).Obeys R := by
  intro net
  have hfirst := hcall net
  cases hperform : call.perform net with
  | mk result later =>
    rw [hperform] at hfirst
    cases result with
    | error error => rwa [perform_bind_of_error hperform]
    | ok a =>
      rw [perform_bind_of_ok hperform]
      exact Network.Composes.trans hfirst (hnext a later)

omit [Network.Composes R] in
/-- Taking not-found as an answer does not change what a call does to the network. -/
theorem Obeys.orMissing {call : Call α} (h : call.Obeys R) : call.orMissing.Obeys R := by
  intro net
  have hnetwork : (call.orMissing.perform net).2 = (call.perform net).2 := by
    simp only [Call.orMissing, perform_of]
    cases call.perform net with
    | mk result later =>
      cases result with
      | ok a => rfl
      | error error =>
        dsimp only
        split <;> rfl
  rw [hnetwork]
  exact h net

end Call

/-! ## Actions -/

namespace Action

theorem Obeys.pure (a : α) : (Pure.pure a : Action α).Obeys R :=
  fun start => Network.Composes.refl start.network

theorem Obeys.fail (d : Diagnostic) : (Action.fail d : Action α).Obeys R :=
  fun start => Network.Composes.refl start.network

theorem Obeys.record (d : Diagnostic) : (Action.record d).Obeys R :=
  fun start => Network.Composes.refl start.network

theorem Obeys.bind {action : Action α} {next : α → Action β} (haction : action.Obeys R)
    (hnext : ∀ a, (next a).Obeys R) : (action >>= next).Obeys R := by
  intro start
  have hfirst := haction start
  cases hperform : action.perform start with
  | mk value? state =>
    rw [hperform] at hfirst
    cases value? with
    | none => rwa [perform_bind_of_none hperform]
    | some a =>
      rw [perform_bind_of_some hperform]
      exact Network.Composes.trans hfirst (hnext a state)

/-- Recording reports does nothing to the network. -/
theorem Obeys.forM_record (reports : List Diagnostic) :
    (reports.forM Action.record).Obeys R := by
  induction reports with
  | nil => exact .pure ()
  | cons d reports ih => exact .bind (.record d) fun _ => ih

omit [Network.Composes R]

/-- An attempt leaves the network as its call does, whether it succeeds or fails. -/
theorem network_attempt (describe : ClientError → Diagnostic) (call : Call α)
    (start : ActionState) :
    ((Action.attempt describe call).perform start).2.network =
      (call.perform start.network).2 := by
  cases hcall : call.perform start.network with
  | mk result later =>
    cases result with
    | ok a => rw [perform_attempt_of_ok hcall]
    | error error => rw [perform_attempt_of_error hcall]

theorem Obeys.attempt {call : Call α} (describe : ClientError → Diagnostic) (h : call.Obeys R) :
    (Action.attempt describe call).Obeys R := by
  intro start
  rw [network_attempt]
  exact h start.network

/-- A result that is only put in another form leaves the network where it was. -/
theorem Obeys.bind_pure {action : Action α} (h : action.Obeys R) (form : α → β) :
    (action >>= fun a => Pure.pure (form a)).Obeys R := by
  intro start
  rw [perform_bind_pure]
  exact h start

/-- With a session in place an action is what it is with that session. -/
theorem Obeys.configured {client : Client} {next : Client → Action α} (h : (next client).Obeys R) :
    (Action.configured (some client) >>= next).Obeys R := by
  intro start
  rw [perform_bind_of_some (perform_configured client start)]
  exact h start

/-- What makes one call of the session and puts the reply in another form does what the call
does. -/
theorem Obeys.asked {client : Client} {describe : ClientError → Diagnostic} {call : Client → Call α}
    (form : α → β) (h : (call client).Obeys R) :
    (do
      let client ← Action.configured (some client)
      let a ← Action.attempt describe (call client)
      return form a : Action β).Obeys R :=
  .configured (.bind_pure (.attempt describe h) form)

end Action

end CloudTenancy
