import CloudTenancy.Client.Error
import CloudTenancy.Http.Network

/-!
CloudTenancy.Client.Call — calls to the service.

* `Call` — what acts on the network and ends with a result or a failure.
* `Call.ofExcept` — a result that needs no network.
* `Call.exchange` — one request and its reply, whatever its status.
* `Call.orMissing` — a call of which a missing entity is one of the results.

Main statement: a call that succeeds without the network leaves the network as it was.
-/

namespace CloudTenancy

/-- What acts on the network and ends with a result or a failure. The network afterwards is there
in both cases. -/
abbrev Call (α : Type) := ExceptT ClientError (StateM Network) α

namespace Call

variable {α : Type}

def of (effect : Network → Except ClientError α × Network) : Call α :=
  ExceptT.mk (fun net => effect net : StateM Network (Except ClientError α))

def perform (call : Call α) (net : Network) : Except ClientError α × Network :=
  (call.run : StateM Network (Except ClientError α)) net

def ofExcept {ε : Type} (failure : ε → ClientError) (result : Except ε α) : Call α :=
  of fun net => (result.mapError failure, net)

def exchange (request : Request) : Call Reply :=
  of fun net =>
    let (result, net) := net.exchange request
    (result.mapError .http, net)

def decode (decoder : Json.Decoder α) (reply : Reply) : Call α :=
  ofExcept .http (reply.decode decoder)

/-- The call with a missing entity as a result of its own. -/
def orMissing (call : Call α) : Call (Option α) :=
  of fun net =>
    match call.perform net with
    | (.ok a, net) => (.ok (some a), net)
    | (.error error, net) => if error.isNotFound then (.ok none, net) else (.error error, net)

/-! ## Laws -/

@[simp] theorem perform_of (effect : Network → Except ClientError α × Network) (net : Network) :
    (of effect).perform net = effect net := rfl

@[simp] theorem perform_pure (a : α) (net : Network) :
    (pure a : Call α).perform net = (.ok a, net) := rfl

/-- A failure ends a call, a result is passed on. -/
theorem perform_bind {β : Type} (call : Call α) (next : α → Call β) (net : Network) :
    (call >>= next).perform net =
      match call.perform net with
      | (.ok a, net) => (next a).perform net
      | (.error error, net) => (.error error, net) := by
  have h : (call >>= next).perform net =
      match call.perform net with
      | (result, net) => (ExceptT.bindCont next result : StateM Network _) net := rfl
  rw [h]
  rcases call.perform net with ⟨result, net'⟩
  cases result <;> rfl

theorem perform_bind_of_ok {β : Type} {call : Call α} {next : α → Call β} {net net' : Network}
    {a : α} (h : call.perform net = (.ok a, net')) :
    (call >>= next).perform net = (next a).perform net' := by
  rw [perform_bind, h]

theorem perform_bind_of_error {β : Type} {call : Call α} {next : α → Call β} {net net' : Network}
    {error : ClientError} (h : call.perform net = (.error error, net')) :
    (call >>= next).perform net = (.error error, net') := by
  rw [perform_bind, h]

theorem perform_ofExcept_ok {ε : Type} {failure : ε → ClientError} {result : Except ε α} {a : α}
    (h : result = .ok a) (net : Network) :
    (ofExcept failure result).perform net = (.ok a, net) := by
  rw [h]
  rfl

theorem perform_ofExcept_error {ε : Type} {failure : ε → ClientError} {result : Except ε α}
    {error : ε} (h : result = .error error) (net : Network) :
    (ofExcept failure result).perform net = (.error (failure error), net) := by
  rw [h]
  rfl

theorem perform_ofExcept_id (result : Except ClientError α) (net : Network) :
    (ofExcept id result).perform net = (result, net) := by
  cases result <;> rfl

/-- A result that needs no network leaves it alone. -/
theorem perform_ofExcept {ε : Type} (failure : ε → ClientError) (result : Except ε α)
    (net : Network) : ((ofExcept failure result).perform net).2 = net := rfl

end Call

end CloudTenancy
