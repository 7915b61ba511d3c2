import CloudTenancy.FileSystem
import CloudTenancy.Http.Message

/-!
CloudTenancy.Http.Network — what the program acts on: a server, a clock and a directory of files.

* `Answer` — what comes of one request.
* `Network` — the answers to come, the requests that were sent, the time and the files.
* `Network.exchange` — one request and its reply.
* `Network.wait` — time that passes.

A request is what is handed to the HTTP client, and an answer is what the HTTP client comes back
with. What happens below that line is not told apart: connections, TLS and redirects, which the HTTP
client follows by itself. So the reply to a request may be that of another address, and the requests
that are counted here are the ones that were handed over. Nothing is sent while the network is
unreachable. When all answers are used up, the server fails.

Main statement: a reply is that of an exhausted server or has used up an answer.
-/

namespace CloudTenancy

/-- What the HTTP client comes back with for a request: a reply, after all redirects have been
followed, or nothing. Before, a file of the directory may have been replaced by a directory. -/
structure Answer where
  reply? : Option Reply
  replaced? : Option String := none
  deriving DecidableEq, Repr

/-- Server, clock and files. Times are in milliseconds. -/
structure Network where
  /-- Requests get through. -/
  reachable : Bool := true
  /-- The answers to the next requests. -/
  answers : List Answer := []
  /-- The requests that were handed to the HTTP client and got an answer, the first one first. -/
  arrived : List Request := []
  now : Nat := 0
  files : FileSystem := []
  deriving Repr

namespace Network

/-- The reply of a server that has no answer left. -/
def exhausted : Reply where
  status := .serverError
  headers := [("content-type", Utf8.encode "application/json")]
  body := Utf8.encode "\x7b\"message\":\"script exhausted\"\x7d"

def wait (net : Network) (duration : Nat) : Network := { net with now := net.now + duration }

def receive (net : Network) (request : Request) (answer : Answer) (rest : List Answer) : Network :=
  { net with
    answers := rest
    arrived := net.arrived ++ [request]
    files := match answer.replaced? with
      | some name => net.files.set name .directory
      | none => net.files }

/-- Hands a request to the HTTP client and waits for what it comes back with. -/
def exchange (request : Request) (net : Network) : Except HttpError Reply × Network :=
  if net.reachable then
    match net.answers with
    | [] => (.ok exhausted, { net with arrived := net.arrived ++ [request] })
    | answer :: rest =>
      (match answer.reply? with
        | some reply => .ok reply
        | none => .error (.sending request.url.text),
        net.receive request answer rest)
  else (.error (.sending request.url.text), net)

/-! ## Laws -/

theorem exchange_unreachable {request : Request} {net : Network} (h : net.reachable = false) :
    exchange request net = (.error (.sending request.url.text), net) := by
  simp [exchange, h]

/-- No exchange gives answers back. -/
theorem length_answers_exchange_le (request : Request) (net : Network) :
    (exchange request net).2.answers.length ≤ net.answers.length := by
  unfold exchange
  split
  · split
    · rename_i h
      simp [h]
    · rename_i h
      simp [receive, h]
  · simp

/-- A reply is the one of an exhausted server or has used up an answer. -/
theorem exchange_ok {request : Request} {net net' : Network} {reply : Reply}
    (h : exchange request net = (.ok reply, net')) :
    reply = exhausted ∨ net'.answers.length < net.answers.length := by
  unfold exchange at h
  split at h
  · split at h
    · simp only [Prod.mk.injEq, Except.ok.injEq] at h
      exact Or.inl h.1.symm
    · rename_i hanswers
      simp only [Prod.mk.injEq] at h
      obtain ⟨-, rfl⟩ := h
      right
      simp [receive, hanswers]
  · simp at h

end Network

end CloudTenancy
