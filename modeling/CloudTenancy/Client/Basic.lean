import CloudTenancy.Client.Call
import CloudTenancy.Config.Resolve
import CloudTenancy.Urn

/-!
CloudTenancy.Client.Basic — a session with the service, and requests that wait for busy entities.

* `Client` — address, token and intervals of a session.
* `Client.request` — a request of the session.
* `Clock.later?` — times to come that a clock can show.
* `Client.send` — sends a request, again and again while the entity is busy and the deadline
  allows another attempt.

Main statement: a reply that is sent back is a success that has used up an answer.
-/

namespace CloudTenancy

/-! ## Sessions -/

structure Client where
  base : Url
  token : String
  /-- How long a busy entity is waited for, in seconds. -/
  maxRetryTimeout : Nat
  /-- Between two attempts on a busy entity, in milliseconds. -/
  retryPause : Nat := 2000
  /-- Between two looks at a task, in milliseconds. -/
  pollInterval : Nat := 1000
  importSeparator : String
  deriving DecidableEq, Repr

namespace Client

def apiVersion : String := "40.0"

def accept : String := "application/json;version=" ++ apiVersion

def accessTokenHeader : String := "X-VMWARE-VCLOUD-ACCESS-TOKEN"

/-- The header that names the organization a request is made for. -/
def tenantHeader : String := "X-VMWARE-VCLOUD-TENANT-CONTEXT"

def orgsPath : String := "cloudapi/1.0.0/orgs"

def usersPath : String := "cloudapi/1.0.0/users"

def rolesPath : String := "cloudapi/1.0.0/roles"

def regionsPath : String := "cloudapi/vcf/regions"

def versionsPath : String := "api/versions"

/-- The session with other intervals, in milliseconds. -/
def withIntervals (client : Client) (retryPause pollInterval : Nat) : Client :=
  { client with retryPause, pollInterval }

def secondsText (seconds : Nat) : String :=
  if seconds = 0 then "0ns" else toString seconds ++ "s"

/-- What may be shown of a session: not its token. -/
def summary (client : Client) : String :=
  "VcfaClient \x7b base: " ++ Text.quoted client.base.text ++ ", max_retry_timeout: " ++
    secondsText client.maxRetryTimeout ++ ", .. \x7d"

/-! ## Requests -/

def headers (client : Client) (tenant? : Option String) : List (String × String) :=
  let tenant := tenant?.toList.map fun org => (String.ofList (Settings.foldCase tenantHeader),
    Urn.uuid org)
  [("accept", accept), ("authorization", Request.bearer client.token)] ++ tenant

/-- A request of the session, for the organization of an id if one is given. -/
def request (client : Client) (method : Method) (url : Url) (query : List (String × String))
    (body : Body) (tenant? : Option String) : Except HttpError Request :=
  let url := if query.isEmpty then url else url.appendQuery (String.ofList (Form.pairs query))
  Request.make method url (client.headers tenant?) body

end Client

/-! ## Deadlines -/

namespace Clock

/-- The end of the times that clocks show, in milliseconds: they count seconds in 63 bits. -/
def bound : Nat := Nat.pow 2 63 * 1000

def later? (now duration : Nat) : Option Nat :=
  if now + duration < bound then some (now + duration) else none

end Clock

/-! ## Busy entities -/

namespace Client

/-- The reply of a server without answers is no sign of a busy entity. -/
theorem not_isBusy_exhausted : (ClientError.ofReply Network.exhausted).isBusy = false := by
  decide +kernel

/-- Sends a request until the entity is no longer busy or the next attempt would come after the
deadline. -/
def attempt (client : Client) (deadline : Nat) (request : Request) (net : Network) :
    Except ClientError Reply × Network :=
  match _hexchange : net.exchange request with
  | (.error error, net') => (.error (.http error), net')
  | (.ok reply, net') =>
    if reply.status.isSuccess then (.ok reply, net')
    else
      let error := ClientError.ofReply reply
      if _hbusy : error.isBusy then
        match Clock.later? net'.now client.retryPause with
        | none => (.error .clockOverflow, net')
        | some next =>
          if next ≤ deadline then attempt client deadline request (net'.wait client.retryPause)
          else (.error error, net')
      else (.error error, net')
termination_by net.answers.length
decreasing_by
  rcases Network.exchange_ok _hexchange with rfl | hlt
  · exact absurd _hbusy (by rw [not_isBusy_exhausted]; simp)
  · exact hlt

/-- Sends a request of the session. The deadline for busy entities counts from now. -/
def send (client : Client) (method : Method) (url : Url) (query : List (String × String))
    (body : Body) (tenant? : Option String) : Call Reply :=
  Call.of fun net =>
    match Clock.later? net.now (client.maxRetryTimeout * 1000) with
    | none => (.error .clockOverflow, net)
    | some deadline =>
      match client.request method url query body tenant? with
      | .error error => (.error (.http error), net)
      | .ok request => client.attempt deadline request net

/-- What is sent back is a success that has used up an answer. -/
theorem attempt_ok {client : Client} {deadline : Nat} {request : Request} {net net' : Network}
    {reply : Reply} (h : client.attempt deadline request net = (.ok reply, net')) :
    reply.status.isSuccess = true ∧ net'.answers.length < net.answers.length := by
  fun_induction attempt client deadline request net with
  | case1 => simp at h
  | case2 net reply' net1 hex hsuccess =>
    simp only [Prod.mk.injEq, Except.ok.injEq] at h
    obtain ⟨rfl, rfl⟩ := h
    refine ⟨hsuccess, ?_⟩
    rcases Network.exchange_ok hex with rfl | hlt
    · exact absurd hsuccess (by decide)
    · exact hlt
  | case3 => simp at h
  | case4 net reply' net1 hex _ _ hbusy next _ _ ih =>
    obtain ⟨hs, hlt⟩ := ih h
    refine ⟨hs, Nat.lt_of_lt_of_le hlt ?_⟩
    have := Network.length_answers_exchange_le request net
    rw [hex] at this
    exact this
  | case5 => simp at h
  | case6 => simp at h

theorem send_ok {client : Client} {method : Method} {url : Url} {query : List (String × String)}
    {body : Body} {tenant? : Option String} {net net' : Network} {reply : Reply}
    (h : (client.send method url query body tenant?).perform net = (.ok reply, net')) :
    reply.status.isSuccess = true ∧ net'.answers.length < net.answers.length := by
  simp only [send, Call.perform_of] at h
  split at h
  · simp at h
  · split at h
    · simp at h
    · exact attempt_ok h

end Client

end CloudTenancy
