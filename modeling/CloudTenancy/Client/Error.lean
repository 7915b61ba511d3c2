import CloudTenancy.Api.Decode
import CloudTenancy.Http.Message
import CloudTenancy.Redaction

/-!
CloudTenancy.Client.Error — why a call to the service fails.

* `ClientError` — the reasons.
* `ClientError.message` — the wording.
* `ClientError.redacted` — the wording that may be shown to users. Texts of failure replies may
  repeat credentials, so their sensitive lines are replaced; texts of this program keep theirs.
* `ClientError.isNotFound`, `ClientError.isBusy` — failures that callers treat in their own way.
* `ClientError.ofReply`, `ClientError.ofLoginReply` — the failure that a reply stands for.

Only failure replies and refused logins are shown in other words than their own.
-/

namespace CloudTenancy

inductive ClientError
  /-- No usable reply. -/
  | http (error : HttpError)
  | url (error : UrlError)
  | serialization (error : Json.Error)
  /-- A failure reply. -/
  | api (status : Status) (minorCode message : String)
  | notFound (kind name : String)
  | ambiguous (kind name : String) (count : Nat)
  | login (message : String)
  /-- A login reply without the header that carries the token. -/
  | missingAccessToken (header : String)
  | tokenFile (path message : String)
  | task (id message : String)
  /-- A time to come that no clock can show. -/
  | clockOverflow
  deriving DecidableEq, Repr

namespace ClientError

def apiText (status : Status) (minorCode message : String) : String :=
  "API error " ++ status.text ++ " (" ++ minorCode ++ "): " ++ message

def loginText (message : String) : String := "login failed: " ++ message

def message : ClientError → String
  | http error => "HTTP request failed: " ++ error.message
  | url error => "invalid URL: " ++ error.message
  | serialization error => "serialization error: " ++ error.message
  | api status minorCode message => apiText status minorCode message
  | notFound kind name => kind ++ " '" ++ name ++ "' not found"
  | ambiguous kind name count =>
    "found " ++ toString count ++ " entities of type " ++ kind ++ " named '" ++ name ++ "'"
  | login message => loginText message
  | missingAccessToken header => "login response did not carry the " ++ header ++ " header"
  | tokenFile path message => "token file " ++ path ++ ": " ++ message
  | task id message => "task " ++ id ++ " failed: " ++ message
  | clockOverflow => "overflow when adding duration to instant"

/-- The wording that may be shown to users. -/
def redacted : ClientError → String
  | api status minorCode message => apiText status minorCode (Redaction.redact message)
  | login message => loginText (Redaction.redact message)
  | error => error.message

def isNotFound : ClientError → Bool
  | notFound _ _ => true
  | api status minorCode _ => status = Status.notFound || minorCode = "NOT_FOUND"
  | _ => false

/-- The entity is locked; the same request may succeed later. -/
def isBusy : ClientError → Bool
  | api status minorCode _ => status = Status.unavailable || minorCode = "BUSY_ENTITY"
  | _ => false

/-! ## Failure replies -/

/-- The body of a failure reply, empty if it cannot be read. -/
def errorBody (reply : Reply) : ErrorBody :=
  match reply.decode ErrorBody.decoder with
  | .ok body => body
  | .error _ => {}

/-- What is said of a failure reply without words of its own. -/
def reason (status : Status) : String := status.reason?.getD "request failed"

def ofReply (reply : Reply) : ClientError :=
  let body := errorBody reply
  let message := if body.message.isEmpty then reason reply.status else body.message
  api reply.status body.minorErrorCode message

def loginMessage (status : Status) (message : String) : String :=
  if message.isEmpty then status.text else status.text ++ ": " ++ message

def ofLoginReply (reply : Reply) : ClientError :=
  login (loginMessage reply.status (errorBody reply).message)

end ClientError

end CloudTenancy
