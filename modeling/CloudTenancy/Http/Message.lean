import CloudTenancy.Http.Status
import CloudTenancy.Json.Decoder
import CloudTenancy.Json.Printer
import CloudTenancy.Text.Base64
import CloudTenancy.Url.Parser

/-!
CloudTenancy.Http.Message — requests and replies.

* `HttpError` — why a request got no usable reply, `HttpError.message` the wording.
* `Request` — method, address, headers and body.
* `Request.make` — a request as it can be sent: user info of the address becomes a header.
* `Reply` — status, headers and body.
* `Reply.decode` — the body as a value.

Main statement: a request that has been made carries the method, the body and the headers asked
for.
-/

namespace CloudTenancy

/-! ## Failures -/

/-- Why a request got no usable reply. -/
inductive HttpError
  /-- The request cannot be built, because of a header or of the address given. -/
  | builder (url? : Option String)
  /-- No reply arrived. -/
  | sending (url : String)
  /-- The body of the reply is cut off or is not what was expected. -/
  | decoding
  deriving DecidableEq, Repr

def HttpError.message : HttpError → String
  | builder none => "builder error"
  | builder (some url) => "builder error for url (" ++ url ++ ")"
  | sending url => "error sending request for url (" ++ url ++ ")"
  | decoding => "error decoding response body"

/-! ## Requests -/

inductive Method
  | get | post | put | delete
  deriving DecidableEq, Repr

def Method.name : Method → String
  | get => "GET"
  | post => "POST"
  | put => "PUT"
  | delete => "DELETE"

inductive Body
  | empty
  | json (value : Json)
  | form (text : String)
  deriving Repr

def Body.contentType? : Body → Option String
  | empty => none
  | json _ => some "application/json"
  | form _ => some "application/x-www-form-urlencoded"

/-- A request as it is sent. Header names are in lower case. -/
structure Request where
  method : Method
  url : Url
  headers : List (String × String)
  body : Body
  deriving Repr

namespace Request

def userAgent : String := "terraform-provider-vcfa/0.1.0"

/-- A header value is made of visible characters, spaces and tabs; all bytes outside ASCII count
as visible. -/
def isHeaderValue (value : String) : Bool :=
  (Utf8.encode value).all fun b => b == 9 || (32 ≤ b && b ≠ 127)

def basic (user : String) (password? : Option String) : String :=
  let text := user ++ ":" ++ password?.getD ""
  "Basic " ++ String.ofList (Base64.encode (Utf8.encode text))

def bearer (token : String) : String := "Bearer " ++ token

/-- User name and password in the address, decoded, if there are any. -/
def credentials? (url : Url) : Option (String × Option String) := do
  let authority ← url.authority?
  let username ← Percent.decodeText? authority.username.toList
  let password? := authority.password?.bind fun p => Percent.decodeText? p.toList
  guard (!username.isEmpty || password?.isSome)
  return (username, password?)

/-- Hosts with these characters cannot be put on the wire. -/
def isWireHost (host : String) : Bool :=
  !host.toList.any fun c => c == '"' || c == '\x60' || c == '\x7b' || c == '\x7d'

def longestUrl : Nat := 65534

def isWireUrl (url : Url) : Bool :=
  (url.scheme == "http" || url.scheme == "https") && url.hostText?.any isWireHost &&
    (Utf8.encode url.text).length ≤ longestUrl

/-- The address without the user info that is sent as a header. -/
def address (url : Url) : Url := if (credentials? url).isSome then url.anonymous else url

/-- The header for the user info of the address. -/
def ownHeaders (url : Url) : List (String × String) :=
  match credentials? url with
  | some (user, password?) => [("authorization", basic user password?)]
  | none => []

/-- A request with headers and a body, unless a header or the address cannot be sent. -/
def make (method : Method) (url : Url) (headers : List (String × String)) (body : Body) :
    Except HttpError Request :=
  let kind := body.contentType?.toList.map fun type => ("content-type", type)
  if url.hostText?.isNone then .error (.builder (some url.text))
  else if !headers.all (fun header => isHeaderValue header.2) then .error (.builder none)
  else if !isWireUrl (address url) then .error (.builder (some (address url).text))
  else .ok {
    method, url := address url, body
    headers := ownHeaders url ++ headers ++ kind ++ [("user-agent", userAgent)] }

def header (request : Request) (name : String) : List String :=
  (request.headers.filter fun header => header.1 = name).map (·.2)

theorem make_ok {method : Method} {url : Url} {headers : List (String × String)} {body : Body}
    {request : Request} (h : make method url headers body = .ok request) :
    request.method = method ∧ request.url = address url ∧ request.body = body ∧
      ∀ header ∈ headers, header ∈ request.headers := by
  unfold make at h
  dsimp only at h
  split at h
  · simp at h
  · split at h
    · simp at h
    · split at h
      · simp at h
      · simp only [Except.ok.injEq] at h
        subst h
        exact ⟨rfl, rfl, rfl, fun header hmem => by simp [hmem]⟩

end Request

/-! ## Replies -/

/-- A reply. Header names are in lower case. -/
structure Reply where
  status : Status := .ok
  headers : List (String × Bytes) := []
  body : Bytes := []
  /-- The body ends before its announced length. -/
  isCut : Bool := false
  deriving DecidableEq, Repr

namespace Reply

/-- The bytes are visible ASCII characters, spaces and tabs. -/
def isVisible (value : Bytes) : Bool := value.all fun b => b == 9 || (32 ≤ b && b < 127)

/-- The first value of a header, if it is visible text. -/
def header? (reply : Reply) (name : String) : Option String :=
  (reply.headers.find? fun header => header.1 = name).bind fun header =>
    if isVisible header.2 then Utf8.decode? header.2 else none

def decode {α : Type} (reply : Reply) (decoder : Json.Decoder α) : Except HttpError α :=
  if reply.isCut then .error .decoding
  else match Json.Decoder.run decoder reply.body with
    | .ok value => .ok value
    | .error _ => .error .decoding

end Reply

end CloudTenancy
