import CloudTenancy.Api.Encode
import CloudTenancy.Client.Basic

/-!
CloudTenancy.Client.Login — from settings to a session.

* `Login.integrated` — the token for a user name and a password.
* `Login.refresh` — the tokens granted in exchange for a refresh token.
* `Login.readFile`, `Login.writeFile` — token files.
* `Login.token` — the token of each login flow.
* `Client.connect` — a session with the service.

A service account gets a new refresh token at every login, and the old one stops working. So the
file is written before the login counts as done.
-/

namespace CloudTenancy

namespace Login

variable {α : Type}

def post (settings : Settings) (path : String) (headers : List (String × String)) (body : Body) :
    Call Reply := do
  let url ← Call.ofExcept .url (settings.url.join path)
  let request ← Call.ofExcept .http (Request.make .post url headers body)
  let reply ← Call.exchange request
  if reply.status.isSuccess then return reply else throw (.ofLoginReply reply)

/-! ## User names and passwords -/

def sessionsPath (settings : Settings) : String :=
  if settings.isSystemOrg then "cloudapi/1.0.0/sessions/provider" else "cloudapi/1.0.0/sessions"

/-- The token in the header of a login reply. -/
def accessToken (reply : Reply) : Except ClientError String :=
  match reply.header? (String.ofList (Settings.foldCase Client.accessTokenHeader)) with
  | some token => .ok token
  | none => .error (.missingAccessToken Client.accessTokenHeader)

def integrated (settings : Settings) (user password : String) : Call String := do
  let account := Request.basic (user ++ "@" ++ settings.org) (some password)
  let headers := [("accept", Client.accept), ("authorization", account)]
  let reply ← post settings (sessionsPath settings) headers .empty
  Call.ofExcept id (accessToken reply)

/-! ## Refresh tokens -/

def exchangePath (settings : Settings) : String :=
  if settings.isSystemOrg then "oauth/provider/token"
  else "oauth/tenant/" ++ settings.org ++ "/token"

def exchangeForm (refreshToken : String) (clientId? : Option String) : List (String × String) :=
  [("grant_type", "refresh_token")] ++ clientId?.toList.map (fun id => ("client_id", id)) ++
    [("refresh_token", refreshToken)]

/-- The tokens granted in exchange for a refresh token. -/
def refresh (settings : Settings) (refreshToken : String) (clientId? : Option String) :
    Call TokenGrant := do
  let form := String.ofList (Form.pairs (exchangeForm refreshToken clientId?))
  let reply ← post settings (exchangePath settings) [("accept", "application/json")] (.form form)
  Call.decode TokenGrant.decoder reply

/-! ## Token files -/

def readFile (decoder : Json.Decoder α) (path : String) : Call α :=
  Call.of fun net =>
    match net.files.readText path with
    | .error error => (.error (.tokenFile path error.message), net)
    | .ok text =>
      match Json.Decoder.run decoder (Utf8.encode text) with
      | .error error => (.error (.tokenFile path error.message), net)
      | .ok value => (.ok value, net)

def writeFile (path : String) (contents : Bytes) : Call Unit :=
  Call.of fun net =>
    match net.files.write path contents with
    | .error error => (.error (.tokenFile path error.message), net)
    | .ok files => (.ok (), { net with files })

/-- The type that files with API tokens may state. -/
def apiTokenType : String := "API Token"

/-- The file may state no type, or that it holds an API token. -/
def checkType (path : String) (file : ApiTokenFile) : Except ClientError Unit :=
  if file.tokenType.isEmpty ∨ file.tokenType = apiTokenType then .ok ()
  else
    .error <| .tokenFile path <|
      "expected token_type '" ++ apiTokenType ++ "', got '" ++ file.tokenType ++ "'"

/-- The token of a service account. A new refresh token goes into the file. -/
def serviceAccount (settings : Settings) (path : String) : Call String := do
  let file ← readFile ServiceAccountFile.decoder path
  let grant ← refresh settings file.refreshToken (some file.clientId)
  if let some refreshToken := grant.refreshToken? then
    writeFile path { file with refreshToken }.contents
  return grant.accessToken

def token (settings : Settings) : Call String :=
  match settings.credentials with
  | .integrated user password => integrated settings user password
  | .token token => return token
  | .apiToken token => return (← refresh settings token none).accessToken
  | .apiTokenFile path => do
    let file ← readFile ApiTokenFile.decoder path
    Call.ofExcept id (checkType path file)
    return (← refresh settings file.refreshToken none).accessToken
  | .serviceAccountTokenFile path => serviceAccount settings path

end Login

def Client.connect (settings : Settings) : Call Client := do
  let token ← Login.token settings
  return {
    base := settings.url, token
    maxRetryTimeout := settings.maxRetryTimeout
    importSeparator := settings.importSeparator }

end CloudTenancy
