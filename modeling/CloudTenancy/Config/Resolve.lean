import CloudTenancy.Config.Block
import CloudTenancy.Config.Setting
import CloudTenancy.Text.Blank
import CloudTenancy.Text.Numeral
import CloudTenancy.Url.Parser

/-!
CloudTenancy.Config.Resolve — connection settings from the provider block and the environment.

* `AuthType`, `Credentials` — the login flows, and what each of them needs.
* `Settings` — everything a connection needs.
* `ConfigError` — why the settings are refused, `ConfigError.message` the wording.
* `Endpoint.parse` — the address of the service, which always ends in a slash.
* `Settings.resolve` — a setting comes from the block, or else from its environment variable, or
  else from its default. An empty text counts as no setting, except for the separator.

Main statement: resolved settings have an address that API paths can be joined to, and a separator
that is not empty.
-/

namespace CloudTenancy

/-! ## Login flows -/

/-- How to log in. -/
inductive AuthType
  /-- By user name and password. -/
  | integrated
  /-- By a bearer token that is already there. -/
  | token
  /-- By an API token. -/
  | apiToken
  /-- By an API token in a file. -/
  | apiTokenFile
  /-- By the token of a service account in a file, which is replaced at every login. -/
  | serviceAccountTokenFile
  deriving DecidableEq, Repr

namespace AuthType

def name : AuthType → String
  | integrated => "integrated"
  | token => "token"
  | apiToken => "api_token"
  | apiTokenFile => "api_token_file"
  | serviceAccountTokenFile => "service_account_token_file"

def all : List AuthType := [integrated, token, apiToken, apiTokenFile, serviceAccountTokenFile]

/-- The flow used when none is named. -/
def default : AuthType := integrated

def ofName? (name : String) : Option AuthType := all.find? fun type => type.name = name

theorem ofName?_name (type : AuthType) : ofName? type.name = some type := by
  cases type <;> decide

theorem name_of_ofName? {name : String} {type : AuthType} (h : ofName? name = some type) :
    type.name = name := by
  simpa using List.find?_some h

end AuthType

inductive Credentials
  | integrated (user password : String)
  | token (token : String)
  | apiToken (token : String)
  | apiTokenFile (path : String)
  | serviceAccountTokenFile (path : String)
  deriving DecidableEq, Repr

namespace Credentials

def authType : Credentials → AuthType
  | integrated .. => .integrated
  | token _ => .token
  | apiToken _ => .apiToken
  | apiTokenFile _ => .apiTokenFile
  | serviceAccountTokenFile _ => .serviceAccountTokenFile

/-- What may be shown of credentials: user names and paths, no secrets. -/
def summary : Credentials → String
  | integrated user _ =>
    "Integrated \x7b user: " ++ Text.quoted user ++ ", password: \"<redacted>\" \x7d"
  | token _ => "Token(<redacted>)"
  | apiToken _ => "ApiToken(<redacted>)"
  | apiTokenFile path => "ApiTokenFile(" ++ Text.quoted path ++ ")"
  | serviceAccountTokenFile path => "ServiceAccountTokenFile(" ++ Text.quoted path ++ ")"

end Credentials

/-! ## Failures -/

/-- Why an address cannot be that of the service. -/
inductive EndpointError
  | malformed (error : UrlError)
  | unsupportedScheme (scheme : String)
  deriving DecidableEq, Repr

def EndpointError.message : EndpointError → String
  | malformed error => error.message
  | unsupportedScheme scheme => "unsupported scheme '" ++ scheme ++ "'"

/-- Why settings are refused. -/
inductive ConfigError
  | missing (setting : Setting)
  | invalidUrl (url : String) (error : EndpointError)
  | unknownAuthType (name : String)
  | invalidBool (setting : Setting) (value : String)
  | invalidRetryTimeout (value : String)
  | emptySeparator
  deriving DecidableEq, Repr

def ConfigError.message : ConfigError → String
  | missing setting =>
    setting.blockName ++ " is required (set it in the provider block or with " ++
      setting.envVar ++ ")"
  | invalidUrl url error => "url '" ++ url ++ "' is invalid: " ++ error.message
  | unknownAuthType name =>
    "auth_type '" ++ name ++ "' is not supported, expected one of: " ++
      ", ".intercalate (AuthType.all.map AuthType.name)
  | invalidBool setting value => setting.envVar ++ " must be a boolean, got '" ++ value ++ "'"
  | invalidRetryTimeout value =>
    "max_retry_timeout must be a non-negative number of seconds, got '" ++ value ++ "'"
  | emptySeparator => "import_separator must not be empty"

/-! ## The address of the service -/

namespace Endpoint

/-- The end of an address that may be left out. -/
def optionalEnd : List Char := "/api".toList

/-- An address without blanks around it, without slashes at the end, and without one `/api` in front
of those. -/
def trimmed (raw : String) : List Char :=
  let cs := ((Text.trimChars raw.toList).reverse.dropWhile (· = '/')).reverse
  if optionalEnd.isSuffixOf cs then cs.take (cs.length - optionalEnd.length) else cs

/-- The address of the service: a web address whose path ends in a slash, so that the paths of the
API can be joined to it. -/
def parse (raw : String) : Except EndpointError Url :=
  match Url.parse (String.ofList (trimmed raw)) with
  | .error error => .error (.malformed error)
  | .ok url =>
    if url.scheme = "http" ∨ url.scheme = "https" then .ok url.directory
    else .error (.unsupportedScheme url.scheme)

/-- The address is a web address. -/
theorem scheme_of_parse {raw : String} {url : Url} (h : parse raw = .ok url) :
    url.scheme = "http" ∨ url.scheme = "https" := by
  unfold parse at h
  split at h
  · simp at h
  · rename_i u hu
    split at h
    · rename_i hs
      simp only [Except.ok.injEq] at h
      subst h
      rcases Url.directory_eq u with hd | ⟨parts, -, hd⟩ <;> simp [hd, hs]
    · simp at h

end Endpoint

/-! ## Settings -/

/-- Everything that a connection needs. -/
structure Settings where
  url : Url
  org : String
  credentials : Credentials
  allowUnverifiedSsl : Bool
  /-- In seconds. -/
  maxRetryTimeout : Nat
  importSeparator : String
  deriving DecidableEq, Repr

namespace Settings

/-- The organization of the service's own administrators, and the default. -/
def systemOrg : String := "System"

/-- In seconds. -/
def defaultRetryTimeout : Nat := 60

def defaultSeparator : String := "."

def foldCase (s : String) : List Char := s.toList.map Char.toLower

/-- The login is that of the service's own administrators. -/
def isSystemOrg (settings : Settings) : Bool := foldCase settings.org = foldCase systemOrg

/-- The text of a setting, from the block or from the environment. Empty texts do not count. -/
def pick (env : Environment) (setting : Setting) (value? : Option String) : Option String :=
  (value?.or (env setting)).filter (!·.isEmpty)

def need (env : Environment) (setting : Setting) (value? : Option String) :
    Except ConfigError String :=
  match pick env setting value? with
  | some value => .ok value
  | none => .error (.missing setting)

def parseBool? (text : String) : Option Bool :=
  let word := foldCase (Text.trim text)
  if word ∈ ["1".toList, "true".toList, "yes".toList] then some true
  else if word ∈ ["0".toList, "false".toList, "no".toList, []] then some false
  else none

def resolveUrl (block : ProviderBlock) (env : Environment) : Except ConfigError Url := do
  let raw ← need env .url block.url?
  match Endpoint.parse raw with
  | .ok url => return url
  | .error error => throw (.invalidUrl raw error)

def resolveAuthType (block : ProviderBlock) (env : Environment) : Except ConfigError AuthType :=
  match pick env .authType block.authType? with
  | none => .ok .default
  | some name =>
    match AuthType.ofName? name with
    | some type => .ok type
    | none => .error (.unknownAuthType name)

def resolveCredentials (block : ProviderBlock) (env : Environment) :
    AuthType → Except ConfigError Credentials
  | .integrated => do
    let user ← need env .user block.user?
    let password ← need env .password block.password?
    return .integrated user password
  | .token => return .token (← need env .token block.token?)
  | .apiToken => return .apiToken (← need env .apiToken block.apiToken?)
  | .apiTokenFile => return .apiTokenFile (← need env .apiTokenFile block.apiTokenFile?)
  | .serviceAccountTokenFile =>
    return .serviceAccountTokenFile
      (← need env .serviceAccountTokenFile block.serviceAccountTokenFile?)

def resolveSsl (block : ProviderBlock) (env : Environment) : Except ConfigError Bool :=
  match block.allowUnverifiedSsl? with
  | some allow => .ok allow
  | none =>
    match env .allowUnverifiedSsl with
    | none => .ok false
    | some text =>
      match parseBool? text with
      | some allow => .ok allow
      | none => .error (.invalidBool .allowUnverifiedSsl text)

def resolveRetryTimeout (block : ProviderBlock) (env : Environment) : Except ConfigError Nat :=
  match block.maxRetryTimeout? with
  | some (.ofNat seconds) => .ok seconds
  | some seconds => .error (.invalidRetryTimeout (toString seconds))
  | none =>
    match env .maxRetryTimeout with
    | none => .ok defaultRetryTimeout
    | some text =>
      match Text.parseNatural? (Text.trimChars text.toList) with
      | some seconds => .ok seconds
      | none => .error (.invalidRetryTimeout text)

def resolveSeparator (block : ProviderBlock) (env : Environment) : Except ConfigError String :=
  let separator := (block.importSeparator?.or (env .importSeparator)).getD defaultSeparator
  if separator.isEmpty then .error .emptySeparator else .ok separator

/-- The settings of a provider block in an environment. Of several faults the first one counts, in
the order of the steps. -/
def resolve (block : ProviderBlock) (env : Environment) : Except ConfigError Settings := do
  let url ← resolveUrl block env
  let org := (pick env .org block.org?).getD systemOrg
  let credentials ← resolveCredentials block env (← resolveAuthType block env)
  let allowUnverifiedSsl ← resolveSsl block env
  let maxRetryTimeout ← resolveRetryTimeout block env
  let importSeparator ← resolveSeparator block env
  return { url, org, credentials, allowUnverifiedSsl, maxRetryTimeout, importSeparator }

theorem resolveSeparator_ne_empty {block : ProviderBlock} {env : Environment} {separator : String}
    (h : resolveSeparator block env = .ok separator) : separator ≠ "" := by
  unfold resolveSeparator at h
  dsimp only at h
  split at h
  · simp at h
  · rename_i hs
    simp only [Except.ok.injEq] at h
    subst h
    simpa using hs

end Settings

end CloudTenancy
