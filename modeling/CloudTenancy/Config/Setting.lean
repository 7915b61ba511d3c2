/-!
CloudTenancy.Config.Setting — the settings of the provider and where they come from.

* `Setting` — one setting, with `Setting.blockName`, its name in the provider block, and
  `Setting.envVar`, the environment variable that stands in for it.
* `Environment` — what the environment variables hold.
-/

namespace CloudTenancy

inductive Setting
  | url
  | user
  | password
  | org
  | authType
  | token
  | apiToken
  | apiTokenFile
  | serviceAccountTokenFile
  | allowUnverifiedSsl
  | maxRetryTimeout
  | importSeparator
  deriving DecidableEq, Repr

namespace Setting

def blockName : Setting → String
  | url => "url"
  | user => "user"
  | password => "password"
  | org => "org"
  | authType => "auth_type"
  | token => "token"
  | apiToken => "api_token"
  | apiTokenFile => "api_token_file"
  | serviceAccountTokenFile => "service_account_token_file"
  | allowUnverifiedSsl => "allow_unverified_ssl"
  | maxRetryTimeout => "max_retry_timeout"
  | importSeparator => "import_separator"

/-- The environment variable that is read when the provider block leaves the setting out. -/
def envVar : Setting → String
  | url => "VCFA_URL"
  | user => "VCFA_USER"
  | password => "VCFA_PASSWORD"
  | org => "VCFA_ORG"
  | authType => "VCFA_AUTH_TYPE"
  | token => "VCFA_TOKEN"
  | apiToken => "VCFA_API_TOKEN"
  | apiTokenFile => "VCFA_API_TOKEN_FILE"
  | serviceAccountTokenFile => "VCFA_SA_TOKEN_FILE"
  | allowUnverifiedSsl => "VCFA_ALLOW_UNVERIFIED_SSL"
  | maxRetryTimeout => "VCFA_MAX_RETRY_TIMEOUT"
  | importSeparator => "VCFA_IMPORT_SEPARATOR"

end Setting

/-- What the environment variable of a setting holds, if it is set. -/
abbrev Environment := Setting → Option String

namespace Environment

def empty : Environment := fun _ => none

def ofList (entries : List (String × String)) : Environment := fun setting =>
  (entries.find? fun entry => entry.1 = setting.envVar).map (·.2)

end Environment

end CloudTenancy
