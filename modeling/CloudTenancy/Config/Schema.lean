import CloudTenancy.Config.Setting
import CloudTenancy.Schema

/-!
CloudTenancy.Config.Schema — the provider block described.

* `Setting.describe` — one setting as an attribute. All settings may be left out.
* `Setting.all` — the settings in order.
* `Config.schema` — the provider block.

The secret settings are the password and the two kinds of tokens.
-/

namespace CloudTenancy

namespace Setting

def all : List Setting :=
  [url, user, password, org, authType, token, apiToken, apiTokenFile, serviceAccountTokenFile,
    allowUnverifiedSsl, maxRetryTimeout, importSeparator]

/-- The description of a setting, without the variable that stands in for it. -/
def purpose : Setting → String
  | url => "VCFA endpoint, e.g. https://vcfa.example.com"
  | user => "User name for integrated login"
  | password => "Password for integrated login"
  | org => "Organization to log in to, default System"
  | authType => "One of integrated, token, api_token, api_token_file, service_account_token_file"
  | token => "Bearer token for token auth"
  | apiToken => "API token for api_token auth"
  | apiTokenFile => "JSON file holding an API token"
  | serviceAccountTokenFile => "JSON file holding a service account token, rewritten on login"
  | allowUnverifiedSsl => "Skip TLS certificate verification"
  | maxRetryTimeout => "Seconds to retry requests on busy entities, default 60"
  | importSeparator => "Separator for composite import ids, default '.'"

def type : Setting → AttributeType
  | allowUnverifiedSsl => .bool
  | maxRetryTimeout => .number
  | _ => .string

def isSecret : Setting → Bool
  | password => true
  | token => true
  | apiToken => true
  | _ => false

def describe (setting : Setting) : Attribute where
  type := setting.type
  description := setting.purpose ++ " (env: " ++ setting.envVar ++ ")"
  constraint := .optional
  isSensitive := setting.isSecret

end Setting

def Config.schema : Schema where
  description := "VMware Cloud Foundation Automation provider"
  attributes := Setting.all.map fun setting => (setting.blockName, setting.describe)

end CloudTenancy
