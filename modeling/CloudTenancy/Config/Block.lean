import CloudTenancy.Api.Decode
import CloudTenancy.Json.Printer

/-!
CloudTenancy.Config.Block — the provider block of a configuration.

* `ProviderBlock` — its attributes, each of them optional.
* `ProviderBlock.decoder`, `ProviderBlock.toJson` — the block as JSON. An object may leave
  attributes out, and all of them are written.
-/

namespace CloudTenancy

open Json (RecordField Fields Decoder)

structure ProviderBlock where
  url? : Option String := none
  user? : Option String := none
  password? : Option String := none
  org? : Option String := none
  authType? : Option String := none
  token? : Option String := none
  apiToken? : Option String := none
  apiTokenFile? : Option String := none
  serviceAccountTokenFile? : Option String := none
  allowUnverifiedSsl? : Option Bool := none
  /-- In seconds. -/
  maxRetryTimeout? : Option Int := none
  importSeparator? : Option String := none
  deriving DecidableEq, Repr

namespace ProviderBlock

/-- An attribute that an object may leave out. -/
def omissible {α : Type} (name : String) (decoder : Decoder α) : RecordField (Option α) :=
  ⟨name, Decoder.option decoder, .optional none⟩

def fields :
    Fields [Option String, Option String, Option String, Option String, Option String,
      Option String, Option String, Option String, Option String, Option Bool, Option Int,
      Option String] :=
  .cons (omissible "url" Decoder.string) <|
  .cons (omissible "user" Decoder.string) <|
  .cons (omissible "password" Decoder.string) <|
  .cons (omissible "org" Decoder.string) <|
  .cons (omissible "auth_type" Decoder.string) <|
  .cons (omissible "token" Decoder.string) <|
  .cons (omissible "api_token" Decoder.string) <|
  .cons (omissible "api_token_file" Decoder.string) <|
  .cons (omissible "service_account_token_file" Decoder.string) <|
  .cons (omissible "allow_unverified_ssl" Decoder.bool) <|
  .cons (omissible "max_retry_timeout" Decoder.integer) <|
  .cons (omissible "import_separator" Decoder.string) .nil

def decoder : Decoder ProviderBlock :=
  Decoder.record "ProviderConfig" fields
    fun (url?, user?, password?, org?, authType?, token?, apiToken?, apiTokenFile?,
        serviceAccountTokenFile?, allowUnverifiedSsl?, maxRetryTimeout?, importSeparator?, _) =>
      { url?, user?, password?, org?, authType?, token?, apiToken?, apiTokenFile?,
        serviceAccountTokenFile?, allowUnverifiedSsl?, maxRetryTimeout?, importSeparator? }

def integerJson : Int → Json
  | .ofNat n => .number (.natural n)
  | .negSucc n => .number (.negative (n + 1))

/-- A value that may be absent, null if it is. -/
def optionJson {α : Type} (write : α → Json) : Option α → Json
  | none => .null
  | some a => write a

def toJson (block : ProviderBlock) : Json :=
  .object
    [("url", optionJson .string block.url?),
      ("user", optionJson .string block.user?),
      ("password", optionJson .string block.password?),
      ("org", optionJson .string block.org?),
      ("auth_type", optionJson .string block.authType?),
      ("token", optionJson .string block.token?),
      ("api_token", optionJson .string block.apiToken?),
      ("api_token_file", optionJson .string block.apiTokenFile?),
      ("service_account_token_file", optionJson .string block.serviceAccountTokenFile?),
      ("allow_unverified_ssl", optionJson .bool block.allowUnverifiedSsl?),
      ("max_retry_timeout", optionJson integerJson block.maxRetryTimeout?),
      ("import_separator", optionJson .string block.importSeparator?)]

end ProviderBlock

end CloudTenancy
