import CloudTenancy.Api.Entity
import CloudTenancy.Json.Record

/-!
CloudTenancy.Api.Decode — reading the entities of the service from JSON.

Each entity has a decoder built from its list of fields. A field is required, has a default, or is
null when it is left out; unknown fields are passed over. A list of the fields in order is accepted
in place of an object.
-/

namespace CloudTenancy

open Json (RecordField Fields Decoder)

/-! ## Fields -/

def required {α : Type} (name : String) (decoder : Decoder α) : RecordField α :=
  ⟨name, decoder, .required⟩

/-- A field with a value for when it is left out. -/
def defaulted {α : Type} (name : String) (decoder : Decoder α) (value : α) : RecordField α :=
  ⟨name, decoder, .defaulted value⟩

/-- A field that may be null or left out. -/
def nullable {α : Type} (name : String) (decoder : Decoder α) : RecordField (Option α) :=
  ⟨name, Decoder.option decoder, .defaulted none⟩

/-! ## Entities -/

def EntityRef.fields : Fields [String, String] :=
  .cons (defaulted "id" Decoder.string "") <|
  .cons (defaulted "name" Decoder.string "") .nil

def EntityRef.decoder : Decoder EntityRef :=
  Decoder.record "EntityRef" fields fun (id, name, _) => { id, name }

def Org.fields : Fields [String, String, String, String, Bool, Bool, Option EntityRef] :=
  .cons (defaulted "id" Decoder.string "") <|
  .cons (required "name" Decoder.string) <|
  .cons (defaulted "displayName" Decoder.string "") <|
  .cons (defaulted "description" Decoder.string "") <|
  .cons (defaulted "isEnabled" Decoder.bool true) <|
  .cons (defaulted "isClassicTenant" Decoder.bool false) <|
  .cons (nullable "managedBy" EntityRef.decoder) .nil

def Org.decoder : Decoder Org :=
  Decoder.record "Org" fields
    fun (id, name, displayName, description, isEnabled, isClassicTenant, managedBy?, _) =>
      { id, name, displayName, description, isEnabled, isClassicTenant, managedBy? }

def User.fields :
    Fields [String, String, Option String, List EntityRef, Option EntityRef, String, Bool] :=
  .cons (defaulted "id" Decoder.string "") <|
  .cons (required "username" Decoder.string) <|
  .cons (nullable "password" Decoder.string) <|
  .cons (defaulted "roleEntityRefs" (Decoder.list EntityRef.decoder) []) <|
  .cons (nullable "orgEntityRef" EntityRef.decoder) <|
  .cons (defaulted "providerType" Decoder.string "") <|
  .cons (defaulted "enabled" Decoder.bool true) .nil

def User.decoder : Decoder User :=
  Decoder.record "User" fields
    fun (id, username, password?, roleRefs, orgRef?, providerType, enabled, _) =>
      { id, username, password?, roleRefs, orgRef?, providerType, enabled }

def Role.fields : Fields [String, String, String, String, Bool] :=
  .cons (required "id" Decoder.string) <|
  .cons (required "name" Decoder.string) <|
  .cons (defaulted "description" Decoder.string "") <|
  .cons (defaulted "bundleKey" Decoder.string "") <|
  .cons (defaulted "readOnly" Decoder.bool false) .nil

def Role.decoder : Decoder Role :=
  Decoder.record "Role" fields fun (id, name, description, bundleKey, readOnly, _) =>
    { id, name, description, bundleKey, readOnly }

def Region.fields :
    Fields [String, String, String, Option EntityRef, List EntityRef, List String, Bool, String] :=
  .cons (required "id" Decoder.string) <|
  .cons (required "name" Decoder.string) <|
  .cons (defaulted "description" Decoder.string "") <|
  .cons (nullable "nsxManager" EntityRef.decoder) <|
  .cons (defaulted "supervisors" (Decoder.list EntityRef.decoder) []) <|
  .cons (defaulted "storagePolicies" (Decoder.list Decoder.string) []) <|
  .cons (defaulted "isEnabled" Decoder.bool false) <|
  .cons (defaulted "status" Decoder.string "") .nil

def Region.decoder : Decoder Region :=
  Decoder.record "Region" fields
    fun (id, name, description, nsxManager?, supervisors, storagePolicies, isEnabled, status, _) =>
      { id, name, description, nsxManager?, supervisors, storagePolicies, isEnabled, status }

/-! ## Collections and operations -/

def Page.fields {α : Type} (decoder : Decoder α) : Fields [Nat, Nat, Nat, List α] :=
  .cons (defaulted "resultTotal" Decoder.natural 0) <|
  .cons (defaulted "pageCount" Decoder.natural 0) <|
  .cons (defaulted "page" Decoder.natural 0) <|
  .cons (defaulted "values" (Decoder.list decoder) []) .nil

def Page.decoder {α : Type} (decoder : Decoder α) : Decoder (Page α) :=
  Decoder.record "Page" (fields decoder) fun (resultTotal, pageCount, page, values, _) =>
    { resultTotal, pageCount, page, values }

def VersionInfo.fields : Fields [String, Bool] :=
  .cons (required "version" Decoder.string) <|
  .cons (defaulted "deprecated" Decoder.bool false) .nil

def VersionInfo.decoder : Decoder VersionInfo :=
  Decoder.record "VersionInfo" fields fun (version, deprecated, _) => { version, deprecated }

def SupportedVersions.decoder : Decoder SupportedVersions :=
  Decoder.record "SupportedVersions"
    (.cons (defaulted "versionInfo" (Decoder.list VersionInfo.decoder) []) .nil)
    fun (versionInfo, _) => { versionInfo }

def TaskFailure.decoder : Decoder TaskFailure :=
  Decoder.record "TaskError" (.cons (defaulted "message" Decoder.string "") .nil)
    fun (message, _) => { message }

def Task.fields : Fields [String, String, Option EntityRef, Option TaskFailure] :=
  .cons (defaulted "id" Decoder.string "") <|
  .cons (required "status" Decoder.string) <|
  .cons (nullable "owner" EntityRef.decoder) <|
  .cons (nullable "error" TaskFailure.decoder) .nil

def Task.decoder : Decoder Task :=
  Decoder.record "Task" fields fun (id, status, owner?, failure?, _) =>
    { id, status, owner?, failure? }

def ErrorBody.fields : Fields [String, String] :=
  .cons (defaulted "minorErrorCode" Decoder.string "") <|
  .cons (defaulted "message" Decoder.string "") .nil

def ErrorBody.decoder : Decoder ErrorBody :=
  Decoder.record "ApiErrorBody" fields fun (minorErrorCode, message, _) =>
    { minorErrorCode, message }

/-! ## Tokens -/

def ApiTokenFile.fields : Fields [String, String] :=
  .cons (defaulted "token_type" Decoder.string "") <|
  .cons (required "refresh_token" Decoder.string) .nil

def ApiTokenFile.decoder : Decoder ApiTokenFile :=
  Decoder.record "ApiTokenFile" fields fun (tokenType, refreshToken, _) =>
    { tokenType, refreshToken }

def ServiceAccountFile.fields : Fields [String, String, String] :=
  .cons (defaulted "token_type" Decoder.string "") <|
  .cons (required "refresh_token" Decoder.string) <|
  .cons (required "client_id" Decoder.string) .nil

def ServiceAccountFile.decoder : Decoder ServiceAccountFile :=
  Decoder.record "ServiceAccountTokenFile" fields fun (tokenType, refreshToken, clientId, _) =>
    { tokenType, refreshToken, clientId }

def TokenGrant.fields : Fields [String, Option String] :=
  .cons (required "access_token" Decoder.string) <|
  .cons (nullable "refresh_token" Decoder.string) .nil

def TokenGrant.decoder : Decoder TokenGrant :=
  Decoder.record "TokenReply" fields fun (accessToken, refreshToken?, _) =>
    { accessToken, refreshToken? }

end CloudTenancy
