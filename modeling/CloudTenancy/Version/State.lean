import CloudTenancy.Api.Decode
import CloudTenancy.Schema
import CloudTenancy.Value

/-!
CloudTenancy.Version.State — supported versions as attributes.

* `VersionState` — the attributes of a look at the versions of the service.
* `Version.lookupSchema` — the block that describes them.
-/

namespace CloudTenancy

open Json (Fields Decoder)

structure VersionState where
  condition : Value String := .null
  failIfNotMatch : Value Bool := .null
  matchesCondition : Value Bool := .null
  apiVersion : Value String := .null
  supportedVersions : Value (List (Value String)) := .null
  deriving DecidableEq, Repr

namespace VersionState

def fields :
    Fields [Value String, Value Bool, Value Bool, Value String, Value (List (Value String))] :=
  .cons (required "condition" Value.stringDecoder) <|
  .cons (required "fail_if_not_match" Value.boolDecoder) <|
  .cons (required "matches_condition" Value.boolDecoder) <|
  .cons (required "api_version" Value.stringDecoder) <|
  .cons (required "supported_versions" Value.stringListDecoder) .nil

def decoder : Decoder VersionState :=
  Decoder.record "VersionState" fields
    fun (condition, failIfNotMatch, matchesCondition, apiVersion, supportedVersions, _) =>
      { condition, failIfNotMatch, matchesCondition, apiVersion, supportedVersions }

def toJson (state : VersionState) : Json :=
  .object
    [("condition", state.condition.toJson .string),
      ("fail_if_not_match", state.failIfNotMatch.toJson .bool),
      ("matches_condition", state.matchesCondition.toJson .bool),
      ("api_version", state.apiVersion.toJson .string),
      ("supported_versions", state.supportedVersions.toJson (Value.listToJson .string))]

end VersionState

def Version.lookupSchema : Schema where
  description := "Reads the API versions supported by the VCFA endpoint"
  attributes :=
    [("condition",
        .optional .string "Condition checked against api_version, e.g. '>= 40.0'"),
      ("fail_if_not_match", .optional .bool "Fail when the condition does not match"),
      ("matches_condition", .computed .bool "Whether api_version satisfies the condition"),
      ("api_version", .computed .string "Highest non-deprecated API version"),
      ("supported_versions",
        .computed (.list .string) "Non-deprecated API versions, oldest first")]

end CloudTenancy
