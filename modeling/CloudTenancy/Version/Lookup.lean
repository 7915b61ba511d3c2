import CloudTenancy.Action
import CloudTenancy.Client.Entity
import CloudTenancy.Version.Active
import CloudTenancy.Version.Condition
import CloudTenancy.Version.State

/-!
CloudTenancy.Version.Lookup — the versions that the service supports, and a condition on the
greatest of them.

* `Version.validate` — what is wrong with a configuration.
* `Version.assess` — the attributes that follow from the versions of the service.
* `Version.lookup` — the attributes after a look at the service.

Main statement: whether the condition matches is null exactly when there is no known condition.
-/

namespace CloudTenancy.Version

def malformed (failure : MalformedCondition) : Diagnostic where
  summary := failure.message
  place := "condition"

def checkCondition : Value String → List Diagnostic
  | .known text =>
    match Condition.parse text with
    | .ok _ => []
    | .error failure => [malformed failure]
  | _ => []

/-- There is a condition if it decides on failure. -/
def checkFailure (config : VersionState) : List Diagnostic :=
  if config.failIfNotMatch = .known true ∧ config.condition.isNull then
    [{ summary := "fail_if_not_match requires a condition", place := "fail_if_not_match" }]
  else []

def validate (config : VersionState) : Action Unit :=
  (checkCondition config.condition ++ checkFailure config).forM Action.record

/-- Whether the greatest version satisfies the condition of a configuration, null unless the
condition is known. -/
def assessCondition (config : VersionState) (version : String) :
    Except Diagnostic (Value Bool) :=
  match config.condition with
  | .known text =>
    match Condition.parse text with
    | .error failure => .error (malformed failure)
    | .ok condition =>
      let isMatch := (condition.holds? version).getD false
      if !isMatch && config.failIfNotMatch.getD false then
        .error {
          summary :=
            "API version " ++ version ++ " does not match condition '" ++ text ++ "'" }
      else .ok (.known isMatch)
  | _ => .ok .null

/-- The attributes that follow from the versions that are not deprecated, oldest first. -/
def assess (config : VersionState) (active : List String) : Except Diagnostic VersionState :=
  match active.getLast? with
  | none => .error { summary := "The endpoint reports no supported API version" }
  | some version => do
    let matchesCondition ← assessCondition config version
    return { config with
      matchesCondition
      apiVersion := .known version
      supportedVersions := .known (active.map .known) }

def lookup (client? : Option Client) (config : VersionState) : Action VersionState := do
  let client ← Action.configured client?
  let versions ← Action.attempt (.ofError "Failed to read supported API versions")
    (client.get SupportedVersions.decoder Client.versionsPath)
  match assess config (active versions) with
  | .ok state => return state
  | .error failure => Action.fail failure

/-! ## Laws -/

theorem assessCondition_eq_null_iff {config : VersionState} {version : String} {value : Value Bool}
    (h : assessCondition config version = .ok value) :
    value = .null ↔ config.condition.known? = none := by
  unfold assessCondition at h
  split at h
  · rename_i text hc
    split at h
    · simp at h
    · dsimp only at h
      split at h
      · simp at h
      · simp only [Except.ok.injEq] at h
        subst h
        simp [hc]
  · rename_i hc
    simp only [Except.ok.injEq] at h
    subst h
    cases hv : config.condition with
    | null => simp [Value.known?]
    | unknown => simp [Value.known?]
    | known text => exact absurd hv (hc text)

end CloudTenancy.Version
