import CloudTenancy.Proofs.Acceptance

/-!
CloudTenancy.Proofs.EmptyVariables — variables that hold the empty text and variables that are not
set.

* `Environment.withoutEmpty` — the environment in which chosen variables are not set if they are
  empty.
* `Settings.EmptyTimeout` — the settings are refused because the variable of the retry timeout is
  empty.

Variables are looked up in three ways. A text is picked and dropped if it is empty; a boolean that
is empty is false, which is its default; a number that is empty is no numeral and is refused. So the
two environments give the same result unless the number is what the resolution ends at. The
separator is left out of the choice: an empty one is refused and says so.

Main statement: `empty_variables_count_as_unset`.
-/

namespace CloudTenancy

/-- The environment in which the chosen variables are not set if they hold the empty text. -/
def Environment.withoutEmpty (env : Environment) (chosen : Setting → Bool) : Environment :=
  fun setting => if chosen setting && env setting = some "" then none else env setting

namespace Settings

variable {block : ProviderBlock} {env : Environment} {chosen : Setting → Bool} {setting : Setting}

theorem withoutEmpty_of_not_chosen (h : chosen setting = false) :
    env.withoutEmpty chosen setting = env setting := by
  rw [Environment.withoutEmpty, h]
  rfl

/-- A variable that is not empty stays. -/
theorem withoutEmpty_of_not_empty (h : env setting ≠ some "") :
    env.withoutEmpty chosen setting = env setting := by
  simp [Environment.withoutEmpty, h]

/-- A chosen variable that is empty goes. -/
theorem withoutEmpty_of_empty (hchosen : chosen setting = true) (h : env setting = some "") :
    env.withoutEmpty chosen setting = none := by
  simp [Environment.withoutEmpty, hchosen, h]

/-- A variable stays as it is, or it was empty and is not set any more. -/
theorem withoutEmpty_cases (env : Environment) (chosen : Setting → Bool) (setting : Setting) :
    env.withoutEmpty chosen setting = env setting ∨
      chosen setting = true ∧ env setting = some "" ∧ env.withoutEmpty chosen setting = none := by
  cases hchosen : chosen setting with
  | false => exact .inl (withoutEmpty_of_not_chosen hchosen)
  | true =>
    by_cases hempty : env setting = some ""
    · exact .inr ⟨rfl, hempty, withoutEmpty_of_empty hchosen hempty⟩
    · exact .inl (withoutEmpty_of_not_empty hempty)

/-! ## The three ways to look up a variable -/

/-- A text that is empty is not picked. -/
theorem pick_withoutEmpty (value? : Option String) :
    pick (env.withoutEmpty chosen) setting value? = pick env setting value? := by
  rcases withoutEmpty_cases env chosen setting with hsame | ⟨-, hempty, hunset⟩
  · rw [pick, pick, hsame]
  · rw [pick, pick, hempty, hunset]
    cases value? with
    | none => rfl
    | some value => rfl

/-- A setting that must be given takes an empty variable as unset. -/
theorem need_withoutEmpty (value? : Option String) :
    need (env.withoutEmpty chosen) setting value? = need env setting value? := by
  rw [need, need, pick_withoutEmpty]

theorem resolveUrl_withoutEmpty :
    resolveUrl block (env.withoutEmpty chosen) = resolveUrl block env := by
  rw [resolveUrl, resolveUrl, need_withoutEmpty]

theorem resolveAuthType_withoutEmpty :
    resolveAuthType block (env.withoutEmpty chosen) = resolveAuthType block env := by
  rw [resolveAuthType, resolveAuthType, pick_withoutEmpty]

/-- So does every text that a login needs. -/
theorem resolveCredentials_withoutEmpty (type : AuthType) :
    resolveCredentials block (env.withoutEmpty chosen) type =
      resolveCredentials block env type := by
  cases type <;> simp only [resolveCredentials, need_withoutEmpty]

/-- A boolean that is empty is false, as it is when it is not set. -/
theorem resolveSsl_withoutEmpty :
    resolveSsl block (env.withoutEmpty chosen) = resolveSsl block env := by
  unfold resolveSsl
  rcases withoutEmpty_cases env chosen .allowUnverifiedSsl with hsame | ⟨-, hempty, hunset⟩
  · rw [hsame]
  · have hfalse : parseBool? "" = some false := by decide
    rw [hempty, hunset]
    dsimp only
    rw [hfalse]

/-- A number is the same unless its variable is empty and is the one that is asked. -/
theorem resolveRetryTimeout_withoutEmpty
    (h : ¬(chosen .maxRetryTimeout = true ∧ block.maxRetryTimeout? = none ∧
      env .maxRetryTimeout = some "")) :
    resolveRetryTimeout block (env.withoutEmpty chosen) = resolveRetryTimeout block env := by
  unfold resolveRetryTimeout
  cases hblock : block.maxRetryTimeout? with
  | some seconds => cases seconds <;> rfl
  | none =>
    rcases withoutEmpty_cases env chosen .maxRetryTimeout with hsame | ⟨hchosen, hempty, -⟩
    · rw [hsame]
    · exact absurd ⟨hchosen, hblock, hempty⟩ h

/-- A number that is empty is refused. -/
theorem resolveRetryTimeout_of_empty (hblock : block.maxRetryTimeout? = none)
    (hempty : env .maxRetryTimeout = some "") :
    resolveRetryTimeout block env = .error (.invalidRetryTimeout "") := by
  have hnone : Text.parseNatural? (Text.trimChars "".toList) = none := by decide
  simp only [resolveRetryTimeout, hblock, hempty, hnone]

/-- The separator tells an empty variable from an unset one, and stays out of the choice. -/
theorem resolveSeparator_withoutEmpty (h : chosen .importSeparator = false) :
    resolveSeparator block (env.withoutEmpty chosen) = resolveSeparator block env := by
  rw [resolveSeparator, resolveSeparator, withoutEmpty_of_not_chosen h]

/-! ## Refused for an empty number -/

def requirementsInFront (block : ProviderBlock) (env : Environment) : List Requirement :=
  .given .url :: .endpoint :: .authType ::
    ((selected block env).needs.map .given ++ [.certificates])

/-- The timeout and the separator are asked for last. -/
theorem requirements_eq (block : ProviderBlock) (env : Environment) :
    requirements block env = requirementsInFront block env ++ [.retryTimeout, .separator] := by
  simp [requirements, requirementsInFront]

/-- The settings are refused because the variable of the retry timeout is empty: it is the one that
is asked, and all that is asked for before it is in order. -/
structure EmptyTimeout (block : ProviderBlock) (env : Environment) : Prop where
  inBlock : block.maxRetryTimeout? = none
  inVariable : env .maxRetryTimeout = some ""
  front : ∀ requirement ∈ requirementsInFront block env, requirement.Met block env

theorem toString_int_ne_empty (n : Int) : toString n ≠ "" := by
  cases n with
  | ofNat n => exact Nat.repr_ne_empty
  | negSucc n =>
    intro h
    have hlength := congrArg String.length h
    rw [Int.toString_eq_repr, Int.repr, String.length_append] at hlength
    simp at hlength

/-- The only failure that shows an empty number is that of the variable. -/
theorem fault_of_empty {requirement : Requirement}
    (h : requirement.Fault block env (.invalidRetryTimeout "")) :
    requirement = .retryTimeout ∧ block.maxRetryTimeout? = none ∧
      env .maxRetryTimeout = some "" := by
  generalize herror : ConfigError.invalidRetryTimeout "" = error at h
  cases h with
  | inBlock hblock =>
    exact absurd (ConfigError.invalidRetryTimeout.inj herror).symm (toString_int_ne_empty _)
  | inVariable hblock htext =>
    cases herror
    exact ⟨rfl, hblock, htext⟩
  | _ => cases herror

/-- The retry timeout is asked for once, so what stands before it is known. -/
theorem front_of_split {before after : List Requirement}
    (h : requirements block env = before ++ .retryTimeout :: after) :
    before = requirementsInFront block env := by
  rw [requirements_eq] at h
  rcases List.append_eq_append_iff.1 h with ⟨gap, hbefore, hafter⟩ | ⟨gap, hfront, hafter⟩
  · cases gap with
    | nil => rw [hbefore, List.append_nil]
    | cons requirement gap =>
      have hlast : Requirement.retryTimeout ∈ [Requirement.separator] := by
        rw [(List.cons.inj hafter).2]
        simp
      simp at hlast
  · cases gap with
    | nil => rw [hfront, List.append_nil]
    | cons requirement gap =>
      have hmem : Requirement.retryTimeout ∈ requirementsInFront block env := by
        rw [hfront, (List.cons.inj hafter).1]
        simp
      simp [requirementsInFront] at hmem

/-- An empty timeout is reported exactly where nothing in front of it fails. -/
theorem resolve_eq_emptyTimeout_iff :
    resolve block env = .error (.invalidRetryTimeout "") ↔ EmptyTimeout block env := by
  rw [(outcome_resolve block env).error_iff]
  constructor
  · rintro ⟨before, requirement, after, hsplit, hmet, -, hfault⟩
    obtain ⟨rfl, hblock, hempty⟩ := fault_of_empty hfault
    exact ⟨hblock, hempty, front_of_split hsplit ▸ hmet⟩
  · intro h
    refine ⟨_, .retryTimeout, [.separator], requirements_eq block env, h.front, ?_,
      .inVariable h.inBlock h.inVariable⟩
    intro hmet
    obtain ⟨seconds, hdenotes⟩ := hmet.2 h.inBlock "" h.inVariable
    have hnone : Text.parseNatural? (Text.trimChars "".toList) = none := by decide
    rw [Text.parseNatural?_eq_some_iff.2 hdenotes] at hnone
    cases hnone

/-! ## The whole resolution -/

/-- The steps in front of the retry timeout. What they leave open are the timeout and the
separator. -/
def resolveFront (block : ProviderBlock) (env : Environment) :
    Except ConfigError (Nat → String → Settings) := do
  let url ← resolveUrl block env
  let type ← resolveAuthType block env
  let credentials ← resolveCredentials block env type
  let allowUnverifiedSsl ← resolveSsl block env
  return fun maxRetryTimeout importSeparator =>
    { url, org := (pick env .org block.org?).getD systemOrg, credentials, allowUnverifiedSsl,
      maxRetryTimeout, importSeparator }

/-- The timeout is read behind everything that takes an empty variable as unset. -/
theorem resolve_eq_front (block : ProviderBlock) (env : Environment) :
    resolve block env = resolveFront block env >>= fun settings => do
      let maxRetryTimeout ← resolveRetryTimeout block env
      let importSeparator ← resolveSeparator block env
      return settings maxRetryTimeout importSeparator := by
  simp only [resolve, resolveFront, bind_assoc, pure_bind]

theorem resolveFront_withoutEmpty :
    resolveFront block (env.withoutEmpty chosen) = resolveFront block env := by
  simp only [resolveFront, resolveUrl_withoutEmpty, resolveAuthType_withoutEmpty,
    resolveCredentials_withoutEmpty, resolveSsl_withoutEmpty, pick_withoutEmpty]

/-- The result is the same if the timeout is, and also if the timeout is refused but the resolution
has ended before. -/
theorem resolve_withoutEmpty (hseparator : chosen .importSeparator = false)
    (h : resolveRetryTimeout block (env.withoutEmpty chosen) = resolveRetryTimeout block env ∨
      ∃ error, resolveRetryTimeout block env = .error error ∧ resolve block env ≠ .error error) :
    resolve block (env.withoutEmpty chosen) = resolve block env := by
  rw [resolve_eq_front, resolve_eq_front, resolveFront_withoutEmpty,
    resolveSeparator_withoutEmpty hseparator]
  rcases h with hsame | ⟨error, herror, hother⟩
  · rw [hsame]
  · rw [resolve_eq_front, herror] at hother
    cases hfront : resolveFront block env with
    | error first => rfl
    | ok settings =>
      rw [hfront] at hother
      exact absurd rfl hother

/-- **Empty variables count as unset**, whichever of them are looked at, the separator apart. The
one exception is the retry timeout: if its variable is empty and is asked for, then the settings are
refused, and they are not refused for this when the variable is not set. -/
theorem empty_variables_count_as_unset (block : ProviderBlock) (env : Environment)
    (chosen : Setting → Bool) (hseparator : chosen .importSeparator = false) :
    (resolve block (env.withoutEmpty chosen) = resolve block env ↔
      ¬(chosen .maxRetryTimeout = true ∧ EmptyTimeout block env)) ∧
    (resolve block env = .error (.invalidRetryTimeout "") ↔ EmptyTimeout block env) := by
  refine ⟨⟨?_, ?_⟩, resolve_eq_emptyTimeout_iff⟩
  · rintro hsame ⟨hchosen, hempty⟩
    rw [resolve_eq_emptyTimeout_iff.2 hempty] at hsame
    have hstill := (resolve_eq_emptyTimeout_iff.1 hsame).inVariable
    rw [withoutEmpty_of_empty hchosen hempty.inVariable] at hstill
    cases hstill
  · intro h
    refine resolve_withoutEmpty hseparator ?_
    by_cases hasked : chosen .maxRetryTimeout = true ∧ block.maxRetryTimeout? = none ∧
        env .maxRetryTimeout = some ""
    · obtain ⟨hchosen, hblock, hempty⟩ := hasked
      refine .inr ⟨_, resolveRetryTimeout_of_empty hblock hempty, ?_⟩
      exact fun herror => h ⟨hchosen, resolve_eq_emptyTimeout_iff.1 herror⟩
    · exact .inl (resolveRetryTimeout_withoutEmpty hasked)

/-! ## A login by name -/

def addressBlock (timeout? : Option Int) : ProviderBlock where
  url? := some "https://gw.example.com"
  maxRetryTimeout? := timeout?

/-- A user's name and password. All other variables are set and empty, except for that of the
separator. -/
def blankEnv : Environment
  | .user => some "admin"
  | .password => some "secret"
  | .importSeparator => none
  | _ => some ""

def allButSeparator : Setting → Bool := (· ≠ .importSeparator)

theorem empty_variables_count_as_unset_of_login :
    allButSeparator .importSeparator = false ∧ blankEnv.withoutEmpty allButSeparator .org = none ∧
    resolve (addressBlock (some 5)) (blankEnv.withoutEmpty allButSeparator) =
      resolve (addressBlock (some 5)) blankEnv ∧
    ∃ settings, resolve (addressBlock (some 5)) blankEnv = .ok settings := by
  have hseparator : allButSeparator .importSeparator = false := rfl
  obtain ⟨hsame, -⟩ :=
    empty_variables_count_as_unset (addressBlock (some 5)) blankEnv allButSeparator hseparator
  refine ⟨hseparator, rfl, hsame.2 ?_, _, rfl⟩
  rintro ⟨-, hempty⟩
  cases hempty.inBlock

/-- Without a retry timeout in the block the empty variable is refused. If it were not set, the
default would hold. -/
theorem empty_timeout_is_refused :
    resolve (addressBlock none) blankEnv = .error (.invalidRetryTimeout "") ∧
    ∃ settings, resolve (addressBlock none) (blankEnv.withoutEmpty allButSeparator) = .ok settings ∧
      settings.maxRetryTimeout = defaultRetryTimeout :=
  ⟨rfl, _, rfl, rfl⟩

end Settings

end CloudTenancy
