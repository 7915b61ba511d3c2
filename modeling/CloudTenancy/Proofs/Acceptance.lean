import CloudTenancy.Proofs.Endpoints
import CloudTenancy.Proofs.Precedence

/-!
CloudTenancy.Proofs.Acceptance — which provider blocks are accepted in an environment.

* `Requirement` — what has to hold of the effective settings, `Requirement.Met` when it does.
* `Requirement.Fault` — the failure that tells of a requirement that is not met.
* `Settings.requirements` — all requirements in the order in which they count.
* `Settings.Follow` — settings that are what the block and the environment say.
* `Settings.Outcome` — a result that comes of meeting requirements one after the other.

Each step of the resolution asks for some of the requirements and ends as `Outcome` says; steps that
follow each other ask for the requirements of both. So the whole resolution asks for all of them and
fails with the first one that is not met.

Main statement: `accepted_exactly_when_valid`.
-/

namespace CloudTenancy

/-! ## Requirements -/

/-- What has to hold for settings to be accepted. -/
inductive Requirement
  /-- The setting is there and is not empty. -/
  | given (setting : Setting)
  /-- The address is that of a service. -/
  | endpoint
  | authType
  | certificates
  | retryTimeout
  | separator

/-- What a variable holds that is to be true, without regard to case. -/
def Settings.trueWords : List String := ["1", "true", "yes"]

def Settings.falseWords : List String := ["0", "false", "no", ""]

namespace Requirement

open Settings (effective)

variable (block : ProviderBlock) (env : Environment)

def Met : Requirement → Prop
  | given setting => ∃ text, effective block env setting = some text ∧ text ≠ ""
  | endpoint => ∃ raw url, effective block env .url = some raw ∧ Endpoint.parse raw = .ok url
  | authType => ∀ name, effective block env .authType = some name →
    name = "" ∨ name ∈ AuthType.all.map AuthType.name
  | certificates => block.allowUnverifiedSsl? = none → ∀ text, env .allowUnverifiedSsl = some text →
    ∃ word ∈ Settings.trueWords ++ Settings.falseWords,
      Settings.foldCase (Text.trim text) = word.toList
  | retryTimeout => (∀ seconds, block.maxRetryTimeout? = some seconds → 0 ≤ seconds) ∧
    (block.maxRetryTimeout? = none → ∀ text, env .maxRetryTimeout = some text →
      ∃ seconds, Text.Denotes (Text.trimChars text.toList) seconds)
  | separator => ∀ text, effective block env .importSeparator = some text → text ≠ ""

/-- The failure that tells of a requirement that is not met. -/
inductive Fault : Requirement → ConfigError → Prop
  | given (setting : Setting) : Fault (given setting) (.missing setting)
  | endpoint {raw : String} {error : EndpointError} (htext : effective block env .url = some raw)
    (herror : Endpoint.parse raw = .error error) : Fault endpoint (.invalidUrl raw error)
  | authType {name : String} (htext : effective block env .authType = some name) :
    Fault authType (.unknownAuthType name)
  | certificates {text : String} (htext : env .allowUnverifiedSsl = some text) :
    Fault certificates (.invalidBool .allowUnverifiedSsl text)
  | inBlock {seconds : Int} (hblock : block.maxRetryTimeout? = some seconds) :
    Fault retryTimeout (.invalidRetryTimeout (toString seconds))
  | inVariable {text : String} (hblock : block.maxRetryTimeout? = none)
    (htext : env .maxRetryTimeout = some text) : Fault retryTimeout (.invalidRetryTimeout text)
  | separator : Fault separator .emptySeparator

variable {block env} {requirement : Requirement} {error other : ConfigError}

/-- A requirement has one failure. -/
theorem Fault.eq (h : requirement.Fault block env error) (h' : requirement.Fault block env other) :
    error = other := by
  cases h <;> cases h' <;> simp_all

end Requirement

/-! ## What is accepted -/

/-- The texts that a login flow needs, in the order of `AuthType.needs`. -/
def Credentials.texts : Credentials → List String
  | integrated user password => [user, password]
  | token text => [text]
  | apiToken text => [text]
  | apiTokenFile path => [path]
  | serviceAccountTokenFile path => [path]

namespace Settings

def selected (block : ProviderBlock) (env : Environment) : AuthType :=
  ((effective block env .authType).bind AuthType.ofName?).getD .default

/-- All requirements, in the order in which they count. -/
def requirements (block : ProviderBlock) (env : Environment) : List Requirement :=
  .given .url :: .endpoint :: .authType ::
    ((selected block env).needs.map .given ++ [.certificates, .retryTimeout, .separator])

/-- The settings are what the block and the environment say. -/
structure Follow (block : ProviderBlock) (env : Environment) (settings : Settings) : Prop where
  url : ∃ raw, effective block env .url = some raw ∧ Endpoint.parse raw = .ok settings.url
  org : settings.org = ((effective block env .org).filter (!·.isEmpty)).getD systemOrg
  authType : settings.credentials.authType = selected block env
  credentials :
    settings.credentials.texts.map some = (selected block env).needs.map (effective block env)
  sslInBlock : ∀ allow, block.allowUnverifiedSsl? = some allow → settings.allowUnverifiedSsl = allow
  sslInVariable : block.allowUnverifiedSsl? = none →
    (settings.allowUnverifiedSsl = true ↔ ∃ text, env .allowUnverifiedSsl = some text ∧
      ∃ word ∈ trueWords, foldCase (Text.trim text) = word.toList)
  timeoutInBlock : ∀ seconds, block.maxRetryTimeout? = some seconds →
    (settings.maxRetryTimeout : Int) = seconds
  timeoutInVariable : block.maxRetryTimeout? = none → ∀ text, env .maxRetryTimeout = some text →
    Text.Denotes (Text.trimChars text.toList) settings.maxRetryTimeout
  timeoutByDefault : block.maxRetryTimeout? = none → env .maxRetryTimeout = none →
    settings.maxRetryTimeout = defaultRetryTimeout
  separator :
    settings.importSeparator = (effective block env .importSeparator).getD defaultSeparator

end Settings

/-! ## Requirements one after the other -/

namespace Settings

variable {α β : Type} {block : ProviderBlock} {env : Environment} {P : α → Prop}
  {asked : List Requirement} {result : Except ConfigError α}

/-- The result of meeting requirements one after the other: a value with a property if all of them
are met, or else the failure of the first one that is not. -/
inductive Outcome (block : ProviderBlock) (env : Environment) (P : α → Prop)
    (asked : List Requirement) : Except ConfigError α → Prop
  | accepted {a : α} (hmet : ∀ requirement ∈ asked, requirement.Met block env) (ha : P a) :
    Outcome block env P asked (.ok a)
  | refused (before : List Requirement) {after : List Requirement} {requirement : Requirement}
    {error : ConfigError}
    (hsplit : asked = before ++ requirement :: after)
    (hmet : ∀ other ∈ before, other.Met block env) (hunmet : ¬requirement.Met block env)
    (hfault : requirement.Fault block env error) : Outcome block env P asked (.error error)

/-- Steps that follow each other ask for the requirements of both. -/
theorem Outcome.bind (more : List Requirement) {Q : β → Prop} {next : α → Except ConfigError β}
    (h : Outcome block env P asked result)
    (hnext : ∀ a, P a → Outcome block env Q more (next a)) :
    Outcome block env Q (asked ++ more) (result >>= next) := by
  cases h with
  | accepted hmet ha =>
    rename_i a
    show Outcome block env Q (asked ++ more) (next a)
    generalize hresult : next a = outcome
    have hend := hnext a ha
    rw [hresult] at hend
    cases hend with
    | accepted hmore hb =>
      exact .accepted (fun requirement hmem => (List.mem_append.1 hmem).elim (hmet _) (hmore _)) hb
    | refused before hsplit hbefore hunmet hfault =>
      rename_i after requirement error
      refine .refused (asked ++ before) (by rw [hsplit, List.append_assoc]) ?_ hunmet hfault
      exact fun other hmem => (List.mem_append.1 hmem).elim (hmet _) (hbefore _)
  | refused before hsplit hmet hunmet hfault =>
    exact .refused _ (by rw [hsplit, List.append_assoc, List.cons_append]) hmet hunmet hfault

theorem Outcome.map {Q : β → Prop} {f : α → β} (h : Outcome block env P asked result)
    (hf : ∀ a, P a → Q (f a)) :
    Outcome block env Q asked (result >>= fun a => .ok (f a)) := by
  cases h with
  | accepted hmet ha => exact .accepted hmet (hf _ ha)
  | refused before hsplit hmet hunmet hfault => exact .refused before hsplit hmet hunmet hfault

/-- The first requirement that is not met is one and the same. -/
theorem first_unmet_unique {before before' after after' : List Requirement}
    {requirement requirement' : Requirement}
    (h : before ++ requirement :: after = before' ++ requirement' :: after')
    (hmet : ∀ other ∈ before, other.Met block env) (hunmet : ¬requirement.Met block env)
    (hmet' : ∀ other ∈ before', other.Met block env) (hunmet' : ¬requirement'.Met block env) :
    requirement = requirement' := by
  induction before generalizing before' with
  | nil =>
    cases before' with
    | nil => exact (List.cons.inj h).1
    | cons other before' =>
      cases (List.cons.inj h).1
      exact absurd (hmet' _ List.mem_cons_self) hunmet
  | cons other before ih =>
    cases before' with
    | nil =>
      cases (List.cons.inj h).1
      exact absurd (hmet _ List.mem_cons_self) hunmet'
    | cons other' before' =>
      exact ih (List.cons.inj h).2 (fun q hmem => hmet q (List.mem_cons_of_mem _ hmem))
        (fun q hmem => hmet' q (List.mem_cons_of_mem _ hmem))

/-- A configuration is accepted exactly when everything asked of it is met. -/
theorem Outcome.exists_ok_iff (h : Outcome block env P asked result) :
    (∃ a, result = .ok a) ↔ ∀ requirement ∈ asked, requirement.Met block env := by
  cases h with
  | accepted hmet => simpa using hmet
  | refused before hsplit hmet hunmet hfault =>
    rename_i after requirement error
    constructor
    · rintro ⟨a, ha⟩
      cases ha
    · intro hall
      exact absurd (hall requirement (by rw [hsplit]; simp)) hunmet

/-- The error of a refused configuration is that of the first requirement that is not met. -/
theorem Outcome.error_iff (h : Outcome block env P asked result) (error : ConfigError) :
    result = .error error ↔
      ∃ before requirement after, asked = before ++ requirement :: after ∧
        (∀ other ∈ before, other.Met block env) ∧ ¬requirement.Met block env ∧
        requirement.Fault block env error := by
  cases h with
  | accepted hmet =>
    constructor
    · intro hresult
      cases hresult
    · rintro ⟨before, requirement, after, rfl, -, hunmet, -⟩
      exact absurd (hmet requirement (by simp)) hunmet
  | refused before hsplit hmet hunmet hfault =>
    rename_i after requirement first
    constructor
    · intro hresult
      cases hresult
      exact ⟨before, requirement, after, hsplit, hmet, hunmet, hfault⟩
    · rintro ⟨before', requirement', after', hsplit', hmet', hunmet', hfault'⟩
      have hsame := first_unmet_unique (hsplit.symm.trans hsplit') hmet hunmet hmet' hunmet'
      cases hsame
      rw [hfault.eq hfault']

theorem Outcome.of_ok {a : α} (h : Outcome block env P asked (.ok a)) : P a := by
  cases h with
  | accepted _ ha => exact ha

/-- A single requirement that is met. -/
theorem Outcome.met {requirement : Requirement} {a : α} (hmet : requirement.Met block env)
    (ha : P a) : Outcome block env P [requirement] (.ok a) :=
  .accepted (fun _ hmem => List.mem_singleton.1 hmem ▸ hmet) ha

/-- A single requirement that is not met. -/
theorem Outcome.unmet {requirement : Requirement} {error : ConfigError}
    (hunmet : ¬requirement.Met block env) (hfault : requirement.Fault block env error) :
    Outcome block env P [requirement] (.error error) :=
  .refused [] rfl (by simp) hunmet hfault

/-! ## The steps -/

theorem filter_of_ne_empty {text : String} (h : text ≠ "") :
    (some text).filter (!·.isEmpty) = some text := by
  simpa [Option.filter_eq_some_iff] using h

variable (block env)

/-- Asking for a setting that must be given succeeds with its effective text. -/
theorem outcome_need {setting : Setting} {value? : Option String}
    (h : block.text? setting = value?) :
    Outcome block env (fun text => effective block env setting = some text ∧ text ≠ "")
      [.given setting] (need env setting value?) := by
  rw [← @need_effective block env setting value? h, need, pick, Option.none_or]
  cases htext : effective block env setting with
  | none =>
    refine .unmet ?_ (.given setting)
    rintro ⟨text, hother, -⟩
    cases htext.symm.trans hother
  | some text =>
    by_cases hempty : text = ""
    · subst hempty
      refine .unmet ?_ (.given setting)
      rintro ⟨text, hother, hne⟩
      cases htext.symm.trans hother
      exact hne rfl
    · rw [filter_of_ne_empty hempty]
      exact .met ⟨text, htext, hempty⟩ ⟨rfl, hempty⟩

/-- The address must be given first and be an endpoint second. -/
theorem outcome_resolveUrl :
    Outcome block env
      (fun url => ∃ raw, effective block env .url = some raw ∧ Endpoint.parse raw = .ok url)
      [.given .url, .endpoint] (resolveUrl block env) := by
  refine Outcome.bind [.endpoint] (outcome_need block env rfl) ?_
  rintro raw ⟨htext, -⟩
  cases hparse : Endpoint.parse raw with
  | error error =>
    refine .unmet ?_ (.endpoint htext hparse)
    rintro ⟨other, url, hother, hurl⟩
    cases htext.symm.trans hother
    cases hparse.symm.trans hurl
  | ok url => exact .met ⟨raw, url, htext, hparse⟩ ⟨raw, htext, hparse⟩

theorem outcome_resolveAuthType :
    Outcome block env (· = selected block env) [.authType] (resolveAuthType block env) := by
  rw [← resolveAuthType_effective, resolveAuthType, pick, Option.none_or]
  cases htext : effective block env .authType with
  | none =>
    refine .met ?_ ?_
    · intro name hname
      cases htext.symm.trans hname
    · rw [selected, htext]
      rfl
  | some name =>
    by_cases hempty : name = ""
    · subst hempty
      refine .met ?_ ?_
      · intro name hname
        cases htext.symm.trans hname
        exact .inl rfl
      · rw [selected, htext]
        rfl
    · rw [filter_of_ne_empty hempty]
      dsimp only
      cases htype : AuthType.ofName? name with
      | none =>
        refine .unmet ?_ (.authType htext)
        intro hmet
        rcases hmet name htext with hnone | hname
        · exact hempty hnone
        · obtain ⟨type, -, rfl⟩ := List.mem_map.1 hname
          rw [AuthType.ofName?_name] at htype
          cases htype
      | some type =>
        refine .met ?_ ?_
        · intro other hother
          cases htext.symm.trans hother
          have hname := AuthType.name_of_ofName? htype
          exact .inr (List.mem_map.2 ⟨type, List.mem_of_find?_eq_some htype, hname⟩)
        · rw [selected, htext, Option.bind_some, htype]
          rfl

/-- Each login asks for the texts of its own flow, in their order, and for no others. -/
theorem outcome_resolveCredentials (type : AuthType) :
    Outcome block env
      (fun credentials => credentials.authType = type ∧
        credentials.texts.map some = type.needs.map (effective block env) ∧
        ∀ text ∈ credentials.texts, text ≠ "")
      (type.needs.map .given) (resolveCredentials block env type) := by
  cases type with
  | integrated =>
    refine Outcome.bind [.given .password] (outcome_need block env rfl) ?_
    rintro user ⟨huser, huserGiven⟩
    refine Outcome.map (outcome_need block env rfl) ?_
    rintro password ⟨hpassword, hpasswordGiven⟩
    exact ⟨rfl, by simp [Credentials.texts, AuthType.needs, huser, hpassword],
      by simp [Credentials.texts, huserGiven, hpasswordGiven]⟩
  | token | apiToken | apiTokenFile | serviceAccountTokenFile =>
    refine Outcome.map (outcome_need block env rfl) ?_
    rintro text ⟨htext, hgiven⟩
    exact ⟨rfl, by simp [Credentials.texts, AuthType.needs, htext],
      by simp [Credentials.texts, hgiven]⟩

theorem exists_word_iff {words : List String} {cs : List Char} :
    (∃ word ∈ words, cs = word.toList) ↔ cs ∈ words.map String.toList := by
  simp [eq_comm]

/-- A text is no Boolean exactly when it is none of the words, blanks and case aside. -/
theorem parseBool?_eq_none_iff {text : String} :
    parseBool? text = none ↔
      ¬∃ word ∈ trueWords ++ falseWords, foldCase (Text.trim text) = word.toList := by
  rw [exists_word_iff, List.map_append, List.mem_append, not_or]
  show (if foldCase (Text.trim text) ∈ trueWords.map String.toList then some true
    else if foldCase (Text.trim text) ∈ falseWords.map String.toList then some false
    else none) = none ↔ _
  split
  · simp [*]
  · split <;> simp [*]

theorem parseBool?_eq_true_iff {text : String} :
    parseBool? text = some true ↔ ∃ word ∈ trueWords, foldCase (Text.trim text) = word.toList := by
  rw [exists_word_iff]
  show (if foldCase (Text.trim text) ∈ trueWords.map String.toList then some true
    else if foldCase (Text.trim text) ∈ falseWords.map String.toList then some false
    else none) = some true ↔ _
  split
  · simp [*]
  · split <;> simp [*]

/-- The block's own value is taken as it is; only a text from the environment has to be read. -/
theorem outcome_resolveSsl :
    Outcome block env
      (fun allow => (∀ given, block.allowUnverifiedSsl? = some given → allow = given) ∧
        (block.allowUnverifiedSsl? = none →
          (allow = true ↔ ∃ text, env .allowUnverifiedSsl = some text ∧
            ∃ word ∈ trueWords, foldCase (Text.trim text) = word.toList)))
      [.certificates] (resolveSsl block env) := by
  unfold resolveSsl
  cases hblock : block.allowUnverifiedSsl? with
  | some allow => exact .met (by simp [Requirement.Met, hblock]) (by simp)
  | none =>
    cases htext : env .allowUnverifiedSsl with
    | none => exact .met (by simp [Requirement.Met, htext]) (by simp)
    | some text =>
      dsimp only
      cases hparse : parseBool? text with
      | none =>
        refine .unmet ?_ (.certificates htext)
        exact fun hmet => parseBool?_eq_none_iff.1 hparse (hmet hblock text htext)
      | some allow =>
        refine .met ?_ ?_
        · intro _ other hother
          cases htext.symm.trans hother
          refine Decidable.byContradiction fun hno => ?_
          rw [parseBool?_eq_none_iff.2 hno] at hparse
          cases hparse
        · simp [← parseBool?_eq_true_iff, hparse]

/-- A timeout of the block has to be non-negative; one of the environment has to be a number. -/
theorem outcome_resolveRetryTimeout :
    Outcome block env
      (fun timeout : Nat => (∀ seconds, block.maxRetryTimeout? = some seconds →
          (timeout : Int) = seconds) ∧
        (block.maxRetryTimeout? = none → ∀ text, env .maxRetryTimeout = some text →
          Text.Denotes (Text.trimChars text.toList) timeout) ∧
        (block.maxRetryTimeout? = none → env .maxRetryTimeout = none →
          timeout = defaultRetryTimeout))
      [.retryTimeout] (resolveRetryTimeout block env) := by
  unfold resolveRetryTimeout
  cases hblock : block.maxRetryTimeout? with
  | some seconds =>
    cases seconds with
    | ofNat seconds => exact .met (by simp [Requirement.Met, hblock]) (by simp)
    | negSucc n =>
      refine .unmet ?_ (.inBlock hblock)
      intro hmet
      exact absurd (hmet.1 _ hblock) (by simp)
  | none =>
    cases htext : env .maxRetryTimeout with
    | none => exact .met (by simp [Requirement.Met, hblock, htext]) (by simp)
    | some text =>
      dsimp only
      cases hparse : Text.parseNatural? (Text.trimChars text.toList) with
      | none =>
        refine .unmet ?_ (.inVariable hblock htext)
        intro hmet
        obtain ⟨seconds, hdenotes⟩ := hmet.2 hblock text htext
        rw [Text.parseNatural?_eq_some_iff.2 hdenotes] at hparse
        cases hparse
      | some seconds =>
        have hdenotes := Text.parseNatural?_eq_some_iff.1 hparse
        exact .met (by simpa [Requirement.Met, hblock, htext] using Exists.intro seconds hdenotes)
          (by simpa using hdenotes)

theorem outcome_resolveSeparator :
    Outcome block env
      (fun separator =>
        separator = (effective block env .importSeparator).getD defaultSeparator ∧ separator ≠ "")
      [.separator] (resolveSeparator block env) := by
  rw [← resolveSeparator_effective, resolveSeparator]
  cases htext : effective block env .importSeparator with
  | none => exact .met (by simp [Requirement.Met, htext]) (by decide)
  | some text =>
    by_cases hempty : text = ""
    · subst hempty
      exact .unmet (fun hmet => hmet "" htext rfl) .separator
    · simp only [Option.none_or, Option.getD_some, String.isEmpty_iff, if_neg hempty]
      exact .met (by simpa [Requirement.Met, htext] using hempty) (by simpa using hempty)

/-- The whole resolution asks for all requirements. -/
theorem outcome_resolve :
    Outcome block env
      (fun settings => Follow block env settings ∧
        (∀ text ∈ settings.credentials.texts, text ≠ "") ∧ settings.importSeparator ≠ "")
      (requirements block env) (resolve block env) := by
  refine Outcome.bind (.authType :: ((selected block env).needs.map .given ++
    [.certificates, .retryTimeout, .separator])) (outcome_resolveUrl block env) ?_
  intro url hurl
  refine Outcome.bind ((selected block env).needs.map .given ++
    [.certificates, .retryTimeout, .separator]) (outcome_resolveAuthType block env) ?_
  rintro type rfl
  refine Outcome.bind _ (outcome_resolveCredentials block env (selected block env)) ?_
  rintro credentials ⟨htype, htexts, hgiven⟩
  refine Outcome.bind [.retryTimeout, .separator] (outcome_resolveSsl block env) ?_
  rintro allow ⟨hallowBlock, hallowVariable⟩
  refine Outcome.bind [.separator] (outcome_resolveRetryTimeout block env) ?_
  rintro timeout ⟨hinBlock, hinVariable, hdefault⟩
  refine Outcome.map (outcome_resolveSeparator block env) ?_
  rintro separator ⟨hseparator, hne⟩
  refine ⟨?_, hgiven, hne⟩
  exact {
    url := hurl
    org := by
      rw [effective]
      rfl
    authType := htype
    credentials := htexts
    sslInBlock := hallowBlock
    sslInVariable := hallowVariable
    timeoutInBlock := hinBlock
    timeoutInVariable := hinVariable
    timeoutByDefault := hdefault
    separator := hseparator }

variable {block env} {settings : Settings}

/-- The address of accepted settings is a web address whose path ends in a slash. -/
theorem Follow.url_isWeb (h : Follow block env settings) :
    Url.IsWeb settings.url.scheme ∧ ∃ front, settings.url.path.text = front ++ "/" := by
  obtain ⟨raw, -, hparse⟩ := h.url
  obtain ⟨front, hpath⟩ := Endpoint.exists_path_of_parse hparse
  refine ⟨Endpoint.scheme_of_parse hparse, (Path.segments front).text, ?_⟩
  rw [hpath, ← String.toList_inj, String.toList_append, Path.toList_text_segments,
    Path.toList_text_segments, Path.chars_append]
  rfl

theorem Follow.org_ne_empty (h : Follow block env settings) : settings.org ≠ "" := by
  rw [h.org]
  cases hpick : (effective block env .org).filter (!·.isEmpty) with
  | none => decide
  | some org => simpa using (Option.filter_eq_some_iff.1 hpick).2

/-- **What is accepted.** Exactly the blocks that meet all requirements in their environment. Any
other one is refused for the first requirement that is not met. -/
theorem accepted_exactly_when_valid (block : ProviderBlock) (env : Environment) :
    ((∃ settings, resolve block env = .ok settings) ↔
      ∀ requirement ∈ requirements block env, requirement.Met block env) ∧
    (∀ error, resolve block env = .error error ↔
      ∃ before requirement after, requirements block env = before ++ requirement :: after ∧
        (∀ other ∈ before, other.Met block env) ∧ ¬requirement.Met block env ∧
        requirement.Fault block env error) ∧
    ∀ settings, resolve block env = .ok settings →
      Follow block env settings ∧ Url.IsWeb settings.url.scheme ∧
      (∃ front, settings.url.path.text = front ++ "/") ∧ settings.org ≠ "" ∧
      (∀ text ∈ settings.credentials.texts, text ≠ "") ∧ settings.importSeparator ≠ "" := by
  have houtcome := outcome_resolve block env
  refine ⟨houtcome.exists_ok_iff, houtcome.error_iff, ?_⟩
  intro settings hsettings
  rw [hsettings] at houtcome
  obtain ⟨hfollow, hcredentials, hseparator⟩ := houtcome.of_ok
  obtain ⟨hweb, hpath⟩ := hfollow.url_isWeb
  exact ⟨hfollow, hweb, hpath, hfollow.org_ne_empty, hcredentials, hseparator⟩

end Settings

end CloudTenancy
