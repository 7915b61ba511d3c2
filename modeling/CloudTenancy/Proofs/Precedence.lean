import CloudTenancy.Config.Resolve
import CloudTenancy.Proofs.ReadRecords

/-!
CloudTenancy.Proofs.Precedence — the provider block and the environment say the same in two places.

* `ProviderBlock.text?` — an attribute as its variable would hold it.
* `ProviderBlock.without`, `Environment.taking` — attributes moved from the block to the variables.
* `Settings.effective` — the text of each setting, from the block or else from its variable.
* `Settings.IsForeign` — the settings that only other login flows than the one in effect need.

The effective texts are an environment themselves, and an empty block in this environment resolves
as the block does in its own, whether a setting is a text, a boolean or a number. So nothing but the
effective texts counts, and of those only the ones that the login flow in effect needs.

Main statement: `resolve_depends_on_effective_settings`.
-/

namespace CloudTenancy

/-! ## Attributes as texts -/

namespace ProviderBlock

/-- An attribute as its variable would hold it: numbers in decimal, booleans as `true` and
`false`. -/
def text? (block : ProviderBlock) : Setting → Option String
  | .url => block.url?
  | .user => block.user?
  | .password => block.password?
  | .org => block.org?
  | .authType => block.authType?
  | .token => block.token?
  | .apiToken => block.apiToken?
  | .apiTokenFile => block.apiTokenFile?
  | .serviceAccountTokenFile => block.serviceAccountTokenFile?
  | .allowUnverifiedSsl => block.allowUnverifiedSsl?.map toString
  | .maxRetryTimeout => block.maxRetryTimeout?.map toString
  | .importSeparator => block.importSeparator?

def without (block : ProviderBlock) (moved : Setting → Bool) : ProviderBlock where
  url? := if moved .url then none else block.url?
  user? := if moved .user then none else block.user?
  password? := if moved .password then none else block.password?
  org? := if moved .org then none else block.org?
  authType? := if moved .authType then none else block.authType?
  token? := if moved .token then none else block.token?
  apiToken? := if moved .apiToken then none else block.apiToken?
  apiTokenFile? := if moved .apiTokenFile then none else block.apiTokenFile?
  serviceAccountTokenFile? :=
    if moved .serviceAccountTokenFile then none else block.serviceAccountTokenFile?
  allowUnverifiedSsl? := if moved .allowUnverifiedSsl then none else block.allowUnverifiedSsl?
  maxRetryTimeout? := if moved .maxRetryTimeout then none else block.maxRetryTimeout?
  importSeparator? := if moved .importSeparator then none else block.importSeparator?

/-- What is moved out of a block is no longer in it, and the rest is. -/
theorem text?_without (block : ProviderBlock) (moved : Setting → Bool) (setting : Setting) :
    (block.without moved).text? setting = if moved setting then none else block.text? setting := by
  cases setting <;> simp only [text?, without] <;> split <;> rfl

/-- The retry timeout is no larger than signed numbers of 64 bits are. -/
def Fits (block : ProviderBlock) : Prop :=
  ∀ seconds ∈ block.maxRetryTimeout?, seconds < Nat.pow 2 63

theorem Fits.without {block : ProviderBlock} (h : block.Fits) (moved : Setting → Bool) :
    (block.without moved).Fits := by
  intro seconds hseconds
  have hkept : (if moved .maxRetryTimeout then none else block.maxRetryTimeout?) = some seconds :=
    hseconds
  split at hkept
  · cases hkept
  · exact h seconds hkept

end ProviderBlock

/-! ## Blocks that are read -/

namespace Json

theorem gives_any {α : Type} (decoder : Decoder α) : decoder.Gives fun _ => True :=
  fun _ _ _ _ _ => trivial

theorem gives_integer : Decoder.integer.Gives (· < (Nat.pow 2 63 : Int)) := by
  intro depth bs value rest h
  obtain ⟨isNegative, input, n, after, -, haccept⟩ := integerOf_ok h
  cases n with
  | natural n =>
    obtain ⟨hlt, rfl⟩ : n < Nat.pow 2 63 ∧ (n : Int) = value := by simpa using haccept
    exact Int.ofNat_lt.2 hlt
  | negative n =>
    obtain rfl : -(n : Int) = value := by simpa using haccept
    have hpositive : (0 : Int) < Nat.pow 2 63 := by decide
    show -(n : Int) < Nat.pow 2 63
    omega
  | double bits => cases haccept

/-- A member that may be null gives what its decoder gives, if anything. -/
theorem gives_option {α : Type} {decoder : Decoder α} {P : α → Prop} (h : decoder.Gives P) :
    (Decoder.option decoder).Gives fun value? => ∀ value ∈ value?, P value := by
  intro depth bs value? rest hread value hvalue
  unfold Decoder.option at hread
  dsimp only at hread
  split at hread
  · obtain ⟨after, -, heq⟩ := exists_of_map_ok hread
    cases heq
    cases hvalue
  · obtain ⟨read, hdecoder, heq⟩ := exists_of_map_ok hread
    cases heq
    cases hvalue
    exact h _ _ _ _ hdecoder

end Json

/-- Every block that is read fits. -/
theorem ProviderBlock.fits_of_decoder : decoder.Gives Fits := by
  have hfields : fields.Gives
      (.cons (fun _ => True) <| .cons (fun _ => True) <| .cons (fun _ => True) <|
      .cons (fun _ => True) <| .cons (fun _ => True) <| .cons (fun _ => True) <|
      .cons (fun _ => True) <| .cons (fun _ => True) <| .cons (fun _ => True) <|
      .cons (fun _ => True) <|
      .cons (fun seconds? => ∀ seconds ∈ seconds?, seconds < (Nat.pow 2 63 : Int)) <|
      .cons (fun _ => True) .nil) := by
    refine ⟨Json.gives_any _, trivial, Json.gives_any _, trivial, Json.gives_any _, trivial,
      Json.gives_any _, trivial, Json.gives_any _, trivial, Json.gives_any _, trivial,
      Json.gives_any _, trivial, Json.gives_any _, trivial, Json.gives_any _, trivial,
      Json.gives_any _, trivial, Json.gives_option Json.gives_integer, ?_,
      Json.gives_any _, trivial, trivial⟩
    intro seconds hseconds
    cases hseconds
  intro depth bs block rest hread
  obtain ⟨row, hrow, rfl⟩ := Json.gives_record hfields _ _ _ _ hread
  obtain ⟨-, -, -, -, -, -, -, -, -, -, htimeout, -⟩ := hrow
  exact htimeout

/-- The environment in which the variables of some settings hold what the block says. -/
def Environment.taking (env : Environment) (moved : Setting → Bool) (block : ProviderBlock) :
    Environment := fun setting =>
  if moved setting then (block.text? setting).or (env setting) else env setting

def AuthType.needs : AuthType → List Setting
  | integrated => [.user, .password]
  | token => [.token]
  | apiToken => [.apiToken]
  | apiTokenFile => [.apiTokenFile]
  | serviceAccountTokenFile => [.serviceAccountTokenFile]

/-! ## Effective settings -/

namespace Settings

variable {block block' : ProviderBlock} {env env' : Environment} {setting : Setting}

/-- The text of each setting, from the block or else from its variable. -/
def effective (block : ProviderBlock) (env : Environment) : Environment := fun setting =>
  (block.text? setting).or (env setting)

/-- Moving attributes to their variables changes no effective setting. -/
theorem effective_without (block : ProviderBlock) (moved : Setting → Bool) (env : Environment) :
    effective (block.without moved) (env.taking moved block) = effective block env := by
  funext setting
  rw [effective, ProviderBlock.text?_without, Environment.taking, effective]
  cases moved setting <;> rfl

/-- A setting that was moved is picked where it has gone. -/
theorem pick_effective {value? : Option String} (h : block.text? setting = value?) :
    pick (effective block env) setting none = pick env setting value? := by
  rw [pick, pick, effective, h, Option.none_or]

/-- A setting that must be given is found where it has gone. -/
theorem need_effective {value? : Option String} (h : block.text? setting = value?) :
    need (effective block env) setting none = need env setting value? := by
  rw [need, need, pick_effective h]

/-- A Boolean that was moved is read back. -/
theorem parseBool?_toString (allow : Bool) : parseBool? (toString allow) = some allow := by
  cases allow <;> decide +kernel

/-- Certificates are treated alike, whether the Boolean stands in the block or not. -/
theorem resolveSsl_effective (block : ProviderBlock) (env : Environment) :
    resolveSsl {} (effective block env) = resolveSsl block env := by
  unfold resolveSsl
  cases hallow : block.allowUnverifiedSsl? with
  | none => simp [effective, ProviderBlock.text?, hallow]
  | some allow => simp [effective, ProviderBlock.text?, hallow, parseBool?_toString]

/-- A number that was moved is read back if it fits. -/
theorem parseNatural?_toString {n : Nat} (h : n < Text.wordBound) :
    Text.parseNatural? (Text.trimChars (toString n).toList) = some n := by
  rw [Nat.toString_eq_repr, Text.trimChars_of_not_blank fun c hmem =>
    Text.isBlank_of_isDigit (Text.isDigit_of_mem_repr hmem)]
  exact Text.parseNatural?_eq_some_iff.2 (Text.denotes_repr h)

/-- A negative number is no number in the environment, and is refused there too. -/
theorem parseNatural?_toString_negSucc (n : Nat) :
    Text.parseNatural? (Text.trimChars (toString (Int.negSucc n)).toList) = none := by
  have htext : (toString (Int.negSucc n)).toList = '-' :: (Nat.repr n.succ).toList := by
    rw [Int.toString_eq_repr, Int.repr, String.toList_append]
    rfl
  rw [htext, Text.trimChars_of_not_blank, Text.parseNatural?_minus]
  intro c hmem
  rcases List.mem_cons.1 hmem with rfl | hdigit
  · decide
  · exact Text.isBlank_of_isDigit (Text.isDigit_of_mem_repr hdigit)

/-- The timeout is the same, whether the number stands in the block or not. -/
theorem resolveRetryTimeout_effective (h : block.Fits) (env : Environment) :
    resolveRetryTimeout {} (effective block env) = resolveRetryTimeout block env := by
  cases hseconds : block.maxRetryTimeout? with
  | none => simp [resolveRetryTimeout, effective, ProviderBlock.text?, hseconds]
  | some seconds =>
    have htext : effective block env .maxRetryTimeout = some (toString seconds) := by
      rw [effective, ProviderBlock.text?, hseconds]
      rfl
    simp only [resolveRetryTimeout, htext, hseconds]
    cases seconds with
    | ofNat n =>
      have hlt : n < Text.wordBound := by
        have hbound := h _ hseconds
        have hword : Nat.pow 2 63 ≤ Text.wordBound := by decide
        exact Nat.lt_of_lt_of_le (Int.ofNat_lt.1 hbound) hword
      rw [show toString (Int.ofNat n) = toString n from rfl, parseNatural?_toString hlt]
    | negSucc n => rw [parseNatural?_toString_negSucc]

theorem resolveSeparator_effective (block : ProviderBlock) (env : Environment) :
    resolveSeparator {} (effective block env) = resolveSeparator block env := by
  simp [resolveSeparator, effective, ProviderBlock.text?]

theorem resolveAuthType_effective (block : ProviderBlock) (env : Environment) :
    resolveAuthType {} (effective block env) = resolveAuthType block env := by
  unfold resolveAuthType
  rw [pick_effective rfl]
  rfl

/-- The credentials are the same, wherever their texts stand. -/
theorem resolveCredentials_effective (block : ProviderBlock) (env : Environment) (type : AuthType) :
    resolveCredentials {} (effective block env) type = resolveCredentials block env type := by
  cases type <;> simp only [resolveCredentials] <;> simp only [need_effective rfl] <;> rfl

/-- **Nothing but the effective settings counts.** -/
theorem resolve_effective (h : block.Fits) (env : Environment) :
    resolve {} (effective block env) = resolve block env := by
  have hurl : resolveUrl {} (effective block env) = resolveUrl block env := by
    unfold resolveUrl
    rw [need_effective rfl]
    rfl
  have horg : pick (effective block env) .org none = pick env .org block.org? := pick_effective rfl
  unfold resolve
  simp only [hurl, horg, resolveAuthType_effective, resolveCredentials_effective,
    resolveSsl_effective, resolveRetryTimeout_effective h, resolveSeparator_effective]

/-! ## Settings of other login flows -/

/-- The setting is needed only by login flows other than the one in effect. If the name of the flow
is refused, these are all the flows. -/
def IsForeign (block : ProviderBlock) (env : Environment) (setting : Setting) : Prop :=
  (∃ type : AuthType, setting ∈ type.needs) ∧
    ∀ type, resolveAuthType block env = .ok type → setting ∉ type.needs

theorem need_congr (h : env' setting = env setting) :
    need env' setting none = need env setting none := by
  rw [need, need, pick, pick, h]

/-- A login reads the variables of its own flow and no others. -/
theorem resolveCredentials_congr {type : AuthType}
    (h : ∀ setting ∈ type.needs, env' setting = env setting) :
    resolveCredentials {} env' type = resolveCredentials {} env type := by
  cases type with
  | integrated =>
    have huser := need_congr (h .user (by decide))
    have hpassword := need_congr (h .password (by decide))
    simp only [resolveCredentials, huser, hpassword]
  | token => simp only [resolveCredentials, need_congr (h .token (by decide))]
  | apiToken => simp only [resolveCredentials, need_congr (h .apiToken (by decide))]
  | apiTokenFile => simp only [resolveCredentials, need_congr (h .apiTokenFile (by decide))]
  | serviceAccountTokenFile =>
    simp only [resolveCredentials, need_congr (h .serviceAccountTokenFile (by decide))]

/-- Settings of other login flows do not count. -/
theorem resolve_congr (h : ∀ setting, ¬IsForeign {} env setting → env' setting = env setting) :
    resolve {} env' = resolve {} env := by
  have hcommon : ∀ setting, (∀ type : AuthType, setting ∉ type.needs) →
      env' setting = env setting := by
    intro setting hcommon
    exact h setting fun hforeign => hforeign.1.elim hcommon
  have hurl := hcommon .url fun type => by cases type <;> decide
  have horg := hcommon .org fun type => by cases type <;> decide
  have htype := hcommon .authType fun type => by cases type <;> decide
  have hssl := hcommon .allowUnverifiedSsl fun type => by cases type <;> decide
  have htimeout := hcommon .maxRetryTimeout fun type => by cases type <;> decide
  have hseparator := hcommon .importSeparator fun type => by cases type <;> decide
  unfold resolve resolveUrl resolveSsl resolveRetryTimeout resolveSeparator
  rw [need_congr hurl, show pick env' .org none = pick env .org none by rw [pick, pick, horg],
    show resolveAuthType {} env' = resolveAuthType {} env by
      rw [resolveAuthType, resolveAuthType, pick, pick, htype], hssl, htimeout, hseparator]
  cases hflow : resolveAuthType {} env with
  | error error => rfl
  | ok type =>
    have hcredentials : resolveCredentials {} env' type = resolveCredentials {} env type :=
      resolveCredentials_congr fun setting hneeded =>
        h setting fun hforeign => hforeign.2 type hflow hneeded
    simp only [bind, Except.bind, hcredentials]

/-- **Block and environment.** An attribute may stand in its variable instead of the block; the
variable of an attribute that stands in the block does not count, even if the attribute is the empty
text; and neither the attributes nor the variables count that only other login flows need. -/
theorem resolve_depends_on_effective_settings (block : ProviderBlock) (env : Environment)
    (h : block.Fits) :
    (∀ moved, resolve (block.without moved) (env.taking moved block) = resolve block env) ∧
    (∀ env' : Environment, (∀ setting, block.text? setting = none → env' setting = env setting) →
      resolve block env' = resolve block env) ∧
    ∀ (block' : ProviderBlock) (env' : Environment), block'.Fits →
      (∀ setting, ¬IsForeign block env setting →
        block'.text? setting = block.text? setting ∧ env' setting = env setting) →
      resolve block' env' = resolve block env := by
  refine ⟨?_, ?_, ?_⟩
  · intro moved
    rw [← resolve_effective (h.without moved), effective_without, resolve_effective h]
  · intro env' hunset
    have heffective : effective block env' = effective block env := by
      funext setting
      cases htext : block.text? setting with
      | none => rw [effective, effective, hunset setting htext]
      | some text => rw [effective, effective, htext]; rfl
    rw [← resolve_effective h, heffective, resolve_effective h]
  · intro block' env' h' hagree
    rw [← resolve_effective h', ← resolve_effective h]
    refine resolve_congr fun setting hsetting => ?_
    have hown : ¬IsForeign block env setting := by
      rwa [IsForeign, resolveAuthType_effective] at hsetting
    rw [effective, effective, (hagree setting hown).1, (hagree setting hown).2]

/-! ## A sample -/

def sampleBlock : ProviderBlock where
  url? := some "https://gw.example.com/vcfa"
  authType? := some "api_token"
  apiToken? := some "refresh"
  allowUnverifiedSsl? := some true
  maxRetryTimeout? := some 5

def sampleSettings : Settings where
  url :=
    { scheme := "https"
      authority? := some { host := .domain "gw.example.com" }
      path := .segments ["vcfa", ""] }
  org := systemOrg
  credentials := .apiToken "refresh"
  allowUnverifiedSsl := true
  maxRetryTimeout := 5
  importSeparator := defaultSeparator

/-- The sample is accepted, and so it is with all attributes in variables, with another variable for
its address, and with tokens for the other flows. -/
theorem resolve_sampleBlock :
    sampleBlock.Fits ∧
    resolve sampleBlock .empty = .ok sampleSettings ∧
    resolve (sampleBlock.without fun _ => true)
        (Environment.empty.taking (fun _ => true) sampleBlock) = .ok sampleSettings ∧
    resolve sampleBlock (fun setting => if setting = .url then some "ftp://elsewhere" else none) =
      .ok sampleSettings ∧
    resolve { sampleBlock with token? := some "" }
        (fun setting => if setting = .apiTokenFile then some "token.json" else none) =
      .ok sampleSettings := by
  have hfits : sampleBlock.Fits := by
    intro seconds hseconds
    cases hseconds
    decide
  obtain ⟨hmoved, hunset, hforeign⟩ :=
    resolve_depends_on_effective_settings sampleBlock .empty hfits
  have hflow : resolveAuthType sampleBlock .empty = .ok .apiToken := rfl
  have hresolve : resolve sampleBlock .empty = .ok sampleSettings := rfl
  refine ⟨hfits, hresolve, (hmoved _).trans hresolve, (hunset _ ?_).trans hresolve,
    (hforeign _ _ hfits ?_).trans hresolve⟩
  · intro setting htext
    cases setting with
    | url => exact absurd htext (by decide)
    | _ => rfl
  · intro setting hsetting
    -- The settings that differ are those of flows that the sample does not use.
    have hneeded : ∀ type : AuthType, setting ∈ type.needs → setting ∈ AuthType.apiToken.needs := by
      intro type hmem
      refine Decidable.byContradiction fun hforeign => ?_
      refine hsetting ⟨⟨type, hmem⟩, fun other hother => ?_⟩
      rw [hflow] at hother
      cases hother
      exact hforeign
    cases setting with
    | token => exact absurd (hneeded .token (by decide)) (by decide)
    | apiTokenFile => exact absurd (hneeded .apiTokenFile (by decide)) (by decide)
    | _ => exact ⟨rfl, rfl⟩

end Settings

end CloudTenancy
