import CloudTenancy.Proofs.ActiveVersions
import CloudTenancy.Proofs.Conditions
import CloudTenancy.Proofs.OrgViews
import CloudTenancy.Version.Lookup

/-!
CloudTenancy.Proofs.VersionLookups — what a look at the versions of a service reports.

* `SupportedVersions.Greatest` — a version that is not deprecated and that no other one exceeds.
* `Version.Reported` — what is reported of a list of versions.
* `Action.Fails` — an action ends without a result and reports why.
* `Version.Asks` — a configuration asks for a condition.
* `Version.matching` — whether the condition matches, if a look succeeds.

A look is one request and then a function of the list in its reply, `assess`. That function takes
the version at the end of the sorted list, which is one of the greatest, and all of these are
spellings of one version. So any of them may stand for it where only numbers are compared
(`map_assess_of_greatest`), and of the list only the members count (`map_assess_congr`).

Main statement: `lookup_reports_greatest_version`.
-/

namespace CloudTenancy

/-- A version is not deprecated, and its numbers are not below those of any other one. -/
def SupportedVersions.Greatest (versions : SupportedVersions) (v : String) : Prop :=
  v ∈ versions.offered ∧ ∀ u ∈ versions.offered, Version.rank u ≤ Version.rank v

/-- The action ends without a result and reports why. -/
def Action.Fails {α : Type} (action : Action α) (start : ActionState) : Prop :=
  (action.perform start).1 = none ∧
    ∃ d, (action.perform start).2.diagnostics = start.diagnostics.error d

namespace Version

/-- What is reported of a list of versions: the greatest of them, all of them in ascending order
with the greatest one at the end, and whether a known condition is met. -/
structure Reported (versions : SupportedVersions) (config state : VersionState) : Prop where
  apiVersion : ∃ v, state.apiVersion = .known v ∧ versions.Greatest v
  supportedVersions : ∃ listed : List String, state.supportedVersions = .known (listed.map .known) ∧
    (∀ v, v ∈ listed ↔ v ∈ versions.offered) ∧ listed.Pairwise (fun u v => rank u ≤ rank v) ∧
    listed.getLast?.map .known = some state.apiVersion
  condition : state.condition = config.condition
  failIfNotMatch : state.failIfNotMatch = config.failIfNotMatch
  matchesCondition : state.matchesCondition = .null ↔ config.condition.known? = none

variable {client : Client} {config state : VersionState} {start : ActionState}
  {versions : SupportedVersions}

/-! ## The greatest version -/

theorem getLast?_active_eq_none_iff :
    (active versions).getLast? = none ↔ versions.offered = [] := by
  rw [List.getLast?_eq_none_iff, List.eq_nil_iff_forall_not_mem, List.eq_nil_iff_forall_not_mem]
  simp only [mem_offered]

theorem greatest_of_getLast? {v : String} (hnumeric : ∀ u ∈ versions.offered, IsNumeric u)
    (hlast : (active versions).getLast? = some v) : versions.Greatest v := by
  have hv : v ∈ versions.offered := mem_offered.2 (List.mem_of_getLast? hlast)
  refine ⟨hv, fun u hu => ?_⟩
  have hsettled : Settled {u | u ∈ versions.offered} v := (untangled_of_numeric hnumeric).settled hv
  exact (order_of_numeric (hnumeric u hu) (hnumeric v hv)).ne_gt.1
    (order_getLast_ne_gt hlast hsettled (mem_offered.1 hu))

theorem pairwise_rank_active (hnumeric : ∀ u ∈ versions.offered, IsNumeric u) :
    (active versions).Pairwise fun u v => rank u ≤ rank v := by
  have hsorted := stablySorted_sort (untangled_of_numeric hnumeric)
  refine (hsorted.ascends.sublist (dropRepeats_sublist _)).imp_of_mem ?_
  intro u v hu hv hle
  have hu : IsNumeric u := hnumeric u (mem_offered.2 hu)
  have hv : IsNumeric v := hnumeric v (mem_offered.2 hv)
  exact (order_of_numeric hu hv).ne_gt.1 hle

/-- All greatest versions are spellings of one. -/
theorem rank_eq_of_greatest {u v : String} (hu : versions.Greatest u) (hv : versions.Greatest v) :
    rank u = rank v :=
  le_antisymm (hv.2 u hu.1) (hu.2 v hv.1)

theorem exists_greatest (hnumeric : ∀ u ∈ versions.offered, IsNumeric u)
    (hne : versions.offered ≠ []) :
    ∃ v, (active versions).getLast? = some v ∧ versions.Greatest v := by
  cases hlast : (active versions).getLast? with
  | none => exact absurd (getLast?_active_eq_none_iff.1 hlast) hne
  | some v => exact ⟨v, rfl, greatest_of_getLast? hnumeric hlast⟩

/-! ## The condition -/

/-- The text of a configuration is known and a text of the condition. -/
def Asks (config : VersionState) (condition : Condition) : Prop :=
  ∃ text, config.condition = .known text ∧ condition.Written text

theorem assessCondition_of_not_known {v : String} (h : config.condition.known? = none) :
    assessCondition config v = .ok .null := by
  cases hcondition : config.condition with
  | null => simp [assessCondition, hcondition]
  | unknown => simp [assessCondition, hcondition]
  | known text => simp [hcondition] at h

theorem toOption_assessCondition_of_malformed {v : String} (hknown : config.condition.known? ≠ none)
    (h : ∀ condition, ¬Asks config condition) : (assessCondition config v).toOption = none := by
  cases hcondition : config.condition with
  | null => simp [hcondition, Value.known?] at hknown
  | unknown => simp [hcondition, Value.known?] at hknown
  | known text =>
    cases hparse : Condition.parse text with
    | ok condition =>
      have hasks : Asks config condition :=
        ⟨text, hcondition, Condition.parse_eq_ok_iff.1 hparse⟩
      exact absurd hasks (h condition)
    | error failure =>
      have hfails : assessCondition config v = .error (malformed failure) := by
        simp [assessCondition, hcondition, hparse]
      rw [hfails]
      rfl

theorem Asks.met_iff {v : String} {condition : Condition} (h : Asks config condition)
    (hcomparable : condition.IsComparable) (hv : IsNumeric v) :
    condition.Met v ↔ condition.operator.Relates (rank v) (rank condition.version) := by
  obtain ⟨_, -, hdotted, -⟩ := h
  simp [Condition.met_iff, hv, (Condition.isNumeric_iff_isComparable hdotted).2 hcomparable]

/-- What a condition that is asked for comes to. -/
theorem toOption_assessCondition_of_asks {v : String} {condition : Condition}
    (h : Asks config condition) :
    (assessCondition config v).toOption =
      if config.failIfNotMatch = .known true ∧ ¬condition.Met v then none
      else some (.known (decide (condition.Met v))) := by
  obtain ⟨text, hknown, hwritten⟩ := h
  have hparse := Condition.parse_eq_ok_iff.2 hwritten
  have hmet : (condition.holds? v).getD false = decide (condition.Met v) := by
    rw [Bool.eq_iff_iff, decide_eq_true_iff]
    simp [Condition.Met, Option.getD_eq_iff]
  have hstrict : config.failIfNotMatch.getD false = true ↔ config.failIfNotMatch = .known true := by
    cases config.failIfNotMatch <;> simp [Value.getD, Value.known?]
  have hassess : assessCondition config v =
      if config.failIfNotMatch = .known true ∧ ¬condition.Met v then
        .error {
          summary :=
            "API version " ++ v ++ " does not match condition '" ++ text ++ "'" }
      else .ok (.known (decide (condition.Met v))) := by
    simp [assessCondition, hknown, hparse, hmet, hstrict, and_comm]
  rw [hassess]
  split
  · rfl
  · rfl

/-- Spellings of one version come to the same. -/
theorem toOption_assessCondition_congr {u v : String} (hu : IsNumeric u) (hv : IsNumeric v)
    (hrank : rank u = rank v) :
    (assessCondition config u).toOption = (assessCondition config v).toOption := by
  by_cases hknown : config.condition.known? = none
  · rw [assessCondition_of_not_known hknown, assessCondition_of_not_known hknown]
  · by_cases hasks : ∃ condition, Asks config condition
    · obtain ⟨condition, hasks⟩ := hasks
      have hmet : condition.Met u ↔ condition.Met v := by
        simp [Condition.met_iff, hu, hv, hrank]
      simp only [toOption_assessCondition_of_asks hasks, hmet]
    · have hnone := not_exists.1 hasks
      rw [toOption_assessCondition_of_malformed hknown hnone,
        toOption_assessCondition_of_malformed hknown hnone]

/-! ## What follows from a list -/

theorem assess_eq_ok_iff {listed : List String} :
    assess config listed = .ok state ↔ ∃ v matchesCondition,
      listed.getLast? = some v ∧ assessCondition config v = .ok matchesCondition ∧
        state = { config with
          matchesCondition
          apiVersion := .known v
          supportedVersions := .known (listed.map .known) } := by
  cases hlast : listed.getLast? with
  | none => simp [assess, hlast]
  | some v =>
    cases hmatches : assessCondition config v with
    | error failure => simp [assess, hlast, hmatches]
    | ok matchesCondition => simp [assess, hlast, hmatches, eq_comm]

theorem map_toOption_assess (config : VersionState) (listed : List String) :
    (assess config listed).toOption.map (·.matchesCondition) =
      listed.getLast?.bind fun v => (assessCondition config v).toOption := by
  cases hlast : listed.getLast? with
  | none => simp [assess, hlast, Except.toOption]
  | some v =>
    cases hmatches : assessCondition config v with
    | error failure => simp [assess, hlast, hmatches, Except.toOption]
    | ok matchesCondition => simp [assess, hlast, hmatches, Except.toOption]

/-- Any of the greatest versions may stand for the one at the end of the list. -/
theorem map_assess_of_greatest {v : String} (hnumeric : ∀ u ∈ versions.offered, IsNumeric u)
    (hv : versions.Greatest v) :
    (assess config (active versions)).toOption.map (·.matchesCondition) =
      (assessCondition config v).toOption := by
  have hne : versions.offered ≠ [] := List.ne_nil_of_mem hv.1
  obtain ⟨u, hlast, hu⟩ := exists_greatest hnumeric hne
  rw [map_toOption_assess, hlast]
  exact toOption_assessCondition_congr (hnumeric u hu.1) (hnumeric v hv.1)
    (rank_eq_of_greatest hu hv)

/-- Only the members of a list count, and not their order or how often each is listed. -/
theorem map_assess_congr {other : SupportedVersions}
    (hnumeric : ∀ u ∈ versions.offered, IsNumeric u)
    (hmembers : ∀ v, v ∈ other.offered ↔ v ∈ versions.offered) :
    (assess config (active other)).toOption.map (·.matchesCondition) =
      (assess config (active versions)).toOption.map (·.matchesCondition) := by
  have hempty : other.offered = [] ↔ versions.offered = [] := by
    simp only [List.eq_nil_iff_forall_not_mem, hmembers]
  have hgreatest (v : String) : other.Greatest v ↔ versions.Greatest v := by
    simp only [SupportedVersions.Greatest, hmembers]
  by_cases hnone : versions.offered = []
  · rw [map_toOption_assess, map_toOption_assess, getLast?_active_eq_none_iff.2 hnone,
      getLast?_active_eq_none_iff.2 (hempty.2 hnone)]
  · obtain ⟨v, -, hv⟩ := exists_greatest hnumeric hnone
    have hnumeric' : ∀ u ∈ other.offered, IsNumeric u := fun u hu => hnumeric u ((hmembers u).1 hu)
    rw [map_assess_of_greatest hnumeric hv, map_assess_of_greatest hnumeric' ((hgreatest v).2 hv)]

/-- What is reported is right. -/
theorem reported_of_assess (hnumeric : ∀ u ∈ versions.offered, IsNumeric u)
    (h : assess config (active versions) = .ok state) : Reported versions config state := by
  obtain ⟨v, matchesCondition, hlast, hmatches, rfl⟩ := assess_eq_ok_iff.1 h
  have hmembers (v : String) : v ∈ active versions ↔ v ∈ versions.offered := mem_offered.symm
  exact {
    apiVersion := ⟨v, rfl, greatest_of_getLast? hnumeric hlast⟩
    supportedVersions :=
      ⟨active versions, rfl, hmembers, pairwise_rank_active hnumeric, by simp [hlast]⟩
    condition := rfl
    failIfNotMatch := rfl
    matchesCondition := assessCondition_eq_null_iff hmatches }

/-! ## A look at the service -/

/-- The service replies with a list of versions. -/
abbrev ListedAs (client : Client) (net : Network) (versions : SupportedVersions) : Prop :=
  client.Shows none net SupportedVersions.decoder Client.versionsPath (· = versions)

/-- A look is one request and then what follows from the list in its reply. -/
theorem perform_lookup (config : VersionState) (h : ListedAs client start.network versions) :
    ∃ network, (lookup (some client) config).perform start =
      match assess config (active versions) with
      | .ok state => (some state, { start with network })
      | .error failure =>
        (none, { network, diagnostics := start.diagnostics.error failure }) := by
  obtain ⟨_, rfl, hget⟩ := h.get
  refine ⟨((client.get SupportedVersions.decoder Client.versionsPath).perform start.network).2, ?_⟩
  rw [lookup, Action.perform_bind_of_some (Action.perform_configured client start),
    Action.perform_bind_of_some (Action.perform_attempt_of_ok (Prod.ext hget rfl))]
  cases assess config (active _) with
  | ok state => rfl
  | error failure => rfl

theorem lookup_gives_iff (h : ListedAs client start.network versions) :
    (lookup (some client) config).Gives start state ↔
      assess config (active versions) = .ok state := by
  obtain ⟨network, hperform⟩ := perform_lookup config h
  rw [Action.Gives, hperform]
  cases assess config (active versions) with
  | ok found => simp
  | error failure => simp

theorem lookup_fails_iff (h : ListedAs client start.network versions) :
    (lookup (some client) config).Fails start ↔
      ¬∃ state, (lookup (some client) config).Gives start state := by
  simp only [lookup_gives_iff h]
  obtain ⟨network, hperform⟩ := perform_lookup config h
  rw [Action.Fails, hperform]
  cases assess config (active versions) with
  | ok found => simp
  | error failure => simp

/-- Whether the condition matches, if the look succeeds at all. -/
def matching (client : Client) (config : VersionState) (start : ActionState) :
    Option (Value Bool) :=
  ((lookup (some client) config).perform start).1.map (·.matchesCondition)

theorem matching_eq (h : ListedAs client start.network versions) :
    matching client config start =
      (assess config (active versions)).toOption.map (·.matchesCondition) := by
  obtain ⟨network, hperform⟩ := perform_lookup config h
  rw [matching, hperform]
  cases assess config (active versions) with
  | ok found => rfl
  | error failure => rfl

theorem exists_gives_iff (h : ListedAs client start.network versions) :
    (∃ state, (lookup (some client) config).Gives start state) ↔
      matching client config start ≠ none := by
  simp only [lookup_gives_iff h, matching_eq h]
  cases assess config (active versions) with
  | ok found => simp [Except.toOption]
  | error failure => simp [Except.toOption]

theorem matching_of_gives (h : ListedAs client start.network versions)
    (hgives : (lookup (some client) config).Gives start state) :
    matching client config start = some state.matchesCondition := by
  rw [matching_eq h, (lookup_gives_iff h).1 hgives]
  rfl

/-- **Look.** The versions of the service that are not deprecated are all dotted numeric. A look
fails if there is none, or if the condition is known and malformed. If it does not fail, it reports
a greatest one, all of them in ascending order and the configuration as it was given. Without a
known condition it succeeds if there is a version. With one whose numbers are ASCII digits of 64
bits, it tells whether the greatest version is in the relation of the condition to the condition's
version, and it fails exactly if it is not and the configuration asks for that. Of the list only its
members count for whether the look succeeds and the condition matches, not their order, how often
each is listed or which spelling of the greatest one comes last. -/
theorem lookup_reports_greatest_version (config : VersionState) (start : ActionState)
    (hlisted : ListedAs client start.network versions)
    (hnumeric : ∀ v ∈ versions.offered, IsNumeric v) :
    ((lookup (some client) config).Fails start ↔
      ¬∃ state, (lookup (some client) config).Gives start state) ∧
    (versions.offered = [] → (lookup (some client) config).Fails start) ∧
    (config.condition.known? ≠ none → (∀ condition, ¬Asks config condition) →
      (lookup (some client) config).Fails start) ∧
    (∀ state, (lookup (some client) config).Gives start state → Reported versions config state) ∧
    (config.condition.known? = none → versions.offered ≠ [] →
      ∃ state, (lookup (some client) config).Gives start state) ∧
    (∀ condition v, Asks config condition → condition.IsComparable → versions.Greatest v →
      (∀ state, (lookup (some client) config).Gives start state →
        ∃ b, state.matchesCondition = .known b ∧
          (b = true ↔ condition.operator.Relates (rank v) (rank condition.version))) ∧
      (config.failIfNotMatch ≠ .known true →
        ∃ state, (lookup (some client) config).Gives start state) ∧
      (config.failIfNotMatch = .known true →
        ((∃ state, (lookup (some client) config).Gives start state) ↔
          condition.operator.Relates (rank v) (rank condition.version)))) ∧
    ∀ client' start' versions', ListedAs client' start'.network versions' →
      (∀ v, v ∈ versions'.offered ↔ v ∈ versions.offered) →
      matching client' config start' = matching client config start := by
  refine ⟨lookup_fails_iff hlisted, ?_, ?_, ?_, ?_, ?_, ?_⟩
  · intro hnone
    rw [lookup_fails_iff hlisted, exists_gives_iff hlisted, not_not, matching_eq hlisted,
      map_toOption_assess, getLast?_active_eq_none_iff.2 hnone]
    rfl
  · intro hknown hnone
    rw [lookup_fails_iff hlisted, exists_gives_iff hlisted, not_not, matching_eq hlisted,
      map_toOption_assess]
    simp [toOption_assessCondition_of_malformed hknown hnone]
  · intro state hgives
    exact reported_of_assess hnumeric ((lookup_gives_iff hlisted).1 hgives)
  · intro hnotknown hne
    obtain ⟨v, -, hv⟩ := exists_greatest hnumeric hne
    rw [exists_gives_iff hlisted, matching_eq hlisted, map_assess_of_greatest hnumeric hv,
      assessCondition_of_not_known hnotknown]
    simp [Except.toOption]
  · intro condition v hasks hcomparable hv
    have hmet := hasks.met_iff hcomparable (hnumeric v hv.1)
    -- The three parts depend on one thing: whether the greatest version meets the condition.
    have hmatching : matching client config start =
        if config.failIfNotMatch = .known true ∧ ¬condition.Met v then none
        else some (.known (decide (condition.Met v))) := by
      rw [matching_eq hlisted, map_assess_of_greatest hnumeric hv,
        toOption_assessCondition_of_asks hasks]
    rw [exists_gives_iff hlisted, hmatching, ← hmet]
    refine ⟨?_, ?_, ?_⟩
    · intro state hgives
      have hstate := matching_of_gives hlisted hgives
      rw [hmatching] at hstate
      refine ⟨decide (condition.Met v), ?_, decide_eq_true_iff⟩
      split at hstate
      · cases hstate
      · exact (Option.some.inj hstate).symm
    · intro hlax
      simp [hlax]
    · intro hstrict
      simp [hstrict]
  · intro client' start' versions' hlisted' hmembers
    rw [matching_eq hlisted, matching_eq hlisted']
    exact map_assess_congr hnumeric hmembers

/-! ## A sample -/

def listedVersions : SupportedVersions where
  versionInfo := [⟨"40.0", false⟩, ⟨"39.1", false⟩, ⟨"41.0", true⟩, ⟨"40", false⟩]

def sampleReply : Json :=
  .object [("versionInfo", .array (listedVersions.versionInfo.map fun info =>
    .object [("version", .string info.version), ("deprecated", .bool info.deprecated)]))]

theorem listedAs_sampleReply :
    ListedAs (Client.sample "t" 3) (.holding sampleReply) listedVersions := by
  have hjoin : (Client.sample "t" 3).base.join Client.versionsPath =
      .ok { (Client.sample "t" 3).base with path := .segments ["api", "versions"] } :=
    ok_of_toOption (by decide +kernel)
  have hdecode : Reply.decode { body := sampleReply.write } SupportedVersions.decoder =
      .ok listedVersions :=
    ok_of_toOption (by decide +kernel)
  exact Client.shows_of_reply hjoin (by decide) rfl rfl rfl hdecode

/-- The last spelling of the greatest version is reported. It is at least `40.0`, which is what one
look asks for, and not below `40.0`, which is what the other one insists on. -/
theorem lookup_reports_greatest_of_listed :
    (∀ v ∈ listedVersions.offered, IsNumeric v) ∧
      listedVersions.Greatest "40" ∧
      (∃ state, (lookup (some (Client.sample "t" 3))
          { condition := .known ">= 40.0", failIfNotMatch := .known true }).Gives
            { network := .holding sampleReply } state) ∧
      (lookup (some (Client.sample "t" 3))
        { condition := .known "< 40.0", failIfNotMatch := .known true }).Fails
          { network := .holding sampleReply } := by
  have hnumeric : ∀ v ∈ listedVersions.offered, IsNumeric v := by decide +kernel
  have hgreatest : listedVersions.Greatest "40" :=
    greatest_of_getLast? hnumeric (by decide +kernel)
  have hrank : rank "40" = rank "40.0" :=
    (order_of_numeric (by decide +kernel) (by decide +kernel)).eq_eq.1 (by decide +kernel)
  have hread (text : String) (condition : Condition)
      (h : Condition.parse text = .ok condition) :
      Asks { condition := .known text, failIfNotMatch := .known true } condition :=
    ⟨text, rfl, Condition.parse_eq_ok_iff.1 h⟩
  refine ⟨hnumeric, hgreatest, ?_, ?_⟩
  · have hlook := lookup_reports_greatest_version
      { condition := .known ">= 40.0", failIfNotMatch := .known true }
      { network := .holding sampleReply } listedAs_sampleReply hnumeric
    have hasks := hread ">= 40.0" { operator := .ge, version := "40.0" } (by decide +kernel)
    have hdecides := hlook.2.2.2.2.2.1 _ "40" hasks (by decide +kernel) hgreatest
    exact (hdecides.2.2 rfl).2 hrank.ge
  · have hlook := lookup_reports_greatest_version
      { condition := .known "< 40.0", failIfNotMatch := .known true }
      { network := .holding sampleReply } listedAs_sampleReply hnumeric
    have hasks := hread "< 40.0" { operator := .lt, version := "40.0" } (by decide +kernel)
    have hdecides := hlook.2.2.2.2.2.1 _ "40" hasks (by decide +kernel) hgreatest
    rw [hlook.1, hdecides.2.2 rfl]
    exact not_lt.2 hrank.ge

end Version

end CloudTenancy
