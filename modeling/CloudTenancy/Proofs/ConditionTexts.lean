import CloudTenancy.Proofs.Conditions
import CloudTenancy.Proofs.Patterns
import CloudTenancy.Proofs.VersionNumbers

/-!
CloudTenancy.Proofs.ConditionTexts — the language of conditions, and how a text fixes its parts.

* `IsDotted` — one or more runs of digits joined by single dots.
* `Condition.Layout` — a text of a condition, cut into blanks, a sign or none, blanks, a dotted
  number, and blanks.
* `Condition.pattern` — the pattern that describes conditions. Its first group is for the sign, its
  second one for the version.

A pattern is matched by trying one way after the other, so what comes out might depend on which way
is tried first. Here it does not: signs, blanks and the characters of a dotted number are three
disjoint sets, and every part of a layout can be told by the set that its characters are from
(`Layout.same_of_text_eq`). So a matcher may prefer what it likes, and never ends with `>` where
`>=` is written. Only where no sign stands between them do two runs of blanks meet, and then nothing
says where the first one ends: the text is read in one way, but it can be cut in several.

Main statement: `conditions_are_read_in_one_way`.
-/

namespace CloudTenancy

namespace Version

/-! ## Dotted numbers -/

/-- One or more runs of digits joined by single dots. -/
def IsDotted (cs : List Char) : Prop :=
  ∃ runs : List (List Char), runs ≠ [] ∧
    (∀ run ∈ runs, run ≠ [] ∧ ∀ c ∈ run, Text.isDecimalDigit c = true) ∧
    cs = ['.'].intercalate runs

/-- A dotted number is runs of digits with single dots between them. -/
theorem isDottedNumber_iff {cs : List Char} : isDottedNumber cs = true ↔ IsDotted cs := by
  simp only [isDottedNumber, List.all_eq_true, Bool.and_eq_true, Bool.not_eq_true',
    List.isEmpty_eq_false_iff]
  constructor
  · intro h
    exact ⟨_, Text.splitOn_ne_nil '.' cs, h, (Text.intercalate_splitOn '.' cs).symm⟩
  · rintro ⟨runs, hne, hruns, rfl⟩
    have hdot : Text.isDecimalDigit '.' = false := by decide +kernel
    have hfree : ∀ run ∈ runs, '.' ∉ run := by
      intro run hrun hmem
      simp [(hruns run hrun).2 '.' hmem] at hdot
    rw [Text.splitOn_eq, List.splitOn_intercalate '.' hfree hne]
    exact hruns

instance : DecidablePred IsDotted := fun _ => decidable_of_iff _ isDottedNumber_iff

theorem intercalate_cons_eq (run : List Char) (runs : List (List Char)) :
    ['.'].intercalate (run :: runs) = run ++ (runs.map ('.' :: ·)).flatten := by
  induction runs generalizing run with
  | nil => simp
  | cons next runs ih => simp [List.intercalate_cons_cons, ih]

/-! ## Signs -/

namespace Operator

/-- The signs of operators, the longer ones first. -/
def alternatives : List String := [">=", "<=", "==", "!=", ">", "<", "="]

def ofSign : String → Operator
  | "!=" => ne
  | "<" => lt
  | "<=" => le
  | ">" => gt
  | ">=" => ge
  | _ => eq

/-- The spellings of an operator are the alternatives of the pattern that it is read from. -/
theorem mem_spellings_iff {operator : Operator} {spelling : String} :
    spelling ∈ operator.spellings ↔
      (spelling = "" ∨ spelling ∈ alternatives) ∧ ofSign spelling = operator := by
  constructor
  · intro h
    have hall : ∀ operator : Operator, ∀ spelling ∈ operator.spellings,
        (spelling = "" ∨ spelling ∈ alternatives) ∧ ofSign spelling = operator := by
      intro operator
      cases operator <;> decide
    exact hall operator spelling h
  · rintro ⟨h, rfl⟩
    have hall : ∀ spelling ∈ "" :: alternatives, spelling ∈ (ofSign spelling).spellings := by decide
    exact hall spelling (List.mem_cons.2 h)

end Operator

namespace Condition

/-! ## Layouts -/

/-- A text of a condition, cut into its parts. -/
structure Layout where
  before : List Char
  operator : Operator
  spelling : String
  between : List Char
  version : String
  after : List Char
  blank : ∀ c ∈ before ++ (between ++ after), Text.isBlank c = true
  spelled : spelling ∈ operator.spellings
  dotted : IsDotted version.toList

namespace Layout

def text (layout : Layout) : String :=
  String.ofList (layout.before ++ (layout.spelling.toList ++ (layout.between ++
    (layout.version.toList ++ layout.after))))

def condition (layout : Layout) : Condition where
  operator := layout.operator
  version := layout.version

/-- The parts are the same. Without a sign the blanks in front of the version are one run, which is
the same as a whole. -/
structure Same (layout other : Layout) : Prop where
  operator : layout.operator = other.operator
  spelling : layout.spelling = other.spelling
  version : layout.version = other.version
  after : layout.after = other.after
  front : layout.before ++ layout.between = other.before ++ other.between
  signed : layout.spelling ≠ "" → layout.before = other.before ∧ layout.between = other.between

variable {layout other : Layout}

/-- A text is a written form of a condition exactly when some layout gives both. -/
theorem written_iff {condition : Condition} {text : String} :
    condition.Written text ↔
      ∃ layout : Layout, layout.text = text ∧ layout.condition = condition := by
  constructor
  · rintro ⟨hdotted, spelling, hspelling, before, between, after, hblank, htext⟩
    refine ⟨⟨before, condition.operator, spelling, between, condition.version, after, hblank,
      hspelling, isDottedNumber_iff.1 hdotted⟩, ?_, rfl⟩
    rw [Layout.text, ← htext, String.ofList_toList]
  · rintro ⟨layout, rfl, rfl⟩
    exact ⟨isDottedNumber_iff.2 layout.dotted, layout.spelling, layout.spelled, layout.before,
      layout.between, layout.after, layout.blank, by simp [text, condition]⟩

/-! ### Parts by their characters -/

theorem sign_of_mem_spelling {operator : Operator} {spelling : String}
    (h : spelling ∈ operator.spellings) {c : Char} (hc : c ∈ spelling.toList) :
    c ∈ Operator.signs := by
  have hall : ∀ operator : Operator, ∀ spelling ∈ operator.spellings,
      ∀ c ∈ spelling.toList, c ∈ Operator.signs := by
    intro operator
    cases operator <;> simp [Operator.spellings, Operator.signs]
  exact hall operator spelling h c hc

/-- No character of the version could belong to a sign. -/
theorem not_sign_of_mem_version {c : Char} (hc : c ∈ layout.version.toList) :
    c ∉ Operator.signs :=
  not_sign (.inr (isDecimalDigit_of_isDottedNumber (isDottedNumber_iff.2 layout.dotted) hc))

/-- No character of the version is blank, so that the blanks around it end where it begins. -/
theorem not_blank_of_mem_version {c : Char} (hc : c ∈ layout.version.toList) :
    Text.isBlank c = false :=
  (not_blank_of_isDottedNumber (isDottedNumber_iff.2 layout.dotted)).2 c hc

theorem not_sign_of_blank {c : Char} (h : Text.isBlank c = true) : c ∉ Operator.signs :=
  not_sign (.inl h)

theorem blank_of_mem_before {c : Char} (hc : c ∈ layout.before) : Text.isBlank c = true :=
  layout.blank c (by simp [hc])

theorem blank_of_mem_between {c : Char} (hc : c ∈ layout.between) : Text.isBlank c = true :=
  layout.blank c (by simp [hc])

theorem blank_of_mem_after {c : Char} (hc : c ∈ layout.after) : Text.isBlank c = true :=
  layout.blank c (by simp [hc])

theorem not_blank_of_sign {c : Char} (h : c ∈ Operator.signs) : Text.isBlank c = false :=
  Bool.eq_false_iff.2 fun hblank => not_sign_of_blank hblank h

/-- The characters of a text that are of some of the three kinds: blanks, signs, and characters of
dotted numbers. -/
theorem filter_text {p : Char → Bool} {b s v : Bool} (layout : Layout)
    (hblank : ∀ c, Text.isBlank c = true → p c = b) (hsign : ∀ c ∈ Operator.signs, p c = s)
    (hversion : ∀ c ∈ layout.version.toList, p c = v) :
    layout.text.toList.filter p =
      (if b then layout.before else []) ++ ((if s then layout.spelling.toList else []) ++
        ((if b then layout.between else []) ++ ((if v then layout.version.toList else []) ++
          if b then layout.after else []))) := by
  have hconst : ∀ (cs : List Char) (k : Bool), (∀ c ∈ cs, p c = k) →
      cs.filter p = if k then cs else [] := by
    intro cs k hcs
    cases k with
    | true => simpa using hcs
    | false => simpa using hcs
  simp only [text, String.toList_ofList, List.filter_append]
  rw [hconst _ b fun c hc => hblank c (blank_of_mem_before hc),
    hconst _ s fun c hc => hsign c (sign_of_mem_spelling layout.spelled hc),
    hconst _ b fun c hc => hblank c (blank_of_mem_between hc), hconst _ v hversion,
    hconst _ b fun c hc => hblank c (blank_of_mem_after hc)]

/-- The signs of a text are those of its operator. -/
theorem filter_signs (layout : Layout) :
    layout.text.toList.filter (· ∈ Operator.signs) = layout.spelling.toList := by
  have hfilter := filter_text (p := (· ∈ Operator.signs)) (b := false) (s := true) (v := false)
    layout (fun c hc => by simpa using not_sign_of_blank hc) (fun c hc => by simpa using hc)
    (fun c hc => by simpa using not_sign_of_mem_version hc)
  simpa using hfilter

/-- The blanks of a text, in order. -/
theorem filter_blanks (layout : Layout) :
    layout.text.toList.filter Text.isBlank =
      layout.before ++ (layout.between ++ layout.after) := by
  have hfilter := filter_text (p := Text.isBlank) (b := true) (s := false) (v := false)
    layout (fun c hc => hc) (fun c hc => not_blank_of_sign hc)
    (fun c hc => not_blank_of_mem_version hc)
  simpa using hfilter

/-- What is neither a blank nor a sign is the version. -/
theorem filter_version (layout : Layout) :
    layout.text.toList.filter (fun c => !Text.isBlank c && c ∉ Operator.signs) =
      layout.version.toList := by
  have hfilter := filter_text (p := fun c => !Text.isBlank c && c ∉ Operator.signs) (b := false)
    (s := false) (v := true) layout (fun c hc => by simp [hc]) (fun c hc => by simp [hc])
    (fun c hc => by simp [not_blank_of_mem_version hc, not_sign_of_mem_version hc])
  simpa using hfilter

/-- The last run of blanks stands behind the version. -/
theorem takeWhile_reverse (layout : Layout) :
    layout.text.toList.reverse.takeWhile Text.isBlank = layout.after.reverse := by
  have hafter : ∀ c ∈ layout.after.reverse, Text.isBlank c = true :=
    fun c hc => blank_of_mem_after (List.mem_reverse.1 hc)
  obtain ⟨front, c, hlast⟩ : ∃ front c, layout.version.toList = front ++ [c] := by
    rcases List.eq_nil_or_concat layout.version.toList with hnil | ⟨front, c, h⟩
    · exact absurd hnil (not_blank_of_isDottedNumber (isDottedNumber_iff.2 layout.dotted)).1
    · exact ⟨front, c, by simpa using h⟩
  have hmem : c ∈ layout.version.toList := by simp [hlast]
  have hc : Text.isBlank c = false := not_blank_of_mem_version hmem
  simp only [text, String.toList_ofList, List.reverse_append, List.append_assoc, hlast]
  rw [List.takeWhile_append_of_pos hafter]
  simp [hc]

/-- Before a sign stands one run of blanks. -/
theorem takeWhile_of_spelling (h : layout.spelling ≠ "") :
    layout.text.toList.takeWhile Text.isBlank = layout.before := by
  simp only [text, String.toList_ofList]
  rw [List.takeWhile_append_of_pos fun c hc => blank_of_mem_before hc]
  cases hspelling : layout.spelling.toList with
  | nil => exact absurd (String.toList_eq_nil_iff.1 hspelling) h
  | cons c cs =>
    have hmem : c ∈ layout.spelling.toList := by simp [hspelling]
    have hc : Text.isBlank c = false :=
      not_blank_of_sign (sign_of_mem_spelling layout.spelled hmem)
    simp [hc]

/-- The parts of a text of a condition can be told from the text. -/
theorem same_of_text_eq (h : layout.text = other.text) : layout.Same other := by
  have hspelling : layout.spelling = other.spelling :=
    String.toList_injective (by rw [← filter_signs, ← filter_signs, h])
  have hafter : layout.after = other.after :=
    List.reverse_injective (by rw [← takeWhile_reverse, ← takeWhile_reverse, h])
  have hblanks : layout.before ++ (layout.between ++ layout.after) =
      other.before ++ (other.between ++ other.after) := by
    rw [← filter_blanks, ← filter_blanks, h]
  rw [hafter, ← List.append_assoc, ← List.append_assoc] at hblanks
  have hfront := List.append_cancel_right hblanks
  refine ⟨?_, hspelling, ?_, hafter, hfront, ?_⟩
  · rw [← (Operator.mem_spellings_iff.1 layout.spelled).2,
      ← (Operator.mem_spellings_iff.1 other.spelled).2, hspelling]
  · exact String.toList_injective (by rw [← filter_version, ← filter_version, h])
  · intro hsign
    have hbefore : layout.before = other.before := by
      rw [← takeWhile_of_spelling hsign, ← takeWhile_of_spelling (hspelling ▸ hsign), h]
    rw [hbefore] at hfront
    exact ⟨hbefore, List.append_cancel_left hfront⟩

end Layout

/-! ## The pattern of conditions -/

/-- A run of digits, and then dots with a run of digits each. -/
def dotted : Pattern :=
  .chain (.repeated (.one Text.isDecimalDigit))
    (.many (.chain (.word ['.']) (.repeated (.one Text.isDecimalDigit))))

/-- Blanks, perhaps a sign, which is the first group, blanks, a dotted number, which is the second
group, and blanks. -/
def pattern : Pattern :=
  .chain (.many (.one Text.isBlank)) <|
    .chain (.optional (.group 1 (.oneOf Operator.alternatives))) <|
      .chain (.many (.one Text.isBlank)) <|
        .chain (.group 2 dotted) (.many (.one Text.isBlank))

/-- The condition that the groups of a match stand for. -/
def ofCaptures (captures : Pattern.Captures) : Condition where
  operator := Operator.ofSign (String.ofList ((captures.lookup 1).getD "==".toList))
  version := String.ofList ((captures.lookup 2).getD [])

/-- The dotted part of the pattern matches the dotted numbers and captures nothing of its own. -/
theorem matches_dotted_iff {text : List Char} {captures : Pattern.Captures} :
    dotted.Matches text captures ↔ IsDotted text ∧ captures = [] := by
  have hrun : ∀ s g,
      (Pattern.chain (.word ['.']) (.repeated (.one Text.isDecimalDigit))).Matches s g ↔
        (∃ run, s = '.' :: run ∧ run ≠ [] ∧ ∀ c ∈ run, Text.isDecimalDigit c = true) ∧
          g = [] := by
    intro s g
    simp only [Pattern.matches_chain_iff, Pattern.matches_word_iff,
      Pattern.matches_repeated_one_iff]
    constructor
    · rintro ⟨_, run, _, _, rfl, rfl, ⟨rfl, rfl⟩, hrun, rfl⟩
      exact ⟨⟨run, rfl, hrun⟩, rfl⟩
    · rintro ⟨⟨run, rfl, hrun⟩, rfl⟩
      exact ⟨['.'], run, [], [], rfl, rfl, ⟨rfl, rfl⟩, hrun, rfl⟩
  simp only [dotted, Pattern.matches_chain_iff, Pattern.matches_repeated_one_iff,
    Pattern.matches_many_iff hrun]
  constructor
  · -- Each repetition is a dot and a run: the runs are the repetitions without their dots.
    rintro ⟨first, _, _, _, rfl, rfl, ⟨hfirst, rfl⟩, ⟨pieces, rfl, hpieces⟩, rfl⟩
    refine ⟨⟨first :: pieces.map List.tail, by simp, ?_, ?_⟩, rfl⟩
    · rw [List.forall_mem_cons]
      refine ⟨hfirst, ?_⟩
      intro run hmem
      obtain ⟨piece, hpiece, rfl⟩ := List.mem_map.1 hmem
      obtain ⟨run, rfl, hrun⟩ := hpieces piece hpiece
      exact hrun
    · have hdots : (pieces.map List.tail).map ('.' :: ·) = pieces := by
        conv_rhs => rw [← List.map_id pieces]
        rw [List.map_map]
        refine List.map_congr_left ?_
        intro piece hpiece
        obtain ⟨run, rfl, -⟩ := hpieces piece hpiece
        rfl
      rw [intercalate_cons_eq, hdots]
  · rintro ⟨⟨runs, hne, hruns, rfl⟩, rfl⟩
    cases runs with
    | nil => exact absurd rfl hne
    | cons first rest =>
      rw [List.forall_mem_cons] at hruns
      refine ⟨first, (rest.map ('.' :: ·)).flatten, [], [], intercalate_cons_eq first rest, rfl,
        ⟨hruns.1, rfl⟩, ⟨rest.map ('.' :: ·), rfl, ?_⟩, rfl⟩
      intro piece hpiece
      obtain ⟨run, hrun, rfl⟩ := List.mem_map.1 hpiece
      exact ⟨run, rfl, hruns.2 run hrun⟩

namespace Layout

/-- What the groups record of a layout. -/
def captures (layout : Layout) : Pattern.Captures :=
  (if layout.spelling = "" then [] else [(1, layout.spelling.toList)]) ++
    [(2, layout.version.toList)]

/-- The condition read from a layout's captures is that of the layout. -/
theorem ofCaptures_captures (layout : Layout) : ofCaptures layout.captures = layout.condition := by
  have hoperator := (Operator.mem_spellings_iff.1 layout.spelled).2
  by_cases hsign : layout.spelling = ""
  · have heq : Operator.ofSign "==" = layout.operator := by rw [← hoperator, hsign]; rfl
    simp [captures, ofCaptures, condition, hsign, List.lookup_cons, ← heq]
  · simp [captures, ofCaptures, condition, hsign, List.lookup_cons, hoperator]

/-- The ways in which the pattern matches are the layouts. -/
theorem matches_pattern_iff {text : List Char} {captures : Pattern.Captures} :
    pattern.Matches text captures ↔
      ∃ layout : Layout, layout.text.toList = text ∧ layout.captures = captures := by
  simp only [pattern, Pattern.optional, Pattern.matches_chain_iff, Pattern.matches_many_one_iff,
    Pattern.matches_either_iff, Pattern.matches_group_iff, Pattern.matches_oneOf_iff,
    Pattern.matches_word_iff, matches_dotted_iff]
  constructor
  · rintro ⟨before, _, _, _, rfl, rfl, ⟨hbefore, rfl⟩, sign, _, recorded, _, rfl, rfl, hsign,
      between, _, _, _, rfl, rfl, ⟨hbetween, rfl⟩, version, after, _, _, rfl, rfl,
      ⟨_, rfl, hversion, rfl⟩, hafter, rfl⟩
    have hblank : ∀ c ∈ before ++ (between ++ after), Text.isBlank c = true := by
      simp only [List.mem_append]
      rintro c (hc | hc | hc)
      · exact hbefore c hc
      · exact hbetween c hc
      · exact hafter c hc
    -- The group is recorded only where a sign is written.
    rcases hsign with ⟨_, rfl, ⟨spelling, hspelling, rfl⟩, rfl⟩ | ⟨rfl, rfl⟩
    · have hsigned : spelling ≠ "" := by
        rintro rfl
        exact absurd hspelling (by decide)
      have hspelled := Operator.mem_spellings_iff.2 ⟨.inr hspelling, rfl⟩
      refine ⟨⟨before, Operator.ofSign spelling, spelling, between, String.ofList version, after,
        hblank, hspelled, by simpa using hversion⟩, ?_, ?_⟩
      · simp [Layout.text]
      · simp [Layout.captures, hsigned]
    · refine ⟨⟨before, .eq, "", between, String.ofList version, after, hblank,
        Operator.mem_spellings_iff.2 ⟨.inl rfl, rfl⟩, by simpa using hversion⟩, ?_, ?_⟩
      · simp [Layout.text]
      · simp [Layout.captures]
  · rintro ⟨layout, rfl, rfl⟩
    refine ⟨layout.before, _, [], layout.captures, by simp [Layout.text], rfl,
      ⟨fun c hc => blank_of_mem_before hc, rfl⟩, layout.spelling.toList, _,
      if layout.spelling = "" then [] else [(1, layout.spelling.toList)],
      [(2, layout.version.toList)], rfl, rfl, ?_, layout.between, _, [], _, rfl, rfl,
      ⟨fun c hc => blank_of_mem_between hc, rfl⟩, layout.version.toList, layout.after, _, [], rfl,
      rfl, ⟨[], rfl, layout.dotted, rfl⟩, fun c hc => blank_of_mem_after hc, rfl⟩
    rcases (Operator.mem_spellings_iff.1 layout.spelled).1 with hbare | hsign
    · exact .inr (by simp [hbare])
    · have hsigned : layout.spelling ≠ "" := by
        intro hbare
        rw [hbare] at hsign
        exact absurd hsign (by decide)
      exact .inl ⟨[], by simp [hsigned], ⟨layout.spelling, hsign, rfl⟩, rfl⟩

end Layout

/-- Parsing accepts the texts of the layouts and gives the condition of the layout. -/
theorem parse_eq_ok_iff_layout {text : String} {condition : Condition} :
    parse text = .ok condition ↔
      ∃ layout : Layout, layout.text = text ∧ layout.condition = condition :=
  parse_eq_ok_iff.trans Layout.written_iff

/-- **Texts of conditions.** A text is accepted exactly if it can be cut into blanks, a sign or
none, blanks, a dotted number and blanks. However it is cut, the sign, the version and the blanks
behind it are the same, and behind a sign so are the two runs of blanks in front; the condition has
the operator and the version that are written there. Likewise it is accepted exactly if the pattern
of conditions matches, and whichever way is taken of those in which the pattern matches, its groups
stand for this condition. -/
theorem conditions_are_read_in_one_way (text : String) :
    ((∃ condition, parse text = .ok condition) ↔ ∃ layout : Layout, layout.text = text) ∧
    (∀ layout : Layout, layout.text = text → parse text = .ok layout.condition) ∧
    (∀ layout other : Layout, layout.text = text → other.text = text → layout.Same other) ∧
    ((∃ condition, parse text = .ok condition) ↔
      ∃ captures, pattern.Matches text.toList captures) ∧
    ∀ captures, pattern.Matches text.toList captures → parse text = .ok (ofCaptures captures) := by
  have haccepted :
      (∃ condition, parse text = .ok condition) ↔ ∃ layout : Layout, layout.text = text := by
    simp only [parse_eq_ok_iff_layout]
    constructor
    · rintro ⟨_, layout, htext, -⟩
      exact ⟨layout, htext⟩
    · rintro ⟨layout, htext⟩
      exact ⟨_, layout, htext, rfl⟩
  refine ⟨haccepted, ?_, ?_, haccepted.trans ?_, ?_⟩
  · intro layout htext
    exact parse_eq_ok_iff_layout.2 ⟨layout, htext, rfl⟩
  · intro layout other htext hother
    exact Layout.same_of_text_eq (htext.trans hother.symm)
  · simp only [Layout.matches_pattern_iff, String.toList_inj]
    constructor
    · rintro ⟨layout, htext⟩
      exact ⟨_, layout, htext, rfl⟩
    · rintro ⟨_, layout, htext, -⟩
      exact ⟨layout, htext⟩
  · intro captures hmatches
    obtain ⟨layout, htext, rfl⟩ := Layout.matches_pattern_iff.1 hmatches
    rw [layout.ofCaptures_captures]
    exact parse_eq_ok_iff_layout.2 ⟨layout, String.toList_inj.1 htext, rfl⟩

/-- A version without a sign, behind one blank. -/
def bare : Layout where
  before := [' ']
  operator := .eq
  spelling := ""
  between := []
  version := "40"
  after := []
  blank := List.all_eq_true.1 (by decide)
  spelled := by decide
  dotted := by decide +kernel

/-- The same text. The blank counts as one behind the sign that is missing. -/
def bareLate : Layout :=
  { bare with before := [], between := [' '], blank := List.all_eq_true.1 (by decide) }

theorem conditions_are_read_in_one_way_of_bare :
    bare.text = " 40" ∧ bareLate.text = " 40" ∧ parse " 40" = .ok bare.condition ∧
      bare.Same bareLate ∧
      ∃ captures, pattern.Matches " 40".toList captures ∧
        parse " 40" = .ok (ofCaptures captures) := by
  have htext : bare.text = " 40" := by decide
  have hlate : bareLate.text = " 40" := by decide
  obtain ⟨hlayout, hparse, hsame, hmatch, hcaptures⟩ := conditions_are_read_in_one_way " 40"
  obtain ⟨captures, hmatches⟩ := hmatch.1 (hlayout.2 ⟨bare, htext⟩)
  exact ⟨htext, hlate, hparse bare htext, hsame bare bareLate htext hlate, captures, hmatches,
    hcaptures captures hmatches⟩

/-- An accepted text that can be cut in more ways than one: the blank stands in front of a sign that
is missing, or behind it. -/
theorem blank_before_bare_version_is_cut_in_two_ways :
    (∃ condition, parse " 40" = .ok condition) ∧ ¬ ∃! layout : Layout, layout.text = " 40" := by
  have htext : bare.text = " 40" := by decide
  have hlate : bareLate.text = " 40" := by decide
  refine ⟨⟨_, parse_eq_ok_iff_layout.2 ⟨bare, htext, rfl⟩⟩, fun hunique => ?_⟩
  have hsame : bare.before = bareLate.before :=
    congrArg Layout.before (hunique.unique htext hlate)
  cases hsame

end Condition

end Version

end CloudTenancy
