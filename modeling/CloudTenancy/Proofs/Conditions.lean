import CloudTenancy.Proofs.VersionOrder
import CloudTenancy.Version.Condition

/-!
CloudTenancy.Proofs.Conditions — which texts are conditions, and which conditions can be evaluated.

* `Operator.spellings`, `Operator.Relates` — how an operator is written, and the relation that it
  stands for.
* `Condition.Written` — the texts of a condition: blanks, a spelling of its operator, blanks, a
  dotted number and blanks.
* `Condition.IsComparable` — the numbers of a condition are ASCII digits below `2 ^ 64`.

A condition may be written with the digits of any script and with numbers of any length, while
versions are compared as 64-bit numerals of ASCII. The two notions of a number meet in
`isNumeric_iff_isComparable`.

Main statements: `Condition.parse_eq_ok_iff`, and `accepted_conditions_decide` with
`long_condition_never_decides` for a number that is too long.
-/

namespace CloudTenancy

namespace Text

/-- No decimal digit is a blank. -/
theorem isBlank_of_isDecimalDigit {c : Char} (h : isDecimalDigit c = true) : isBlank c = false := by
  have hzeros : digitZeros.all (fun first => first == 0x30 ||
      (0xA0 < first && first + 10 ≤ 0x1680) || (0x1680 < first && first + 10 ≤ 0x2000) ||
      0x3000 < first) = true := by decide +kernel
  obtain ⟨i, hi, hmem⟩ := Array.any_eq_true.1 h
  have hzero := Array.all_eq_true.1 hzeros i hi
  simp only [Bool.or_eq_true, Bool.and_eq_true, beq_iff_eq, decide_eq_true_eq] at hzero hmem
  refine Bool.eq_false_iff.2 fun hblank => ?_
  simp only [isBlank, Bool.or_eq_true, Bool.and_eq_true, beq_iff_eq, decide_eq_true_eq] at hblank
  omega

/-- A character is the separator or stands in a piece. -/
theorem eq_or_mem_splitOn (sep : Char) {c : Char} {cs : List Char} (h : c ∈ cs) :
    c = sep ∨ ∃ piece ∈ splitOn sep cs, c ∈ piece := by
  induction cs with
  | nil => simp at h
  | cons d ds ih =>
    rw [splitOn]
    by_cases hd : d = sep
    · rcases List.mem_cons.1 h with rfl | hmem
      · exact .inl hd
      · rcases ih hmem with hsep | ⟨piece, hpiece, hc⟩
        · exact .inl hsep
        · exact .inr ⟨piece, by simp [hd, hpiece], hc⟩
    · cases hpieces : splitOn sep ds with
      | nil => exact absurd hpieces (splitOn_ne_nil sep ds)
      | cons first rest =>
        rw [hpieces] at ih
        rcases List.mem_cons.1 h with rfl | hmem
        · exact .inr ⟨c :: first, by simp [hd], by simp⟩
        · rcases ih hmem with hsep | ⟨piece, hpiece, hc⟩
          · exact .inl hsep
          · rcases List.mem_cons.1 hpiece with rfl | hpiece
            · exact .inr ⟨d :: piece, by simp [hd], by simp [hc]⟩
            · exact .inr ⟨piece, by simp [hd, hpiece], hc⟩

/-- Trimming removes leading blanks up to the first character that is none. -/
theorem trimStartChars_append {blanks rest : List Char} (hblanks : ∀ c ∈ blanks, isBlank c = true)
    (hrest : ∀ c ∈ rest.head?, isBlank c = false) : trimStartChars (blanks ++ rest) = rest := by
  rw [trimStartChars, List.dropWhile_append_of_pos hblanks]
  cases rest with
  | nil => rfl
  | cons c cs => exact trimStartChars_of_not_blank (hrest c rfl)

theorem trimEndChars_append {front blanks : List Char} (hblanks : ∀ c ∈ blanks, isBlank c = true)
    (hfront : ∀ c ∈ front.getLast?, isBlank c = false) :
    trimEndChars (front ++ blanks) = front := by
  have hreversed : ∀ c ∈ blanks.reverse, isBlank c = true := by simpa using hblanks
  rw [trimEndChars, List.reverse_append, List.dropWhile_append_of_pos hreversed]
  exact dropEnd_eq_self hfront

/-- A text without blanks stands between the blanks around it. -/
theorem trimChars_between {before after cs : List Char} (hbefore : ∀ c ∈ before, isBlank c = true)
    (hafter : ∀ c ∈ after, isBlank c = true) (hcs : ∀ c ∈ cs, isBlank c = false) (hne : cs ≠ []) :
    trimChars (before ++ (cs ++ after)) = cs := by
  rw [trimChars, trimStartChars_append hbefore, trimEndChars_append hafter]
  · intro c hc
    exact hcs c (List.mem_of_getLast? hc)
  · intro c hc
    cases cs with
    | nil => exact absurd rfl hne
    | cons d ds =>
      obtain rfl : d = c := by simpa using hc
      exact hcs d List.mem_cons_self

/-- A text is its trimmed form with blanks around it. -/
theorem exists_blanks_trimChars (cs : List Char) :
    ∃ before after, cs = before ++ (trimChars cs ++ after) ∧
      (∀ c ∈ before, isBlank c = true) ∧ ∀ c ∈ after, isBlank c = true := by
  obtain ⟨after, hafter, hblanks⟩ := exists_append_of_dropEnd isBlank (trimStartChars cs)
  refine ⟨cs.takeWhile isBlank, after, ?_, ?_, hblanks⟩
  · calc cs = cs.takeWhile isBlank ++ trimStartChars cs := List.takeWhile_append_dropWhile.symm
      _ = cs.takeWhile isBlank ++ (trimChars cs ++ after) := congrArg _ hafter
  · exact fun c hc => List.all_eq_true.1 List.all_takeWhile c hc

end Text

namespace Version

/-! ## Operators -/

namespace Operator

/-- How an operator is written. No sign means equality. -/
def spellings : Operator → List String
  | eq => ["==", "=", ""]
  | ne => ["!="]
  | lt => ["<"]
  | le => ["<="]
  | gt => [">"]
  | ge => [">="]

/-- The relation that an operator stands for. -/
def Relates {α : Type} [LinearOrder α] : Operator → α → α → Prop
  | eq, x, y => x = y
  | ne, x, y => x ≠ y
  | lt, x, y => x < y
  | le, x, y => x ≤ y
  | gt, x, y => y < x
  | ge, x, y => y ≤ x

/-- An operator accepts an outcome of a comparison exactly when its relation holds. -/
theorem accepts_iff {α : Type} [LinearOrder α] {x y : α} {o : Ordering} (operator : Operator)
    (h : o.Compares x y) : operator.accepts o = true ↔ operator.Relates x y := by
  cases operator with
  | eq => simpa [accepts, Relates] using h.eq_eq
  | ne => simpa [accepts, Relates] using not_congr h.eq_eq
  | lt => simpa [accepts, Relates] using h.eq_lt
  | le => simpa [accepts, Relates] using h.ne_gt
  | gt => simpa [accepts, Relates] using h.eq_gt
  | ge => simpa [accepts, Relates] using h.ne_lt

def signs : List Char := ['=', '!', '<', '>']

/-- What is read as a sign is one of the spellings of the operator. -/
theorem exists_spelling_of_read (cs : List Char) :
    ∃ spelling ∈ (read cs).1.spellings, cs = spelling.toList ++ (read cs).2 := by
  unfold read
  split
  · exact ⟨">=", by simp [spellings], rfl⟩
  · exact ⟨"<=", by simp [spellings], rfl⟩
  · exact ⟨"==", by simp [spellings], rfl⟩
  · exact ⟨"!=", by simp [spellings], rfl⟩
  · exact ⟨">", by simp [spellings], rfl⟩
  · exact ⟨"<", by simp [spellings], rfl⟩
  · exact ⟨"=", by simp [spellings], rfl⟩
  · exact ⟨"", by simp [spellings], rfl⟩

/-- The longest spelling is taken, which is the one that is there if no sign follows. -/
theorem read_spelling {operator : Operator} {spelling : String} {rest : List Char}
    (h : spelling ∈ operator.spellings) (hrest : ∀ c ∈ rest.head?, c ∉ signs) :
    read (spelling.toList ++ rest) = (operator, rest) := by
  have hhead : rest.head? ≠ some '=' := by
    intro heq
    exact hrest '=' heq (by simp [signs])
  -- A sign that is the front of a longer one is taken for itself only since no `=` follows.
  cases operator with
  | ge =>
    obtain rfl : spelling = ">=" := by simpa [spellings] using h
    rfl
  | le =>
    obtain rfl : spelling = "<=" := by simpa [spellings] using h
    rfl
  | ne =>
    obtain rfl : spelling = "!=" := by simpa [spellings] using h
    rfl
  | gt =>
    obtain rfl : spelling = ">" := by simpa [spellings] using h
    show read ('>' :: rest) = (gt, rest)
    cases rest with
    | nil => rfl
    | cons c cs => simp_all [read]
  | lt =>
    obtain rfl : spelling = "<" := by simpa [spellings] using h
    show read ('<' :: rest) = (lt, rest)
    cases rest with
    | nil => rfl
    | cons c cs => simp_all [read]
  | eq =>
    have hspelling : spelling = "==" ∨ spelling = "=" ∨ spelling = "" := by
      simpa [spellings] using h
    rcases hspelling with rfl | rfl | rfl
    · rfl
    · show read ('=' :: rest) = (eq, rest)
      cases rest with
      | nil => rfl
      | cons c cs => simp_all [read]
    · show read rest = (eq, rest)
      cases rest with
      | nil => rfl
      | cons c cs =>
        have hc : c ∉ signs := hrest c rfl
        simp_all [read, signs]

end Operator

/-! ## Texts of conditions -/

namespace Condition

/-- A text of the condition: blanks, a spelling of the operator, blanks, the version, which is a
dotted number, and blanks. -/
def Written (condition : Condition) (text : String) : Prop :=
  isDottedNumber condition.version.toList = true ∧
    ∃ spelling ∈ condition.operator.spellings, ∃ before between after : List Char,
      (∀ c ∈ before ++ (between ++ after), Text.isBlank c = true) ∧
      text.toList =
        before ++ (spelling.toList ++ (between ++ (condition.version.toList ++ after)))

theorem isDecimalDigit_of_isDottedNumber {cs : List Char} (h : isDottedNumber cs = true) {c : Char}
    (hc : c ∈ cs) : c = '.' ∨ Text.isDecimalDigit c = true := by
  rcases Text.eq_or_mem_splitOn '.' hc with hsep | ⟨run, hrun, hmem⟩
  · exact .inl hsep
  · have hdigits := List.all_eq_true.1 h run hrun
    simp only [Bool.and_eq_true, List.all_eq_true] at hdigits
    exact .inr (hdigits.2 c hmem)

/-- A dotted number is not empty and holds no blank. -/
theorem not_blank_of_isDottedNumber {cs : List Char} (h : isDottedNumber cs = true) :
    cs ≠ [] ∧ ∀ c ∈ cs, Text.isBlank c = false := by
  constructor
  · rintro rfl
    simp [isDottedNumber, Text.splitOn] at h
  · intro c hc
    rcases isDecimalDigit_of_isDottedNumber h hc with rfl | hdigit
    · decide
    · exact Text.isBlank_of_isDecimalDigit hdigit

/-- Neither blanks nor dotted numbers hold a sign. -/
theorem not_sign {c : Char}
    (h : Text.isBlank c = true ∨ c = '.' ∨ Text.isDecimalDigit c = true) :
    c ∉ Operator.signs := by
  intro hsign
  have hnone : Operator.signs.all (fun c =>
      !(Text.isBlank c || c == '.' || Text.isDecimalDigit c)) = true := by decide +kernel
  have hc := List.all_eq_true.1 hnone c hsign
  simp only [Bool.not_eq_true', Bool.or_eq_false_iff, beq_eq_false_iff_ne] at hc
  rcases h with h | h | h
  · simp [hc] at h
  · exact hc.1.2 h
  · simp [hc] at h

/-- In front of an operator that is written with signs blanks are dropped, and in front of one that
is not they are dropped up to the version. -/
theorem exists_gap {operator : Operator} {spelling : String}
    {before between rest : List Char} (hspelling : spelling ∈ operator.spellings)
    (hbefore : ∀ c ∈ before, Text.isBlank c = true)
    (hbetween : ∀ c ∈ between, Text.isBlank c = true)
    (hrest : ∀ c ∈ rest.head?, Text.isBlank c = false) :
    ∃ gap, (∀ c ∈ gap, Text.isBlank c = true) ∧
      Text.trimStartChars (before ++ (spelling.toList ++ (between ++ rest))) =
        spelling.toList ++ (gap ++ rest) := by
  have hfront : spelling = "" ∨ ∃ c cs, spelling.toList = c :: cs ∧ Text.isBlank c = false := by
    have hall : ∀ operator : Operator, ∀ spelling ∈ operator.spellings,
        spelling = "" ∨ ∃ c cs, spelling.toList = c :: cs ∧ Text.isBlank c = false := by
      intro operator
      cases operator <;> simp [Operator.spellings, Text.isBlank]
    exact hall operator spelling hspelling
  rcases hfront with rfl | ⟨c, cs, hcons, hc⟩
  · refine ⟨[], by simp, ?_⟩
    have hblanks : ∀ c ∈ before ++ between, Text.isBlank c = true := by
      intro c hc
      exact (List.mem_append.1 hc).elim (hbefore c) (hbetween c)
    simpa using Text.trimStartChars_append hblanks hrest
  · refine ⟨between, hbetween, Text.trimStartChars_append hbefore ?_⟩
    simp [hcons, hc]

/-- Every text that is accepted is a written form of the condition it gives. -/
theorem written_of_parse {text : String} {condition : Condition}
    (h : parse text = .ok condition) : condition.Written text := by
  obtain ⟨spelling, hspelling, hread⟩ :=
    Operator.exists_spelling_of_read (Text.trimStartChars text.toList)
  unfold parse at h
  generalize Operator.read (Text.trimStartChars text.toList) = found at h hspelling hread
  obtain ⟨operator, rest⟩ := found
  dsimp only at h hspelling hread
  split at h
  · rename_i hdotted
    cases h
    obtain ⟨between, after, hrest, hbetween, hafter⟩ := Text.exists_blanks_trimChars rest
    refine ⟨by simpa using hdotted, spelling, hspelling, text.toList.takeWhile Text.isBlank,
      between, after, ?_, ?_⟩
    · intro c hc
      rw [List.mem_append, List.mem_append] at hc
      rcases hc with hc | hc | hc
      · exact List.all_eq_true.1 List.all_takeWhile c hc
      · exact hbetween c hc
      · exact hafter c hc
    · calc text.toList
          = text.toList.takeWhile Text.isBlank ++ Text.trimStartChars text.toList :=
            List.takeWhile_append_dropWhile.symm
        _ = text.toList.takeWhile Text.isBlank ++ (spelling.toList ++ rest) := by rw [hread]
        _ = _ := by rw [String.toList_ofList, ← hrest]
  · cases h

/-- The operator of a condition is read off its text, and blanks are left around the version. -/
theorem Written.read {text : String} {condition : Condition} (h : condition.Written text) :
    ∃ gap after, (∀ c ∈ gap, Text.isBlank c = true) ∧ (∀ c ∈ after, Text.isBlank c = true) ∧
      Operator.read (Text.trimStartChars text.toList) =
        (condition.operator, gap ++ (condition.version.toList ++ after)) := by
  obtain ⟨hdotted, spelling, hspelling, before, between, after, hblanks, htext⟩ := h
  obtain ⟨hne, hunblank⟩ := not_blank_of_isDottedNumber hdotted
  simp only [List.mem_append] at hblanks
  have hhead : ∀ c ∈ (condition.version.toList ++ after).head?, c ∈ condition.version.toList := by
    intro c hc
    cases hversion : condition.version.toList with
    | nil => exact absurd hversion hne
    | cons d ds =>
      obtain rfl : d = c := by simpa [hversion] using hc
      exact List.mem_cons_self
  obtain ⟨gap, hgap, hstart⟩ := exists_gap hspelling (fun c hc => hblanks c (.inl hc))
    (fun c hc => hblanks c (.inr (.inl hc))) (fun c hc => hunblank c (hhead c hc))
  refine ⟨gap, after, hgap, fun c hc => hblanks c (.inr (.inr hc)), ?_⟩
  rw [htext, hstart]
  refine Operator.read_spelling hspelling ?_
  intro c hc
  cases gap with
  | nil => exact not_sign (.inr (isDecimalDigit_of_isDottedNumber hdotted (hhead c hc)))
  | cons d ds =>
    obtain rfl : d = c := by simpa using hc
    exact not_sign (.inl (hgap d List.mem_cons_self))

/-- A text is read as a condition exactly if it is a text of it. -/
theorem parse_eq_ok_iff {text : String} {condition : Condition} :
    parse text = .ok condition ↔ condition.Written text := by
  constructor
  · exact written_of_parse
  · intro h
    obtain ⟨gap, after, hgap, hafter, hread⟩ := h.read
    obtain ⟨hdotted, -⟩ := h
    obtain ⟨hne, hunblank⟩ := not_blank_of_isDottedNumber hdotted
    simp only [parse, hread, Text.trimChars_between hgap hafter hunblank hne, hdotted, if_true,
      String.ofList_toList]

/-! ## Conditions that can be evaluated -/

/-- All numbers of a condition are runs of ASCII digits for numbers of 64 bits. -/
def IsComparable (condition : Condition) : Prop :=
  ∀ run ∈ Text.splitOn '.' condition.version.toList,
    (∀ c ∈ run, c.isDigit = true) ∧ Nat.ofDigitChars 10 run 0 < Text.wordBound

instance : DecidablePred IsComparable := fun condition =>
  decidable_of_iff ((Text.splitOn '.' condition.version.toList).all (fun run =>
    run.all Char.isDigit && decide (Nat.ofDigitChars 10 run 0 < Text.wordBound)) = true) <| by
      simp [IsComparable]

variable {condition : Condition} {version : String}

/-- The version of a parsed condition is numeric unless one of its numbers is out of range. -/
theorem isNumeric_iff_isComparable (h : isDottedNumber condition.version.toList = true) :
    IsNumeric condition.version ↔ condition.IsComparable := by
  have hrun : ∀ run ∈ Text.splitOn '.' condition.version.toList,
      (∃ n, Text.Denotes (Text.trimChars run) n) ↔
        (∀ c ∈ run, c.isDigit = true) ∧ Nat.ofDigitChars 10 run 0 < Text.wordBound := by
    intro run hmem
    have hdigits := List.all_eq_true.1 h run hmem
    simp only [Bool.and_eq_true, Bool.not_eq_true', List.isEmpty_eq_false_iff,
      List.all_eq_true] at hdigits
    obtain ⟨hne, hdecimal⟩ := hdigits
    rw [Text.trimChars_of_not_blank fun c hc => Text.isBlank_of_isDecimalDigit (hdecimal c hc)]
    constructor
    · rintro ⟨n, digits, rfl | rfl, -, hdigit, rfl, hbound⟩
      · exact ⟨hdigit, hbound⟩
      · have hplus : Text.isDecimalDigit '+' = true := hdecimal '+' List.mem_cons_self
        exact absurd hplus (by decide +kernel)
    · intro hrun
      exact ⟨_, run, .inl rfl, hne, hrun.1, rfl, hrun.2⟩
  exact forall₂_congr hrun

/-- A condition holds of a version as the relation does of their numbers. -/
theorem holds?_of_numeric (hversion : IsNumeric version)
    (hcondition : IsNumeric condition.version) :
    ∃ b, condition.holds? version = some b ∧
      (b = true ↔ condition.operator.Relates (rank version) (rank condition.version)) := by
  obtain ⟨o, ho, hcompares⟩ := compare?_of_numeric hversion hcondition
  exact ⟨condition.operator.accepts o, by simp [holds?, ho],
    condition.operator.accepts_iff hcompares⟩

/-- A condition has no answer exactly when one of the two versions is not numeric. -/
theorem holds?_eq_none_iff :
    condition.holds? version = none ↔ ¬(IsNumeric version ∧ IsNumeric condition.version) := by
  simp [holds?, compare?_eq_none_iff]

def Met (condition : Condition) (version : String) : Prop := condition.holds? version = some true

instance (condition : Condition) (version : String) : Decidable (condition.Met version) :=
  inferInstanceAs (Decidable (_ = _))

/-- A condition is met when the ranks of the two versions stand in the operator's relation. -/
theorem met_iff : condition.Met version ↔ IsNumeric version ∧ IsNumeric condition.version ∧
    condition.operator.Relates (rank version) (rank condition.version) := by
  by_cases h : IsNumeric version ∧ IsNumeric condition.version
  · obtain ⟨b, hb, hrelates⟩ := holds?_of_numeric h.1 h.2
    simp [Met, hb, ← hrelates, h]
  · have hnone : condition.holds? version = none := holds?_eq_none_iff.2 h
    constructor
    · intro hmet
      simp [Met, hnone] at hmet
    · intro hnumeric
      exact absurd ⟨hnumeric.1, hnumeric.2.1⟩ h

/-- The version of a condition may stand behind any operator. -/
theorem parse_spelling {operator : Operator} {spelling : String}
    (h : isDottedNumber condition.version.toList = true)
    (hspelling : spelling ∈ operator.spellings) :
    parse (spelling ++ condition.version) = .ok { condition with operator } :=
  parse_eq_ok_iff.2 ⟨h, spelling, hspelling, [], [], [], by simp, by simp⟩

/-- **Evaluation.** A text is accepted as a condition; then its version is accepted behind every
operator. The condition is undefined exactly for versions that are not dotted numeric, and for all
of them if its own numbers are not ASCII digits of 64 bits. For a dotted numeric version, exactly
one of equality and its opposite holds, one of "less" and "not less" and one of "greater" and "not
greater", if and only if the numbers of the condition are such digits. -/
theorem accepted_conditions_decide {text : String} (h : parse text = .ok condition) :
    (∀ operator : Operator, ∀ spelling ∈ operator.spellings,
      parse (spelling ++ condition.version) = .ok { condition with operator }) ∧
    (∀ version, condition.holds? version = none ↔ ¬(IsNumeric version ∧ condition.IsComparable)) ∧
    ∀ version, IsNumeric version →
      (condition.IsComparable ↔
        Xor (Met { condition with operator := .eq } version)
            (Met { condition with operator := .ne } version) ∧
          Xor (Met { condition with operator := .lt } version)
            (Met { condition with operator := .ge } version) ∧
          Xor (Met { condition with operator := .gt } version)
            (Met { condition with operator := .le } version)) := by
  have hdotted : isDottedNumber condition.version.toList = true := (parse_eq_ok_iff.1 h).1
  have hcomparable := isNumeric_iff_isComparable hdotted
  refine ⟨fun operator spelling hspelling => parse_spelling hdotted hspelling, ?_, ?_⟩
  · intro version
    rw [holds?_eq_none_iff, hcomparable]
  · intro version hversion
    rw [← hcomparable]
    simp only [met_iff, hversion, true_and, Operator.Relates]
    constructor
    · intro hnumeric
      simp only [hnumeric, true_and]
      refine ⟨xor_not_right.2 Iff.rfl, ?_, ?_⟩
      · rw [← not_lt]
        exact xor_not_right.2 Iff.rfl
      · rw [← not_lt]
        exact xor_not_right.2 Iff.rfl
    · intro hxor
      rcases hxor.1 with hmet | hmet
      · exact hmet.1.1
      · exact hmet.1.1

/-- A condition that can be evaluated. -/
theorem accepted_conditions_decide_of_minimum :
    parse " >= 40.0" = .ok { operator := .ge, version := "40.0" } ∧
      IsNumeric "39.1" ∧
      parse "!=40.0" = .ok { operator := .ne, version := "40.0" } ∧
      Condition.holds? { operator := .ge, version := "40.0" } "39.1" ≠ none ∧
      Xor (Met { operator := .lt, version := "40.0" } "39.1")
        (Met { operator := .ge, version := "40.0" } "39.1") := by
  have hparse : parse " >= 40.0" = .ok { operator := .ge, version := "40.0" } := by
    decide +kernel
  have hnumeric : IsNumeric "39.1" := by decide +kernel
  have hcomparable : IsComparable { operator := .ge, version := "40.0" } := by decide +kernel
  obtain ⟨haccepted, hnone, hdecides⟩ := accepted_conditions_decide hparse
  refine ⟨hparse, hnumeric, haccepted .ne "!=" (by decide), ?_,
    ((hdecides "39.1" hnumeric).1 hcomparable).2.1⟩
  rw [ne_eq, hnone, not_not]
  exact ⟨hnumeric, hcomparable⟩

/-- The number is too long for 64 bits, and `40.0` is neither equal to it nor unequal. -/
theorem long_condition_never_decides :
    parse "!= 99999999999999999999" =
        .ok { operator := .ne, version := "99999999999999999999" } ∧
      IsNumeric "40.0" ∧
      Condition.holds? { operator := .ne, version := "99999999999999999999" } "40.0" = none ∧
      ¬Xor (Met { operator := .eq, version := "99999999999999999999" } "40.0")
        (Met { operator := .ne, version := "99999999999999999999" } "40.0") := by
  decide +kernel

end Condition

end Version

end CloudTenancy
