/-!
CloudTenancy.Text.Split — cutting texts into pieces.

* `splitOn` — all pieces between occurrences of one character.
* `afterLast` — the text after the last occurrence of a character.
* `breakAt` — the text before and after the first occurrence of a separator.
* `splitAtMost` — bounded splitting: the last piece keeps all further separators.
* `lines` — lines ended by a line feed, or by a carriage return and a line feed.

Main statements: what `splitOn`, `breakAt` and `splitAtMost` cut apart is put together again by
joining with the separator, and a text is its lines with their ends.
-/

namespace CloudTenancy.Text

/-! ## One character -/

/-- The pieces between the occurrences of `sep`, one more than there are occurrences. -/
def splitOn (sep : Char) : List Char → List (List Char)
  | [] => [[]]
  | c :: cs =>
    if c = sep then [] :: splitOn sep cs
    else match splitOn sep cs with
      | [] => [[c]]
      | piece :: pieces => (c :: piece) :: pieces

def split (sep : Char) (s : String) : List String :=
  (splitOn sep s.toList).map String.ofList

/-- The text after the last occurrence of `sep`, the whole text if there is none. -/
def afterLast (sep : Char) (s : String) : String :=
  String.ofList (s.toList.reverse.takeWhile (· ≠ sep)).reverse

theorem splitOn_ne_nil (sep : Char) (cs : List Char) : splitOn sep cs ≠ [] := by
  cases cs with
  | nil => simp [splitOn]
  | cons c cs =>
    rw [splitOn]
    split
    · simp
    · split <;> simp

/-- Joining the pieces gives the text back. -/
theorem intercalate_splitOn (sep : Char) (cs : List Char) :
    [sep].intercalate (splitOn sep cs) = cs := by
  induction cs with
  | nil => simp [splitOn]
  | cons c cs ih =>
    rw [splitOn]
    cases hs : splitOn sep cs with
    | nil => exact absurd hs (splitOn_ne_nil sep cs)
    | cons piece pieces =>
      rw [hs] at ih
      by_cases hc : c = sep
      · subst hc
        simp [List.intercalate] at ih ⊢
        exact ih
      · simp only [hc, if_false]
        cases pieces with
        | nil => simpa [List.intercalate] using ih
        | cons p ps => simpa [List.intercalate, List.intersperse] using ih

/-! ## A separator of any length -/

/-- The texts before and after the first occurrence of `sep`. -/
def breakAt (sep : List Char) (cs : List Char) : Option (List Char × List Char) :=
  if sep.isPrefixOf cs then some ([], cs.drop sep.length)
  else match cs with
    | [] => none
    | c :: rest => (breakAt sep rest).map fun (before, after) => (c :: before, after)

/-- At most `n` pieces: the first `n - 1` end at the first occurrences of `sep`, the last one
holds the rest. -/
def splitAtMost : Nat → List Char → List Char → List (List Char)
  | 0, _, _ => []
  | 1, _, cs => [cs]
  | n + 2, sep, cs =>
    match breakAt sep cs with
    | none => [cs]
    | some (before, after) => before :: splitAtMost (n + 1) sep after

theorem eq_append_of_breakAt {sep cs before after : List Char}
    (h : breakAt sep cs = some (before, after)) : cs = before ++ sep ++ after := by
  induction cs generalizing before with
  | nil =>
    rw [breakAt] at h
    split at h
    · rename_i hp
      obtain ⟨rfl, rfl⟩ := by simpa using h
      simpa using List.isPrefixOf_iff_prefix.1 hp
    · simp at h
  | cons c cs ih =>
    rw [breakAt] at h
    split at h
    · rename_i hp
      obtain ⟨t, ht⟩ := List.isPrefixOf_iff_prefix.1 hp
      simp only [Option.some.injEq, Prod.mk.injEq] at h
      obtain ⟨rfl, rfl⟩ := h
      simp [← ht]
    · simp only [Option.map_eq_some_iff] at h
      obtain ⟨⟨b, a⟩, hb, hba⟩ := h
      simp only [Prod.mk.injEq] at hba
      obtain ⟨rfl, rfl⟩ := hba
      simp [ih hb]

theorem length_splitAtMost_le (n : Nat) (sep cs : List Char) :
    (splitAtMost n sep cs).length ≤ n := by
  fun_induction splitAtMost n sep cs <;> simp_all

/-- Joining the pieces of a bounded split gives the text back. -/
theorem intercalate_splitAtMost (n : Nat) (sep cs : List Char) :
    sep.intercalate (splitAtMost (n + 1) sep cs) = cs := by
  induction n generalizing cs with
  | zero => simp [splitAtMost]
  | succ n ih =>
    rw [splitAtMost]
    cases hb : breakAt sep cs with
    | none => simp
    | some p =>
      obtain ⟨before, after⟩ := p
      have hcs := eq_append_of_breakAt hb
      have ih := ih after
      cases hs : splitAtMost (n + 1) sep after with
      | nil =>
        cases n with
        | zero => simp [splitAtMost] at hs
        | succ n => rw [splitAtMost] at hs; split at hs <;> simp at hs
      | cons q qs =>
        rw [hs] at ih
        simp only [hs, List.intercalate, List.intersperse_cons_cons, List.flatten_cons] at ih ⊢
        rw [ih, hcs, List.append_assoc]

/-! ## Lines -/

/-- The lines of a text without their ends. A carriage return belongs to the end of a line only
in front of a line feed, and no empty line follows the last line feed. -/
def lines : List Char → List (List Char)
  | [] => []
  | '\r' :: '\n' :: cs => [] :: lines cs
  | '\n' :: cs => [] :: lines cs
  | c :: cs =>
    match lines cs with
    | [] => [[c]]
    | line :: rest => (c :: line) :: rest

theorem lines_cons_ne_nil (c : Char) (cs : List Char) : lines (c :: cs) ≠ [] := by
  intro h
  unfold lines at h
  split at h
  · rename_i hnil
    cases hnil
  · cases h
  · cases h
  · split at h <;> cases h

/-- The first line of a text is all of it, or its end and the other lines follow. -/
theorem eq_append_of_lines_cons {cs line : List Char} {rest : List (List Char)}
    (h : lines cs = line :: rest) :
    (cs = line ∧ rest = []) ∨
      ∃ ending more, (ending = ['\n'] ∨ ending = ['\r', '\n']) ∧
        cs = line ++ ending ++ more ∧ lines more = rest := by
  fun_induction lines cs generalizing line rest with
  | case1 => cases h
  | case2 cs _ =>
    cases h
    exact .inr ⟨['\r', '\n'], cs, .inr rfl, rfl, rfl⟩
  | case3 cs _ =>
    cases h
    exact .inr ⟨['\n'], cs, .inl rfl, rfl, rfl⟩
  | case4 c cs _ _ hnil ih =>
    cases h
    cases cs with
    | nil => exact .inl ⟨rfl, rfl⟩
    | cons d ds => exact absurd hnil (lines_cons_ne_nil d ds)
  | case5 c cs _ _ first others hlines ih =>
    cases h
    rcases ih hlines with ⟨rfl, rfl⟩ | ⟨ending, more, hending, rfl, hmore⟩
    · exact .inl ⟨rfl, rfl⟩
    · exact .inr ⟨ending, more, hending, rfl, hmore⟩

/-! ## Infixes -/

def hasInfix (needle : List Char) : List Char → Bool
  | [] => needle.isEmpty
  | c :: cs => needle.isPrefixOf (c :: cs) || hasInfix needle cs

theorem hasInfix_iff {needle cs : List Char} :
    hasInfix needle cs = true ↔ ∃ before after, cs = before ++ needle ++ after := by
  induction cs with
  | nil =>
    constructor
    · intro h
      have : needle = [] := by simpa [hasInfix] using h
      exact ⟨[], [], by simp [this]⟩
    · rintro ⟨before, after, h⟩
      have : needle = [] := by
        have := congrArg List.length h
        simp at this
        exact List.length_eq_zero_iff.1 (by omega)
      simp [hasInfix, this]
  | cons c cs ih =>
    rw [hasInfix, Bool.or_eq_true, ih]
    constructor
    · rintro (h | ⟨before, after, h⟩)
      · obtain ⟨t, ht⟩ := List.isPrefixOf_iff_prefix.1 h
        exact ⟨[], t, by simpa using ht.symm⟩
      · exact ⟨c :: before, after, by simp [h]⟩
    · rintro ⟨before, after, h⟩
      cases before with
      | nil => exact Or.inl (List.isPrefixOf_iff_prefix.2 ⟨after, by simpa using h.symm⟩)
      | cons b bs =>
        simp only [List.cons_append, List.cons.injEq] at h
        exact Or.inr ⟨bs, after, h.2⟩

theorem isPrefixOf_append_cons {needle : List Char} {c : Char} (h : c ∉ needle)
    (before after : List Char) :
    needle.isPrefixOf (before ++ c :: after) = needle.isPrefixOf before := by
  induction needle generalizing before with
  | nil => simp
  | cons d needle ih =>
    rw [List.mem_cons, not_or] at h
    cases before with
    | nil => simp [List.isPrefixOf, Ne.symm h.1]
    | cons b before => rw [List.cons_append, List.isPrefixOf, List.isPrefixOf, ih h.2]

/-- What does not hold a character does not reach over it. -/
theorem hasInfix_append_cons {needle : List Char} {c : Char} (h : c ∉ needle) (hne : needle ≠ [])
    (before after : List Char) :
    hasInfix needle (before ++ c :: after) = (hasInfix needle before || hasInfix needle after) := by
  induction before with
  | nil =>
    have hnil : needle.isPrefixOf [] = needle.isEmpty := by cases needle <;> rfl
    have hprefix := isPrefixOf_append_cons h [] after
    rw [List.nil_append] at hprefix ⊢
    rw [hasInfix, hasInfix, hprefix, hnil]
  | cons b before ih =>
    rw [List.cons_append, hasInfix, ← List.cons_append, isPrefixOf_append_cons h, hasInfix, ih,
      Bool.or_assoc]

end CloudTenancy.Text
