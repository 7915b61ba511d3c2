import CloudTenancy.Proofs.VersionOrder
import Mathlib.Data.List.DropRight
import Mathlib.Data.List.Forall2
import Mathlib.Logic.Function.Iterate

/-!
CloudTenancy.Proofs.VersionNumbers — dotted numeric versions are compared as padded numbers.

* `HasNumbers` — the numbers of a version, one for each part between its dots.
* `appendZero` — a version with a further `.0` behind it.

The comparison walks along two lists of different lengths and takes a zero for each number that is
missing. It is shown equal to the lexicographic order of two sequences that never end, so that the
laws of a linear order carry over to it, also where three versions of three lengths are compared.
Two lists stand for the same sequence exactly if nothing is left of their difference once the zeros
at their ends are dropped (`padded_eq_iff`).

Main statement: `versions_compare_as_padded_numbers`.
-/

namespace CloudTenancy

/-- The pieces between separators, by the splitting function of the library. -/
theorem Text.splitOn_eq (sep : Char) (cs : List Char) : Text.splitOn sep cs = cs.splitOn sep := by
  induction cs with
  | nil => simp [Text.splitOn]
  | cons c cs ih =>
    have hne := Text.splitOn_ne_nil sep cs
    rw [Text.splitOn, List.splitOn, List.splitOnP_cons_eq_if_modifyHead, ← List.splitOn, ← ih]
    by_cases hc : c = sep
    · simp [hc]
    · cases hpieces : Text.splitOn sep cs with
      | nil => exact absurd hpieces hne
      | cons piece pieces => simp [hc]

theorem Text.splitOn_append_cons (sep : Char) (cs ds : List Char) :
    Text.splitOn sep (cs ++ sep :: ds) = Text.splitOn sep cs ++ Text.splitOn sep ds := by
  simp only [Text.splitOn_eq, List.splitOn]
  exact List.splitOnP_append_cons cs ds (by simp)

namespace Version

variable {a b c : String} {as bs : List Nat}

/-! ## The numbers of a version -/

/-- The numbers of a version: each part between its dots is a numeral of 64 bits, once the blanks
around it are dropped. -/
def HasNumbers (version : String) (numbers : List Nat) : Prop :=
  List.Forall₂ (fun part n => Text.Denotes (Text.trimChars part) n)
    (Text.splitOn '.' version.toList) numbers

theorem mapM_eq_some_iff {α β : Type} {f : α → Option β} {xs : List α} {ys : List β} :
    xs.mapM f = some ys ↔ List.Forall₂ (fun x y => f x = some y) xs ys := by
  induction xs generalizing ys with
  | nil =>
    constructor
    · rintro ⟨⟩
      exact .nil
    · rintro ⟨⟩
      rfl
  | cons x xs ih =>
    simp only [List.mapM_cons, Option.bind_eq_bind, Option.bind_eq_some_iff, ih,
      List.forall₂_cons_left_iff, Option.pure_def, Option.some.injEq]
    constructor
    · rintro ⟨y, hy, rest, hrest, rfl⟩
      exact ⟨y, rest, hy, hrest, rfl⟩
    · rintro ⟨y, rest, hy, hrest, rfl⟩
      exact ⟨y, hy, rest, hrest, rfl⟩

theorem parts?_eq_some_iff : parts? a = some as ↔ HasNumbers a as := by
  simp only [parts?, mapM_eq_some_iff, Text.parseNatural?_eq_some_iff, HasNumbers]

/-- Two versions are compared by their numbers with zeros behind them. -/
theorem compare?_eq_some_iff {o : Ordering} :
    compare? a b = some o ↔
      ∃ as bs, HasNumbers a as ∧ HasNumbers b bs ∧ o.Compares (padded as) (padded bs) := by
  simp only [compare?, Option.bind_eq_bind, Option.bind_eq_some_iff, parts?_eq_some_iff,
    Option.pure_def, Option.some.injEq]
  constructor
  · rintro ⟨as, has, bs, hbs, rfl⟩
    exact ⟨as, bs, has, hbs, compares_compareParts as bs⟩
  · rintro ⟨as, bs, has, hbs, ho⟩
    exact ⟨as, has, bs, hbs, (compares_compareParts as bs).inj ho⟩

theorem exists_compare?_iff : (∃ o, compare? a b = some o) ↔ IsNumeric a ∧ IsNumeric b := by
  rw [← Option.ne_none_iff_exists', ne_eq, compare?_eq_none_iff, not_not]

/-! ## Zeros at the end -/

theorem rdropWhile_cons (a : Nat) (as : List Nat) :
    (a :: as).rdropWhile (· = 0) =
      if as.rdropWhile (· = 0) = [] ∧ a = 0 then [] else a :: as.rdropWhile (· = 0) := by
  induction as using List.reverseRecOn with
  | nil => simp [List.rdropWhile_singleton]
  | append_singleton as n ih =>
    rw [← List.cons_append]
    by_cases hn : n = 0
    · simp only [List.rdropWhile_concat, hn, decide_true, if_true, ih]
    · simp [hn]

theorem padded_nil_eq_iff : padded [] = padded bs ↔ bs.rdropWhile (· = 0) = [] := by
  induction bs with
  | nil => simp
  | cons b bs ih =>
    have hstep : padded [] = padded (b :: bs) ↔ 0 = b ∧ padded [] = padded bs := by
      conv_lhs => rw [← padded_headD_tail []]
      exact padded_cons_inj
    rw [hstep, ih, rdropWhile_cons]
    by_cases hb : b = 0
    · simp [hb]
    · simp [hb, Ne.symm hb]

/-- Lists of numbers stand for the same sequence exactly if they agree up to zeros at the end. -/
theorem padded_eq_iff :
    padded as = padded bs ↔ as.rdropWhile (· = 0) = bs.rdropWhile (· = 0) := by
  induction as generalizing bs with
  | nil => rw [padded_nil_eq_iff, List.rdropWhile_nil, eq_comm]
  | cons a as ih =>
    cases bs with
    | nil => rw [eq_comm, padded_nil_eq_iff, List.rdropWhile_nil]
    | cons b bs =>
      rw [padded_cons_inj, ih, rdropWhile_cons, rdropWhile_cons]
      generalize as.rdropWhile (· = 0) = front, bs.rdropWhile (· = 0) = other
      by_cases hfront : front = [] ∧ a = 0
      · obtain ⟨rfl, rfl⟩ := hfront
        by_cases hother : other = [] ∧ b = 0
        · simp [hother]
        · simp only [and_self, if_true, hother, if_false, reduceCtorEq, iff_false]
          rintro ⟨rfl, rfl⟩
          exact hother ⟨rfl, rfl⟩
      · rw [if_neg hfront]
        by_cases hother : other = [] ∧ b = 0
        · obtain ⟨rfl, rfl⟩ := hother
          simpa [and_comm] using hfront
        · simp [hother]

/-- A version with a further number behind it, which is zero. -/
def appendZero (version : String) : String := version ++ ".0"

theorem parts?_appendZero : parts? (appendZero a) = (parts? a).map (· ++ [0]) := by
  have htext : (appendZero a).toList = a.toList ++ '.' :: ['0'] := by simp [appendZero]
  have hzero : Text.parseNatural? (Text.trimChars ['0']) = some 0 := by decide
  rw [parts?, htext, Text.splitOn_append_cons, List.mapM_append, ← parts?]
  cases parts? a with
  | none => rfl
  | some as => simp [Text.splitOn, hzero]

theorem compare?_appendZero_left (a b : String) : compare? (appendZero a) b = compare? a b := by
  rw [compare?, compare?, parts?_appendZero]
  cases parts? a with
  | none => rfl
  | some as => simp [compareParts_append_zero]

/-! ## Laws -/

theorem compare?_swap (a b : String) : compare? b a = (compare? a b).map Ordering.swap := by
  cases ha : parts? a with
  | none => cases hb : parts? b <;> simp [compare?, ha, hb]
  | some as => cases hb : parts? b <;> simp [compare?, ha, hb, compareParts_swap]

theorem compare?_self_iff : compare? a a = some .eq ↔ IsNumeric a := by
  rw [isNumeric_iff_parts?]
  cases ha : parts? a with
  | none => simp [compare?, ha]
  | some as => simp [compare?, ha, compareParts_self]

theorem compare?_trans {o p : Ordering} (hab : compare? a b = some o) (hbc : compare? b c = some p)
    (ho : o ≠ .gt) (hp : p ≠ .gt) : compare? a c = some (o.then p) := by
  obtain ⟨as, bs, has, hbs, hle⟩ := compare?_eq_some_iff.1 hab
  obtain ⟨bs', cs, hbs', hcs, hle'⟩ := compare?_eq_some_iff.1 hbc
  -- The version in the middle has one list of numbers only.
  obtain rfl : bs = bs' :=
    Option.some.inj ((parts?_eq_some_iff.2 hbs).symm.trans (parts?_eq_some_iff.2 hbs'))
  exact compare?_eq_some_iff.2 ⟨as, cs, has, hcs, compares_then_of_le hle hle' ho hp⟩

theorem compare?_eq_eq_iff : compare? a b = some .eq ↔
    ∃ as bs, HasNumbers a as ∧ HasNumbers b bs ∧
      as.rdropWhile (· = 0) = bs.rdropWhile (· = 0) := by
  simp only [compare?_eq_some_iff, Ordering.Compares, padded_eq_iff]

/-- However often a zero is put behind either version, the comparison stays the same. -/
theorem compare?_iterate_appendZero (m n : Nat) (a b : String) :
    compare? (appendZero^[m] a) (appendZero^[n] b) = compare? a b := by
  have hleft : ∀ (k : Nat) (x y : String), compare? (appendZero^[k] x) y = compare? x y := by
    intro k x y
    induction k with
    | zero => rfl
    | succ k ih => rw [Function.iterate_succ_apply', compare?_appendZero_left, ih]
  rw [hleft, compare?_swap b, compare?_swap (appendZero^[n] b), hleft]

/-- **Comparison.** Two versions can be compared exactly if all their parts are 64-bit numerals, and
then the result is the lexicographic order of their numbers with zeros behind them. So the order is
reflexive, swaps with its arguments and is transitive; versions are equal exactly if their numbers
are, up to zeros at the end; and zeros put behind either version do not change anything. -/
theorem versions_compare_as_padded_numbers :
    (∀ a b, (∃ o, compare? a b = some o) ↔ IsNumeric a ∧ IsNumeric b) ∧
    (∀ a b o, compare? a b = some o ↔
      ∃ as bs, HasNumbers a as ∧ HasNumbers b bs ∧ o.Compares (padded as) (padded bs)) ∧
    (∀ a, compare? a a = some .eq ↔ IsNumeric a) ∧
    (∀ a b, compare? b a = (compare? a b).map Ordering.swap) ∧
    (∀ a b c o p, compare? a b = some o → compare? b c = some p → o ≠ .gt → p ≠ .gt →
      compare? a c = some (o.then p)) ∧
    (∀ a b, compare? a b = some .eq ↔ ∃ as bs, HasNumbers a as ∧ HasNumbers b bs ∧
      as.rdropWhile (· = 0) = bs.rdropWhile (· = 0)) ∧
    ∀ m n a b, compare? (appendZero^[m] a) (appendZero^[n] b) = compare? a b := by
  refine ⟨fun a b => exists_compare?_iff, fun a b o => compare?_eq_some_iff,
    fun a => compare?_self_iff, compare?_swap, ?_, fun a b => compare?_eq_eq_iff,
    compare?_iterate_appendZero⟩
  intro a b c o p hab hbc ho hp
  exact compare?_trans hab hbc ho hp

/-- Three versions of three lengths, of which two are equal. -/
theorem versions_compare_as_padded_numbers_of_lengths :
    compare? "9.1" "+9.1.0 .0" = some .eq ∧ compare? "+9.1.0 .0" "10" = some .lt ∧
      compare? "9.1" "10" = some .lt := by
  have hequal : compare? "9.1" "+9.1.0 .0" = some .eq := by decide +kernel
  have hless : compare? "+9.1.0 .0" "10" = some .lt := by decide +kernel
  obtain ⟨-, -, -, -, htrans, -⟩ := versions_compare_as_padded_numbers
  exact ⟨hequal, hless,
    htrans "9.1" "+9.1.0 .0" "10" .eq .lt hequal hless (by decide) (by decide)⟩

end Version

end CloudTenancy
