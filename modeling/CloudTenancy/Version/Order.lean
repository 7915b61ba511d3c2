import CloudTenancy.Text.Blank
import CloudTenancy.Text.Split
import CloudTenancy.Text.Numeral

/-!
CloudTenancy.Version.Order — the order of dotted numeric versions.

* `Version.parts?` — the numbers of a version such as `40.0`.
* `Version.compareParts` — the order of number lists, the shorter one padded with zeros.
* `Version.compare?` — the order of two versions, undefined unless both are dotted numeric.

Main statements: the order is reflexive and swaps with its arguments, and a trailing `0` never
changes it.
-/

namespace CloudTenancy.Version

/-! ## Versions as number lists -/

/-- The numbers between the dots, blanks around each left out, if all are 64-bit numerals. -/
def parts? (version : String) : Option (List Nat) :=
  (Text.splitOn '.' version.toList).mapM fun part => Text.parseNatural? (Text.trimChars part)

def compareZeros : List Nat → Ordering
  | [] => .eq
  | b :: bs => (compare 0 b).then (compareZeros bs)

/-- Lexicographic order after padding the shorter list with zeros. -/
def compareParts : List Nat → List Nat → Ordering
  | [], bs => compareZeros bs
  | a :: as, bs => (compare a (bs.headD 0)).then (compareParts as bs.tail)

/-- The order of two versions. There is none unless both are dotted numeric. -/
def compare? (a b : String) : Option Ordering := do
  let as ← parts? a
  let bs ← parts? b
  return compareParts as bs

/-! ## Laws of the order -/

theorem compareParts_self (as : List Nat) : compareParts as as = .eq := by
  induction as with
  | nil => rfl
  | cons a as ih => simp [compareParts, ih]

theorem compareParts_nil_right (as : List Nat) :
    compareParts as [] = (compareZeros as).swap := by
  induction as with
  | nil => rfl
  | cons a as ih => simp [compareParts, compareZeros, Ordering.swap_then, ih, Nat.compare_swap]

theorem compareParts_swap (as bs : List Nat) :
    (compareParts as bs).swap = compareParts bs as := by
  induction as generalizing bs with
  | nil => rw [compareParts_nil_right, compareParts]
  | cons a as ih =>
    cases bs with
    | nil => rw [compareParts_nil_right]; simp [compareParts]
    | cons b bs => simp [compareParts, Ordering.swap_then, ih, Nat.compare_swap]

/-- A zero at the end of the first list does not change the order. -/
theorem compareParts_append_zero (as bs : List Nat) :
    compareParts (as ++ [0]) bs = compareParts as bs := by
  induction as generalizing bs with
  | nil => cases bs <;> simp [compareParts, compareZeros]
  | cons a as ih => simp [compareParts, ih]

end CloudTenancy.Version
