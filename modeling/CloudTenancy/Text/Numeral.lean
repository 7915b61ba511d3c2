/-!
CloudTenancy.Text.Numeral — numerals of unsigned 64-bit numbers.

* `digitValue?` — the value of an ASCII digit.
* `ofDigits` — the number a run of digits denotes.
* `parseNatural?` — an optional plus sign and ASCII digits, below `2 ^ 64`.
* `Denotes` — the numerals and the numbers that they denote.

Main statements: what is read is exactly what the numerals denote, and reading back the decimal text
of a number below `2 ^ 64` gives the number.
-/

namespace CloudTenancy.Text

/-- One more than the largest unsigned 64-bit number. -/
def wordBound : Nat := Nat.pow 2 64

def digitValue? (c : Char) : Option Nat :=
  if c.isDigit then some (c.toNat - 48) else none

/-- The number denoted by ASCII digits, most significant first, on top of `acc`. -/
def ofDigits? (acc : Nat) : List Char → Option Nat
  | [] => some acc
  | c :: cs => (digitValue? c).bind fun d => ofDigits? (10 * acc + d) cs

/-- An unsigned 64-bit numeral: an optional plus sign, then one or more ASCII digits. -/
def parseNatural? (cs : List Char) : Option Nat :=
  let digits := if cs.head? = some '+' then cs.tail else cs
  if digits.isEmpty then none
  else (ofDigits? 0 digits).filter (· < wordBound)

/-! ## Numerals -/

/-- The text is a numeral of the number: ASCII digits, perhaps behind a plus sign, for a number of
64 bits. -/
def Denotes (cs : List Char) (n : Nat) : Prop :=
  ∃ digits, (cs = digits ∨ cs = '+' :: digits) ∧ digits ≠ [] ∧ (∀ c ∈ digits, c.isDigit = true) ∧
    Nat.ofDigitChars 10 digits 0 = n ∧ n < wordBound

theorem ofDigits?_eq_some_iff {acc n : Nat} {cs : List Char} :
    ofDigits? acc cs = some n ↔
      (∀ c ∈ cs, c.isDigit = true) ∧ Nat.ofDigitChars 10 cs acc = n := by
  induction cs generalizing acc with
  | nil => simp [ofDigits?]
  | cons c cs ih =>
    rw [ofDigits?, digitValue?, Nat.ofDigitChars_cons]
    cases hc : c.isDigit with
    | false => simp [hc]
    | true => simpa [hc] using ih

/-- What is read is what the numerals denote. -/
theorem parseNatural?_eq_some_iff {cs : List Char} {n : Nat} :
    parseNatural? cs = some n ↔ Denotes cs n := by
  have hread : ∀ digits : List Char,
      ((if digits.isEmpty then none else (ofDigits? 0 digits).filter (· < wordBound)) = some n ↔
        digits ≠ [] ∧ (∀ c ∈ digits, c.isDigit = true) ∧
          Nat.ofDigitChars 10 digits 0 = n ∧ n < wordBound) := by
    intro digits
    cases digits with
    | nil => simp
    | cons d ds => simp [Option.filter_eq_some_iff, ofDigits?_eq_some_iff, and_assoc]
  rw [parseNatural?, hread]
  constructor
  · intro h
    split at h
    · rename_i hplus
      obtain ⟨rest, rfl⟩ := List.head?_eq_some_iff.1 hplus
      exact ⟨rest, .inr rfl, h⟩
    · exact ⟨cs, .inl rfl, h⟩
  · rintro ⟨digits, rfl | rfl, h⟩
    · rw [if_neg]
      · exact h
      · intro hplus
        exact absurd (h.2.1 '+' (List.mem_of_head? hplus)) (by decide)
    · exact h

theorem isDigit_of_mem_repr {n : Nat} {c : Char} (h : c ∈ (Nat.repr n).toList) :
    c.isDigit = true := by
  rw [Nat.toList_repr] at h
  exact Nat.isDigit_of_mem_toDigits (by decide) (by decide) h

/-- The decimal text of a number denotes it. -/
theorem denotes_repr {n : Nat} (h : n < wordBound) : Denotes (Nat.repr n).toList n := by
  refine ⟨_, .inl rfl, ?_, fun c => isDigit_of_mem_repr, ?_, h⟩
  · rw [Nat.toList_repr]
    exact Nat.toDigits_ne_nil
  · rw [Nat.toList_repr]
    exact Nat.ofDigitChars_toDigits (by decide) (by decide)

/-- No numeral starts with a minus sign. -/
theorem parseNatural?_minus (cs : List Char) : parseNatural? ('-' :: cs) = none := by
  refine Option.eq_none_iff_forall_ne_some.2 fun n h => ?_
  obtain ⟨digits, rfl | heq, -, hdigits, -⟩ := parseNatural?_eq_some_iff.1 h
  · exact absurd (hdigits '-' List.mem_cons_self) (by decide)
  · cases heq

end CloudTenancy.Text
