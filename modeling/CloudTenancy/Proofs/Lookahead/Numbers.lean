import CloudTenancy.Proofs.Lookahead.Strings

/-!
CloudTenancy.Proofs.Lookahead.Numbers — what follows a number does not change how it is read.

* `readSign`, `skipScale`, `endNumber` — parts of the readers of numbers.

A number is a text that `skipNumber` passes over to its end. A reader of numbers looks at the byte
behind the number, and so what follows must be `Delimited`.

Main statements: `skipNumber_append`, that a number is passed over, and `readNumber_append`, that it
is read or refused, whatever follows.
-/

namespace CloudTenancy.Json

/-! ## Numbers -/

section

variable {bs left rest : Bytes}

/-- Digits end where what follows a value begins. -/
theorem Delimited.no_digit (h : left = [] → Delimited rest) :
    left = [] → ∀ b ∈ rest.head?, isDigitByte b = false :=
  fun hleft b hb => ((h hleft).stops b hb).1

theorem dropDigits_append (h : bs.dropWhile isDigitByte = [] → Delimited rest) :
    (bs ++ rest).dropWhile isDigitByte = bs.dropWhile isDigitByte ++ rest :=
  dropWhile_append (Delimited.no_digit h)

/-- The sign of an exponent, and what follows it. -/
def readSign (bs : Bytes) : Bool × Bytes :=
  match bs with
  | 43 :: rest => (false, rest)
  | 45 :: rest => (true, rest)
  | _ => (false, bs)

theorem readSign_of_ne {b : UInt8} (h43 : b ≠ 43) (h45 : b ≠ 45) (tail : Bytes) :
    readSign (b :: tail) = (false, b :: tail) := by
  simp [readSign, h43, h45]

theorem readSign_append (h : bs ≠ []) (rest : Bytes) :
    readSign (bs ++ rest) = ((readSign bs).1, (readSign bs).2 ++ rest) := by
  obtain ⟨b, tail, rfl⟩ := List.exists_cons_of_ne_nil h
  by_cases hplus : b = 43
  · rw [hplus]
    rfl
  · by_cases hminus : b = 45
    · rw [hminus]
      rfl
    · rw [List.cons_append, readSign_of_ne hplus hminus, readSign_of_ne hplus hminus]
      rfl

theorem skipExponent_eq (bs : Bytes) : skipExponent bs =
    match (readSign bs).2 with
    | [] => .error (.here .invalidNumber [])
    | d :: rest =>
      if isDigitByte d then .ok (rest.dropWhile isDigitByte)
      else .error (.here .invalidNumber rest) := by
  cases bs with
  | nil => rfl
  | cons b tail =>
    by_cases h43 : b = 43
    · rw [h43]
      rfl
    · by_cases h45 : b = 45
      · rw [h45]
        rfl
      · rw [readSign_of_ne h43 h45]
        simp [skipExponent, h43, h45]

/-- An exponent is a sign and at least one digit. -/
theorem skipExponent_cases (h : skipExponent bs = .ok left) : bs ≠ [] ∧
    ∃ d tail, (readSign bs).2 = d :: tail ∧ isDigitByte d = true ∧
      tail.dropWhile isDigitByte = left := by
  rw [skipExponent_eq] at h
  split at h
  · cases h
  · rename_i d tail hdigits
    split at h
    · rename_i hd
      cases h
      refine ⟨?_, d, tail, hdigits, hd, rfl⟩
      rintro rfl
      cases hdigits
    · cases h

theorem skipExponent_append (h : skipExponent bs = .ok left) (hrest : left = [] → Delimited rest) :
    skipExponent (bs ++ rest) = .ok (left ++ rest) := by
  obtain ⟨hne, d, tail, hdigits, hd, rfl⟩ := skipExponent_cases h
  rw [skipExponent_eq, readSign_append hne, hdigits, ← dropDigits_append hrest]
  exact if_pos hd

def skipScale (bs : Bytes) : Except Fault Bytes :=
  match bs with
  | 101 :: rest => skipExponent rest
  | 69 :: rest => skipExponent rest
  | _ => .ok bs

theorem skipScale_of_ne {b : UInt8} (h101 : b ≠ 101) (h69 : b ≠ 69) (tail : Bytes) :
    skipScale (b :: tail) = .ok (b :: tail) := by
  simp [skipScale, h101, h69]

theorem skipScale_of_delimited (h : Delimited rest) : skipScale rest = .ok rest := by
  cases rest with
  | nil => rfl
  | cons b tail =>
    obtain ⟨-, -, h69, h101⟩ := h.stops b rfl
    exact skipScale_of_ne h101 h69 tail

theorem skipScale_append (h : skipScale bs = .ok left) (hrest : left = [] → Delimited rest) :
    skipScale (bs ++ rest) = .ok (left ++ rest) := by
  cases bs with
  | nil =>
    cases h
    exact skipScale_of_delimited (hrest rfl)
  | cons b tail =>
    by_cases h101 : b = 101
    · subst h101
      exact skipExponent_append h hrest
    · by_cases h69 : b = 69
      · subst h69
        exact skipExponent_append h hrest
      · rw [skipScale_of_ne h101 h69] at h
        cases h
        exact skipScale_of_ne h101 h69 _

theorem skipFraction_eq (bs : Bytes) : skipFraction bs =
    if (bs.dropWhile isDigitByte).length = bs.length then
      .error (.next .invalidNumber (bs.dropWhile isDigitByte))
    else skipScale (bs.dropWhile isDigitByte) := rfl

theorem skipFraction_append (h : skipFraction bs = .ok left) (hrest : left = [] → Delimited rest) :
    skipFraction (bs ++ rest) = .ok (left ++ rest) := by
  rw [skipFraction_eq] at h ⊢
  split at h
  · cases h
  · rename_i hlength
    have hdigits : bs.dropWhile isDigitByte = [] → Delimited rest := by
      intro hnil
      rw [hnil] at h
      cases h
      exact hrest rfl
    rw [dropDigits_append hdigits, if_neg (by simp only [List.length_append]; omega)]
    exact skipScale_append h hrest

theorem skipTail_of_ne {b : UInt8} (h46 : b ≠ 46) (tail : Bytes) :
    skipTail (b :: tail) = skipScale (b :: tail) := by
  by_cases h101 : b = 101
  · rw [h101]
    rfl
  · by_cases h69 : b = 69
    · rw [h69]
      rfl
    · simp [skipTail, skipScale, h46, h101, h69]

theorem skipTail_append (h : skipTail bs = .ok left) (hrest : left = [] → Delimited rest) :
    skipTail (bs ++ rest) = .ok (left ++ rest) := by
  cases bs with
  | nil =>
    cases h
    cases rest with
    | nil => rfl
    | cons b tail =>
      obtain ⟨-, h46, -, -⟩ := (hrest rfl).stops b rfl
      exact (skipTail_of_ne h46 tail).trans (skipScale_of_delimited (hrest rfl))
  | cons b tail =>
    by_cases h46 : b = 46
    · subst h46
      exact skipFraction_append h hrest
    · rw [skipTail_of_ne h46] at h
      rw [List.cons_append, skipTail_of_ne h46]
      exact skipScale_append h hrest

theorem skipNumber_zero (tail : Bytes) : skipNumber (48 :: tail) =
    if tail.head?.any isDigitByte then .error (.next .invalidNumber tail) else skipTail tail := rfl

theorem skipNumber_of_ne {d : UInt8} (h48 : d ≠ 48) (tail : Bytes) : skipNumber (d :: tail) =
    if isDigitByte d then skipTail (tail.dropWhile isDigitByte)
    else .error (.here .invalidNumber tail) := by
  unfold skipNumber
  split
  · rename_i heq
    cases heq
  · rename_i heq
    cases heq
    exact absurd rfl h48
  · rename_i heq
    cases heq
    rfl

/-- The ways in which a number goes on behind its sign. -/
theorem skipNumber_cases (h : skipNumber bs = .ok left) :
    (∃ tail, bs = 48 :: tail ∧ tail.head?.any isDigitByte = false ∧ skipTail tail = .ok left) ∨
      ∃ d tail, bs = d :: tail ∧ d ≠ 48 ∧ isDigitByte d = true ∧
        skipTail (tail.dropWhile isDigitByte) = .ok left := by
  cases bs with
  | nil => cases h
  | cons d tail =>
    by_cases h48 : d = 48
    · subst h48
      rw [skipNumber_zero] at h
      split at h
      · cases h
      · rename_i hdigit
        exact .inl ⟨tail, rfl, by simpa using hdigit, h⟩
    · rw [skipNumber_of_ne h48] at h
      split at h
      · rename_i hdigit
        exact .inr ⟨d, tail, rfl, h48, hdigit, h⟩
      · cases h

/-- No digit follows a zero, also not behind the end of the number. -/
theorem any_head?_append (h : bs.head?.any isDigitByte = false) (hrest : bs = [] → Delimited rest) :
    (bs ++ rest).head?.any isDigitByte = false := by
  cases bs with
  | cons b tail => exact h
  | nil =>
    cases rest with
    | nil => rfl
    | cons b tail => exact ((hrest rfl).stops b rfl).1

theorem nil_of_skipTail (h : skipTail [] = .ok left) : left = [] := by
  cases h
  rfl

theorem skipNumber_append (h : skipNumber bs = .ok left) (hrest : left = [] → Delimited rest) :
    skipNumber (bs ++ rest) = .ok (left ++ rest) := by
  obtain ⟨tail, rfl, hdigit, htail⟩ | ⟨d, tail, rfl, h48, hdigit, htail⟩ := skipNumber_cases h
  · have hnil : tail = [] → Delimited rest := by
      rintro rfl
      exact hrest (nil_of_skipTail htail)
    rw [List.cons_append, skipNumber_zero, any_head?_append hdigit hnil]
    exact skipTail_append htail hrest
  · have hnil : tail.dropWhile isDigitByte = [] → Delimited rest := by
      intro hnil
      rw [hnil] at htail
      exact hrest (nil_of_skipTail htail)
    rw [List.cons_append, skipNumber_of_ne h48, if_pos hdigit, dropDigits_append hnil]
    exact skipTail_append htail hrest

/-! ### Their values -/

theorem finishDouble_append (isNegative : Bool) (significand : Nat) (exponent : Int)
    (left rest : Bytes) :
    finishDouble isNegative significand exponent (left ++ rest) =
      Step.before rest (finishDouble isNegative significand exponent left) := by
  unfold finishDouble
  split
  · rfl
  · simp [Step.before, Fault.before_here]

theorem ofInteger_append (isNegative : Bool) (significand : Nat) (left rest : Bytes) :
    ofInteger isNegative significand (left ++ rest) =
      Step.before rest (ofInteger isNegative significand left) := by
  unfold ofInteger
  split
  · rfl
  · split
    · exact finishDouble_append true significand 0 left rest
    · rfl

/-- The digits of an exponent are read or left over, and digits are left over. -/
theorem readPower_append (hdigits : bs.dropWhile isDigitByte = []) (hrest : Delimited rest)
    (value : Nat) :
    readPower value (bs ++ rest) = ((readPower value bs).1, (readPower value bs).2 ++ rest) ∧
      (readPower value bs).2.dropWhile isDigitByte = [] := by
  induction bs generalizing value with
  | nil =>
    cases rest with
    | nil => exact ⟨rfl, rfl⟩
    | cons b tail =>
      have hdigit := (hrest.stops b rfl).1
      exact ⟨by simp [readPower, hdigit], rfl⟩
  | cons b tail ih =>
    by_cases hdigit : isDigitByte b = true
    · rw [List.dropWhile_cons_of_pos hdigit] at hdigits
      simp only [List.cons_append, readPower, hdigit, if_true]
      split
      · exact ih hdigits _
      · exact ⟨rfl, hdigits⟩
    · rw [List.dropWhile_cons_of_neg hdigit] at hdigits
      cases hdigits

theorem readExponent_eq (isNegative : Bool) (significand : Nat) (exponent : Int) (bs : Bytes) :
    readExponent isNegative significand exponent bs =
      match (readSign bs).2 with
      | [] => .error (.here .endInValue [])
      | d :: rest =>
        if !isDigitByte d then .error (.here .invalidNumber rest)
        else match readPower (d.toNat - 48) rest with
          | (some power, rest) =>
            finishDouble isNegative significand
              (if (readSign bs).1 then exponent - power else exponent + power) rest
          | (none, rest) =>
            if significand ≠ 0 ∧ !(readSign bs).1 then .error (.here .numberOutOfRange rest)
            else finishDouble isNegative 0 0 (rest.dropWhile isDigitByte) := rfl

theorem readExponent_append (h : skipExponent bs = .ok []) (hrest : Delimited rest)
    (isNegative : Bool) (significand : Nat) (exponent : Int) :
    readExponent isNegative significand exponent (bs ++ rest) =
      Step.before rest (readExponent isNegative significand exponent bs) := by
  obtain ⟨hne, d, tail, hdigits, hd, htail⟩ := skipExponent_cases h
  obtain ⟨hpower, hleft⟩ := readPower_append htail hrest (d.toNat - 48)
  rw [readExponent_eq, readExponent_eq, readSign_append hne, hdigits]
  simp only [List.cons_append, hd, Bool.not_true, Bool.false_eq_true, if_false, hpower]
  cases readPower (d.toNat - 48) tail with
  | mk power? left =>
    cases power? with
    | some power => exact finishDouble_append _ _ _ left rest
    | none =>
      dsimp only at hleft ⊢
      split
      · simp [Step.before, Fault.before_here]
      · rw [dropDigits_append fun _ => hrest]
        exact finishDouble_append _ _ _ _ rest

theorem readScale_of_ne {b : UInt8} (h101 : b ≠ 101) (h69 : b ≠ 69) (isNegative : Bool)
    (significand : Nat) (exponent : Int) (tail : Bytes) :
    readScale isNegative significand exponent (b :: tail) =
      finishDouble isNegative significand exponent (b :: tail) := by
  simp [readScale, h101, h69]

theorem readScale_append (h : skipScale bs = .ok []) (hrest : Delimited rest) (isNegative : Bool)
    (significand : Nat) (exponent : Int) :
    readScale isNegative significand exponent (bs ++ rest) =
      Step.before rest (readScale isNegative significand exponent bs) := by
  cases bs with
  | nil =>
    have hend := finishDouble_append isNegative significand exponent [] rest
    cases rest with
    | nil => exact hend
    | cons b tail =>
      obtain ⟨-, -, h69, h101⟩ := hrest.stops b rfl
      exact (readScale_of_ne h101 h69 isNegative significand exponent tail).trans hend
  | cons b tail =>
    by_cases h101 : b = 101
    · subst h101
      exact readExponent_append h hrest isNegative significand exponent
    · by_cases h69 : b = 69
      · subst h69
        exact readExponent_append h hrest isNegative significand exponent
      · rw [skipScale_of_ne h101 h69] at h
        cases h

theorem readFraction_append (h : skipFraction bs = .ok []) (hrest : Delimited rest)
    (isNegative : Bool) (significand : Nat) (exponent : Int) :
    readFraction isNegative significand exponent (bs ++ rest) =
      Step.before rest (readFraction isNegative significand exponent bs) := by
  rw [skipFraction_eq] at h
  split at h
  · cases h
  · rename_i hlength
    have hdigits : (bs.takeWhile isDigitByte).isEmpty = false := by
      rw [List.isEmpty_eq_false_iff]
      intro hnil
      have hwhole : bs.takeWhile isDigitByte ++ bs.dropWhile isDigitByte = bs :=
        List.takeWhile_append_dropWhile
      rw [hnil, List.nil_append] at hwhole
      exact hlength (congrArg List.length hwhole)
    unfold readFraction
    rw [dropDigits_append fun _ => hrest,
      takeWhile_append (Delimited.no_digit fun _ : bs.dropWhile isDigitByte = [] => hrest)]
    simp only [hdigits, Bool.false_eq_true, if_false]
    exact readScale_append h hrest _ _ _

def endNumber (isNegative : Bool) (significand dropped : Nat) (rest : Bytes) : Step Number :=
  if dropped = 0 then ofInteger isNegative significand rest
  else finishDouble isNegative significand dropped rest

theorem endNumber_append (isNegative : Bool) (significand dropped : Nat) (left rest : Bytes) :
    endNumber isNegative significand dropped (left ++ rest) =
      Step.before rest (endNumber isNegative significand dropped left) := by
  unfold endNumber
  split
  · exact ofInteger_append _ _ _ _
  · exact finishDouble_append _ _ _ _ _

theorem readTail_of_ne {b : UInt8} (h46 : b ≠ 46) (h101 : b ≠ 101) (h69 : b ≠ 69)
    (isNegative : Bool) (significand dropped : Nat) (tail : Bytes) :
    readTail isNegative significand dropped (b :: tail) =
      endNumber isNegative significand dropped (b :: tail) := by
  simp [readTail, endNumber, h46, h101, h69]

theorem readTail_append (h : skipTail bs = .ok []) (hrest : Delimited rest) (isNegative : Bool)
    (significand dropped : Nat) :
    readTail isNegative significand dropped (bs ++ rest) =
      Step.before rest (readTail isNegative significand dropped bs) := by
  cases bs with
  | nil =>
    have hend := endNumber_append isNegative significand dropped [] rest
    cases rest with
    | nil => exact hend
    | cons b tail =>
      obtain ⟨-, h46, h69, h101⟩ := hrest.stops b rfl
      exact (readTail_of_ne h46 h101 h69 isNegative significand dropped tail).trans hend
  | cons b tail =>
    by_cases h46 : b = 46
    · subst h46
      exact readFraction_append h hrest isNegative significand dropped
    · rw [skipTail_of_ne h46] at h
      by_cases h101 : b = 101
      · subst h101
        exact readExponent_append h hrest isNegative significand dropped
      · by_cases h69 : b = 69
        · subst h69
          exact readExponent_append h hrest isNegative significand dropped
        · rw [skipScale_of_ne h101 h69] at h
          cases h

theorem readNumber_zero (isNegative : Bool) (tail : Bytes) :
    readNumber isNegative (48 :: tail) =
      if tail.head?.any isDigitByte then .error (.next .invalidNumber tail)
      else readTail isNegative 0 0 tail := rfl

theorem readNumber_of_ne {d : UInt8} (h48 : d ≠ 48) (hdigit : isDigitByte d = true)
    (isNegative : Bool) (tail : Bytes) :
    readNumber isNegative (d :: tail) =
      readTail isNegative (gather 0 (d :: tail.takeWhile isDigitByte)).1
        (gather 0 (d :: tail.takeWhile isDigitByte)).2 (tail.dropWhile isDigitByte) := by
  unfold readNumber
  split
  · rename_i heq
    cases heq
  · rename_i heq
    cases heq
    exact absurd rfl h48
  · rename_i heq
    cases heq
    simp [hdigit]

theorem readNumber_append (h : skipNumber bs = .ok []) (hrest : Delimited rest)
    (isNegative : Bool) :
    readNumber isNegative (bs ++ rest) = Step.before rest (readNumber isNegative bs) := by
  obtain ⟨tail, rfl, hdigit, htail⟩ | ⟨d, tail, rfl, h48, hdigit, htail⟩ := skipNumber_cases h
  · rw [List.cons_append, readNumber_zero, readNumber_zero, hdigit,
      any_head?_append hdigit fun _ => hrest]
    exact readTail_append htail hrest isNegative 0 0
  · rw [List.cons_append, readNumber_of_ne h48 hdigit, readNumber_of_ne h48 hdigit,
      dropDigits_append fun _ => hrest,
      takeWhile_append (Delimited.no_digit fun _ : tail.dropWhile isDigitByte = [] => hrest)]
    exact readTail_append htail hrest isNegative _ _

end

end CloudTenancy.Json
