import CloudTenancy.Proofs.ReadRecords
import Mathlib.Data.List.TakeWhile

/-!
CloudTenancy.Proofs.Lookahead.Strings — what follows a string does not change how it is read.

* `Delimited` — what can follow a value: a blank, a comma, a closing bracket, or nothing.
* `Step.before` — the result of a reader, with more input behind what it has left unread.

A string behind its opening quote is a text that `skipString` passes over to its end. On such a text
a reader never comes to the end of the input before it comes to its own end.

Main statements: `skipString_append`, that a string is passed over, and `readString_append`, that it
is read or refused, whatever follows.
-/

namespace CloudTenancy.Json

variable {α : Type}

/-! ## What follows -/

def isDelimiter (b : UInt8) : Bool := isBlankByte b || b == 44 || b == 93 || b == 125

/-- What can follow a value. -/
def Delimited (rest : Bytes) : Prop := ∀ b ∈ rest.head?, isDelimiter b = true

/-- The fault with more input behind what is unread. -/
def Fault.before (rest : Bytes) : Fault → Fault
  | placed cause left => placed cause (left + rest.length)
  | floating cause unread => floating cause (unread ++ rest)

/-- The step with more input behind what is unread. -/
def Step.before (rest : Bytes) : Step α → Step α
  | .ok (a, left) => .ok (a, left ++ rest)
  | .error fault => .error (fault.before rest)

theorem Fault.before_here (cause : Cause) (left rest : Bytes) :
    (here cause left).before rest = here cause (left ++ rest) := by
  simp [here, before]

/-- What has been made of a value has nothing to do with what follows. -/
theorem Step.before_map {β : Type} (rest : Bytes) (f : α → β) (step : Step α) :
    Step.before rest (step.map fun (a, left) => (f a, left)) =
      (Step.before rest step).map fun (a, left) => (f a, left) := by
  cases step <;> rfl

/-- A byte that stands behind a value does not go on a number. -/
theorem Delimited.stops {rest : Bytes} (h : Delimited rest) :
    ∀ b ∈ rest.head?, isDigitByte b = false ∧ b ≠ 46 ∧ b ≠ 69 ∧ b ≠ 101 := by
  have hall : ∀ n : Fin 256, isDelimiter (UInt8.ofNat n.val) = true →
      isDigitByte (UInt8.ofNat n.val) = false ∧ UInt8.ofNat n.val ≠ 46 ∧
        UInt8.ofNat n.val ≠ 69 ∧ UInt8.ofNat n.val ≠ 101 := by
    decide +kernel
  intro b hb
  have hstops := hall ⟨b.toNat, b.toNat_lt⟩
  rw [UInt8.ofNat_toNat] at hstops
  exact hstops (h b hb)

section

variable {p : UInt8 → Bool} {bs rest : Bytes}

/-- A walk that stops before the end does not see what follows. -/
theorem dropWhile_append (h : bs.dropWhile p = [] → ∀ b ∈ rest.head?, p b = false) :
    (bs ++ rest).dropWhile p = bs.dropWhile p ++ rest := by
  rw [List.dropWhile_append]
  cases hleft : bs.dropWhile p with
  | cons b left => rfl
  | nil =>
    cases rest with
    | nil => rfl
    | cons b tail => simp [h hleft b rfl]

theorem takeWhile_append (h : bs.dropWhile p = [] → ∀ b ∈ rest.head?, p b = false) :
    (bs ++ rest).takeWhile p = bs.takeWhile p := by
  have hwhole := List.takeWhile_append_dropWhile (p := p) (l := bs ++ rest)
  have hpart := List.takeWhile_append_dropWhile (p := p) (l := bs)
  rw [dropWhile_append h, ← List.append_assoc] at hwhole
  exact List.append_cancel_right ((List.append_cancel_right hwhole).trans hpart.symm)

theorem skipBlanks_append (h : skipBlanks bs ≠ []) (rest : Bytes) :
    skipBlanks (bs ++ rest) = skipBlanks bs ++ rest :=
  dropWhile_append fun hnil => absurd hnil h

end

/-! ## Strings -/

theorem readHex4_append {bs left : Bytes} {n : Nat} (h : readHex4 bs = .ok (n, left))
    (rest : Bytes) : readHex4 (bs ++ rest) = .ok (n, left ++ rest) := by
  unfold readHex4 at h
  split at h
  · split at h
    · rename_i ha hb hc hd
      cases h
      simp only [List.cons_append, readHex4, ha, hb, hc, hd]
    · cases h
  · cases h

theorem skipEscape_append {bs left : Bytes} (h : skipEscape bs = .ok left) (rest : Bytes) :
    skipEscape (bs ++ rest) = .ok (left ++ rest) := by
  cases bs with
  | nil => cases h
  | cons b bs =>
    simp only [List.cons_append, skipEscape] at h ⊢
    split at h
    · rename_i hshort
      cases h
      rw [if_pos hshort]
    · rename_i hshort
      rw [if_neg hshort]
      split at h
      · rename_i hhex
        rw [if_pos hhex]
        cases hread : readHex4 bs with
        | error fault =>
          rw [hread] at h
          cases h
        | ok step =>
          rw [hread] at h
          cases h
          rw [readHex4_append hread]
          rfl
      · cases h

theorem skipString_quote (rest : Bytes) : skipString (34 :: rest) = .ok rest := by
  rw [skipString, if_pos rfl]

theorem skipString_escape {bs after : Bytes} (h : skipEscape bs = .ok after) :
    skipString (92 :: bs) = skipString after := by
  rw [skipString, if_neg (by decide), if_pos rfl]
  split
  · rename_i hskip
    rw [h] at hskip
    cases hskip
  · rename_i hskip
    rw [h] at hskip
    cases hskip
    rfl

theorem skipString_plain {b : UInt8} (h34 : b ≠ 34) (h92 : b ≠ 92) (h32 : ¬ b < 32)
    (bs : Bytes) : skipString (b :: bs) = skipString bs := by
  rw [skipString, if_neg h34, if_neg h92, if_neg h32]

/-- The ways in which a string goes on. -/
theorem skipString_cases {bs left : Bytes} (h : skipString bs = .ok left) :
    bs = 34 :: left ∨
      (∃ tail after, bs = 92 :: tail ∧ skipEscape tail = .ok after ∧ skipString after = .ok left) ∨
      ∃ b tail, bs = b :: tail ∧ b ≠ 34 ∧ b ≠ 92 ∧ ¬ b < 32 ∧ skipString tail = .ok left := by
  cases bs with
  | nil =>
    rw [skipString] at h
    cases h
  | cons b tail =>
    rw [skipString] at h
    split at h
    · rename_i hquote
      cases h
      exact .inl (by rw [hquote])
    · rename_i h34
      split at h
      · rename_i hescape
        split at h
        · cases h
        · rename_i after hskip
          exact .inr (.inl ⟨tail, after, by rw [hescape], hskip, h⟩)
      · rename_i h92
        split at h
        · cases h
        · rename_i h32
          exact .inr (.inr ⟨b, tail, rfl, h34, h92, h32, h⟩)

theorem skipString_append {bs left : Bytes} (h : skipString bs = .ok left) (rest : Bytes) :
    skipString (bs ++ rest) = .ok (left ++ rest) := by
  induction hlength : bs.length using Nat.strongRecOn generalizing bs with
  | ind length ih =>
    obtain rfl | ⟨tail, after, rfl, hskip, hafter⟩ | ⟨b, tail, rfl, h34, h92, h32, htail⟩ :=
      skipString_cases h
    · exact skipString_quote _
    · have hlt := skipEscape_length hskip
      rw [List.cons_append, skipString_escape (skipEscape_append hskip rest)]
      exact ih after.length (by simp only [List.length_cons] at hlength; omega) hafter rfl
    · rw [List.cons_append, skipString_plain h34 h92 h32]
      exact ih tail.length (by simp only [List.length_cons] at hlength; omega) htail rfl

/-- The second half of a pair of surrogates, or what stands in its place. -/
theorem readLowSurrogate_append {high : Nat} {bs : Bytes} (h : skipString bs = .ok [])
    (rest : Bytes) :
    readLowSurrogate high (bs ++ rest) = Step.before rest (readLowSurrogate high bs) := by
  obtain rfl | ⟨tail, after, rfl, hskip, -⟩ | ⟨b, tail, rfl, -, h92, -, -⟩ := skipString_cases h
  · simp [readLowSurrogate, Step.before, Fault.before_here]
  · cases tail with
    | nil => cases hskip
    | cons b tail =>
      by_cases hhex : b = 117
      · subst hhex
        have hread : ∃ n, readHex4 tail = .ok (n, after) := by
          have hshort : shortEscape? 117 = none := rfl
          simp only [skipEscape, hshort, Option.isSome_none, Bool.false_eq_true, if_false,
            if_true] at hskip
          obtain ⟨⟨n, left⟩, hread, rfl⟩ := exists_of_map_ok hskip
          exact ⟨n, hread⟩
        obtain ⟨n, hread⟩ := hread
        simp only [List.cons_append, readLowSurrogate, hread, readHex4_append hread rest]
        split
        · rfl
        · simp [Step.before, Fault.before_here]
      · simp [readLowSurrogate, Step.before, Fault.before_here]
  · simp [readLowSurrogate, h92, Step.before, Fault.before_here]

/-- An escape in a string. Of a pair of surrogates both halves are read at once. -/
theorem readEscape_append {bs after : Bytes} (h : skipEscape bs = .ok after)
    (hafter : skipString after = .ok []) (rest : Bytes) :
    readEscape (bs ++ rest) = Step.before rest (readEscape bs) := by
  cases bs with
  | nil => cases h
  | cons b bs =>
    simp only [List.cons_append, skipEscape, readEscape] at h ⊢
    cases hshort : shortEscape? b with
    | some c => rfl
    | none =>
      simp only [hshort, Option.isSome_none, Bool.false_eq_true, if_false] at h ⊢
      split at h
      · rename_i hhex
        obtain ⟨⟨n, left⟩, hread, rfl⟩ := exists_of_map_ok h
        simp only [if_pos hhex, readCodePoint, hread, readHex4_append hread rest]
        split
        · simp [Step.before, Fault.before_here]
        · split
          · exact readLowSurrogate_append hafter rest
          · rfl
      · cases h

theorem skipEscape_hex {bs left : Bytes} {n : Nat} (h : readHex4 bs = .ok (n, left)) :
    skipEscape (117 :: bs) = .ok left := by
  have hshort : shortEscape? 117 = none := rfl
  simp only [skipEscape, hshort, Option.isSome_none, Bool.false_eq_true, if_false, if_true, h]
  rfl

theorem skip_of_readLowSurrogate {high : Nat} {bs out left : Bytes}
    (h : readLowSurrogate high bs = .ok (out, left)) : skipString bs = skipString left := by
  unfold readLowSurrogate at h
  split at h
  · cases h
  · cases h
  · split at h
    · cases h
    · rename_i hlow
      split at h
      · obtain ⟨-, rfl⟩ := Prod.mk.inj (Except.ok.inj h)
        exact skipString_escape (skipEscape_hex hlow)
      · cases h
  · cases h
  · cases h

/-- What an escape leaves is the rest of the string. -/
theorem skip_of_readEscape {bs out left : Bytes} (h : readEscape bs = .ok (out, left)) :
    ∃ after, skipEscape bs = .ok after ∧ skipString after = skipString left := by
  cases bs with
  | nil => cases h
  | cons b bs =>
    simp only [readEscape] at h
    split at h
    · rename_i hshort
      cases h
      exact ⟨left, by simp only [skipEscape, hshort, Option.isSome_some, if_true], rfl⟩
    · split at h
      · rename_i hhex
        subst hhex
        unfold readCodePoint at h
        split at h
        · cases h
        · rename_i n after hread
          refine ⟨after, skipEscape_hex hread, ?_⟩
          split at h
          · cases h
          · split at h
            · exact skip_of_readLowSurrogate h
            · cases h
              rfl
      · cases h

/-- A string that is read is one. -/
theorem skipString_of_readRaw {bs raw left : Bytes} (h : readRaw bs = .ok (raw, left)) :
    skipString bs = .ok left := by
  -- An escape takes several bytes, so the induction is on the length.
  induction hlength : bs.length using Nat.strongRecOn generalizing bs raw with
  | ind length ih =>
    cases bs with
    | nil =>
      rw [readRaw] at h
      cases h
    | cons b bs =>
      rw [readRaw] at h
      split at h
      · rename_i hquote
        cases h
        rw [hquote, skipString_quote]
      · rename_i h34
        split at h
        · rename_i hescape
          subst hescape
          split at h
          · cases h
          · rename_i out after hread
            obtain ⟨⟨more, left'⟩, hmore, hsame⟩ := exists_of_map_ok h
            cases hsame
            obtain ⟨skipped, hskip, hleft⟩ := skip_of_readEscape hread
            have hlt := readEscape_length hread
            rw [skipString_escape hskip, hleft]
            exact ih after.length (by simp only [List.length_cons] at hlength; omega) hmore rfl
        · rename_i h92
          split at h
          · cases h
          · rename_i h32
            obtain ⟨⟨more, left'⟩, hmore, hsame⟩ := exists_of_map_ok h
            cases hsame
            rw [skipString_plain h34 h92 h32]
            exact ih bs.length (by simp only [List.length_cons] at hlength; omega) hmore rfl

theorem readRaw_unescaped {bs : Bytes} {fault : Fault} (h : readEscape bs = .error fault) :
    readRaw (92 :: bs) = .error fault := by
  rw [readRaw, if_neg (by decide), if_pos rfl]
  split
  · rename_i hread
    rw [h] at hread
    cases hread
    rfl
  · rename_i hread
    rw [h] at hread
    cases hread

theorem readRaw_append {bs : Bytes} (h : skipString bs = .ok []) (rest : Bytes) :
    readRaw (bs ++ rest) = Step.before rest (readRaw bs) := by
  induction hlength : bs.length using Nat.strongRecOn generalizing bs with
  | ind length ih =>
    obtain rfl | ⟨tail, after, rfl, hskip, hafter⟩ | ⟨b, tail, rfl, h34, h92, h32, htail⟩ :=
      skipString_cases h
    · rw [List.cons_append, readRaw_quote, readRaw_quote]
      rfl
    · have hescape := readEscape_append hskip hafter rest
      cases hread : readEscape tail with
      | error fault =>
        rw [hread] at hescape
        rw [List.cons_append, readRaw_unescaped hescape, readRaw_unescaped hread]
        rfl
      | ok step =>
        obtain ⟨out, left⟩ := step
        rw [hread] at hescape
        obtain ⟨skipped, hskipped, hleft⟩ := skip_of_readEscape hread
        obtain rfl : skipped = after := Except.ok.inj (hskipped.symm.trans hskip)
        have hlt := readEscape_length hread
        rw [List.cons_append, readRaw_escaped hescape, readRaw_escaped hread, Step.before_map,
          ih left.length (by simp only [List.length_cons] at hlength; omega)
            (hleft.symm.trans hafter) rfl]
    · rw [List.cons_append, readRaw_plain h34 h92 h32, readRaw_plain h34 h92 h32, Step.before_map,
        ih tail.length (by simp only [List.length_cons] at hlength; omega) htail rfl]

/-- A string is read the same whatever follows. -/
theorem readString_append {bs : Bytes} (h : skipString bs = .ok []) (rest : Bytes) :
    readString (bs ++ rest) = Step.before rest (readString bs) := by
  unfold readString
  rw [readRaw_append h]
  cases readRaw bs with
  | error fault => rfl
  | ok step =>
    obtain ⟨raw, left⟩ := step
    simp only [Step.before]
    split
    · rfl
    · simp [Fault.before_here]

theorem skipString_of_readString {bs left : Bytes} {s : String}
    (h : readString bs = .ok (s, left)) : skipString bs = .ok left := by
  unfold readString at h
  split at h
  · cases h
  · rename_i hraw
    split at h
    · cases h
      exact skipString_of_readRaw hraw
    · cases h

/-! ### Strings on their own -/

theorem exists_front_of_readHex4 {bs left : Bytes} {n : Nat} (h : readHex4 bs = .ok (n, left)) :
    ∃ front, bs = front ++ left ∧ readHex4 front = .ok (n, []) := by
  unfold readHex4 at h
  split at h
  · rename_i a b c d rest
    split at h
    · rename_i ha hb hc hd
      cases h
      exact ⟨[a, b, c, d], rfl, by simp only [readHex4, ha, hb, hc, hd]⟩
    · cases h
  · cases h

/-- An escape that is passed over is a text of its own, in front of the rest. -/
theorem exists_front_of_skipEscape {bs left : Bytes} (h : skipEscape bs = .ok left) :
    ∃ front, bs = front ++ left ∧ skipEscape front = .ok [] := by
  cases bs with
  | nil => cases h
  | cons b bs =>
    rw [skipEscape] at h
    split at h
    · rename_i hshort
      cases h
      exact ⟨[b], rfl, by rw [skipEscape, if_pos hshort]⟩
    · split at h
      · rename_i hhex
        subst hhex
        obtain ⟨⟨n, left⟩, hread, rfl⟩ := exists_of_map_ok h
        obtain ⟨digits, rfl, hdigits⟩ := exists_front_of_readHex4 hread
        exact ⟨117 :: digits, rfl, skipEscape_hex hdigits⟩
      · cases h

/-- A string that is passed over is a text of its own, in front of the rest. -/
theorem exists_front_of_skipString {bs left : Bytes} (h : skipString bs = .ok left) :
    ∃ front, bs = front ++ left ∧ skipString front = .ok [] := by
  induction hlength : bs.length using Nat.strongRecOn generalizing bs with
  | ind length ih =>
    obtain rfl | ⟨tail, after, rfl, hskip, hafter⟩ | ⟨b, tail, rfl, h34, h92, h32, htail⟩ :=
      skipString_cases h
    · exact ⟨[34], rfl, skipString_quote []⟩
    · have hlt := skipEscape_length hskip
      obtain ⟨escape, rfl, hescape⟩ := exists_front_of_skipEscape hskip
      obtain ⟨front, rfl, hfront⟩ :=
        ih after.length (by simp only [List.length_cons] at hlength; omega) hafter rfl
      refine ⟨92 :: (escape ++ front), by simp, ?_⟩
      rw [skipString_escape (skipEscape_append hescape front), List.nil_append, hfront]
    · obtain ⟨front, rfl, hfront⟩ :=
        ih tail.length (by simp only [List.length_cons] at hlength; omega) htail rfl
      exact ⟨b :: front, rfl, by rw [skipString_plain h34 h92 h32, hfront]⟩

end CloudTenancy.Json
