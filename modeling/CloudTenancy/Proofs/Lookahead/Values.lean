import CloudTenancy.Proofs.Lookahead.Numbers
import Mathlib.Tactic.Convert

/-!
CloudTenancy.Proofs.Lookahead.Values — what follows a value does not change how it is read.

* `walkOn` — the walk over a value, behind a part of it that has come to its end.
* `refusal` — why a value is refused that is no string.

A value is a text that `skipValue` passes over to its end. Of a list or an object a reader of
strings only sees the first byte; all other values it reads before it refuses them.

Main statements: `skipValue_append`, that a value is passed over, and `string_append`, that it is
read as a string or refused, whatever follows.
-/

namespace CloudTenancy.Json

variable {α : Type}

/-! ## Values -/

theorem readIdent_append {word bs left : Bytes} (h : readIdent word bs = .ok left) (rest : Bytes) :
    readIdent word (bs ++ rest) = .ok (left ++ rest) := by
  induction word generalizing bs with
  | nil =>
    cases h
    rfl
  | cons e word ih =>
    cases bs with
    | nil => cases h
    | cons b bs =>
      simp only [readIdent, List.cons_append] at h ⊢
      split at h
      · rename_i heq
        rw [if_pos heq]
        exact ih h
      · cases h

/-- The ways in which a value that is no list and no object begins. -/
theorem skipScalar_cases {bs left : Bytes} (h : skipScalar bs = .ok left) :
    (∃ tail, bs = 110 :: tail ∧ readIdent nullTail tail = .ok left) ∨
      (∃ tail, bs = 116 :: tail ∧ readIdent trueTail tail = .ok left) ∨
      (∃ tail, bs = 102 :: tail ∧ readIdent falseTail tail = .ok left) ∨
      (∃ tail, bs = 34 :: tail ∧ skipString tail = .ok left) ∨
      (∃ tail, bs = 45 :: tail ∧ skipNumber tail = .ok left) ∨
      ∃ d tail, bs = d :: tail ∧ isDigitByte d = true ∧ skipNumber (d :: tail) = .ok left := by
  unfold skipScalar at h
  split at h
  · cases h
  · exact .inl ⟨_, rfl, h⟩
  · exact .inr (.inl ⟨_, rfl, h⟩)
  · exact .inr (.inr (.inl ⟨_, rfl, h⟩))
  · exact .inr (.inr (.inr (.inl ⟨_, rfl, h⟩)))
  · exact .inr (.inr (.inr (.inr (.inl ⟨_, rfl, h⟩))))
  · split at h
    · rename_i hdigit
      exact .inr (.inr (.inr (.inr (.inr ⟨_, _, rfl, hdigit, h⟩))))
    · cases h

theorem ne_of_isDigitByte {d b : UInt8} (hd : isDigitByte d = true) (hb : isDigitByte b = false) :
    d ≠ b := by
  rintro rfl
  rw [hd] at hb
  cases hb

theorem skipScalar_digit {d : UInt8} (hdigit : isDigitByte d = true) (tail : Bytes) :
    skipScalar (d :: tail) = skipNumber (d :: tail) := by
  have h110 : d ≠ 110 := ne_of_isDigitByte hdigit (by decide)
  have h116 : d ≠ 116 := ne_of_isDigitByte hdigit (by decide)
  have h102 : d ≠ 102 := ne_of_isDigitByte hdigit (by decide)
  have h34 : d ≠ 34 := ne_of_isDigitByte hdigit (by decide)
  have h45 : d ≠ 45 := ne_of_isDigitByte hdigit (by decide)
  simp [skipScalar, hdigit]

theorem skipScalar_append {bs left rest : Bytes} (h : skipScalar bs = .ok left)
    (hrest : left = [] → Delimited rest) : skipScalar (bs ++ rest) = .ok (left ++ rest) := by
  obtain ⟨tail, rfl, htail⟩ | ⟨tail, rfl, htail⟩ | ⟨tail, rfl, htail⟩ | ⟨tail, rfl, htail⟩ |
    ⟨tail, rfl, htail⟩ | ⟨d, tail, rfl, hdigit, htail⟩ := skipScalar_cases h
  · exact readIdent_append htail rest
  · exact readIdent_append htail rest
  · exact readIdent_append htail rest
  · exact skipString_append htail rest
  · exact skipNumber_append htail hrest
  · rw [List.cons_append, skipScalar_digit hdigit]
    exact skipNumber_append htail hrest

theorem skipKey_append {bs left : Bytes} (h : skipKey bs = .ok left) (rest : Bytes) :
    skipKey (bs ++ rest) = .ok (left ++ rest) := by
  unfold skipKey at h ⊢
  split at h
  · cases h
  · rename_i tail hquote
    have hblanks : skipBlanks (bs ++ rest) = 34 :: (tail ++ rest) := by
      rw [skipBlanks_append (by rw [hquote]; exact List.cons_ne_nil _ _), hquote, List.cons_append]
    rw [hblanks]
    split at h
    · cases h
    · rename_i after hname
      simp only [skipString_append hname rest]
      split at h
      · cases h
      · rename_i hcolon
        rw [skipBlanks_append (by rw [hcolon]; exact List.cons_ne_nil _ _), hcolon]
        cases h
        rfl
      · cases h
  · cases h

theorem skipItemStart_append {frame : Frame} {bs left : Bytes}
    (h : skipItemStart frame bs = .ok left) (rest : Bytes) :
    skipItemStart frame (bs ++ rest) = .ok (left ++ rest) := by
  cases frame with
  | list =>
    cases h
    rfl
  | object => exact skipKey_append h rest

/-- The walk behind a value that has come to its end. -/
def walkOn (n : Nat) (around : List Frame) (bs : Bytes) : Except Fault Bytes :=
  match Position.afterValue around with
  | none => .ok bs
  | some position => walk n position bs

theorem walk_value (n : Nat) (around : List Frame) (bs : Bytes) :
    walk (n + 1) (.value around) bs =
      match skipBlanks bs with
      | 91 :: rest => walk n (.inside .list around false) rest
      | 123 :: rest => walk n (.inside .object around false) rest
      | start =>
        match skipScalar start with
        | .error fault => .error fault
        | .ok rest => walkOn n around rest := rfl

theorem walk_inside (n : Nat) (frame : Frame) (around : List Frame) (afterItem : Bool)
    (bs : Bytes) :
    walk (n + 1) (.inside frame around afterItem) bs =
      match skipBlanks bs with
      | [] => .error (.next frame.atEnd [])
      | b :: rest =>
        if b = frame.closing then walkOn n around rest
        else if afterItem ∧ b ≠ 44 then .error (.next frame.atItem (b :: rest))
        else
          match skipItemStart frame (if afterItem then rest else b :: rest) with
          | .error fault => .error fault
          | .ok rest => walk n (.value (frame :: around)) rest := rfl

/-- No walk comes to its end in blanks. -/
theorem exists_cons_of_walk {n : Nat} {position : Position} {bs left : Bytes}
    (h : walk (n + 1) position bs = .ok left) : ∃ b tail, skipBlanks bs = b :: tail := by
  cases hblanks : skipBlanks bs with
  | cons b tail => exact ⟨b, tail, rfl⟩
  | nil =>
    cases position with
    | value around =>
      rw [walk_value, hblanks] at h
      cases h
    | inside frame around afterItem =>
      rw [walk_inside, hblanks] at h
      cases h

theorem walk_scalar {b : UInt8} {bs tail : Bytes} (hblanks : skipBlanks bs = b :: tail)
    (h91 : b ≠ 91) (h123 : b ≠ 123) (n : Nat) (around : List Frame) :
    walk (n + 1) (.value around) bs =
      match skipScalar (b :: tail) with
      | .error fault => .error fault
      | .ok rest => walkOn n around rest := by
  rw [walk_value, hblanks]
  split
  · rename_i heq
    cases heq
    exact absurd rfl h91
  · rename_i heq
    cases heq
    exact absurd rfl h123
  · rfl

/-- The input does not end inside a bracket. -/
theorem nil_of_walkOn {n : Nat} {around : List Frame} {left : Bytes}
    (h : walkOn n around [] = .ok left) : left = [] := by
  cases around with
  | nil =>
    cases h
    rfl
  | cons frame around => cases n <;> cases h

/-- A walk that comes to its end does not see what follows, and has turns enough. -/
theorem walk_append {n : Nat} {position : Position} {bs left rest : Bytes}
    (h : walk n position bs = .ok left) (hrest : left = [] → Delimited rest) (more : Nat) :
    walk (n + more) position (bs ++ rest) = .ok (left ++ rest) := by
  induction n generalizing position bs with
  | zero => cases h
  | succ n ih =>
    have hon : ∀ around after, walkOn n around after = .ok left →
        walkOn (n + more) around (after ++ rest) = .ok (left ++ rest) := by
      intro around after hafter
      unfold walkOn at hafter ⊢
      split at hafter
      · cases hafter
        rfl
      · exact ih hafter
    obtain ⟨b, tail, hblanks⟩ := exists_cons_of_walk h
    have hblanks' : skipBlanks (bs ++ rest) = b :: (tail ++ rest) := by
      rw [skipBlanks_append (by rw [hblanks]; exact List.cons_ne_nil _ _), hblanks,
        List.cons_append]
    rw [Nat.succ_add_eq_add_succ, Nat.add_succ]
    cases position with
    | value around =>
      -- A bracket opens a frame, and any other value is passed over as a scalar.
      by_cases h91 : b = 91
      · subst h91
        rw [walk_value, hblanks] at h
        rw [walk_value, hblanks']
        exact ih h
      · by_cases h123 : b = 123
        · subst h123
          rw [walk_value, hblanks] at h
          rw [walk_value, hblanks']
          exact ih h
        · rw [walk_scalar hblanks h91 h123] at h
          rw [walk_scalar hblanks' h91 h123]
          split at h
          · cases h
          · rename_i after hscalar
            have hafter : after = [] → Delimited rest := by
              rintro rfl
              exact hrest (nil_of_walkOn h)
            rw [← List.cons_append, skipScalar_append hscalar hafter]
            exact hon around after h
    | inside frame around afterItem =>
      rw [walk_inside, hblanks] at h
      rw [walk_inside, hblanks']
      dsimp only at h ⊢
      split at h
      · rename_i hclosing
        rw [if_pos hclosing]
        exact hon around tail h
      · rename_i hclosing
        rw [if_neg hclosing]
        split at h
        · cases h
        · rename_i hcomma
          rw [if_neg hcomma]
          split at h
          · cases h
          · rename_i after hstart
            have hstart' : skipItemStart frame
                (if afterItem = true then tail ++ rest else b :: (tail ++ rest)) =
                .ok (after ++ rest) := by
              rw [← skipItemStart_append hstart rest]
              cases afterItem <;> rfl
            rw [hstart']
            exact ih h

/-- A value is passed over, whatever follows. -/
theorem skipValue_append {bs left rest : Bytes} (h : skipValue bs = .ok left)
    (hrest : left = [] → Delimited rest) : skipValue (bs ++ rest) = .ok (left ++ rest) := by
  have hwalk := walk_append h hrest (2 * rest.length)
  unfold skipValue
  rw [List.length_append]
  convert hwalk using 2
  omega

/-- The ways in which a value begins. -/
theorem skipValue_cases {bs : Bytes} (h : skipValue bs = .ok []) :
    ∃ b tail, skipBlanks bs = b :: tail ∧ (b = 91 ∨ b = 123 ∨ skipScalar (b :: tail) = .ok []) := by
  obtain ⟨b, tail, hblanks⟩ := exists_cons_of_walk h
  refine ⟨b, tail, hblanks, ?_⟩
  by_cases h91 : b = 91
  · exact .inl h91
  · by_cases h123 : b = 123
    · exact .inr (.inl h123)
    · unfold skipValue at h
      rw [walk_scalar hblanks h91 h123] at h
      split at h
      · cases h
      · rename_i hscalar
        cases h
        exact .inr (.inr hscalar)

/-! ## Readers of strings -/

/-- The refusal of a value that has been read, or the fault in it. -/
def refusal (expected : String) (found : α → Found) : Step α → Fault
  | .error fault => fault
  | .ok (a, rest) => .here (.invalidType (found a) expected) rest

theorem refusal_before (expected : String) (found : α → Found) (step : Step α) (rest : Bytes) :
    refusal expected found (Step.before rest step) =
      (refusal expected found step).before rest := by
  cases step with
  | error fault => rfl
  | ok step => simp [Step.before, refusal, Fault.before_here]

theorem wrongType_digit {d : UInt8} (hdigit : isDigitByte d = true) (expected : String)
    (tail : Bytes) :
    wrongType expected (d :: tail) = refusal expected .number (readNumber false (d :: tail)) := by
  have h110 : d ≠ 110 := ne_of_isDigitByte hdigit (by decide)
  have h116 : d ≠ 116 := ne_of_isDigitByte hdigit (by decide)
  have h102 : d ≠ 102 := ne_of_isDigitByte hdigit (by decide)
  have h45 : d ≠ 45 := ne_of_isDigitByte hdigit (by decide)
  have h34 : d ≠ 34 := ne_of_isDigitByte hdigit (by decide)
  have h91 : d ≠ 91 := ne_of_isDigitByte hdigit (by decide)
  have h123 : d ≠ 123 := ne_of_isDigitByte hdigit (by decide)
  cases hread : readNumber false (d :: tail) <;> simp [wrongType, refusal, hdigit, hread]

theorem wrongType_quote (expected : String) (tail : Bytes) :
    wrongType expected (34 :: tail) = refusal expected .string (readString tail) := by
  rw [wrongType]
  cases readString tail <;> rfl

theorem wrongType_minus (expected : String) (tail : Bytes) :
    wrongType expected (45 :: tail) = refusal expected .number (readNumber true tail) := by
  rw [wrongType]
  cases readNumber true tail <;> rfl

/-- A word that is refused is refused the same whatever follows. -/
theorem wrongType_word {b : UInt8} {word tail : Bytes} {expected : String} {found : Found}
    (hword : ∀ tail, wrongType expected (b :: tail) =
      match readIdent word tail with
      | .error fault => fault
      | .ok rest => .here (.invalidType found expected) rest)
    (h : readIdent word tail = .ok []) (rest : Bytes) :
    wrongType expected (b :: tail ++ rest) = (wrongType expected (b :: tail)).before rest := by
  rw [List.cons_append, hword, hword, readIdent_append h, h, Fault.before_here]

/-- A value that is refused is refused the same whatever follows. -/
theorem wrongType_append {bs rest : Bytes} (h : skipScalar bs = .ok []) (hrest : Delimited rest)
    (expected : String) :
    wrongType expected (bs ++ rest) = (wrongType expected bs).before rest := by
  obtain ⟨tail, rfl, htail⟩ | ⟨tail, rfl, htail⟩ | ⟨tail, rfl, htail⟩ | ⟨tail, rfl, htail⟩ |
    ⟨tail, rfl, htail⟩ | ⟨d, tail, rfl, hdigit, htail⟩ := skipScalar_cases h
  · exact wrongType_word (fun _ => rfl) htail rest
  · exact wrongType_word (fun _ => rfl) htail rest
  · exact wrongType_word (fun _ => rfl) htail rest
  · rw [List.cons_append, wrongType_quote, wrongType_quote, readString_append htail,
      refusal_before]
  · rw [List.cons_append, wrongType_minus, wrongType_minus, readNumber_append htail hrest,
      refusal_before]
  · rw [List.cons_append, wrongType_digit hdigit, wrongType_digit hdigit, ← List.cons_append,
      readNumber_append htail hrest, refusal_before]

theorem string_quote {bs tail : Bytes} (hblanks : skipBlanks bs = 34 :: tail) (depth : Nat) :
    Decoder.string depth bs = readString tail := by
  simp only [Decoder.string, hblanks]

theorem string_of_ne {b : UInt8} {bs tail : Bytes} (hblanks : skipBlanks bs = b :: tail)
    (h34 : b ≠ 34) (depth : Nat) :
    Decoder.string depth bs = .error (wrongType "a string" (b :: tail)) := by
  rw [Decoder.string, hblanks]
  split
  · rename_i heq
    cases heq
  · rename_i heq
    cases heq
    exact absurd rfl h34
  · rfl

/-- A value is read as a string or refused the same whatever follows, and to its end if it is
read. -/
theorem string_append {bs : Bytes} (h : skipValue bs = .ok []) (depth : Nat) :
    (∀ rest, Delimited rest →
      Decoder.string depth (bs ++ rest) = Step.before rest (Decoder.string depth bs)) ∧
    ∀ s left, Decoder.string depth bs = .ok (s, left) → left = [] := by
  obtain ⟨b, tail, hblanks, hvalue⟩ := skipValue_cases h
  have hblanks' : ∀ rest, skipBlanks (bs ++ rest) = b :: (tail ++ rest) := by
    intro rest
    rw [skipBlanks_append (by rw [hblanks]; exact List.cons_ne_nil _ _), hblanks, List.cons_append]
  by_cases h34 : b = 34
  · subst h34
    have hstring : skipString tail = .ok [] := by
      obtain h91 | h123 | hscalar := hvalue
      · cases h91
      · cases h123
      · exact hscalar
    refine ⟨fun rest _ => ?_, fun s left hread => ?_⟩
    · rw [string_quote (hblanks' rest), string_quote hblanks, readString_append hstring]
    · rw [string_quote hblanks] at hread
      exact Except.ok.inj ((skipString_of_readString hread).symm.trans hstring)
  · refine ⟨fun rest hrest => ?_, fun s left hread => ?_⟩
    · rw [string_of_ne (hblanks' rest) h34, string_of_ne hblanks h34, ← List.cons_append]
      obtain rfl | rfl | hscalar := hvalue
      · exact congrArg Except.error (Fault.before_here _ _ _).symm
      · exact congrArg Except.error (Fault.before_here _ _ _).symm
      · rw [wrongType_append hscalar hrest]
        rfl
    · rw [string_of_ne hblanks h34] at hread
      cases hread

end CloudTenancy.Json
