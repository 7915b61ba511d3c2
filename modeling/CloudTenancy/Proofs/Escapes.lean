import CloudTenancy.Url.Percent
import Mathlib.Data.List.Basic

/-!
CloudTenancy.Proofs.Escapes — what percent-encoding does to texts that are not encoded yet.

* `Percent.startsHex` — two hexadecimal digits are in front.
* `Percent.hasEscape` — a percent sign has two hexadecimal digits behind it.

The bytes that a path does not keep are encoded, but a percent sign is kept. So encoding adds no
escapes in front of the digits that a text has already, and a path that is decoded gives what the
text itself gives. That is the text, unless it has escapes of its own.

Main statements: `decode_encode` and `decode_eq_iff`.
-/

namespace CloudTenancy.Percent

variable {c : Char} {cs : List Char}

/-! ## Escapes -/

def headHex (cs : List Char) : Bool := cs.head?.any fun c => (hexValue? c).isSome

def startsHex (cs : List Char) : Bool := headHex cs && headHex cs.tail

/-- Somewhere in the text a percent sign has two hexadecimal digits behind it. -/
def hasEscape : List Char → Bool
  | [] => false
  | c :: cs => (c == '%' && startsHex cs) || hasEscape cs

/-- A percent sign without two digits behind it stands for itself. -/
theorem decode_percent (h : startsHex cs = false) : decode ('%' :: cs) = 0x25 :: decode cs := by
  match cs, h with
  | [], _ => rfl
  | [a], _ => rfl
  | a :: b :: rest, h =>
    rw [decode]
    split
    · rename_i high low ha hb
      simp [startsHex, headHex, ha, hb] at h
    · rfl

theorem decode_of_ne (h : c ≠ '%') : decode (c :: cs) = String.utf8EncodeChar c ++ decode cs := by
  rw [decode, Utf8.encode_eq_flatMap, String.toList_singleton, List.flatMap_singleton]
  intro a b rest hc
  exact absurd hc h

/-- A text is read as decoding reads it: escapes as a whole, and one character after the other
otherwise. -/
@[elab_as_elim]
theorem escape_induction {P : List Char → Prop} (nil : P [])
    (escape : ∀ a b rest high low, hexValue? a = some high → hexValue? b = some low → P rest →
      P ('%' :: a :: b :: rest))
    (percent : ∀ cs, startsHex cs = false → P cs → P ('%' :: cs))
    (other : ∀ c cs, c ≠ '%' → P cs → P (c :: cs)) (cs : List Char) : P cs := by
  induction cs using decode.induct with
  | case1 => exact nil
  | case2 a b rest high low hb ha ih => exact escape a b rest high low ha hb ih
  | case3 a b rest hnone ih =>
    refine percent _ ?_ ih
    cases ha : hexValue? a with
    | none => simp [startsHex, headHex, ha]
    | some high =>
      cases hb : hexValue? b with
      | none => simp [startsHex, headHex, hb]
      | some low => exact absurd hb (hnone high low ha)
  | case4 c rest hshort ih =>
    by_cases hpercent : c = '%'
    · subst hpercent
      refine percent _ ?_ ih
      match rest, hshort with
      | [], _ => rfl
      | [a], _ => simp [startsHex, headHex]
      | a :: b :: rest, hshort => exact absurd rfl (hshort a b rest rfl)
    · exact other c rest hpercent ih

/-- Encoded bytes decode to themselves. -/
theorem decode_encodeBytes (bs : Bytes) (rest : List Char) :
    decode (bs.flatMap encodeByte ++ rest) = bs ++ decode rest := by
  induction bs with
  | nil => rfl
  | cons b bs ih =>
    rw [List.flatMap_cons, List.append_assoc, decode_encodeByte, ih]
    rfl

/-! ## Encoding one character after the other -/

/-- Encoding leaves hexadecimal digits alone. -/
theorem isSpared_of_hexValue? (h : (hexValue? c).isSome = true) : isSpared pathSet c = true := by
  have hall : ∀ n : Fin 128, (hexValue? (Char.ofNat n)).isSome = true →
      isSpared pathSet (Char.ofNat n) = true := by
    decide +kernel
  have hascii : c.toNat < 128 := by
    simp only [hexValue?] at h
    split at h
    · omega
    · split at h
      · omega
      · split at h
        · omega
        · cases h
  have hc := hall ⟨c.toNat, hascii⟩
  rw [Char.ofNat_toNat] at hc
  exact hc h

theorem encode_cons_of_isSpared (h : isSpared pathSet c = true) :
    encode pathSet (c :: cs) = c :: encode pathSet cs := by
  have hc : encode pathSet [c] = [c] := encode_of_isSpared (by simpa using h)
  rw [show c :: cs = [c] ++ cs from rfl, encode_append, hc]
  rfl

/-- The bytes of a character that does not stand for itself are all encoded. -/
theorem encode_cons_of_not_isSpared (h : isSpared pathSet c = false) :
    encode pathSet (c :: cs) =
      (String.utf8EncodeChar c).flatMap encodeByte ++ encode pathSet cs := by
  have hset : ∀ b ∈ String.utf8EncodeChar c, pathSet b = true := by
    intro b hmem
    by_cases hascii : c.toNat < 0x80
    · rw [Utf8.encode_ascii hascii, List.mem_singleton] at hmem
      simpa [isSpared, hascii, ← hmem] using h
    · have hmany : ∀ d, String.utf8EncodeChar c ≠ [d] := by
        intro d hone
        have hsize : c.utf8Size = 1 := by rw [← String.length_utf8EncodeChar, hone]; rfl
        have hle : c.toNat ≤ 127 := UInt32.le_iff_toNat_le.1 (Char.utf8Size_eq_one_iff.1 hsize)
        omega
      have hlt : (0x7E : UInt8) < b :=
        UInt8.lt_of_lt_of_le (by decide) (Utf8.le_of_mem_utf8EncodeChar hmany b hmem)
      simp [pathSet, fragmentSet, controlSet, hlt]
  have hc : encode pathSet [c] = (String.utf8EncodeChar c).flatMap encodeByte := by
    rw [encode, Utf8.encode_eq_flatMap, String.toList_ofList, List.flatMap_singleton]
    refine List.flatMap_congr fun b hmem => ?_
    rw [encodeIn, if_pos (hset b hmem)]
  rw [show c :: cs = [c] ++ cs from rfl, encode_append, hc]

/-- What encoding puts in front is a digit only if a digit is there already. -/
theorem headHex_encode (cs : List Char) : headHex (encode pathSet cs) = headHex cs := by
  cases cs with
  | nil => rfl
  | cons c cs =>
    cases hspared : isSpared pathSet c with
    | true =>
      rw [encode_cons_of_isSpared hspared]
      rfl
    | false =>
      have hdigit : (hexValue? c).isSome = false :=
        Bool.eq_false_iff.2 fun h => by simp [isSpared_of_hexValue? h] at hspared
      rw [encode_cons_of_not_isSpared hspared]
      cases hbytes : String.utf8EncodeChar c with
      | nil =>
        have hlength := String.length_utf8EncodeChar c
        rw [hbytes] at hlength
        exact absurd hlength.symm (Nat.ne_of_gt c.utf8Size_pos)
      | cons b bs =>
        have hpercent : (hexValue? '%').isSome = false := by decide
        simpa [headHex, encodeByte, hdigit] using hpercent

/-- Whether two hexadecimal digits follow does not change under encoding. -/
theorem startsHex_encode (cs : List Char) : startsHex (encode pathSet cs) = startsHex cs := by
  rw [startsHex, startsHex, headHex_encode]
  cases hhead : headHex cs with
  | false => rfl
  | true =>
    cases cs with
    | nil => cases hhead
    | cons c cs =>
      have hdigit : (hexValue? c).isSome = true := hhead
      rw [encode_cons_of_isSpared (isSpared_of_hexValue? hdigit), List.tail_cons, List.tail_cons,
        headHex_encode]

/-! ## Decoding what has been encoded -/

/-- **Encoding a path changes nothing about the bytes that it stands for.** -/
theorem decode_encode (cs : List Char) : decode (encode pathSet cs) = decode cs := by
  induction cs using escape_induction with
  | nil => rfl
  | escape a b rest high low ha hb ih =>
    have hspared : isSpared pathSet a = true ∧ isSpared pathSet b = true :=
      ⟨isSpared_of_hexValue? (by rw [ha]; rfl), isSpared_of_hexValue? (by rw [hb]; rfl)⟩
    rw [encode_cons_of_isSpared (by decide), encode_cons_of_isSpared hspared.1,
      encode_cons_of_isSpared hspared.2, decode, decode, ha, hb, ih]
  | percent cs hno ih =>
    rw [encode_cons_of_isSpared (by decide), decode_percent hno,
      decode_percent (by rw [startsHex_encode, hno]), ih]
  | other c cs hne ih =>
    rw [decode_of_ne hne]
    cases hspared : isSpared pathSet c with
    | true => rw [encode_cons_of_isSpared hspared, decode_of_ne hne, ih]
    | false => rw [encode_cons_of_not_isSpared hspared, decode_encodeBytes, ih]

/-! ## Texts with escapes -/

theorem utf8_cons (c : Char) (cs : List Char) :
    Utf8.encode (String.ofList (c :: cs)) =
      String.utf8EncodeChar c ++ Utf8.encode (String.ofList cs) := by
  simp [Utf8.encode_eq_flatMap]

/-- A text stands for its own bytes, or for fewer if it has escapes. -/
theorem decode_cases (cs : List Char) :
    (hasEscape cs = false ∧ decode cs = Utf8.encode (String.ofList cs)) ∨
      (hasEscape cs = true ∧
        (decode cs).length < (Utf8.encode (String.ofList cs)).length) := by
  have hpositive : ∀ c : Char, 0 < (String.utf8EncodeChar c).length := by
    intro c
    rw [String.length_utf8EncodeChar]
    exact c.utf8Size_pos
  induction cs using escape_induction with
  | nil => exact .inl ⟨rfl, rfl⟩
  | escape a b rest high low ha hb ih =>
    have hle : (decode rest).length ≤ (Utf8.encode (String.ofList rest)).length := by
      rcases ih with ⟨-, heq⟩ | ⟨-, hlt⟩
      · exact Nat.le_of_eq (congrArg List.length heq)
      · exact Nat.le_of_lt hlt
    refine .inr ⟨by simp [hasEscape, startsHex, headHex, ha, hb], ?_⟩
    rw [decode, ha, hb]
    simp only [utf8_cons, List.length_append, List.length_cons]
    have := hpositive '%'
    have := hpositive a
    have := hpositive b
    omega
  | percent cs hno ih =>
    have hsign : String.utf8EncodeChar '%' = [0x25] := rfl
    rw [decode_percent hno, hasEscape, hno, utf8_cons, hsign]
    simpa using ih
  | other c cs hne ih =>
    rw [decode_of_ne hne, hasEscape, utf8_cons]
    simpa [hne] using ih

/-- **A text that is decoded is the text itself exactly if it has no escapes.** -/
theorem decode_eq_iff {cs : List Char} :
    decode cs = Utf8.encode (String.ofList cs) ↔ hasEscape cs = false := by
  rcases decode_cases cs with ⟨hnone, heq⟩ | ⟨hsome, hlt⟩
  · exact iff_of_true heq hnone
  · refine iff_of_false (fun heq => ?_) (by simp [hsome])
    rw [heq] at hlt
    exact Nat.lt_irrefl _ hlt

/-- Decoding never adds bytes. -/
theorem length_decode_le (cs : List Char) :
    (decode cs).length ≤ (Utf8.encode (String.ofList cs)).length := by
  rcases decode_cases cs with ⟨-, heq⟩ | ⟨-, hlt⟩
  · exact Nat.le_of_eq (congrArg List.length heq)
  · exact Nat.le_of_lt hlt

end CloudTenancy.Percent
