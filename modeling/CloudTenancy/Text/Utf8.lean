/-!
CloudTenancy.Text.Utf8 — texts as bytes.

* `Bytes` — byte sequences.
* `encode` — the UTF-8 bytes of a text.
* `decode?` — the text that bytes encode, if they are valid UTF-8.

Main statements: decoding undoes encoding, and a text is encoded character by character.
-/

namespace CloudTenancy

abbrev Bytes := List UInt8

namespace Utf8

def encode (s : String) : Bytes := s.toByteArray.data.toList

/-- The text that the bytes encode, unless they are not valid UTF-8. -/
def decode? (bs : Bytes) : Option String := String.fromUTF8? ⟨bs.toArray⟩

theorem decode?_encode (s : String) : decode? (encode s) = some s := by
  have h : (⟨(s.toByteArray.data.toList).toArray⟩ : ByteArray) = s.toByteArray := by simp
  unfold decode? encode
  rw [h]
  simp [String.fromUTF8?, String.fromUTF8, s.isValidUTF8]

theorem encode_injective {s t : String} (h : encode s = encode t) : s = t := by
  have := decode?_encode s
  rw [h, decode?_encode t] at this
  exact (Option.some.inj this).symm

/-- A text is encoded character by character. -/
theorem encode_eq_flatMap (s : String) : encode s = s.toList.flatMap String.utf8EncodeChar := by
  rw [encode, ← String.utf8Encode_toList, List.utf8Encode]
  simp

theorem encode_append (s t : String) : encode (s ++ t) = encode s ++ encode t := by
  simp [encode_eq_flatMap]

/-- A character of ASCII is a single byte. -/
theorem encode_ascii {c : Char} (h : c.toNat < 0x80) :
    String.utf8EncodeChar c = [c.toNat.toUInt8] := by
  have hle : c.val.toNat ≤ 0x7F := Nat.le_of_lt_succ h
  rw [String.utf8EncodeChar]
  simp only [hle, if_true]
  rfl

theorem encode_of_decode? {bs : Bytes} {s : String} (h : decode? bs = some s) : encode s = bs := by
  unfold decode? String.fromUTF8? at h
  split at h
  · cases h
    simp [encode, String.fromUTF8]
  · cases h

/-- All bytes of a character are above ASCII, unless the character is one byte. -/
theorem le_of_mem_utf8EncodeChar {c : Char} (h : ∀ b, String.utf8EncodeChar c ≠ [b]) :
    ∀ b ∈ String.utf8EncodeChar c, 128 ≤ b := by
  unfold String.utf8EncodeChar at h ⊢
  dsimp only at h ⊢
  generalize c.val.toNat = n at h ⊢
  split
  · rename_i hone
    exact absurd (if_pos hone) (h _)
  · split
    · simp [UInt8.le_iff_toNat_le]
      omega
    · split
      · simp [UInt8.le_iff_toNat_le]
        omega
      · simp [UInt8.le_iff_toNat_le]
        omega

/-- A character of ASCII is in a text if its byte is among those of the text. -/
theorem mem_of_mem_encode {c : Char} {s : String} (hc : c.toNat < 0x80)
    (h : c.toNat.toUInt8 ∈ encode s) : c ∈ s.toList := by
  rw [encode_eq_flatMap, List.mem_flatMap] at h
  obtain ⟨d, hd, hbyte⟩ := h
  by_cases hone : ∃ b, String.utf8EncodeChar d = [b]
  · obtain ⟨b, hb⟩ := hone
    rw [hb, List.mem_singleton] at hbyte
    have hsame : encode (String.singleton d) = encode (String.singleton c) := by
      simp only [encode_eq_flatMap, String.toList_singleton, List.flatMap_singleton, hb, ← hbyte,
        encode_ascii hc]
    have heq := congrArg String.toList (encode_injective hsame)
    simp only [String.toList_singleton, List.cons.injEq, and_true] at heq
    exact heq ▸ hd
  · have habove := le_of_mem_utf8EncodeChar (fun b hb => hone ⟨b, hb⟩) _ hbyte
    rw [UInt8.le_iff_toNat_le, UInt8.toNat_ofNat'] at habove
    simp at habove
    omega

end Utf8

end CloudTenancy
