import CloudTenancy.Text.Utf8
import CloudTenancy.ValueSet
import Mathlib.Tactic.SplitIfs

/-!
CloudTenancy.Proofs.ByteOrder — texts are ordered as their bytes are.

* `Utf8.append_lt_append` — of two characters the smaller one has the smaller bytes, whatever
  follows them.
* `ValueSet.pairwise_encode_knownStrings` — the strings of a set come in ascending order of bytes.

A longer form of a character starts with a larger byte than a shorter one, so that no comparison of
bytes gets past the first two characters that differ.

Main statement: `encode_lt_encode`.
-/

namespace CloudTenancy

namespace Utf8

open String (utf8EncodeChar)

/-- The smaller character has the smaller bytes, whatever follows. -/
theorem append_lt_append {c d : Char} (h : c < d) (xs ys : Bytes) :
    utf8EncodeChar c ++ xs < utf8EncodeChar d ++ ys := by
  have hval : c.val.toNat < d.val.toNat := h
  have hbound : d.val.toNat < 0x110000 := by
    rcases d.valid with hsmall | ⟨-, hlarge⟩
    · exact Nat.lt_trans hsmall (by decide)
    · exact hlarge
  unfold utf8EncodeChar
  dsimp only
  generalize c.val.toNat = m at hval ⊢
  generalize d.val.toNat = n at hval hbound ⊢
  -- Forms of different lengths differ in the first byte; forms of one length are the digits of the
  -- character to base 64.
  split_ifs <;>
    simp only [List.cons_append, List.nil_append, List.cons_lt_cons_iff, UInt8.lt_iff_toNat_lt,
      ← UInt8.toNat_inj, UInt8.toNat_ofNat'] <;>
    simp (disch := omega) only [Nat.mod_eq_of_lt] <;>
    omega

/-- UTF-8 keeps the order of the texts it encodes. -/
theorem flatMap_lt_flatMap {cs ds : List Char} (h : cs < ds) :
    cs.flatMap utf8EncodeChar < ds.flatMap utf8EncodeChar := by
  induction cs generalizing ds with
  | nil =>
    cases ds with
    | nil => exact absurd h (List.not_lt_nil _)
    | cons d ds =>
      have hsize := String.length_utf8EncodeChar d
      cases hform : utf8EncodeChar d with
      | nil =>
        rw [hform] at hsize
        exact absurd hsize (Nat.ne_of_lt d.utf8Size_pos)
      | cons b bs => simp [hform]
  | cons c cs ih =>
    cases ds with
    | nil => exact absurd h (List.not_lt_nil _)
    | cons d ds =>
      rw [List.flatMap_cons, List.flatMap_cons]
      rcases List.cons_lt_cons_iff.1 h with hlt | ⟨rfl, hrest⟩
      · exact append_lt_append hlt _ _
      · exact List.append_left_lt (ih hrest)

/-- The order of texts is the order of their bytes. -/
theorem encode_lt_encode {s t : String} (h : s < t) : encode s < encode t := by
  rw [encode_eq_flatMap, encode_eq_flatMap]
  exact flatMap_lt_flatMap h

end Utf8

namespace ValueSet

/-- Known texts stand in the order of their bytes, which is that of their characters. -/
theorem lt_of_before {s t : String} (h : Value.Before (.known s) (.known t)) : s < t :=
  (compareOfLessAndEq_eq_lt).1 h

/-- The known strings of a set come in ascending order of bytes. -/
theorem pairwise_encode_knownStrings (set : ValueSet) :
    set.knownStrings.Pairwise fun s t => Utf8.encode s < Utf8.encode t := by
  refine List.Pairwise.filterMap Value.known? ?_ set.ascending
  intro a b hbefore s hs t ht
  cases a with
  | known a =>
    cases b with
    | known b =>
      cases hs
      cases ht
      exact Utf8.encode_lt_encode (lt_of_before hbefore)
    | null => cases ht
    | unknown => cases ht
  | null => cases hs
  | unknown => cases hs

/-- A known string is one of the known strings if it is a member. -/
theorem mem_knownStrings {set : ValueSet} {s : String} :
    s ∈ set.knownStrings ↔ .known s ∈ set.members := by
  rw [knownStrings, List.mem_filterMap]
  constructor
  · rintro ⟨v, hmem, hv⟩
    cases v with
    | known t => cases hv; exact hmem
    | null => cases hv
    | unknown => cases hv
  · intro hmem
    exact ⟨.known s, hmem, rfl⟩

/-- Sets with the same members are equal. -/
theorem eq_of_mem_iff {first second : ValueSet}
    (h : ∀ v, v ∈ first.members ↔ v ∈ second.members) : first = second := by
  have hmembers := eq_of_pairwise_of_mem_iff first.ascending second.ascending h
  cases first
  cases second
  cases hmembers
  rfl

end ValueSet

end CloudTenancy
