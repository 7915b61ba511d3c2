import CloudTenancy.Text.Split

/-!
CloudTenancy.ImportId — composite import ids such as `acme.alice`.

* `ImportId.split` — the named parts of an id, cut at a separator.
* `ImportId.Malformed` — the failure, with the form the id should have had.

Only the last part may contain the separator. Main statement: the parts joined by the separator
give the id back, and none is empty.
-/

namespace CloudTenancy.ImportId

/-- An id that cannot be cut into the named parts. -/
structure Malformed where
  id : String
  separator : String
  parts : List String
  deriving DecidableEq, Repr

/-- The text shown to the user: the id and the form it must have. -/
def Malformed.message (m : Malformed) : String :=
  "import id '" ++ m.id ++ "' must have the form " ++ m.separator.intercalate m.parts

/-- The pieces of an id, as many as there are part names, none of them empty. -/
def split (id separator : String) (parts : List String) : Except Malformed (List String) :=
  let pieces := Text.splitAtMost parts.length separator.toList id.toList
  if pieces.length ≠ parts.length ∨ pieces.any List.isEmpty then
    .error { id, separator, parts }
  else
    .ok (pieces.map String.ofList)

theorem split_eq_ok_iff {id separator : String} {parts pieces : List String} :
    split id separator parts = .ok pieces ↔
      pieces.map String.toList = Text.splitAtMost parts.length separator.toList id.toList ∧
        pieces.length = parts.length ∧ "" ∉ pieces := by
  unfold split
  dsimp only
  generalize Text.splitAtMost parts.length separator.toList id.toList = cut
  have hempty : ∀ xs : List (List Char), xs.any List.isEmpty = true ↔ [] ∈ xs := by
    intro xs; simp [List.any_eq_true]
  constructor
  · intro h
    split at h
    · simp at h
    · rename_i hc
      have hp : cut.map String.ofList = pieces := by simpa using h
      subst hp
      simp only [not_or, Bool.not_eq_true, ne_eq, Decidable.not_not] at hc
      refine ⟨by simp [Function.comp_def], by simpa using hc.1, ?_⟩
      intro hmem
      obtain ⟨p, hp, hpe⟩ := List.mem_map.1 hmem
      have hnil : p = [] := by simpa using congrArg String.toList hpe
      have hany := (hempty cut).2 (hnil ▸ hp)
      simp [hc.2] at hany
  · rintro ⟨hm, hl, hn⟩
    subst hm
    have h1 : ¬ (pieces.map String.toList).any List.isEmpty = true := by
      rw [hempty]
      intro h
      obtain ⟨p, hp, hpe⟩ := List.mem_map.1 h
      have hnone : p = "" := by simpa using congrArg String.ofList hpe
      exact hn (hnone ▸ hp)
    have h2 : ¬ ((pieces.map String.toList).length ≠ parts.length ∨
        (pieces.map String.toList).any List.isEmpty = true) := by
      rintro (h | h)
      · simp [hl] at h
      · exact h1 h
    rw [if_neg h2]
    simp [Function.comp_def]

end CloudTenancy.ImportId
