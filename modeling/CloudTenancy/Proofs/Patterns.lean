/-!
CloudTenancy.Proofs.Patterns — patterns over characters, and all ways in which they match.

* `Pattern` — single characters, words, one pattern after another, one or the other, repetition, and
  groups.
* `Pattern.Matches` — the ways in which a pattern matches a whole text, with what its groups record.

A matcher has an order in which it tries the ways, and what its groups record is that of the first
way that succeeds. The relation here leaves the order open: what holds of all ways holds of the one
that a matcher takes, in whatever order it tries them.

Main statements: one equivalence for each kind of pattern, which says what it matches, and one for
each of the common uses of repetition.
-/

namespace CloudTenancy

/-- A pattern over characters. A group records the text that its inner pattern matches. -/
inductive Pattern
  | one (admits : Char → Bool)
  | word (cs : List Char)
  | chain (first second : Pattern)
  | either (first second : Pattern)
  | many (item : Pattern)
  | group (number : Nat) (inner : Pattern)

namespace Pattern

/-- The texts of groups, in the order in which the groups start. -/
abbrev Captures := List (Nat × List Char)

/-- The ways in which a pattern matches a whole text, and what its groups record. -/
inductive Matches : Pattern → List Char → Captures → Prop
  | one {admits : Char → Bool} {c : Char} : admits c = true → Matches (.one admits) [c] []
  | word (cs : List Char) : Matches (.word cs) cs []
  | chain {first second : Pattern} {s t : List Char} {g h : Captures} :
    Matches first s g → Matches second t h → Matches (.chain first second) (s ++ t) (g ++ h)
  | left {first second : Pattern} {s : List Char} {g : Captures} :
    Matches first s g → Matches (.either first second) s g
  | right {first second : Pattern} {s : List Char} {g : Captures} :
    Matches second s g → Matches (.either first second) s g
  | stop {item : Pattern} : Matches (.many item) [] []
  | step {item : Pattern} {s t : List Char} {g h : Captures} :
    Matches item s g → Matches (.many item) t h → Matches (.many item) (s ++ t) (g ++ h)
  | group {number : Nat} {inner : Pattern} {s : List Char} {g : Captures} :
    Matches inner s g → Matches (.group number inner) s ((number, s) :: g)

def repeated (item : Pattern) : Pattern := .chain item (.many item)

def optional (item : Pattern) : Pattern := .either item (.word [])

/-- One of some words, those in front first. -/
def oneOf (words : List String) : Pattern :=
  words.foldr (fun w rest => .either (.word w.toList) rest) (.one fun _ => false)

variable {p q : Pattern} {text : List Char} {captures : Captures}

/-- One character that is admitted, and nothing captured. -/
theorem matches_one_iff {admits : Char → Bool} :
    (one admits).Matches text captures ↔ (∃ c, text = [c] ∧ admits c = true) ∧ captures = [] := by
  constructor
  · rintro ⟨⟩
    exact ⟨⟨_, rfl, ‹_›⟩, rfl⟩
  · rintro ⟨⟨c, rfl, hc⟩, rfl⟩
    exact .one hc

theorem matches_word_iff {cs : List Char} :
    (word cs).Matches text captures ↔ text = cs ∧ captures = [] := by
  constructor
  · rintro ⟨⟩
    exact ⟨rfl, rfl⟩
  · rintro ⟨rfl, rfl⟩
    exact .word text

/-- The captures of a chain are those of its parts in a row. -/
theorem matches_chain_iff : (chain p q).Matches text captures ↔
    ∃ s t g h, text = s ++ t ∧ captures = g ++ h ∧ p.Matches s g ∧ q.Matches t h := by
  constructor
  · rintro ⟨⟩
    exact ⟨_, _, _, _, rfl, rfl, ‹_›, ‹_›⟩
  · rintro ⟨s, t, g, h, rfl, rfl, hs, ht⟩
    exact .chain hs ht

theorem matches_either_iff :
    (either p q).Matches text captures ↔ p.Matches text captures ∨ q.Matches text captures := by
  constructor
  · rintro ⟨⟩
    · exact .inl ‹_›
    · exact .inr ‹_›
  · rintro (h | h)
    · exact .left h
    · exact .right h

/-- A group captures its text in front of what is captured within. -/
theorem matches_group_iff {n : Nat} : (group n p).Matches text captures ↔
    ∃ g, captures = (n, text) :: g ∧ p.Matches text g := by
  constructor
  · rintro ⟨⟩
    exact ⟨_, rfl, ‹_›⟩
  · rintro ⟨g, rfl, h⟩
    exact .group h

/-- A pattern without groups, repeated: pieces one after the other. -/
theorem matches_many_iff {P : List Char → Prop} (hp : ∀ s g, p.Matches s g ↔ P s ∧ g = []) :
    (many p).Matches text captures ↔
      (∃ pieces : List (List Char), text = pieces.flatten ∧ ∀ piece ∈ pieces, P piece) ∧
        captures = [] := by
  constructor
  · intro h
    generalize hq : many p = q at h
    induction h with
    | stop => exact ⟨⟨[], rfl, by simp⟩, rfl⟩
    | @step item s t g h hfirst _ _ ih =>
      cases hq
      obtain ⟨hs, rfl⟩ := (hp s g).1 hfirst
      obtain ⟨⟨pieces, rfl, hpieces⟩, rfl⟩ := ih rfl
      exact ⟨⟨s :: pieces, by simp, by simpa using ⟨hs, hpieces⟩⟩, rfl⟩
    | _ => cases hq
  · rintro ⟨⟨pieces, rfl, hpieces⟩, rfl⟩
    induction pieces with
    | nil => exact .stop
    | cons piece pieces ih =>
      rw [List.forall_mem_cons] at hpieces
      exact .step ((hp piece []).2 ⟨hpieces.1, rfl⟩) (ih hpieces.2)

/-- Any number of admitted characters. -/
theorem matches_many_one_iff {admits : Char → Bool} :
    (many (one admits)).Matches text captures ↔
      (∀ c ∈ text, admits c = true) ∧ captures = [] := by
  rw [matches_many_iff fun s g => matches_one_iff]
  refine and_congr_left fun _ => ?_
  constructor
  · rintro ⟨pieces, rfl, hpieces⟩ c hc
    obtain ⟨piece, hpiece, hmem⟩ := List.mem_flatten.1 hc
    obtain ⟨d, rfl, hd⟩ := hpieces piece hpiece
    rwa [List.mem_singleton.1 hmem]
  · intro h
    refine ⟨text.map fun c => [c], ?_, ?_⟩
    · induction text with
      | nil => rfl
      | cons c cs ih => simp [← ih fun d hd => h d (List.mem_cons_of_mem c hd)]
    · simpa using h

/-- At least one admitted character, and no other. -/
theorem matches_repeated_one_iff {admits : Char → Bool} :
    (repeated (one admits)).Matches text captures ↔
      (text ≠ [] ∧ ∀ c ∈ text, admits c = true) ∧ captures = [] := by
  simp only [repeated, matches_chain_iff, matches_one_iff, matches_many_one_iff]
  constructor
  · rintro ⟨s, t, g, h, rfl, rfl, ⟨⟨c, rfl, hc⟩, rfl⟩, ht, rfl⟩
    exact ⟨⟨by simp, by simpa using ⟨hc, ht⟩⟩, rfl⟩
  · rintro ⟨⟨hne, hall⟩, rfl⟩
    cases text with
    | nil => exact absurd rfl hne
    | cons c cs =>
      rw [List.forall_mem_cons] at hall
      exact ⟨[c], cs, [], [], rfl, rfl, ⟨⟨c, rfl, hall.1⟩, rfl⟩, hall.2, rfl⟩

/-- One of the words, letter by letter. -/
theorem matches_oneOf_iff {words : List String} :
    (oneOf words).Matches text captures ↔
      (∃ w ∈ words, text = w.toList) ∧ captures = [] := by
  induction words with
  | nil => simp [oneOf, matches_one_iff]
  | cons w words ih =>
    rw [oneOf, List.foldr_cons, matches_either_iff, matches_word_iff, ← oneOf, ih, ← or_and_right]
    simp only [List.mem_cons, exists_eq_or_imp]

end Pattern

end CloudTenancy
