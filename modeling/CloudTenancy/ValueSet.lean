import CloudTenancy.Value

/-!
CloudTenancy.ValueSet — sets of string values.

* `Value.compareStrings` — the order of string values: known strings by their characters, then
  null, then unknown.
* `ValueSet` — string values in strictly ascending order.
* `ValueSet.insert`, `ValueSet.ofList` — construction.
* `ValueSet.knownStrings` — the known members in order.

Main statements: a set has the members put into it and no others, and two sets with the same
members are equal.
-/

namespace CloudTenancy

/-! ## The order -/

namespace Value

def compareStrings : Value String → Value String → Ordering
  | known s, known t => compare s t
  | known _, _ => .lt
  | null, known _ => .gt
  | null, null => .eq
  | null, unknown => .lt
  | unknown, unknown => .eq
  | unknown, _ => .gt

def Before (a b : Value String) : Prop := compareStrings a b = .lt

instance : DecidableRel Before := fun a b => inferInstanceAs (Decidable (compareStrings a b = .lt))

theorem eq_of_compareStrings_eq {a b : Value String} (h : compareStrings a b = .eq) : a = b := by
  cases a <;> cases b <;> simp_all [compareStrings]

theorem compareStrings_self (a : Value String) : compareStrings a a = .eq := by
  cases a <;> simp [compareStrings]

theorem before_of_compareStrings_gt {a b : Value String} (h : compareStrings a b = .gt) :
    Before b a := by
  cases a <;> cases b <;> simp_all [compareStrings, Before]
  exact Std.OrientedCmp.lt_of_gt h

theorem Before.trans {a b c : Value String} (h1 : Before a b) (h2 : Before b c) : Before a c := by
  cases a <;> cases b <;> cases c <;> simp_all [compareStrings, Before]
  exact Std.TransCmp.lt_trans h1 h2

theorem not_before_self (a : Value String) : ¬ Before a a := by
  simp [Before, compareStrings_self]

end Value

/-! ## Sets -/

/-- A set of string values, listed in ascending order. -/
structure ValueSet where
  members : List (Value String)
  ascending : members.Pairwise Value.Before
  deriving DecidableEq, Repr

namespace ValueSet

/-- A value put in its place among ascending ones, unless it is there. -/
def place (v : Value String) : List (Value String) → List (Value String)
  | [] => [v]
  | x :: xs =>
    match Value.compareStrings v x with
    | .lt => v :: x :: xs
    | .eq => x :: xs
    | .gt => x :: place v xs

theorem mem_place {v w : Value String} {xs : List (Value String)} :
    w ∈ place v xs ↔ w = v ∨ w ∈ xs := by
  induction xs with
  | nil => simp [place]
  | cons x xs ih =>
    rw [place]
    split
    · simp
    · rename_i h
      have := Value.eq_of_compareStrings_eq h
      subst this
      simp
    · simp only [List.mem_cons, ih]
      constructor
      · rintro (h | h | h) <;> simp [h]
      · rintro (h | h | h) <;> simp [h]

theorem pairwise_place {v : Value String} {xs : List (Value String)}
    (h : xs.Pairwise Value.Before) : (place v xs).Pairwise Value.Before := by
  induction xs with
  | nil => simp [place]
  | cons x xs ih =>
    obtain ⟨hx, hxs⟩ := List.pairwise_cons.1 h
    rw [place]
    split
    · rename_i hv
      refine List.pairwise_cons.2 ⟨?_, h⟩
      intro y hy
      rcases List.mem_cons.1 hy with rfl | hy
      · exact hv
      · exact Value.Before.trans hv (hx y hy)
    · exact h
    · rename_i hv
      refine List.pairwise_cons.2 ⟨?_, ih hxs⟩
      intro y hy
      rcases mem_place.1 hy with rfl | hy
      · exact Value.before_of_compareStrings_gt hv
      · exact hx y hy

def empty : ValueSet := ⟨[], .nil⟩

def insert (set : ValueSet) (v : Value String) : ValueSet :=
  ⟨place v set.members, pairwise_place set.ascending⟩

def ofList (values : List (Value String)) : ValueSet := values.foldl insert empty

/-- The known strings of a set, ascending. -/
def knownStrings (set : ValueSet) : List String := set.members.filterMap Value.known?

def isEmpty (set : ValueSet) : Bool := set.members.isEmpty

theorem mem_insert {set : ValueSet} {v w : Value String} :
    w ∈ (set.insert v).members ↔ w = v ∨ w ∈ set.members := mem_place

theorem mem_foldl_insert {values : List (Value String)} {set : ValueSet} {w : Value String} :
    w ∈ (values.foldl insert set).members ↔ w ∈ values ∨ w ∈ set.members := by
  induction values generalizing set with
  | nil => simp
  | cons v vs ih =>
    simp only [List.foldl_cons, ih, mem_insert, List.mem_cons]
    constructor
    · rintro (h | h | h) <;> simp [h]
    · rintro ((h | h) | h) <;> simp [h]

/-- A set made of a list has the members of the list. -/
theorem mem_ofList {values : List (Value String)} {w : Value String} :
    w ∈ (ofList values).members ↔ w ∈ values := by
  simp [ofList, mem_foldl_insert, empty]

/-- Ascending lists with the same members are equal. -/
theorem eq_of_pairwise_of_mem_iff {xs ys : List (Value String)}
    (hx : xs.Pairwise Value.Before) (hy : ys.Pairwise Value.Before)
    (h : ∀ w, w ∈ xs ↔ w ∈ ys) : xs = ys := by
  induction xs generalizing ys with
  | nil =>
    cases ys with
    | nil => rfl
    | cons y ys => exact absurd ((h y).2 (by simp)) (by simp)
  | cons x xs ih =>
    cases ys with
    | nil => exact absurd ((h x).1 (by simp)) (by simp)
    | cons y ys =>
      obtain ⟨hx1, hx2⟩ := List.pairwise_cons.1 hx
      obtain ⟨hy1, hy2⟩ := List.pairwise_cons.1 hy
      -- Each head is the least member of its list.
      have hxy : x = y := by
        rcases List.mem_cons.1 ((h x).1 (by simp)) with h1 | h1
        · exact h1
        rcases List.mem_cons.1 ((h y).2 (by simp)) with h2 | h2
        · exact h2.symm
        exact absurd (Value.Before.trans (hy1 x h1) (hx1 y h2)) (Value.not_before_self y)
      subst hxy
      congr 1
      refine ih hx2 hy2 fun w => ?_
      constructor
      · intro hw
        rcases List.mem_cons.1 ((h w).1 (by simp [hw])) with rfl | h1
        · exact absurd (hx1 w hw) (Value.not_before_self w)
        · exact h1
      · intro hw
        rcases List.mem_cons.1 ((h w).2 (by simp [hw])) with rfl | h1
        · exact absurd (hy1 w hw) (Value.not_before_self w)
        · exact h1

/-- A set is made of its own members. -/
theorem ofList_members (set : ValueSet) : ofList set.members = set := by
  have h := eq_of_pairwise_of_mem_iff (ofList set.members).ascending set.ascending
    (fun w => mem_ofList)
  cases set
  cases h' : ofList _ with
  | mk members ascending => simp_all

/-! ## JSON -/

/-- A JSON list of string values, in any order and with repetitions. -/
def ofJson? (json : Json) : Option ValueSet :=
  (Value.listOfJson? Value.stringOfJson? json).map ofList

def toJson (set : ValueSet) : Json := Value.listToJson .string set.members

/-- A set that has been written reads back. -/
theorem ofJson?_toJson (set : ValueSet) : ofJson? set.toJson = some set := by
  rw [ofJson?, toJson, Value.listOfJson?_listToJson Value.stringOfJson?_string rfl rfl,
    Option.map_some, ofList_members]

end ValueSet

end CloudTenancy
