import CloudTenancy.Proofs.ByteOrder
import CloudTenancy.Version.Active
import Mathlib.Data.String.Basic
import Mathlib.Order.Compare
import Mathlib.Order.PiLex

/-!
CloudTenancy.Proofs.VersionOrder — the two orders of versions, and where they go together.

* `IsNumeric` — a version is dotted numeric: all its parts are 64-bit numerals.
* `rank` — the numbers of a version with zeros behind them, in lexicographic order.
* `Tangle` — a text that stands, as a text, between two dotted numeric versions in the wrong order.
* `Settled` — a version among others that no tangle holds.

Dotted numeric versions are compared by their numbers, all others as texts. Each of the two orders
is total, and three versions of which at most one is dotted numeric, or all, keep to one of them. So
only two numbers and a text can fail to be transitive, and they do so exactly when they are tangled:
`9 < 10` as numbers, and `10 < 1a < 9` as texts.

Main statements: `order_of_numeric` and `order_of_bytes` for what is compared, `order_of_between`
for three versions that are not tangled, and `order_trans_iff_untangled`.
-/

namespace CloudTenancy

namespace Version

/-! ## Dotted numeric versions -/

/-- All parts of a version are 64-bit numerals, perhaps with blanks around them. -/
def IsNumeric (version : String) : Prop :=
  ∀ part ∈ Text.splitOn '.' version.toList, ∃ n, Text.Denotes (Text.trimChars part) n

def padded (numbers : List Nat) : Lex (Nat → Nat) := toLex fun i => numbers.getD i 0

/-- The numbers of a version with zeros behind them. -/
def rank (version : String) : Lex (Nat → Nat) := padded ((parts? version).getD [])

theorem mapM_eq_none_iff {α β : Type} {f : α → Option β} {as : List α} :
    as.mapM f = none ↔ ∃ a ∈ as, f a = none := by
  induction as with
  | nil => simp
  | cons a as ih =>
    cases ha : f a with
    | none => simp [ha]
    | some b =>
      cases has : as.mapM f with
      | none => simp [ha, has, ih.1 has]
      | some bs => simp [ha, has, ← ih]

theorem parts?_eq_none_iff {version : String} : parts? version = none ↔ ¬IsNumeric version := by
  have hnumeral : ∀ part : List Char,
      Text.parseNatural? (Text.trimChars part) = none ↔
        ¬∃ n, Text.Denotes (Text.trimChars part) n := by
    intro part
    simp [← Text.parseNatural?_eq_some_iff, Option.eq_none_iff_forall_ne_some]
  simp [parts?, mapM_eq_none_iff, IsNumeric, hnumeral]

theorem isNumeric_iff_parts? {version : String} :
    IsNumeric version ↔ ∃ numbers, parts? version = some numbers := by
  rw [← Option.ne_none_iff_exists', ne_eq, parts?_eq_none_iff, not_not]

instance : DecidablePred IsNumeric := fun version =>
  decidable_of_iff ((parts? version).isSome = true) <| by
    rw [isNumeric_iff_parts?, Option.isSome_iff_exists]

/-! ## The order of numbers -/

/-- The first numbers decide, or else the others. -/
theorem padded_cons_lt {a b : Nat} {as bs : List Nat} :
    padded (a :: as) < padded (b :: bs) ↔ a < b ∨ a = b ∧ padded as < padded bs := by
  constructor
  · intro h
    obtain ⟨i, hbefore, hlt⟩ := h
    cases i with
    | zero => exact .inl hlt
    | succ i =>
      refine .inr ⟨hbefore 0 (Nat.succ_pos i), i, ?_, hlt⟩
      intro j hj
      exact hbefore (j + 1) (Nat.succ_lt_succ hj)
  · intro h
    rcases h with hlt | ⟨rfl, i, hbefore, hlt⟩
    · exact ⟨0, fun j hj => absurd hj (Nat.not_lt_zero j), hlt⟩
    · refine ⟨i + 1, ?_, hlt⟩
      intro j hj
      cases j with
      | zero => rfl
      | succ j => exact hbefore j (Nat.lt_of_succ_lt_succ hj)

theorem padded_cons_inj {a b : Nat} {as bs : List Nat} :
    padded (a :: as) = padded (b :: bs) ↔ a = b ∧ padded as = padded bs := by
  constructor
  · intro h
    exact ⟨congrFun h 0, funext fun i => congrFun h (i + 1)⟩
  · intro h
    funext i
    cases i with
    | zero => exact h.1
    | succ i => exact congrFun h.2 i

/-- Zeros behind a list of numbers do not count. -/
theorem padded_headD_tail (bs : List Nat) : padded (bs.headD 0 :: bs.tail) = padded bs := by
  cases bs with
  | nil =>
    funext i
    cases i <;> rfl
  | cons b bs => rfl

theorem compares_then {a b : Nat} {as bs : List Nat} {o : Ordering}
    (h : o.Compares (padded as) (padded bs)) :
    ((compare a b).then o).Compares (padded (a :: as)) (padded (b :: bs)) := by
  rcases Nat.lt_trichotomy a b with hlt | rfl | hgt
  · rw [Nat.compare_eq_lt.2 hlt]
    exact padded_cons_lt.2 (.inl hlt)
  · cases o with
    | lt => simpa using padded_cons_lt.2 (.inr ⟨rfl, h⟩)
    | eq => simpa using padded_cons_inj.2 ⟨rfl, h⟩
    | gt => simpa using padded_cons_lt.2 (.inr ⟨rfl, h⟩)
  · rw [Nat.compare_eq_gt.2 hgt]
    exact padded_cons_lt.2 (.inl hgt)

theorem compares_compareZeros (bs : List Nat) :
    (compareZeros bs).Compares (padded []) (padded bs) := by
  induction bs with
  | nil => exact rfl
  | cons b bs ih =>
    rw [← padded_headD_tail []]
    exact compares_then ih

/-- Numbers are compared with zeros behind them. -/
theorem compares_compareParts (as bs : List Nat) :
    (compareParts as bs).Compares (padded as) (padded bs) := by
  induction as generalizing bs with
  | nil => exact compares_compareZeros bs
  | cons a as ih =>
    rw [← padded_headD_tail bs]
    exact compares_then (ih bs.tail)

/-! ## What is compared -/

variable {a b : String}

theorem compare?_of_numeric (ha : IsNumeric a) (hb : IsNumeric b) :
    ∃ o, compare? a b = some o ∧ o.Compares (rank a) (rank b) := by
  obtain ⟨as, has⟩ := isNumeric_iff_parts?.1 ha
  obtain ⟨bs, hbs⟩ := isNumeric_iff_parts?.1 hb
  refine ⟨compareParts as bs, by simp [compare?, has, hbs], ?_⟩
  simpa [rank, has, hbs] using compares_compareParts as bs

theorem compare?_eq_none_iff : compare? a b = none ↔ ¬(IsNumeric a ∧ IsNumeric b) := by
  constructor
  · intro h hboth
    obtain ⟨o, ho, -⟩ := compare?_of_numeric hboth.1 hboth.2
    simp [ho] at h
  · intro h
    cases ha : parts? a with
    | none => simp [compare?, ha]
    | some as =>
      cases hb : parts? b with
      | none => simp [compare?, ha, hb]
      | some bs => exact absurd ⟨isNumeric_iff_parts?.2 ⟨as, ha⟩, isNumeric_iff_parts?.2 ⟨bs, hb⟩⟩ h

theorem order_of_numeric (ha : IsNumeric a) (hb : IsNumeric b) :
    (order a b).Compares (rank a) (rank b) := by
  obtain ⟨o, ho, hcompares⟩ := compare?_of_numeric ha hb
  simpa [order, ho] using hcompares

theorem order_of_text (h : ¬(IsNumeric a ∧ IsNumeric b)) : (order a b).Compares a b := by
  rw [order, compare?_eq_none_iff.2 h]
  exact (compare_iff a b).1 rfl

/-- Where one of two versions is not dotted numeric, their bytes are compared. -/
theorem order_of_bytes (h : ¬(IsNumeric a ∧ IsNumeric b)) :
    (order a b).Compares (Utf8.encode a) (Utf8.encode b) := by
  have hcompares := order_of_text h
  cases ho : order a b with
  | lt => exact Utf8.encode_lt_encode (hcompares.eq_lt.1 ho)
  | eq => exact congrArg Utf8.encode (hcompares.eq_eq.1 ho)
  | gt => exact Utf8.encode_lt_encode (hcompares.eq_gt.1 ho)

/-- The order of two versions with their places exchanged. -/
theorem order_swap (a b : String) : (order a b).swap = order b a := by
  by_cases h : IsNumeric a ∧ IsNumeric b
  · exact (order_of_numeric h.1 h.2).swap.inj (order_of_numeric h.2 h.1)
  · exact (order_of_text h).swap.inj (order_of_text (mt And.symm h))

theorem order_self (a : String) : order a a = .eq := by
  have hswap := order_swap a a
  cases h : order a a with
  | eq => rfl
  | lt => simp [h] at hswap
  | gt => simp [h] at hswap

/-- Equal versions have the same text or, perhaps spelled differently, the same numbers. -/
theorem order_eq_eq_iff :
    order a b = .eq ↔ a = b ∨ IsNumeric a ∧ IsNumeric b ∧ rank a = rank b := by
  by_cases h : IsNumeric a ∧ IsNumeric b
  · rw [(order_of_numeric h.1 h.2).eq_eq]
    constructor
    · intro hrank
      exact .inr ⟨h.1, h.2, hrank⟩
    · rintro (rfl | ⟨-, -, hrank⟩)
      · rfl
      · exact hrank
  · rw [(order_of_text h).eq_eq]
    constructor
    · exact .inl
    · rintro (rfl | ⟨ha, hb, -⟩)
      · rfl
      · exact absurd ⟨ha, hb⟩ h

theorem order_eq_gt_iff : order a b = .gt ↔ order b a = .lt := by
  rw [← order_swap b a, Ordering.swap_eq_gt]

theorem order_eq_eq_of_ne_gt (hab : order a b ≠ .gt) (hba : order b a ≠ .gt) : order a b = .eq := by
  rw [ne_eq, order_eq_gt_iff] at hba
  cases h : order a b with
  | lt => exact absurd h hba
  | eq => rfl
  | gt => exact absurd h hab

/-! ## Tangles -/

/-- A text stands between two dotted numeric versions, and the one that is greater as a text is not
the greater one by its numbers. -/
structure Tangle (low text high : String) : Prop where
  low_numeric : IsNumeric low
  not_numeric : ¬IsNumeric text
  high_numeric : IsNumeric high
  above : low < text
  below : text < high
  reversed : rank high ≤ rank low

theorem tangle_iff {low text high : String} :
    Tangle low text high ↔ (IsNumeric low ∧ ¬IsNumeric text ∧ IsNumeric high) ∧
      (low < text ∧ text < high) ∧ order high low ≠ .gt := by
  constructor
  · intro h
    have hreversed : order high low ≠ .gt :=
      (order_of_numeric h.high_numeric h.low_numeric).ne_gt.2 h.reversed
    exact ⟨⟨h.low_numeric, h.not_numeric, h.high_numeric⟩, ⟨h.above, h.below⟩, hreversed⟩
  · intro h
    obtain ⟨⟨hlow, htext, hhigh⟩, ⟨habove, hbelow⟩, hreversed⟩ := h
    exact ⟨hlow, htext, hhigh, habove, hbelow, (order_of_numeric hhigh hlow).ne_gt.1 hreversed⟩

instance (low text high : String) : Decidable (Tangle low text high) :=
  decidable_of_iff _ tangle_iff.symm

/-- No text of a set stands in the way of two numbers of it. -/
def Untangled (versions : Set String) : Prop :=
  ∀ low ∈ versions, ∀ text ∈ versions, ∀ high ∈ versions, ¬Tangle low text high

instance (versions : List String) : Decidable (Untangled {v | v ∈ versions}) :=
  decidable_of_iff
    (∀ low ∈ versions, ∀ text ∈ versions, ∀ high ∈ versions, ¬Tangle low text high) Iff.rfl

/-- No tangle with two versions of a set holds the version. -/
def Settled (versions : Set String) (v : String) : Prop :=
  ∀ u ∈ versions, ∀ w ∈ versions, ¬Tangle v u w ∧ ¬Tangle u v w ∧ ¬Tangle u w v

instance (versions : List String) (v : String) : Decidable (Settled {u | u ∈ versions} v) :=
  decidable_of_iff
    (∀ u ∈ versions, ∀ w ∈ versions, ¬Tangle v u w ∧ ¬Tangle u v w ∧ ¬Tangle u w v) Iff.rfl

theorem Untangled.settled {versions : Set String} {v : String} (h : Untangled versions)
    (hv : v ∈ versions) : Settled versions v := by
  intro u hu w hw
  exact ⟨h v hv u hu w hw, h u hu v hv w hw, h u hu w hw v hv⟩

theorem untangled_of_numeric {versions : Set String} (h : ∀ v ∈ versions, IsNumeric v) :
    Untangled versions := by
  intro low _ text htext high _ htangle
  exact htangle.not_numeric (h text htext)

/-- Two steps that do not lead down come to the first that leads up. -/
theorem compares_then_of_le {α : Type} [LinearOrder α] {x y z : α} {o p : Ordering}
    (ho : o.Compares x y) (hp : p.Compares y z) (hole : o ≠ .gt) (hple : p ≠ .gt) :
    (o.then p).Compares x z := by
  cases o with
  | gt => exact absurd rfl hole
  | eq =>
    obtain rfl : x = y := ho
    exact hp
  | lt =>
    show x < z
    exact lt_of_lt_of_le ho (hp.ne_gt.1 hple)

variable {u v w : String}

/-- Between a dotted numeric version and another one a step that does not lead down leads up. -/
theorem order_of_kinds (hkinds : ¬(IsNumeric a ↔ IsNumeric b)) (h : order a b ≠ .gt) :
    order a b = .lt ∧ a < b := by
  have hcompares : (order a b).Compares a b :=
    order_of_text fun hboth => hkinds (iff_of_true hboth.1 hboth.2)
  cases horder : order a b with
  | lt => exact ⟨rfl, hcompares.eq_lt.1 horder⟩
  | gt => exact absurd horder h
  | eq =>
    obtain rfl := hcompares.eq_eq.1 horder
    exact absurd Iff.rfl hkinds

/-- A version that is not below `u` and not above `w` decides on them, unless the three are
tangled. -/
theorem order_of_between (hmiddle : ¬Tangle u v w) (hlow : ¬Tangle v w u) (hhigh : ¬Tangle w u v)
    (huv : order u v ≠ .gt) (hvw : order v w ≠ .gt) :
    order u w = (order u v).then (order v w) := by
  have hnumbers (hu : IsNumeric u) (hv : IsNumeric v) (hw : IsNumeric w) :
      order u w = (order u v).then (order v w) :=
    (order_of_numeric hu hw).inj
      (compares_then_of_le (order_of_numeric hu hv) (order_of_numeric hv hw) huv hvw)
  have htexts (huv' : ¬(IsNumeric u ∧ IsNumeric v)) (hvw' : ¬(IsNumeric v ∧ IsNumeric w))
      (huw' : ¬(IsNumeric u ∧ IsNumeric w)) : order u w = (order u v).then (order v w) :=
    (order_of_text huw').inj
      (compares_then_of_le (order_of_text huv') (order_of_text hvw') huv hvw)
  -- Two numbers and a text are left. One of the two steps, at least, leads to the text or from it.
  have hup (hstep : order u v = .lt ∨ order v w = .lt) (h : order u w = .lt) :
      order u w = (order u v).then (order v w) := by
    cases ho : order u v with
    | gt => exact absurd ho huv
    | eq => simp_all
    | lt => simp [h]
  by_cases hu : IsNumeric u
  · by_cases hv : IsNumeric v
    · by_cases hw : IsNumeric w
      · exact hnumbers hu hv hw
      · obtain ⟨hstep, hlt⟩ := order_of_kinds (fun h => hw (h.1 hv)) hvw
        have hle : rank u ≤ rank v := (order_of_numeric hu hv).ne_gt.1 huv
        have hnot : order u w ≠ .gt := by
          intro hgt
          have hback : w < u := (order_of_text fun h => hw h.2).eq_gt.1 hgt
          exact hlow ⟨hv, hw, hu, hlt, hback, hle⟩
        exact hup (.inr hstep) (order_of_kinds (fun h => hw (h.1 hu)) hnot).1
    · by_cases hw : IsNumeric w
      · obtain ⟨hstep, hlt⟩ := order_of_kinds (fun h => hv (h.1 hu)) huv
        obtain ⟨-, hlt'⟩ := order_of_kinds (fun h => hv (h.2 hw)) hvw
        refine hup (.inl hstep) ((order_of_numeric hu hw).eq_lt.2 (lt_of_not_ge ?_))
        intro hge
        exact hmiddle ⟨hu, hv, hw, hlt, hlt', hge⟩
      · exact htexts (fun h => hv h.2) (fun h => hv h.1) (fun h => hw h.2)
  · by_cases hv : IsNumeric v
    · by_cases hw : IsNumeric w
      · obtain ⟨hstep, hlt⟩ := order_of_kinds (fun h => hu (h.2 hv)) huv
        have hle : rank v ≤ rank w := (order_of_numeric hv hw).ne_gt.1 hvw
        have hnot : order u w ≠ .gt := by
          intro hgt
          have hback : w < u := (order_of_text fun h => hu h.1).eq_gt.1 hgt
          exact hhigh ⟨hw, hu, hv, hback, hlt, hle⟩
        exact hup (.inl hstep) (order_of_kinds (fun h => hu (h.2 hw)) hnot).1
      · exact htexts (fun h => hu h.1) (fun h => hw h.2) (fun h => hu h.1)
    · exact htexts (fun h => hu h.1) (fun h => hv h.1) (fun h => hu h.1)

/-- Versions of a set are in a total order exactly when no three of them are tangled. -/
theorem order_trans_iff_untangled {versions : Set String} :
    (∀ u ∈ versions, ∀ v ∈ versions, ∀ w ∈ versions,
      order u v ≠ .gt → order v w ≠ .gt → order u w ≠ .gt) ↔ Untangled versions := by
  constructor
  · intro htrans low hlow text htext high hhigh htangle
    have habove : (order low text).Compares low text :=
      order_of_text fun h => htangle.not_numeric h.2
    have hbelow : (order text high).Compares text high :=
      order_of_text fun h => htangle.not_numeric h.1
    have hreversed : order high low ≠ .gt := (tangle_iff.1 htangle).2.2
    -- The text is below the higher number, which is not above the lower one.
    refine htrans text htext high hhigh low hlow ?_ hreversed ?_
    · exact hbelow.ne_gt.2 htangle.below.le
    · exact order_eq_gt_iff.2 (habove.eq_lt.2 htangle.above)
  · intro huntangled u hu v hv w hw huv hvw
    rw [order_of_between (huntangled u hu v hv w hw) (huntangled v hv w hw u hu)
      (huntangled w hw u hu v hv) huv hvw]
    cases h : order u v with
    | gt => exact absurd h huv
    | eq => simpa using hvw
    | lt => simp

end Version

end CloudTenancy
