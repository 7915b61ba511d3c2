import CloudTenancy.Proofs.VersionOrder
import Mathlib.Data.List.Induction
import Mathlib.Data.List.Duplicate

/-!
CloudTenancy.Proofs.ActiveVersions — the list of the versions that are still supported.

* `SupportedVersions.offered` — the versions that are not deprecated, as they are listed.
* `PartedAt` — a sorted list around one version: what is below it, what is equal to it in the order
  in which it was listed, and what is above it.

Sorting by insertion parts a list at each version that no tangle holds, whatever the others do
(`partedAt_sort`, with `partedAt_place` for one step). What is in front of such a version is not
above it, and what is behind is not below it. Where no version is in a tangle, every stable way of
sorting gives the same list.

Equal versions may be spelled differently, and only neighbours are compared for repetitions. So a
text is listed twice when another spelling of the same version was listed in between.

Main statements: `active_versions_ascend` and `active_versions_are_distinct`, with
`greatest_version_is_exceeded` and `version_is_listed_twice` for lists on which they fail.
-/

namespace CloudTenancy

def SupportedVersions.offered (versions : SupportedVersions) : List String :=
  (versions.versionInfo.filter (!·.deprecated)).map (·.version)

namespace Version

/-! ## One step of sorting -/

/-- A version that is below all of `front` goes on to `back`. -/
theorem place_append_of_lt {v : String} {front back : List String}
    (h : ∀ w ∈ front, order v w = .lt) : place v (front ++ back) = front ++ place v back := by
  induction front with
  | nil => rfl
  | cons w ws ih =>
    simp only [List.forall_mem_cons] at h
    simp [place, h.1, ih h.2]

/-- A version that is not below the head of `back` stays within `front`. -/
theorem place_append_of_head {v : String} {front back : List String}
    (h : ∀ w ∈ back.head?, order v w ≠ .lt) : place v (front ++ back) = place v front ++ back := by
  induction front with
  | nil =>
    cases back with
    | nil => rfl
    | cons w ws =>
      have hw : order v w ≠ .lt := h w rfl
      simp [place, hw]
  | cons w ws ih =>
    by_cases hw : order v w = .lt
    · simp [place, hw, ih]
    · simp [place, hw]

/-- What is in front of a version is below it, what is equal to it stands in the order of the list,
and what is behind is above it. -/
def PartedAt (v : String) (versions sorted : List String) : Prop :=
  ∃ below above, sorted = below ++ versions.filter (fun u => order u v = .eq) ++ above ∧
    (∀ u ∈ below, order u v = .lt) ∧ ∀ u ∈ above, order u v = .gt

/-- A version decides on two others if it is not below the one and not above the other. -/
def Decides (v u w : String) : Prop :=
  order u v ≠ .gt → order v w ≠ .gt → order u w = (order u v).then (order v w)

theorem Settled.decides {versions : Set String} {v u w : String} (h : Settled versions v)
    (hu : u ∈ versions) (hw : w ∈ versions) : Decides v u w := by
  intro huv hvw
  exact order_of_between (h u hu w hw).2.1 (h w hw u hu).1 (h w hw u hu).2.2 huv hvw

/-- Of two versions on different sides the one on the lower side is the smaller one. -/
theorem Decides.order_eq_lt {v u w : String} (h : Decides v u w)
    (hsides : order u v = .lt ∧ order w v ≠ .lt ∨ order u v = .eq ∧ order w v = .gt) :
    order u w = .lt := by
  have hswap : order v w = (order w v).swap := (order_swap w v).symm
  unfold Decides at h
  rcases hsides with ⟨hu, hw⟩ | ⟨hu, hw⟩
  · rw [h (by simp [hu]) (by simpa [hswap] using hw), hu]
    rfl
  · rw [h (by simp [hu]) (by simp [hswap, hw]), hu, hswap, hw]
    rfl

/-- The order is transitive over a version that decides its two neighbours. -/
theorem Decides.order_ne_gt {v u w : String} (h : Decides v u w) (hu : order u v ≠ .gt)
    (hw : order v w ≠ .gt) : order u w ≠ .gt := by
  rw [h hu hw]
  cases ho : order u v with
  | lt => simp
  | eq => simpa using hw
  | gt => exact absurd ho hu

/-- A part of a list stays what it is with one more version like those in it. -/
theorem forall_mem_reverse_place {P : String → Prop} {new : String} {part : List String}
    (hnew : P new) (hpart : ∀ u ∈ part, P u) : ∀ u ∈ (place new part.reverse).reverse, P u := by
  intro u hu
  rw [List.mem_reverse, mem_place, List.mem_reverse] at hu
  rcases hu with rfl | hu
  · exact hnew
  · exact hpart u hu

/-- One more version goes to its own part, behind what is equal to it. -/
theorem partedAt_place {v new : String} {versions descending : List String}
    (h : PartedAt v versions descending.reverse)
    (hdecides : ∀ w ∈ descending, Decides v new w ∧ Decides v w new) :
    PartedAt v (versions ++ [new]) (place new descending).reverse := by
  obtain ⟨below, above, hsorted, hbelow, habove⟩ := h
  obtain ⟨equal, hfilter⟩ : ∃ equal, equal = versions.filter (fun u => order u v = .eq) := ⟨_, rfl⟩
  have hequal : ∀ u ∈ equal, order u v = .eq := by simp [hfilter]
  rw [← hfilter] at hsorted
  obtain rfl : descending = above.reverse ++ (equal.reverse ++ below.reverse) := by
    simpa using congrArg List.reverse hsorted
  replace hdecides (w : String) (hw : w ∈ above ∨ w ∈ equal ∨ w ∈ below) :
      Decides v new w ∧ Decides v w new :=
    hdecides w (by simpa using hw)
  -- The new version passes what is on a higher side, and stops at what is on a lower one.
  have hpass (hnew : order new v ≠ .gt) : ∀ w ∈ above.reverse, order new w = .lt := by
    intro w hw
    have hw : w ∈ above := List.mem_reverse.1 hw
    refine (hdecides w (.inl hw)).1.order_eq_lt ?_
    cases ho : order new v with
    | lt => simp [habove w hw]
    | eq => simp [habove w hw]
    | gt => exact absurd ho hnew
  have hstop (hnew : order new v ≠ .lt) :
      ∀ w ∈ (equal.reverse ++ below.reverse).head?, order new w ≠ .lt := by
    intro w hw
    have hw : w ∈ equal ∨ w ∈ below := by simpa using List.mem_of_mem_head? hw
    have hle : order w v ≠ .gt := by
      rcases hw with hw | hw
      · simp [hequal w hw]
      · simp [hbelow w hw]
    have hge : order v new ≠ .gt := by simpa [order_eq_gt_iff] using hnew
    rw [← order_swap, ne_eq, Ordering.swap_eq_lt]
    exact (hdecides w (.inr hw)).2.order_ne_gt hle hge
  cases hnew : order new v with
  | gt =>
    refine ⟨below, (place new above.reverse).reverse, ?_, hbelow, ?_⟩
    · rw [place_append_of_head (hstop (by simp [hnew]))]
      simp [hnew, ← hfilter]
    · exact forall_mem_reverse_place hnew habove
  | eq =>
    refine ⟨below, above, ?_, hbelow, habove⟩
    rw [place_append_of_lt (hpass (by simp [hnew])), ← List.nil_append (equal.reverse ++ _),
      place_append_of_head (hstop (by simp [hnew]))]
    simp [hnew, ← hfilter, place]
  | lt =>
    have hpass' : ∀ w ∈ equal.reverse, order new w = .lt := by
      intro w hw
      have hw : w ∈ equal := List.mem_reverse.1 hw
      exact (hdecides w (.inr (.inl hw))).1.order_eq_lt (by simp [hnew, hequal w hw])
    refine ⟨(place new below.reverse).reverse, above, ?_, ?_, habove⟩
    · rw [place_append_of_lt (hpass (by simp [hnew])), place_append_of_lt hpass']
      simp [hnew, ← hfilter]
    · exact forall_mem_reverse_place hnew hbelow

/-- Sorting parts a list at every version that is in no tangle with the others. -/
theorem partedAt_sort {v : String} {versions : List String}
    (h : Settled {u | u ∈ versions} v) : PartedAt v versions (sort versions) := by
  induction versions using List.reverseRecOn with
  | nil => exact ⟨[], [], rfl, by simp, by simp⟩
  | append_singleton versions new ih =>
    have hsort : sort (versions ++ [new]) = (place new (sort versions).reverse).reverse := by
      simp [sort]
    rw [hsort]
    have hold : Settled {u | u ∈ versions} v := by
      intro u hu w hw
      exact h u (List.mem_append_left _ hu) w (List.mem_append_left _ hw)
    refine partedAt_place (by simpa using ih hold) ?_
    intro w hw
    have hmem : w ∈ versions := by simpa [mem_sort] using hw
    have hw : w ∈ versions ++ [new] := List.mem_append_left _ hmem
    have hnew : new ∈ versions ++ [new] := by simp
    exact ⟨h.decides hnew hw, h.decides hw hnew⟩

/-- The parts come one after the other. -/
theorem PartedAt.pairwise {v : String} {versions sorted : List String}
    (h : PartedAt v versions sorted) :
    sorted.Pairwise fun u w =>
      (order w v = .lt → order u v = .lt) ∧ (order u v = .gt → order w v = .gt) := by
  obtain ⟨below, above, rfl, hbelow, habove⟩ := h
  have hequal : ∀ u ∈ versions.filter (fun u => order u v = .eq), order u v = .eq := by simp
  generalize versions.filter (fun u => order u v = .eq) = equal at hequal
  simp only [List.pairwise_append, List.mem_append]
  refine ⟨⟨?_, ?_, ?_⟩, ?_, ?_⟩
  · exact List.pairwise_of_forall_mem_list fun u hu w hw => by simp [hbelow u hu, hbelow w hw]
  · exact List.pairwise_of_forall_mem_list fun u hu w hw => by simp [hequal u hu, hequal w hw]
  · intro u hu w hw
    simp [hbelow u hu, hequal w hw]
  · exact List.pairwise_of_forall_mem_list fun u hu w hw => by simp [habove u hu, habove w hw]
  · intro u hu w hw
    simp [habove w hw]

/-- What is in front of a version is not above it, and what is behind is not below it. -/
theorem PartedAt.between {v u : String} {versions sorted : List String}
    (h : PartedAt v versions sorted) :
    ([u, v].Sublist sorted → order u v ≠ .gt) ∧ ([v, u].Sublist sorted → order u v ≠ .lt) := by
  constructor
  · intro hbefore hgt
    have hself := (List.pairwise_iff_forall_sublist.1 h.pairwise hbefore).2 hgt
    simp [order_self] at hself
  · intro hbehind hlt
    have hself := (List.pairwise_iff_forall_sublist.1 h.pairwise hbehind).1 hlt
    simp [order_self] at hself

/-- Equal versions keep their order. -/
theorem PartedAt.filter_eq {v : String} {versions sorted : List String}
    (h : PartedAt v versions sorted) :
    sorted.filter (fun u => order u v = .eq) = versions.filter (fun u => order u v = .eq) := by
  obtain ⟨below, above, rfl, hbelow, habove⟩ := h
  have hnone : below.filter (fun u => order u v = .eq) = [] ∧
      above.filter (fun u => order u v = .eq) = [] := by
    simp only [List.filter_eq_nil_iff]
    exact ⟨fun u hu => by simp [hbelow u hu], fun u hu => by simp [habove u hu]⟩
  simp [hnone]

/-! ## Stable sorting -/

/-- What is asked of a stable way of sorting: nothing is lost, the versions ascend, and equal ones
keep their order. -/
structure StablySorted (versions sorted : List String) : Prop where
  perm : sorted.Perm versions
  ascends : sorted.Pairwise fun u v => order u v ≠ .gt
  stable : ∀ v ∈ versions,
    sorted.filter (fun u => order u v = .eq) = versions.filter (fun u => order u v = .eq)

theorem perm_place (v : String) (ws : List String) : (place v ws).Perm (v :: ws) := by
  induction ws with
  | nil => exact .refl _
  | cons w ws ih =>
    rw [place]
    split
    · exact (ih.cons w).trans (.swap v w ws)
    · exact .refl _

/-- Sorting neither loses nor invents a version. -/
theorem perm_sort (versions : List String) : (sort versions).Perm versions := by
  have h : ∀ descending : List String,
      (versions.foldl (fun sorted v => place v sorted) descending).Perm
        (versions ++ descending) := by
    induction versions with
    | nil => simp
    | cons v vs ih =>
      intro descending
      have hnext := (ih (place v descending)).trans ((perm_place v descending).append_left vs)
      exact hnext.trans List.perm_middle
  simpa [sort] using (List.reverse_perm _).trans (h [])

/-- Where the order is not tangled, the sort is the stable one: versions that compare equal stay in
the order of the reply. -/
theorem stablySorted_sort {versions : List String} (h : Untangled {u | u ∈ versions}) :
    StablySorted versions (sort versions) where
  perm := perm_sort versions
  ascends := by
    refine List.pairwise_iff_forall_sublist.2 fun {u v} hsub => ?_
    have hv : v ∈ versions := mem_sort.1 (hsub.subset (by simp))
    exact (partedAt_sort (h.settled hv)).between.1 hsub
  stable v hv := (partedAt_sort (h.settled hv)).filter_eq

/-- Nothing is left open by what is asked. -/
theorem StablySorted.eq {versions first second : List String} (hfirst : StablySorted versions first)
    (hsecond : StablySorted versions second) : first = second := by
  have hperm : first.Perm second := hfirst.perm.trans hsecond.perm.symm
  have hstable : ∀ v ∈ first,
      first.filter (fun u => order u v = .eq) = second.filter (fun u => order u v = .eq) := by
    intro v hv
    have hmem : v ∈ versions := hfirst.perm.subset hv
    rw [hfirst.stable v hmem, hsecond.stable v hmem]
  have hascends := hfirst.ascends
  have hascends' := hsecond.ascends
  clear hfirst hsecond
  induction first generalizing second with
  | nil => exact hperm.symm.eq_nil.symm
  | cons a as ih =>
    cases second with
    | nil => exact absurd hperm.eq_nil (by simp)
    | cons b bs =>
      rw [List.pairwise_cons] at hascends hascends'
      -- Each of the two first versions is not above the other, so one filter shows both in front.
      have hle : order a b ≠ .gt := by
        rcases List.mem_cons.1 (hperm.symm.subset List.mem_cons_self) with rfl | hmem
        · simp [order_self]
        · exact hascends.1 b hmem
      have hge : order b a ≠ .gt := by
        rcases List.mem_cons.1 (hperm.subset List.mem_cons_self) with rfl | hmem
        · simp [order_self]
        · exact hascends'.1 a hmem
      have heq : order b a = .eq := order_eq_eq_of_ne_gt hge hle
      obtain rfl : a = b := by
        have hfront := hstable a List.mem_cons_self
        simp only [List.filter_cons, order_self, heq, decide_true, if_true] at hfront
        exact (List.cons.inj hfront).1
      have htails : as = bs := by
        refine ih ((List.perm_cons a).1 hperm) ?_ hascends.2 hascends'.2
        intro v hv
        have hall := hstable v (List.mem_cons_of_mem a hv)
        by_cases ho : order a v = .eq
        · simpa [ho] using hall
        · simpa [ho] using hall
      rw [htails]

/-! ## The list of active versions -/

theorem dropRepeats_sublist (versions : List String) :
    (dropRepeats versions).Sublist versions := by
  induction versions with
  | nil => exact .slnil
  | cons v vs ih =>
    rw [dropRepeats]
    split
    · exact ih.cons v
    · exact ih.cons_cons v

theorem active_eq (versions : SupportedVersions) :
    active versions = dropRepeats (sort versions.offered) := rfl

/-- What is offered is listed, and nothing else is. -/
theorem mem_offered {versions : SupportedVersions} {v : String} :
    v ∈ versions.offered ↔ v ∈ active versions := by
  rw [active_eq, mem_dropRepeats, mem_sort]

/-! ## Repetitions -/

/-- A text is left twice exactly when another one stands between two places of it. -/
theorem nodup_dropRepeats_iff {versions : List String} :
    (dropRepeats versions).Nodup ↔ ∀ v u, [v, u, v].Sublist versions → u = v := by
  induction versions with
  | nil => simp [dropRepeats]
  | cons w ws ih =>
    rw [dropRepeats]
    split
    · rename_i hhead
      -- The head comes again at once and is dropped, so the rest decides.
      obtain ⟨rest, rfl⟩ := List.head?_eq_some_iff.1 hhead
      rw [ih]
      constructor
      · intro h v u hsub
        cases hsub with
        | cons _ hsub => exact h v u hsub
        | cons_cons _ hsub =>
          cases hsub with
          | cons _ hsub => exact h w u (hsub.cons_cons w)
          | cons_cons _ hsub => rfl
      · intro h v u hsub
        exact h v u (hsub.cons w)
    · rename_i hhead
      rw [List.nodup_cons, mem_dropRepeats, ih]
      constructor
      · intro h v u hsub
        cases hsub with
        | cons _ hsub => exact h.2 v u hsub
        | cons_cons _ hsub =>
          have hmem : w ∈ ws := hsub.subset (by simp)
          exact absurd hmem h.1
      · intro h
        refine ⟨?_, fun v u hsub => h v u (hsub.cons w)⟩
        intro hw
        cases ws with
        | nil => simp at hw
        | cons u rest =>
          have hne : u ≠ w := by simpa using hhead
          have hrest : w ∈ rest := by simpa [Ne.symm hne] using hw
          have hsub : [u, w].Sublist (u :: rest) := (List.singleton_sublist.2 hrest).cons_cons u
          exact hne (h w u (hsub.cons_cons w))

/-- Two occurrences of a version with an equal one in between survive the cut to what is equal to
it. -/
theorem between_filter_eq {v u : String} {versions : List String}
    (hsub : [v, u, v].Sublist versions) (heq : order u v = .eq) :
    [v, u, v].Sublist (versions.filter fun w => order w v = .eq) := by
  have hall : [v, u, v].filter (fun w => order w v = .eq) = [v, u, v] := by
    simp [order_self, heq]
  have hfiltered := hsub.filter fun w => order w v = .eq
  rwa [hall] at hfiltered

/-- A text that is listed twice is left twice exactly when another spelling of the same version was
listed in between. -/
theorem nodup_active_iff {versions : SupportedVersions}
    (h : ∀ v, [v, v].Sublist versions.offered → Settled {u | u ∈ versions.offered} v) :
    (active versions).Nodup ↔
      ∀ v u, [v, u, v].Sublist versions.offered → order u v = .eq → u = v := by
  have hends (v u : String) : [v, v].Sublist [v, u, v] :=
    ((List.Sublist.refl [v]).cons u).cons_cons v
  rw [active_eq, nodup_dropRepeats_iff]
  constructor
  · intro hdistinct v u hsub heq
    have hsettled := h v ((hends v u).trans hsub)
    have hequal := between_filter_eq hsub heq
    rw [← (partedAt_sort hsettled).filter_eq] at hequal
    exact hdistinct v u (hequal.trans List.filter_sublist)
  · intro hdistinct v u hsub
    have htwice : [v, v].Sublist versions.offered := by
      have hcount := ((hends v u).trans hsub).count_le v
      rw [(perm_sort _).count_eq] at hcount
      exact List.replicate_sublist_iff.2 (by simpa using hcount)
    have hparted := partedAt_sort (h v htwice)
    have hbefore : [u, v].Sublist [v, u, v] := (List.Sublist.refl _).cons v
    have hbehind : [v, u].Sublist [v, u, v] := ((List.nil_sublist [v]).cons_cons u).cons_cons v
    have heq : order u v = .eq := by
      cases ho : order u v with
      | lt => exact absurd ho (hparted.between.2 (hbehind.trans hsub))
      | eq => rfl
      | gt => exact absurd ho (hparted.between.1 (hbefore.trans hsub))
    have hequal := between_filter_eq hsub heq
    rw [hparted.filter_eq] at hequal
    exact hdistinct v u (hequal.trans List.filter_sublist) heq

/-! ## The main statements -/

/-- In front of the version at the end of the list no version stands that is above it, unless a
tangle holds the one at the end. -/
theorem order_getLast_ne_gt {versions : SupportedVersions} {v u : String}
    (hlast : (active versions).getLast? = some v) (h : Settled {u | u ∈ versions.offered} v)
    (hu : u ∈ active versions) : order u v ≠ .gt := by
  obtain ⟨front, hfront⟩ := List.getLast?_eq_some_iff.1 hlast
  rw [hfront] at hu
  rcases List.mem_append.1 hu with hmem | hmem
  · have hsub : [u, v].Sublist (active versions) := by
      rw [hfront]
      exact (List.singleton_sublist.2 hmem).append (.refl [v])
    exact (partedAt_sort h).between.1 (hsub.trans (dropRepeats_sublist _))
  · obtain rfl := List.mem_singleton.1 hmem
    simp [order_self]

/-- **Order.** Dotted numeric versions are compared by their numbers and other ones by their bytes,
and the order of two versions turns round with them. It is transitive on a set of versions exactly
when no text of the set stands between two numbers of it in the wrong order. Where it is, there is
exactly one list that a stable way of sorting may give, and the active versions ascend. In any case
no active version is above the last one, if that one is in no tangle with active versions. -/
theorem active_versions_ascend (versions : SupportedVersions) :
    (∀ a b, (IsNumeric a ∧ IsNumeric b → (order a b).Compares (rank a) (rank b)) ∧
      (¬(IsNumeric a ∧ IsNumeric b) → (order a b).Compares (Utf8.encode a) (Utf8.encode b)) ∧
      order b a = (order a b).swap) ∧
    (∀ texts : Set String,
      (∀ u ∈ texts, ∀ v ∈ texts, ∀ w ∈ texts,
        order u v ≠ .gt → order v w ≠ .gt → order u w ≠ .gt) ↔ Untangled texts) ∧
    (Untangled {v | v ∈ versions.offered} →
      (∀ sorted, StablySorted versions.offered sorted ↔ sorted = sort versions.offered) ∧
        (active versions).Pairwise fun u v => order u v ≠ .gt) ∧
    ∀ v, (active versions).getLast? = some v → Settled {u | u ∈ active versions} v →
      ∀ u ∈ active versions, order u v ≠ .gt := by
  refine ⟨?_, fun texts => order_trans_iff_untangled, ?_, ?_⟩
  · intro a b
    exact ⟨fun h => order_of_numeric h.1 h.2, order_of_bytes, (order_swap a b).symm⟩
  · intro huntangled
    have hsorted := stablySorted_sort huntangled
    refine ⟨fun sorted => ⟨fun h => h.eq hsorted, ?_⟩, ?_⟩
    · rintro rfl
      exact hsorted
    · exact hsorted.ascends.sublist (dropRepeats_sublist _)
  · intro v hlast hsettled u hu
    have hset : {u | u ∈ active versions} = {u | u ∈ versions.offered} :=
      Set.ext fun u => mem_offered.symm
    exact order_getLast_ne_gt hlast (hset ▸ hsettled) hu

def sampleVersions : SupportedVersions where
  versionInfo :=
    [⟨"40.0-beta", false⟩, ⟨"40", false⟩, ⟨"39.0", false⟩, ⟨"41", true⟩, ⟨"40.0", false⟩]

/-- They ascend, and none is above the last one. -/
theorem active_versions_ascend_with_beta :
    Untangled {v | v ∈ sampleVersions.offered} ∧
      Settled {u | u ∈ active sampleVersions} "40.0-beta" ∧
      active sampleVersions = ["39.0", "40", "40.0", "40.0-beta"] ∧
      (active sampleVersions).Pairwise (fun u v => order u v ≠ .gt) ∧
      ∀ u ∈ active sampleVersions, order u "40.0-beta" ≠ .gt := by
  have huntangled : Untangled {v | v ∈ sampleVersions.offered} := by decide +kernel
  have hsettled : Settled {u | u ∈ active sampleVersions} "40.0-beta" := by decide +kernel
  have hactive : active sampleVersions = ["39.0", "40", "40.0", "40.0-beta"] := by decide +kernel
  have hversions := (active_versions_ascend sampleVersions).2.2
  refine ⟨huntangled, hsettled, hactive, (hversions.1 huntangled).2, ?_⟩
  exact hversions.2 "40.0-beta" (by rw [hactive]; rfl) hsettled

/-- Here `40.0` is equal to `40`, which is below `40-alpha`, which is below `40.0`. The last version
of the list is exceeded by the first one. -/
theorem greatest_version_is_exceeded :
    (order "40.0" "40" ≠ .gt ∧ order "40" "40-alpha" ≠ .gt ∧ order "40.0" "40-alpha" = .gt) ∧
      active { versionInfo := [⟨"40.0", false⟩, ⟨"40-alpha", false⟩, ⟨"40", false⟩] } =
        ["40-alpha", "40.0", "40"] ∧
      order "40-alpha" "40" = .gt := by
  decide +kernel

/-- **Members.** Exactly the versions that are not deprecated are in the list of the active ones. If
no text that is listed twice is in a tangle, then each is there once exactly when none was listed
twice with another spelling of the same version in between. -/
theorem active_versions_are_distinct (versions : SupportedVersions) :
    (∀ v, v ∈ active versions ↔
      ∃ info ∈ versions.versionInfo, info.deprecated = false ∧ info.version = v) ∧
    ((∀ v, [v, v].Sublist versions.offered → Settled {u | u ∈ versions.offered} v) →
      ((active versions).Nodup ↔
        ∀ v u, [v, u, v].Sublist versions.offered →
          IsNumeric v → IsNumeric u → rank u = rank v → u = v)) := by
  refine ⟨fun v => mem_active, fun hsettled => (nodup_active_iff hsettled).trans ?_⟩
  constructor
  · intro h v u hsub hv hu hrank
    exact h v u hsub (order_eq_eq_iff.2 (.inr ⟨hu, hv, hrank⟩))
  · intro h v u hsub heq
    rcases order_eq_eq_iff.1 heq with rfl | ⟨hu, hv, hrank⟩
    · rfl
    · exact h v u hsub hv hu hrank

def repeatedVersions : SupportedVersions where
  versionInfo := [⟨"40.0", false⟩, ⟨"39.1", false⟩, ⟨"40.0", false⟩, ⟨"39.1", false⟩, ⟨"40", false⟩]

/-- No other spelling stands in between, and so each is left once. -/
theorem active_versions_are_distinct_of_repeated :
    (∀ v, [v, v].Sublist repeatedVersions.offered →
        Settled {u | u ∈ repeatedVersions.offered} v) ∧
      active repeatedVersions = ["39.1", "40.0", "40"] ∧
      ∀ v u, [v, u, v].Sublist repeatedVersions.offered →
        IsNumeric v → IsNumeric u → rank u = rank v → u = v := by
  have huntangled : Untangled {v | v ∈ repeatedVersions.offered} := by decide +kernel
  have hsettled : ∀ v, [v, v].Sublist repeatedVersions.offered →
      Settled {u | u ∈ repeatedVersions.offered} v := by
    intro v hsub
    exact huntangled.settled (hsub.subset List.mem_cons_self)
  have hactive : active repeatedVersions = ["39.1", "40.0", "40"] := by decide +kernel
  refine ⟨hsettled, hactive, ?_⟩
  exact ((active_versions_are_distinct repeatedVersions).2 hsettled).1 (by rw [hactive]; decide)

/-- The two spellings are equal, so `40` is not put beside its other place. -/
theorem version_is_listed_twice :
    active { versionInfo := [⟨"40", false⟩, ⟨"40.0", false⟩, ⟨"40", false⟩] } =
        ["40", "40.0", "40"] ∧
      ¬(active { versionInfo := [⟨"40", false⟩, ⟨"40.0", false⟩, ⟨"40", false⟩] }).Nodup := by
  decide +kernel

end Version

end CloudTenancy
