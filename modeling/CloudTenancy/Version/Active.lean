import CloudTenancy.Api.Entity
import CloudTenancy.Version.Order

/-!
CloudTenancy.Version.Active — the versions that are still supported, oldest first.

* `Version.order` — the order of the list: that of the numbers, or else that of the texts.
* `Version.sort` — a list in that order. Equal versions keep their order.
* `Version.dropRepeats` — a list without repetitions of neighbours.
* `Version.active` — the versions that are not deprecated.

The order mixes two others and is not transitive on texts that mix both kinds, so the way of sorting
counts: from left to right, each version moves left past the greater ones next to it.

Main statement: exactly the versions that are not deprecated are in the list.
-/

namespace CloudTenancy.Version

/-- The order of two versions, by their numbers if both are dotted numeric. -/
def order (a b : String) : Ordering := (compare? a b).getD (compare a b)

/-- A version put behind the versions not greater than it; the greatest comes first. -/
def place (v : String) : List String → List String
  | [] => [v]
  | w :: ws => if order v w = .lt then w :: place v ws else v :: w :: ws

/-- Versions in ascending order, sorted by insertion. Where the order is total, every stable sort
comes to this list. Where it is not, this is what a general sort comes to with up to twenty
versions, which it inserts one by one; with more it may come to another list, or stop when it finds
out. -/
def sort (versions : List String) : List String :=
  (versions.foldl (fun sorted v => place v sorted) []).reverse

/-- A list with each run of one text reduced to a single one. -/
def dropRepeats : List String → List String
  | [] => []
  | v :: vs => if vs.head? = some v then dropRepeats vs else v :: dropRepeats vs

def active (versions : SupportedVersions) : List String :=
  dropRepeats (sort ((versions.versionInfo.filter (!·.deprecated)).map (·.version)))

/-! ## Members -/

theorem mem_place {v w : String} {ws : List String} : w ∈ place v ws ↔ w = v ∨ w ∈ ws := by
  induction ws with
  | nil => simp [place]
  | cons x xs ih =>
    rw [place]
    split
    · simp only [List.mem_cons, ih]
      constructor
      · rintro (h | h | h) <;> simp [h]
      · rintro (h | h | h) <;> simp [h]
    · simp

theorem mem_sort {w : String} {versions : List String} : w ∈ sort versions ↔ w ∈ versions := by
  have h : ∀ sorted : List String, w ∈ versions.foldl (fun sorted v => place v sorted) sorted ↔
      w ∈ versions ∨ w ∈ sorted := by
    induction versions with
    | nil => simp
    | cons v vs ih =>
      intro sorted
      simp only [List.foldl_cons, ih, mem_place, List.mem_cons]
      constructor
      · rintro (h | h | h) <;> simp [h]
      · rintro ((h | h) | h) <;> simp [h]
  simp [sort, h]

theorem mem_dropRepeats {w : String} {versions : List String} :
    w ∈ dropRepeats versions ↔ w ∈ versions := by
  induction versions with
  | nil => simp [dropRepeats]
  | cons v vs ih =>
    rw [dropRepeats]
    split
    · rename_i h
      rw [ih]
      constructor
      · exact fun h => List.mem_cons_of_mem _ h
      · intro hw
        rcases List.mem_cons.1 hw with rfl | hw
        · exact List.mem_of_mem_head? h
        · exact hw
    · simp [ih]

/-- A version is in the list if and only if one that is not deprecated has its text. -/
theorem mem_active {w : String} {versions : SupportedVersions} :
    w ∈ active versions ↔
      ∃ info ∈ versions.versionInfo, info.deprecated = false ∧ info.version = w := by
  simp [active, mem_dropRepeats, mem_sort, and_assoc]

end CloudTenancy.Version
