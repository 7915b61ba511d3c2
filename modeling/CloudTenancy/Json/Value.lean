import CloudTenancy.Decimal.Shortest

/-!
CloudTenancy.Json.Value — JSON values.

* `Number` — naturals and negative integers of 64 bits, and doubles by their bits.
* `Json` — values; the members of an object keep the order in which they were put.
* `Json.put` — a member added to an object, in place of one with the same key.
* `Json.ofMembers` — an object from members of which some are left out.

Main statement: after `put`, the key has the new value and all other keys have their old one.
-/

namespace CloudTenancy

/-- A JSON number as read: an integer that fits 64 bits, or else a double. -/
inductive Number
  | natural (n : Nat)
  /-- The integer `-n`. -/
  | negative (n : Nat)
  /-- The finite double with these bits. -/
  | double (bits : UInt64)
  deriving DecidableEq, Repr

inductive Json
  | null
  | bool (b : Bool)
  | number (n : Number)
  | string (s : String)
  | array (items : List Json)
  | object (members : List (String × Json))
  deriving Repr

namespace Number

/-- Doubles are written positionally from `1e-5` to below `1e16`. -/
def style : NumberStyle := ⟨-5, 15⟩

def render : Number → String
  | natural n => toString n
  | negative n => "-" ++ toString n
  | double bits => (Binary64.ofBits bits).render style

end Number

namespace Json

/-- The value under a key, the last one if there are several. -/
def lookup (key : String) : List (String × Json) → Option Json
  | [] => none
  | (k, v) :: rest => (lookup key rest).or (if k = key then some v else none)

/-- The members with the value under `key` replaced, or added at the end. -/
def put (key : String) (value : Json) : List (String × Json) → List (String × Json)
  | [] => [(key, value)]
  | (k, v) :: rest => if k = key then (k, value) :: rest else (k, v) :: put key value rest

def ofMembers (members : List (String × Option Json)) : Json :=
  object (members.filterMap fun (key, value?) => value?.map fun value => (key, value))

/-- Keys other than the one put keep their value. -/
theorem lookup_put_of_ne {key other : String} (value : Json) (members : List (String × Json))
    (h : other ≠ key) : lookup other (put key value members) = lookup other members := by
  induction members with
  | nil => simp [put, lookup, Ne.symm h]
  | cons m rest ih =>
    obtain ⟨k, v⟩ := m
    by_cases hk : k = key
    · subst hk
      simp [put, lookup, Ne.symm h]
    · simp [put, hk, lookup, ih]

end Json

end CloudTenancy
