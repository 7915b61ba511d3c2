import CloudTenancy.Text.Split

/-!
CloudTenancy.Text.Rows — tables of numbers written as text.

* `Rows.parse` — lines of rows separated by commas, of hexadecimal numbers separated by blanks.
* `Rows.inRanges` — membership in ranges given by rows of a first and a last number.

Main statement: what is checked line by line holds of all rows.
-/

namespace CloudTenancy.Text.Rows

def digit (c : Char) : Nat := if c.isDigit then c.toNat - 48 else c.toNat - 55

def number (cs : List Char) : Nat := cs.foldl (fun n c => 16 * n + digit c) 0

/-- Rows separated by commas, of numbers separated by blanks. -/
def parseLine (s : String) : List (List Nat) :=
  (splitOn ',' s.toList).map fun row => (splitOn ' ' row).map number

def parse (lines : List String) : List (List Nat) := lines.flatMap parseLine

def inRanges (rows : List (List Nat)) (n : Nat) : Bool :=
  rows.any fun row => row.headD 0 ≤ n && n ≤ row.getD 1 0

/-- What holds of the rows of a line and of the rows of all further lines holds of all rows. The
line is given by its characters, which are at hand for every literal. -/
theorem all_parse_cons {p : List Nat → Bool} {cs : List Char} {lines : List String}
    (h : ((splitOn ',' cs).all fun row => p ((splitOn ' ' row).map number)) = true)
    (hlines : ∀ row ∈ parse lines, p row = true) :
    ∀ row ∈ parse (String.ofList cs :: lines), p row = true := by
  intro row hmem
  rw [parse, List.flatMap_cons, List.mem_append, parseLine, String.toList_ofList] at hmem
  rcases hmem with hhere | hthere
  · obtain ⟨piece, hpiece, rfl⟩ := List.mem_map.1 hhere
    exact List.all_eq_true.1 h piece hpiece
  · exact hlines row hthere

end CloudTenancy.Text.Rows
