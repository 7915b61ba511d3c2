/-!
CloudTenancy.Text.Blank — white space and trimming.

* `isBlank` — the white space of Unicode (the property `White_Space`), 25 characters.
* `trim`, `trimStart`, `trimEnd` — removal of blanks at the ends of a text.

Main statements: every character core calls white space is blank, and trimming leaves a text as it
is exactly if that neither starts nor ends with a blank.
-/

namespace CloudTenancy.Text

/-! ## The class -/

/-- The characters with the Unicode property `White_Space`. -/
def isBlank (c : Char) : Bool :=
  let n := c.toNat
  (9 ≤ n && n ≤ 13) || n == 0x20 || n == 0x85 || n == 0xA0 || n == 0x1680 ||
    (0x2000 ≤ n && n ≤ 0x200A) || n == 0x2028 || n == 0x2029 || n == 0x202F ||
    n == 0x205F || n == 0x3000

/-- Core's white space is blank. -/
theorem isBlank_of_isWhitespace {c : Char} (h : c.isWhitespace = true) : isBlank c = true := by
  simp only [Char.isWhitespace, Bool.or_eq_true, decide_eq_true_eq] at h
  rcases h with ((h | h) | h) | h <;> subst h <;> decide

/-! ## Trimming -/

def trimStartChars (cs : List Char) : List Char := cs.dropWhile isBlank

def trimEndChars (cs : List Char) : List Char := (cs.reverse.dropWhile isBlank).reverse

def trimChars (cs : List Char) : List Char := trimEndChars (trimStartChars cs)

def trim (s : String) : String := String.ofList (trimChars s.toList)

theorem trimStartChars_of_not_blank {c : Char} {cs : List Char} (h : isBlank c = false) :
    trimStartChars (c :: cs) = c :: cs := by
  simp [trimStartChars, h]

/-- A text that neither starts nor ends with a blank is left as it is, and no other one. -/
theorem trimChars_eq_self_iff {cs : List Char} :
    trimChars cs = cs ↔
      (∀ c ∈ cs.head?, isBlank c = false) ∧ ∀ c ∈ cs.getLast?, isBlank c = false := by
  have hstart : ∀ ds : List Char,
      ds.dropWhile isBlank = ds ↔ ∀ c ∈ ds.head?, isBlank c = false := by
    intro ds
    cases ds with
    | nil => simp
    | cons d ds =>
      cases hd : isBlank d with
      | false => simp [hd]
      | true =>
        have hshorter : (ds.dropWhile isBlank).length ≠ (d :: ds).length := by
          have := (List.dropWhile_suffix isBlank (l := ds)).length_le
          rw [List.length_cons]
          omega
        have hne : ds.dropWhile isBlank ≠ d :: ds := fun h => hshorter (congrArg List.length h)
        simp [hd, hne]
  have hend : trimEndChars cs = cs ↔ ∀ c ∈ cs.getLast?, isBlank c = false := by
    rw [trimEndChars, List.reverse_eq_iff, hstart, List.head?_reverse]
  constructor
  · intro h
    have hlength : (trimStartChars cs).length = cs.length := by
      have hle := (List.dropWhile_suffix isBlank (l := cs)).length_le
      have hle' := (List.dropWhile_suffix isBlank (l := (trimStartChars cs).reverse)).length_le
      have heq := congrArg List.length h
      simp only [trimChars, trimEndChars, List.length_reverse] at heq hle'
      exact Nat.le_antisymm hle (heq ▸ hle')
    have hfront : trimStartChars cs = cs := (List.dropWhile_suffix isBlank).eq_of_length hlength
    rw [trimChars, hfront] at h
    exact ⟨(hstart cs).1 hfront, hend.1 h⟩
  · rintro ⟨hfirst, hlast⟩
    rw [trimChars, show trimStartChars cs = cs from (hstart cs).2 hfirst]
    exact hend.2 hlast

theorem trimChars_of_not_blank {cs : List Char} (h : ∀ c ∈ cs, isBlank c = false) :
    trimChars cs = cs :=
  trimChars_eq_self_iff.2
    ⟨fun c hfirst => h c (List.mem_of_head? hfirst),
      fun c hlast => h c (List.mem_of_getLast? hlast)⟩

theorem isBlank_of_isDigit {c : Char} (h : c.isDigit = true) : isBlank c = false := by
  simp only [Char.isDigit, Bool.and_eq_true, decide_eq_true_eq, UInt32.le_iff_toNat_le] at h
  simp only [isBlank, Char.toNat]
  grind

/-! ## Ends -/

variable {p : Char → Bool} {cs : List Char}

/-- Nothing is dropped at the end of a text that ends in something else. -/
theorem dropEnd_eq_self (h : ∀ c ∈ cs.getLast?, p c = false) :
    (cs.reverse.dropWhile p).reverse = cs := by
  rw [List.reverse_eq_iff]
  cases hreverse : cs.reverse with
  | nil => rfl
  | cons c front =>
    have hc : p c = false := h c (by rw [← List.head?_reverse, hreverse]; rfl)
    rw [List.dropWhile_cons, hc]
    rfl

/-- What is dropped at the end of a text stands behind what is left. -/
theorem exists_append_of_dropEnd (p : Char → Bool) (cs : List Char) :
    ∃ dropped, cs = (cs.reverse.dropWhile p).reverse ++ dropped ∧ ∀ c ∈ dropped, p c = true := by
  refine ⟨(cs.reverse.takeWhile p).reverse, ?_, ?_⟩
  · rw [← List.reverse_append, List.takeWhile_append_dropWhile, List.reverse_reverse]
  · exact fun c hmem => List.all_eq_true.1 List.all_takeWhile c (List.mem_reverse.1 hmem)

end CloudTenancy.Text
