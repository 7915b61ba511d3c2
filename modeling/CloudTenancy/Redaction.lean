import CloudTenancy.Text.Split

/-!
CloudTenancy.Redaction — server texts made safe to show.

* `Redaction.isSensitive` — a line that speaks of a password or a token, in any ASCII case.
* `Redaction.redact` — the text with each such line replaced by a fixed notice.
* `Redaction.Clean` — a text without such lines.
* `Redaction.separates` — a character of none of the secret words. A text is cut at it into parts
  that are sensitive or not each for itself.

Main statement: no line of a redacted text speaks of a password or a token.
-/

namespace CloudTenancy.Redaction

/-- What stands in place of a sensitive line. -/
def notice : String := "Authentication failed (credentials redacted)"

def secretWords : List (List Char) := ["password".toList, "token".toList]

/-- The line holds one of the secret words. Only ASCII letters are compared without case. -/
def isSensitive (line : List Char) : Bool :=
  secretWords.any fun word => Text.hasInfix word (line.map Char.toLower)

def redactLine (line : List Char) : List Char :=
  if isSensitive line then notice.toList else line

/-- The lines of a text, sensitive ones replaced, joined by line feeds. -/
def redact (text : String) : String :=
  String.ofList (['\n'].intercalate ((Text.lines text.toList).map redactLine))

theorem isSensitive_notice : isSensitive notice.toList = false := by decide

/-- A redacted line is never sensitive. -/
theorem isSensitive_redactLine (line : List Char) : isSensitive (redactLine line) = false := by
  unfold redactLine
  cases h : isSensitive line with
  | true => simpa using isSensitive_notice
  | false => simpa using h

/-! ## Parts of a text -/

/-- No secret word holds the character. -/
def separates (c : Char) : Bool := secretWords.all fun word => !word.contains c.toLower

/-- A secret word does not reach over a character that none of them holds. -/
theorem isSensitive_append_cons {c : Char} (h : separates c = true) (before after : List Char) :
    isSensitive (before ++ c :: after) = (isSensitive before || isSensitive after) := by
  have hsplit : ∀ word ∈ secretWords, Text.hasInfix word ((before ++ c :: after).map Char.toLower) =
      (Text.hasInfix word (before.map Char.toLower) ||
        Text.hasInfix word (after.map Char.toLower)) := by
    intro word hmem
    have hnot : c.toLower ∉ word := by simpa using List.all_eq_true.1 h word hmem
    rw [List.map_append, List.map_cons, Text.hasInfix_append_cons hnot]
    rintro rfl
    exact absurd hmem (by decide)
  rw [Bool.eq_iff_iff]
  simp only [isSensitive, List.any_eq_true, Bool.or_eq_true]
  constructor
  · rintro ⟨word, hmem, hin⟩
    rw [hsplit word hmem, Bool.or_eq_true] at hin
    exact hin.imp (⟨word, hmem, ·⟩) (⟨word, hmem, ·⟩)
  · rintro (⟨word, hmem, hin⟩ | ⟨word, hmem, hin⟩)
    · exact ⟨word, hmem, by rw [hsplit word hmem, hin, Bool.true_or]⟩
    · exact ⟨word, hmem, by rw [hsplit word hmem, hin, Bool.or_true]⟩

/-- What holds no letter of a secret word speaks of none. -/
theorem isSensitive_of_separates {text : List Char} (h : ∀ c ∈ text, separates c = true) :
    isSensitive text = false := by
  induction text with
  | nil => decide
  | cons c text ih =>
    have hsplit := isSensitive_append_cons (h c List.mem_cons_self) [] text
    rw [List.nil_append, ih fun d hmem => h d (List.mem_cons_of_mem c hmem)] at hsplit
    rw [hsplit]
    decide

/-- Clean words that end at such a character make no text sensitive that they stand in front of. -/
theorem isSensitive_words_append {words : List Char} (hclean : isSensitive words = false)
    (hlast : words.getLast?.any separates = true) (after : List Char) :
    isSensitive (words ++ after) = isSensitive after := by
  cases hwords : words.getLast? with
  | none =>
    rw [hwords] at hlast
    cases hlast
  | some last =>
    rw [hwords] at hlast
    obtain ⟨front, rfl⟩ := List.getLast?_eq_some_iff.1 hwords
    have hfront := isSensitive_append_cons hlast front []
    rw [hclean, eq_comm, Bool.or_eq_false_iff] at hfront
    have hcut := isSensitive_append_cons hlast front after
    rw [List.append_assoc]
    exact hcut.trans (by rw [hfront.1, Bool.false_or])

/-- Clean words that start and end at such characters keep the texts on both sides apart. -/
theorem isSensitive_append_words {words : List Char} (hclean : isSensitive words = false)
    (hfirst : words.head?.any separates = true) (hlast : words.getLast?.any separates = true)
    (before after : List Char) :
    isSensitive (before ++ (words ++ after)) = (isSensitive before || isSensitive after) := by
  have hafter := isSensitive_words_append hclean hlast after
  cases words with
  | nil => cases hfirst
  | cons first words =>
    have hseparates : separates first = true := hfirst
    have hcut := isSensitive_append_cons hseparates [] (words ++ after)
    rw [List.nil_append, ← List.cons_append, hafter] at hcut
    rw [List.cons_append, isSensitive_append_cons hseparates, hcut]
    rfl

theorem separates_of_isDigit {c : Char} (h : c.isDigit = true) : separates c = true := by
  have hall : ∀ n < 58, 48 ≤ n → separates (Char.ofNat n) = true := by decide
  simp only [Char.isDigit, Bool.and_eq_true, decide_eq_true_eq] at h
  have hle : c.toNat ≤ 57 := h.2
  rw [← Char.ofNat_toNat c]
  exact hall c.toNat (Nat.lt_succ_of_le hle) h.1

theorem isSensitive_toString (n : Nat) : isSensitive (toString n).toList = false := by
  refine isSensitive_of_separates fun c hmem => separates_of_isDigit ?_
  have hdigit : c ∈ Nat.toDigits 10 n := by simpa using hmem
  exact Nat.isDigit_of_mem_toDigits (by decide) (by decide) hdigit

/-! ## Lines -/

/-- No line of the text speaks of a password or a token. -/
def Clean (text : String) : Prop := ∀ line ∈ Text.lines text.toList, isSensitive line = false

/-- A text is sensitive if one of its lines is. -/
theorem isSensitive_eq_any_lines (text : List Char) :
    isSensitive text = (Text.lines text).any isSensitive := by
  generalize hlines : Text.lines text = lines
  induction lines generalizing text with
  | nil =>
    cases text with
    | nil => decide
    | cons c text => exact absurd hlines (Text.lines_cons_ne_nil c text)
  | cons line rest ih =>
    rcases Text.eq_append_of_lines_cons hlines with ⟨rfl, rfl⟩ | ⟨ending, more, hending, rfl, hmore⟩
    · simp
    · rw [List.any_cons, ← ih more hmore, List.append_assoc]
      rcases hending with rfl | rfl
      · exact isSensitive_append_cons (by decide) line more
      · have hend := isSensitive_append_cons (c := '\n') (by decide) [] more
        exact (isSensitive_append_cons (by decide) line _).trans (congrArg _ hend)

theorem clean_iff {text : String} : Clean text ↔ isSensitive text.toList = false := by
  rw [isSensitive_eq_any_lines, List.any_eq_false]
  simp only [Clean, Bool.not_eq_true]

theorem isSensitive_intercalate (lines : List (List Char)) :
    isSensitive (['\n'].intercalate lines) = lines.any isSensitive := by
  induction lines with
  | nil => decide
  | cons line lines ih =>
    cases lines with
    | nil => simp
    | cons next lines =>
      have hjoin : ['\n'].intercalate (line :: next :: lines) =
          line ++ '\n' :: ['\n'].intercalate (next :: lines) := by
        simp [List.intercalate]
      rw [hjoin, isSensitive_append_cons (by decide), ih]
      rfl

/-- No line of a redacted text speaks of a password or a token. -/
theorem clean_redact (text : String) : Clean (redact text) := by
  rw [clean_iff, redact, String.toList_ofList, isSensitive_intercalate, List.any_eq_false]
  intro line hmem
  obtain ⟨first, -, rfl⟩ := List.mem_map.1 hmem
  rw [isSensitive_redactLine]
  exact Bool.false_ne_true

end CloudTenancy.Redaction
