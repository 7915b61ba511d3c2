import CloudTenancy.Proofs.Scrubbing
import Mathlib.Data.List.Forall2

/-!
CloudTenancy.Proofs.SensitiveLines — redaction hides the sensitive lines and nothing else.

* `Text.dropReturn` — what stands in front of a line feed, without a carriage return at its end.
* `Redaction.Mentions` — a line with a secret word in it, in any ASCII case.
* `Redaction.Shows` — what is shown of a line.
* `Redaction.Alike` — texts that differ only within lines that mention a secret.

Lines are redacted each for itself, so texts that are alike are redacted alike. A refused login puts
its status in front of the first line before it is redacted. That makes no line sensitive and ends
none: a status is shown as digits and words that are no secrets (`Alike.prepend`).

Main statement: `redaction_hides_the_sensitive_lines`.
-/

namespace CloudTenancy

namespace Text

/-! ## Lines -/

/-- What stands in front of a line feed, without the carriage return that it may end with. -/
def dropReturn (piece : List Char) : List Char :=
  if piece.getLast? = some '\r' then piece.dropLast else piece

variable {c : Char} {cs front piece line : List Char} {rest : List (List Char)}

theorem dropReturn_cons (h : c = '\r' → piece ≠ []) :
    dropReturn (c :: piece) = c :: dropReturn piece := by
  cases piece with
  | nil =>
    have hreturn : c ≠ '\r' := fun hc => h hc rfl
    simp [dropReturn, hreturn]
  | cons d piece =>
    rw [dropReturn, dropReturn, List.getLast?_cons_cons, List.dropLast_cons_cons]
    split <;> rfl

/-- A character that ends no line stands at the front of the first one. -/
theorem lines_cons (hfeed : c ≠ '\n') (hreturn : c = '\r' → cs.head? ≠ some '\n')
    (h : lines cs = line :: rest) : lines (c :: cs) = (c :: line) :: rest := by
  have hends : ∀ more, c = '\r' → cs = '\n' :: more → False := by
    rintro more hc rfl
    exact hreturn hc rfl
  rw [lines.eq_4 c cs hends hfeed, h]

/-- A text without line feeds is its only line, unless it is empty. -/
theorem lines_of_not_mem (h : '\n' ∉ cs) : lines cs = if cs = [] then [] else [cs] := by
  induction cs with
  | nil => rfl
  | cons c cs ih =>
    have hfeed : c ≠ '\n' := (List.ne_of_not_mem_cons h).symm
    have hrest : '\n' ∉ cs := List.not_mem_of_not_mem_cons h
    cases cs with
    | nil => exact lines.eq_4 c [] (fun _ _ hnil => nomatch hnil) hfeed
    | cons d ds =>
      refine lines_cons hfeed (fun _ => ?_) (ih hrest)
      simpa using (List.ne_of_not_mem_cons hrest).symm

/-- The first line feed ends the first line, together with a carriage return in front of it. -/
theorem lines_append_feed (h : '\n' ∉ piece) (more : List Char) :
    lines (piece ++ '\n' :: more) = dropReturn piece :: lines more := by
  induction piece with
  | nil => rfl
  | cons c piece ih =>
    have hfeed : c ≠ '\n' := (List.ne_of_not_mem_cons h).symm
    have hrest : '\n' ∉ piece := List.not_mem_of_not_mem_cons h
    -- A carriage return is left out only if the line feed follows at once.
    by_cases hends : c = '\r' ∧ piece = []
    · obtain ⟨rfl, rfl⟩ := hends
      rfl
    · have hkept : c = '\r' → piece ≠ [] := fun hc hnil => hends ⟨hc, hnil⟩
      rw [dropReturn_cons hkept]
      refine lines_cons hfeed (fun hc => ?_) (ih hrest)
      obtain ⟨d, ds, rfl⟩ := List.exists_cons_of_ne_nil (hkept hc)
      simpa using (List.ne_of_not_mem_cons hrest).symm

/-- What holds no end of a line only makes the first line longer. -/
theorem lines_append (hfront : ∀ c ∈ front, c ≠ '\n' ∧ c ≠ '\r') (h : lines cs = line :: rest) :
    lines (front ++ cs) = (front ++ line) :: rest := by
  induction front with
  | nil => exact h
  | cons c front ih =>
    obtain ⟨⟨hfeed, hreturn⟩, hothers⟩ := List.forall_mem_cons.1 hfront
    exact lines_cons hfeed (fun hc => absurd hc hreturn) (ih hothers)

theorem lines_eq_nil_iff : lines cs = [] ↔ cs = [] := by
  constructor
  · intro h
    cases cs with
    | nil => rfl
    | cons c cs => exact absurd h (lines_cons_ne_nil c cs)
  · rintro rfl
    rfl

end Text

namespace Redaction

/-! ## Secret words -/

/-- The line holds one of the secret words, in any ASCII case. -/
def Mentions (line : List Char) : Prop :=
  ∃ before found after, line = before ++ found ++ after ∧
    (found.map Char.toLower = "password".toList ∨ found.map Char.toLower = "token".toList)

/-- The test for a secret word says what it should. -/
theorem isSensitive_iff {line : List Char} : isSensitive line = true ↔ Mentions line := by
  have hsecret (word : List Char) :
      word ∈ secretWords ↔ word = "password".toList ∨ word = "token".toList := by
    simp [secretWords]
  rw [isSensitive, List.any_eq_true]
  constructor
  · rintro ⟨word, hmem, hin⟩
    obtain ⟨front, after, hcut⟩ := Text.hasInfix_iff.1 hin
    obtain ⟨_, after, rfl, hfront, rfl⟩ := List.map_eq_append_iff.1 hcut
    obtain ⟨before, found, rfl, rfl, hfound⟩ := List.map_eq_append_iff.1 hfront
    exact ⟨before, found, after, rfl, by rwa [hfound, ← hsecret]⟩
  · rintro ⟨before, found, after, rfl, hfound⟩
    refine ⟨found.map Char.toLower, (hsecret _).2 hfound, Text.hasInfix_iff.2 ?_⟩
    exact ⟨before.map Char.toLower, after.map Char.toLower, by simp⟩

instance (line : List Char) : Decidable (Mentions line) :=
  decidable_of_iff (isSensitive line = true) isSensitive_iff

/-- What is shown of a line: the notice if it mentions a secret, else the line itself. -/
def Shows (line shown : List Char) : Prop :=
  (Mentions line → shown = notice.toList) ∧ (¬ Mentions line → shown = line)

/-- Redaction shows a line or the notice, and never a part of a line. -/
theorem shows_redactLine (line : List Char) : Shows line (redactLine line) := by
  constructor
  · intro h
    rw [redactLine, if_pos (isSensitive_iff.2 h)]
  · intro h
    rw [redactLine, if_neg (mt isSensitive_iff.1 h)]

/-- No part of a redacted text between two line feeds mentions a secret. -/
theorem not_mentions_of_mem_splitOn_redact {text : String} {part : List Char}
    (h : part ∈ Text.splitOn '\n' (redact text).toList) : ¬ Mentions part := by
  have hclean := clean_iff.1 (clean_redact text)
  rw [← Text.intercalate_splitOn '\n' (redact text).toList, isSensitive_intercalate,
    List.any_eq_false] at hclean
  rw [← isSensitive_iff]
  exact hclean part h

/-! ## Texts that differ only in secrets -/

/-- Both lines mention a secret, or they are the same. -/
def SameLine (line other : List Char) : Prop :=
  (Mentions line ↔ Mentions other) ∧ (¬ Mentions line → line = other)

/-- As many lines, secrets in the same ones, and the others the same. -/
def Alike (text other : String) : Prop :=
  List.Forall₂ SameLine (Text.lines text.toList) (Text.lines other.toList)

theorem SameLine.refl (line : List Char) : SameLine line line := ⟨Iff.rfl, fun _ => rfl⟩

theorem Alike.refl (text : String) : Alike text text := List.forall₂_same.2 fun line _ => .refl line

theorem SameLine.redactLine_eq {line other : List Char} (h : SameLine line other) :
    redactLine line = redactLine other := by
  by_cases hline : Mentions line
  · rw [(shows_redactLine line).1 hline, (shows_redactLine other).1 (h.1.1 hline)]
  · rw [h.2 hline]

/-- Texts that differ only in sensitive lines are redacted alike. -/
theorem Alike.redact_eq {text other : String} (h : Alike text other) :
    redact text = redact other := by
  have hlines : List.Forall₂ Eq ((Text.lines text.toList).map redactLine)
      ((Text.lines other.toList).map redactLine) := by
    rw [List.forall₂_map_left_iff, List.forall₂_map_right_iff]
    exact h.imp fun _ _ hline => hline.redactLine_eq
  rw [List.forall₂_eq_eq_eq] at hlines
  rw [redact, redact, hlines]

/-- Only the empty text is like the empty text. -/
theorem Alike.eq_empty_iff {text other : String} (h : Alike text other) :
    text = "" ↔ other = "" := by
  have hempty (t : String) : t = "" ↔ (Text.lines t.toList).length = 0 := by
    rw [List.length_eq_zero_iff, Text.lines_eq_nil_iff, String.toList_eq_nil_iff]
  rw [hempty, hempty, h.length_eq]

/-- Words in front of both texts that end no line and mention no secret. No secret word holds the
last character of the words, so none begins in them either. -/
theorem Alike.prepend {front text other : String} (h : Alike text other)
    (hfront : ∀ c ∈ front.toList, c ≠ '\n' ∧ c ≠ '\r')
    (hclean : isSensitive front.toList = false)
    (hlast : front.toList.getLast?.any separates = true) :
    Alike (front ++ text) (front ++ other) := by
  have hmentions (line : List Char) : Mentions (front.toList ++ line) ↔ Mentions line := by
    rw [← isSensitive_iff, ← isSensitive_iff, isSensitive_words_append hclean hlast]
  unfold Alike at h
  generalize hlines : Text.lines text.toList = lines at h
  generalize hothers : Text.lines other.toList = others at h
  -- Without a first line there is nothing that the words could be part of: both texts are empty.
  cases h with
  | nil =>
    have htext : text = "" := by simpa [Text.lines_eq_nil_iff] using hlines
    have hother : other = "" := by simpa [Text.lines_eq_nil_iff] using hothers
    rw [htext, hother]
    exact .refl _
  | @cons line first rest more hline hrest =>
    rw [Alike, String.toList_append, String.toList_append, Text.lines_append hfront hlines,
      Text.lines_append hfront hothers, List.forall₂_cons]
    refine ⟨⟨?_, ?_⟩, hrest⟩
    · rw [hmentions, hmentions]
      exact hline.1
    · rw [hmentions]
      intro hnone
      rw [hline.2 hnone]

end Redaction

open Redaction

/-! ## Failures -/

/-- A status stands on one line. -/
theorem Status.ends_no_line (status : Status) :
    ∀ c ∈ status.text.toList, c ≠ '\n' ∧ c ≠ '\r' := by
  have hreason : (status.reason?.getD "<unknown status code>").toList.all
      (fun c => c != '\n' && c != '\r') = true := by
    unfold Status.reason?
    split <;> decide +kernel
  intro c hmem
  rw [text, String.toList_append, String.toList_append, List.mem_append, List.mem_append] at hmem
  rcases hmem with (hmem | hmem) | hmem
  · have hdigit : c.isDigit = true := by
      have hmem : c ∈ Nat.toDigits 10 status.code := by simpa using hmem
      exact Nat.isDigit_of_mem_toDigits (by decide) (by decide) hmem
    constructor
    · rintro rfl
      cases hdigit
    · rintro rfl
      cases hdigit
  · obtain rfl : c = ' ' := by simpa using hmem
    decide
  · simpa using List.all_eq_true.1 hreason c hmem

namespace ClientError

/-- The message of a refused login differs only in the sensitive lines of what it quotes. -/
theorem alike_loginMessage {text other : String} (status : Status) (h : Alike text other) :
    Alike (loginMessage status text) (loginMessage status other) := by
  by_cases hempty : text = ""
  · rw [hempty, h.eq_empty_iff.1 hempty]
    exact .refl _
  · have hother : other ≠ "" := mt h.eq_empty_iff.2 hempty
    rw [loginMessage, loginMessage, if_neg (by simpa using hempty), if_neg (by simpa using hother)]
    refine h.prepend ?_ ?_ ?_
    · rw [String.toList_append]
      intro c hmem
      rcases List.mem_append.1 hmem with hmem | hmem
      · exact status.ends_no_line c hmem
      · obtain rfl | rfl : c = ':' ∨ c = ' ' := by simpa using hmem
        · decide
        · decide
    · have hcolon := isSensitive_append_cons (c := ':') (by decide) status.text.toList [' ']
      rw [status.isSensitive_text] at hcolon
      exact (congrArg isSensitive String.toList_append).trans (hcolon.trans (by decide))
    · rw [String.toList_append, List.getLast?_append]
      rfl

/-- What is shown of a failure reply depends on nothing in the sensitive lines of its message. -/
theorem redacted_api_eq {text other : String} (h : Alike text other) (status : Status)
    (minorCode : String) :
    (api status minorCode text).redacted = (api status minorCode other).redacted :=
  congrArg (apiText status minorCode) h.redact_eq

/-- Refused logins are shown alike. -/
theorem redacted_login_eq {text other : String} (h : Alike text other) (status : Status) :
    (login (loginMessage status text)).redacted = (login (loginMessage status other)).redacted :=
  congrArg loginText (alike_loginMessage status h).redact_eq

variable {reply other : Reply}

/-- So are failures. -/
theorem redacted_ofReply_eq (hstatus : reply.status = other.status)
    (hcode : (errorBody reply).minorErrorCode = (errorBody other).minorErrorCode)
    (h : Alike (errorBody reply).message (errorBody other).message) :
    (ofReply reply).redacted = (ofReply other).redacted := by
  have hempty : (errorBody reply).message.isEmpty = (errorBody other).message.isEmpty := by
    rw [Bool.eq_iff_iff, String.isEmpty_iff, String.isEmpty_iff]
    exact h.eq_empty_iff
  rw [ofReply, ofReply, hempty, hstatus, hcode]
  split
  · rfl
  · exact redacted_api_eq h _ _

/-- So are refused logins with the body of a reply. -/
theorem redacted_ofLoginReply_eq (hstatus : reply.status = other.status)
    (h : Alike (errorBody reply).message (errorBody other).message) :
    (ofLoginReply reply).redacted = (ofLoginReply other).redacted := by
  rw [ofLoginReply, ofLoginReply, hstatus]
  exact redacted_login_eq h _

end ClientError

/-- **Redaction.** A redacted text is its lines joined by line feeds, with the notice in place of
each line that mentions a secret, and no part of it between two line feeds mentions one. What stands
in the lines that mention secrets is not shown: texts that differ only there are redacted alike, and
failure replies and refused logins with such texts are shown alike. -/
theorem redaction_hides_the_sensitive_lines :
    ((∀ cs, '\n' ∉ cs → Text.lines cs = if cs = [] then [] else [cs]) ∧
      ∀ piece more, '\n' ∉ piece →
        Text.lines (piece ++ '\n' :: more) = Text.dropReturn piece :: Text.lines more) ∧
    (∀ text, (∃ shown, List.Forall₂ Shows (Text.lines text.toList) shown ∧
        redact text = String.ofList (['\n'].intercalate shown)) ∧
      ∀ part ∈ Text.splitOn '\n' (redact text).toList, ¬ Mentions part) ∧
    (∀ text other, Alike text other → redact text = redact other ∧
      (∀ status minorCode, (ClientError.api status minorCode text).redacted =
        (ClientError.api status minorCode other).redacted) ∧
      ∀ status, (ClientError.login (ClientError.loginMessage status text)).redacted =
        (ClientError.login (ClientError.loginMessage status other)).redacted) ∧
    ∀ reply other : Reply, reply.status = other.status →
      Alike (ClientError.errorBody reply).message (ClientError.errorBody other).message →
      ((ClientError.errorBody reply).minorErrorCode =
          (ClientError.errorBody other).minorErrorCode →
        (ClientError.ofReply reply).redacted = (ClientError.ofReply other).redacted) ∧
      (ClientError.ofLoginReply reply).redacted = (ClientError.ofLoginReply other).redacted := by
  refine ⟨⟨fun cs hcs => Text.lines_of_not_mem hcs, ?_⟩, fun text => ⟨?_, ?_⟩, ?_, ?_⟩
  · intro piece more hpiece
    exact Text.lines_append_feed hpiece more
  · refine ⟨(Text.lines text.toList).map redactLine, ?_, rfl⟩
    rw [List.forall₂_map_right_iff, List.forall₂_same]
    exact fun line _ => shows_redactLine line
  · exact fun part hmem => not_mentions_of_mem_splitOn_redact hmem
  · intro text other h
    exact ⟨h.redact_eq, ClientError.redacted_api_eq h, ClientError.redacted_login_eq h⟩
  · intro reply other hstatus h
    exact ⟨fun hcode => ClientError.redacted_ofReply_eq hstatus hcode h,
      ClientError.redacted_ofLoginReply_eq hstatus h⟩

namespace Redaction

/-! ## Samples -/

/-- Three lines, two with secrets. The last carriage return ends none. -/
def told : String := "refused\r\nPassword: x\ntoken\r"

/-- The same but for the secrets and the ends of the lines. -/
def retold : String := "refused\nmy PASSWORD\r\nTOKEN t"

theorem alike_told : Alike told retold := by
  show List.Forall₂ SameLine
    ["refused".toList, "Password: x".toList, "token\r".toList]
    ["refused".toList, "my PASSWORD".toList, "TOKEN t".toList]
  refine .cons (.refl _) (.cons ?_ (.cons ?_ .nil))
  · exact ⟨by decide, by decide⟩
  · exact ⟨by decide, by decide⟩

def refusal (message : String) : Reply where
  status := ⟨401⟩
  body := (Json.object [("minorErrorCode", .string "DENIED"), ("message", .string message)]).write

theorem errorBody_refusal :
    ClientError.errorBody (refusal told) = ⟨"DENIED", told⟩ ∧
      ClientError.errorBody (refusal retold) = ⟨"DENIED", retold⟩ := by
  decide +kernel

/-- The refusals are shown alike, as one line and two notices. -/
theorem redaction_hides_the_sensitive_lines_of_refusals :
    redact told = "refused\n" ++ notice ++ "\n" ++ notice ∧ redact told = redact retold ∧
      Text.lines ("a\r".toList ++ '\n' :: "b".toList) = ["a".toList, "b".toList] ∧
      (ClientError.ofReply (refusal told)).redacted =
        (ClientError.ofReply (refusal retold)).redacted ∧
      (ClientError.ofLoginReply (refusal told)).redacted =
        (ClientError.ofLoginReply (refusal retold)).redacted := by
  obtain ⟨⟨hlast, hfeed⟩, -, hredact, hreply⟩ := redaction_hides_the_sensitive_lines
  obtain ⟨hbody, hother⟩ := errorBody_refusal
  obtain ⟨hfailure, hlogin⟩ := hreply (refusal told) (refusal retold) rfl
    (by rw [hbody, hother]; exact alike_told)
  refine ⟨by decide +kernel, (hredact told retold alike_told).1, ?_,
    hfailure (by rw [hbody, hother]), hlogin⟩
  rw [hfeed _ _ (by decide), hlast _ (by decide)]
  decide

end Redaction

end CloudTenancy
