import CloudTenancy.Api.Decode
import CloudTenancy.Api.Encode
import CloudTenancy.FileSystem
import CloudTenancy.Proofs.ByteOrder
import CloudTenancy.Proofs.Escapes
import Mathlib.Data.List.Basic

/-!
CloudTenancy.Proofs.WrittenRecords — what has been written reads back.

* `Utf8.IsText` — bytes that encode a text.
* `Json.Decoder.Reads` — a decoder that reads a text as a value, whatever follows the text.
* `Json.Entry` — a member of an object as it is written, `Json.entries` all of them.
* `Json.Puts` — members that take a reader from one state to another one.
* `Json.Fields.Writes` — the fields of a record, written in order.
* `Form.read` — the bytes that a name or a value of a form stands for.

The reader of an object goes from member to member with the slots filled so far. `Puts` is what one
more member adds, and at the end the slots complete to the row that was written.

A name that is no directory has nothing behind it in a path, so that a path leads to the same name
before and after it is written.

Main statements: `reads_record`; that the file of a service account is text that reads back; and
`readText_of_write`.
-/

namespace CloudTenancy

/-! ## Text -/

namespace Utf8

open String (utf8EncodeChar)

def IsText (bs : Bytes) : Prop := ∃ s, encode s = bs

theorem IsText.append {first second : Bytes} (h₁ : IsText first) (h₂ : IsText second) :
    IsText (first ++ second) := by
  obtain ⟨s, rfl⟩ := h₁
  obtain ⟨t, rfl⟩ := h₂
  exact ⟨s ++ t, by simp [encode]⟩

theorem isText_char (c : Char) : IsText (utf8EncodeChar c) :=
  ⟨String.singleton c, by simp [encode_eq_flatMap]⟩

theorem isText_flatMap {α : Type} {f : α → Bytes} {items : List α}
    (h : ∀ a ∈ items, IsText (f a)) : IsText (items.flatMap f) := by
  induction items with
  | nil => exact ⟨"", rfl⟩
  | cons a items ih =>
    rw [List.flatMap_cons]
    exact (h a List.mem_cons_self).append (ih fun b hb => h b (List.mem_cons_of_mem a hb))

theorem isText_ascii {b : UInt8} (h : b < 128) : IsText [b] := by
  have hall : ∀ n : Fin 128, encode (String.singleton (Char.ofNat n.val)) = [n.val.toUInt8] := by
    decide +kernel
  have hb := hall ⟨b.toNat, by simpa [UInt8.lt_iff_toNat_lt] using h⟩
  exact ⟨_, by simpa using hb⟩

theorem isText_of_ascii {bs : Bytes} (h : ∀ b ∈ bs, b < 128) : IsText bs := by
  have hbytes := isText_flatMap fun b hb => isText_ascii (h b hb)
  rwa [List.flatMap_singleton'] at hbytes

/-- What stays above ASCII and turns ASCII into text turns text into text. -/
theorem isText_flatMap_encode {f : UInt8 → Bytes} (hplain : ∀ b, 128 ≤ b → f b = [b])
    (hascii : ∀ b, b < 128 → IsText (f b)) (s : String) : IsText ((encode s).flatMap f) := by
  rw [encode_eq_flatMap, List.flatMap_assoc]
  refine isText_flatMap fun c _ => ?_
  -- A character of ASCII is a single byte, which `f` may change; of all others it keeps every byte.
  by_cases hone : ∃ b, utf8EncodeChar c = [b]
  · obtain ⟨b, hb⟩ := hone
    rw [hb, List.flatMap_singleton]
    by_cases hlt : b < 128
    · exact hascii b hlt
    · have hc := isText_char c
      rwa [hplain b (by simpa using hlt), ← hb]
  · have habove := le_of_mem_utf8EncodeChar (fun b hb => hone ⟨b, hb⟩)
    have hsame : (utf8EncodeChar c).flatMap f = (utf8EncodeChar c).flatMap fun b => [b] :=
      List.flatMap_congr fun b hb => hplain b (habove b hb)
    rw [hsame, List.flatMap_singleton']
    exact isText_char c

end Utf8

namespace Json

variable {α β σ : Type}

/-! ## Strings -/

theorem isText_escape (s : String) : Utf8.IsText (escape (Utf8.encode s)) := by
  refine Utf8.isText_flatMap_encode ?_ ?_ s
  · intro b hb
    have hne : ∀ c : UInt8, c < 128 → b ≠ c := by
      rintro c hc rfl
      exact absurd hc (UInt8.not_lt.2 hb)
    have hcontrol : ¬ b < 32 := fun h =>
      absurd (UInt8.lt_of_lt_of_le h (by decide)) (UInt8.not_lt.2 hb)
    simp [escapeByte, hne, hcontrol]
  · intro b hb
    have hall : ∀ n : Fin 128, (escapeByte n.val.toUInt8).all (· < 128) = true := by decide +kernel
    have hescape := hall ⟨b.toNat, by simpa [UInt8.lt_iff_toNat_lt] using hb⟩
    simp only [Nat.toUInt8, UInt8.ofNat_toNat, List.all_eq_true, decide_eq_true_eq] at hescape
    exact Utf8.isText_of_ascii hescape

theorem isText_writeString (s : String) : Utf8.IsText (writeString s) :=
  (Utf8.IsText.append (Utf8.isText_ascii (by decide)) (isText_escape s)).append
    (Utf8.isText_ascii (by decide))

/-! ## Blanks -/

def Blank (gap : Bytes) : Prop := ∀ b ∈ gap, isBlankByte b = true

theorem skipBlanks_blank {gap : Bytes} (h : Blank gap) {b : UInt8} (hb : isBlankByte b = false)
    (rest : Bytes) : skipBlanks (gap ++ b :: rest) = b :: rest := by
  induction gap with
  | nil => simp [skipBlanks, hb]
  | cons c gap ih =>
    have hc := h c List.mem_cons_self
    have hrest := ih fun b hb => h b (List.mem_cons_of_mem c hb)
    simpa [skipBlanks, hc] using hrest

theorem blank_newLine (level : Nat) : Blank (newLine level) := by
  intro b hb
  rcases List.mem_cons.1 hb with rfl | hb
  · rfl
  · rw [List.eq_of_mem_replicate hb]
    rfl

/-- The decoder reads a text as a value, whatever follows. -/
def Decoder.Reads (decoder : Decoder α) (depth : Nat) (text : Bytes) (value : α) : Prop :=
  ∀ rest, decoder depth (text ++ rest) = .ok (value, rest)

theorem reads_string {gap : Bytes} (hgap : Blank gap) (depth : Nat) (s : String) :
    Decoder.string.Reads depth (gap ++ writeString s) s := by
  intro rest
  have hstart : skipBlanks (gap ++ writeString s ++ rest) =
      34 :: (escape (Utf8.encode s) ++ 34 :: rest) := by
    have hskip := skipBlanks_blank hgap (b := 34) rfl (escape (Utf8.encode s) ++ 34 :: rest)
    simpa [writeString] using hskip
  unfold Decoder.string
  rw [hstart]
  exact readString_write s rest

/-! ## Members -/

/-- A member as it is written: its name, and the text behind its colon. -/
abbrev Entry := String × Bytes

def Entry.text (entry : Entry) : Bytes := writeString entry.1 ++ 58 :: entry.2

theorem commaSeparated_cons (first : Bytes) (rest : List Bytes) :
    commaSeparated (first :: rest) = first ++ rest.flatMap (44 :: ·) := by
  induction rest generalizing first with
  | nil => simp [commaSeparated]
  | cons second rest ih => simp [commaSeparated, ih]

section

variable {gap close : Bytes}

theorem nextKey_first (hgap : Blank gap) (rest : Bytes) :
    nextKey true (gap ++ 34 :: rest) = .ok (some rest) := by
  unfold nextKey
  rw [skipBlanks_blank hgap rfl]
  rfl

theorem nextKey_later (hgap : Blank gap) (rest : Bytes) :
    nextKey false (44 :: (gap ++ 34 :: rest)) = .ok (some rest) := by
  unfold nextKey
  have hcomma : skipBlanks (44 :: (gap ++ 34 :: rest)) = 44 :: (gap ++ 34 :: rest) := rfl
  rw [hcomma]
  simp [skipBlanks_blank hgap (b := 34) rfl]

theorem nextKey_end (hclose : Blank close) (isFirst : Bool) (rest : Bytes) :
    nextKey isFirst (close ++ 125 :: rest) = .ok none := by
  unfold nextKey
  rw [skipBlanks_blank hclose rfl]
  rfl

/-- Members that take the reader of a member from one state to another one. -/
inductive Puts (member : σ → String → Bytes → Step σ) : σ → List Entry → σ → Prop
  | nil {state : σ} : Puts member state [] state
  | cons {state next last : σ} {entry : Entry} {more : List Entry} :
    (∀ rest, member state entry.1 (58 :: (entry.2 ++ rest)) = .ok (next, rest)) →
    Puts member next more last → Puts member state (entry :: more) last

theorem foldMembers_step {member : σ → String → Bytes → Step σ} {state next : σ} {entry : Entry}
    {isFirst : Bool} {start rest : Bytes}
    (hstart : nextKey isFirst start =
      .ok (some (escape (Utf8.encode entry.1) ++ 34 :: 58 :: (entry.2 ++ rest))))
    (hmember : member state entry.1 (58 :: (entry.2 ++ rest)) = .ok (next, rest)) (n : Nat) :
    foldMembers member (n + 1) isFirst state start = foldMembers member n false next rest := by
  rw [foldMembers, hstart]
  simp only [readString_write, hmember]

/-- Members behind another one, each behind a comma and a gap. -/
theorem foldMembers_later {member : σ → String → Bytes → Step σ} {state last : σ}
    {entries : List Entry} (hgap : Blank gap) (hclose : Blank close)
    (h : Puts member state entries last) (rest : Bytes) {n : Nat} (hn : entries.length < n) :
    foldMembers member n false state
        ((entries.map (gap ++ ·.text)).flatMap (44 :: ·) ++ (close ++ 125 :: rest)) =
      .ok (last, 125 :: rest) := by
  induction h generalizing n with
  | nil =>
    obtain ⟨n, rfl⟩ : ∃ m, n = m + 1 := ⟨n - 1, by omega⟩
    simp [foldMembers, nextKey_end hclose, skipBlanks_blank hclose (b := 125) rfl]
  | @cons state next last entry more hmember _ ih =>
    -- Every member takes one turn of the loop, and the turns are enough for all of them.
    obtain ⟨n, rfl⟩ : ∃ m, n = m + 1 := ⟨n - 1, by omega⟩
    have hlater := ih (Nat.lt_of_succ_lt_succ hn)
    rw [← hlater]
    refine foldMembers_step ?_ (hmember _) n
    rw [← nextKey_later hgap]
    simp [Entry.text, writeString]

/-- The members of an object, each behind a gap. -/
theorem foldMembers_entries {member : σ → String → Bytes → Step σ} {state last : σ}
    {entries : List Entry} (hgap : Blank gap) (hclose : Blank close)
    (h : Puts member state entries last) (rest : Bytes) {n : Nat} (hn : entries.length < n) :
    foldMembers member n true state
        (commaSeparated (entries.map (gap ++ ·.text)) ++ (close ++ 125 :: rest)) =
      .ok (last, 125 :: rest) := by
  obtain ⟨n, rfl⟩ : ∃ m, n = m + 1 := ⟨n - 1, by omega⟩
  cases h with
  | nil =>
    simp [foldMembers, commaSeparated, nextKey_end hclose, skipBlanks_blank hclose (b := 125) rfl]
  | @cons state next last entry more hmember hmore =>
    rw [← foldMembers_later hgap hclose hmore rest (Nat.lt_of_succ_lt_succ hn)]
    refine foldMembers_step ?_ (hmember _) n
    rw [← nextKey_first hgap, List.map_cons, commaSeparated_cons]
    simp [Entry.text, writeString]

theorem length_le_commaSeparated {texts : List Bytes} (h : ∀ text ∈ texts, text ≠ []) :
    texts.length ≤ (commaSeparated texts).length := by
  have hlater : ∀ rest : List Bytes, rest.length ≤ (rest.flatMap (44 :: ·)).length := by
    intro rest
    induction rest with
    | nil => simp
    | cons second rest ih =>
      simp only [List.flatMap_cons, List.length_append, List.length_cons]
      omega
  cases texts with
  | nil => simp
  | cons first rest =>
    have hfirst : 0 < first.length := List.length_pos_iff.2 (h first List.mem_cons_self)
    have hrest := hlater rest
    rw [commaSeparated_cons, List.length_append, List.length_cons]
    omega

/-- The turns that a reader of an object takes are enough for all members. -/
theorem foldMembers_written {member : σ → String → Bytes → Step σ} {state last : σ}
    {entries : List Entry} (hgap : Blank gap) (hclose : Blank close)
    (h : Puts member state entries last) (rest : Bytes) :
    foldMembers member
        ((commaSeparated (entries.map (gap ++ ·.text)) ++ (close ++ 125 :: rest)).length + 1) true
        state (commaSeparated (entries.map (gap ++ ·.text)) ++ (close ++ 125 :: rest)) =
      .ok (last, 125 :: rest) := by
  have hlength : entries.length ≤ (commaSeparated (entries.map (gap ++ ·.text))).length := by
    have hne : ∀ text ∈ entries.map (gap ++ ·.text), text ≠ [] := by
      intro text htext
      obtain ⟨entry, -, rfl⟩ := List.mem_map.1 htext
      simp [Entry.text, writeString]
    simpa using length_le_commaSeparated hne
  exact foldMembers_entries hgap hclose h rest (by simp only [List.length_append]; omega)

end

/-! ## Records -/

/-- The fields of a record, all written, in order. -/
inductive Fields.Writes (depth : Nat) : {αs : List Type} → Fields αs → Row αs → List Entry → Prop
  | nil : Writes depth .nil () []
  | cons {α : Type} {αs : List Type} {field : RecordField α} {fields : Fields αs} {value : α}
      {row : Row αs} {text : Bytes} {entries : List Entry} :
    field.decoder.Reads depth text value → (∀ entry ∈ entries, field.name ≠ entry.1) →
    Writes depth fields row entries →
    Writes depth (.cons field fields) (value, row) ((field.name, text) :: entries)

/-- Members of other names pass a field by. -/
theorem Puts.skip {αs : List Type} {field : RecordField α} {fields : Fields αs} {depth : Nat}
    {slots last : Slots αs} {entries : List Entry} (slot : Option α)
    (hnames : ∀ entry ∈ entries, field.name ≠ entry.1)
    (h : Puts (fields.readMember depth) slots entries last) :
    Puts ((Fields.cons field fields).readMember depth) (slot, slots) entries (slot, last) := by
  induction h with
  | nil => exact .nil
  | @cons slots next last entry more hmember _ ih =>
    refine .cons (fun rest => ?_)
      (ih fun other hother => hnames other (List.mem_cons_of_mem _ hother))
    rw [Fields.readMember, if_neg (hnames entry List.mem_cons_self), hmember]
    rfl

theorem Fields.Writes.puts {depth : Nat} {αs : List Type} {fields : Fields αs} {row : Row αs}
    {entries : List Entry} (h : fields.Writes depth row entries) :
    Puts (fields.readMember depth) fields.empty entries (fields.fill row) := by
  induction h with
  | nil => exact .nil
  | @cons α αs field fields value row text entries hreads hnames _ ih =>
    refine .cons (fun rest => ?_) (ih.skip (some value) hnames)
    have hcolon : readColon (58 :: (text ++ rest)) = .ok (text ++ rest) := rfl
    simp only [Fields.empty, Fields.readMember, if_true, hcolon, hreads rest]
    rfl

/-- An object whose members fill the slots of a record is read as the record. -/
theorem reads_record_of_puts {αs : List Type} {fields : Fields αs} {slots : Slots αs}
    {row : Row αs} {entries : List Entry} {depth : Nat} {gap close : Bytes} (hgap : Blank gap)
    (hclose : Blank close) (h : Puts (fields.readMember (depth + 1)) fields.empty entries slots)
    (hrow : fields.complete slots = .ok row) (name : String) (build : Row αs → β) :
    (Decoder.record name fields build).Reads (depth + 2)
      (123 :: (commaSeparated (entries.map (gap ++ ·.text)) ++ (close ++ [125]))) (build row) := by
  intro rest
  have hmembers := foldMembers_written hgap hclose h rest
  have hstart : skipBlanks
      (123 :: (commaSeparated (entries.map (gap ++ ·.text)) ++ (close ++ [125])) ++ rest) =
      123 :: (commaSeparated (entries.map (gap ++ ·.text)) ++ (close ++ 125 :: rest)) := by
    rw [skipBlanks]
    simp [isBlankByte]
  have hend : closeObject (125 :: rest) = (.ok (), rest) := rfl
  unfold Decoder.record
  rw [hstart]
  simp only [descend, hmembers, hrow, enclose, hend]

/-- An object with all fields of a record is read as the record. -/
theorem reads_record {αs : List Type} {fields : Fields αs} {row : Row αs} {entries : List Entry}
    {depth : Nat} {gap close : Bytes} (hgap : Blank gap) (hclose : Blank close)
    (h : fields.Writes (depth + 1) row entries) (name : String) (build : Row αs → β) :
    (Decoder.record name fields build).Reads (depth + 2)
      (123 :: (commaSeparated (entries.map (gap ++ ·.text)) ++ (close ++ [125]))) (build row) :=
  reads_record_of_puts hgap hclose h.puts (fields.complete_fill row) name build

/-- A text that is read whole. -/
theorem Decoder.Reads.run {decoder : Decoder α} {text : Bytes} {value : α}
    (h : decoder.Reads depthLimit text value) : decoder.run text = .ok value := by
  have hread := h []
  rw [List.append_nil] at hread
  simp [Decoder.run, hread, skipBlanks]

end Json

/-! ## Values -/

namespace Json

theorem isText_indented {level : Nat} {left right : UInt8} {contents : List Bytes}
    (hleft : left < 128) (hright : right < 128) (h : ∀ text ∈ contents, Utf8.IsText text) :
    Utf8.IsText (indented level left right contents) := by
  have hline : ∀ level, Utf8.IsText (newLine level) := by
    intro level
    refine Utf8.isText_of_ascii fun b hb => ?_
    rcases List.mem_cons.1 hb with rfl | hb
    · decide
    · rw [List.eq_of_mem_replicate hb]
      decide
  have hopen := Utf8.isText_ascii hleft
  have hclose := Utf8.isText_ascii hright
  unfold indented
  cases contents with
  | nil => exact hopen.append hclose
  | cons first rest =>
    rw [List.map_cons, commaSeparated_cons, List.flatMap_map]
    have hfirst := (hline (level + 1)).append (h first List.mem_cons_self)
    have hrest : Utf8.IsText (rest.flatMap fun text => 44 :: (newLine (level + 1) ++ text)) := by
      refine Utf8.isText_flatMap fun text htext => ?_
      have hcomma := Utf8.isText_ascii (b := 44) (by decide)
      exact hcomma.append ((hline _).append (h text (List.mem_cons_of_mem _ htext)))
    exact ((hopen.append (hfirst.append hrest)).append (hline level)).append hclose

mutual

/-- A value on several lines is text. -/
theorem isText_writeIndented (level : Nat) :
    (value : Json) → Utf8.IsText (writeIndented level value)
  | .array items =>
    isText_indented (by decide) (by decide) (isText_writeIndentedItems (level + 1) items)
  | .object members =>
    isText_indented (by decide) (by decide) (isText_writeIndentedMembers (level + 1) members)
  | .null => ⟨_, rfl⟩
  | .bool _ => ⟨_, rfl⟩
  | .number _ => ⟨_, rfl⟩
  | .string s => isText_writeString s

theorem isText_writeIndentedItems (level : Nat) :
    (items : List Json) → ∀ text ∈ writeIndentedItems level items, Utf8.IsText text
  | [] => by simp [writeIndentedItems]
  | item :: rest => by
    intro text htext
    rcases List.mem_cons.1 htext with rfl | htext
    · exact isText_writeIndented level item
    · exact isText_writeIndentedItems level rest text htext

theorem isText_writeIndentedMembers (level : Nat) :
    (members : List (String × Json)) →
      ∀ text ∈ writeIndentedMembers level members, Utf8.IsText text
  | [] => by simp [writeIndentedMembers]
  | (key, value) :: rest => by
    intro text htext
    rcases List.mem_cons.1 htext with rfl | htext
    · have hcolon : Utf8.IsText ([58] ++ [32]) :=
        (Utf8.isText_ascii (by decide)).append (Utf8.isText_ascii (by decide))
      exact ((isText_writeString key).append hcolon).append (isText_writeIndented level value)
    · exact isText_writeIndentedMembers level rest text htext

end

end Json

/-! ## Files of service accounts -/

namespace ServiceAccountFile

open Json

def entries (file : ServiceAccountFile) : List Entry :=
  [("token_type", 32 :: writeString file.tokenType),
    ("refresh_token", 32 :: writeString file.refreshToken),
    ("client_id", 32 :: writeString file.clientId)]

theorem contents_eq (file : ServiceAccountFile) :
    file.contents =
      123 :: (commaSeparated (file.entries.map (newLine 1 ++ ·.text)) ++ (newLine 0 ++ [125])) := by
  simp [contents, toJson, writeIndented, writeIndentedMembers, indented, entries, Entry.text]

/-- A value of the file, with the blank behind its colon. -/
theorem reads_value (depth : Nat) (s : String) :
    Decoder.string.Reads depth (32 :: writeString s) s :=
  @reads_string [32] (by simp [Blank, isBlankByte]) depth s

theorem writes_entries (file : ServiceAccountFile) (depth : Nat) :
    fields.Writes depth (file.tokenType, file.refreshToken, file.clientId, ()) file.entries := by
  refine .cons (reads_value _ _) ?_ (.cons (reads_value _ _) ?_ (.cons (reads_value _ _) ?_ .nil))
  · simp [defaulted]
  · simp [required]
  · simp

/-- The file reads back as what was written. -/
theorem run_contents (file : ServiceAccountFile) : decoder.run file.contents = .ok file := by
  rw [contents_eq]
  exact (reads_record (blank_newLine 1) (blank_newLine 0) (file.writes_entries 127) _ _).run

/-- The file is text. -/
theorem isText_contents (file : ServiceAccountFile) : Utf8.IsText file.contents :=
  isText_writeIndented 0 file.toJson

end ServiceAccountFile

/-! ## Forms -/

namespace Form

/-- The bytes that one name or value of a form stands for. -/
def read (cs : List Char) : Bytes := Percent.decode (cs.map fun c => if c = '+' then ' ' else c)

theorem char_of_isPlain : ∀ n : Fin 256, isPlain n.val.toUInt8 = true →
    Char.ofNat n.val ≠ '%' ∧ Char.ofNat n.val ≠ '+' ∧
      String.utf8EncodeChar (Char.ofNat n.val) = [n.val.toUInt8] := by
  decide +kernel

theorem read_encodeByte (b : UInt8) (rest : List Char) :
    read (encodeByte b ++ rest) = b :: read rest := by
  have hplain := char_of_isPlain ⟨b.toNat, b.toNat_lt⟩
  simp only [Nat.toUInt8, UInt8.ofNat_toNat] at hplain
  have hdigit : ∀ n : Fin 16, Percent.hexDigit n.val ≠ '+' := by decide
  have hhigh := hdigit ⟨b.toNat / 16, by have := b.toNat_lt; omega⟩
  have hlow := hdigit ⟨b.toNat % 16, by omega⟩
  unfold encodeByte read
  split
  · rename_i h
    obtain ⟨hpercent, hplus, hbyte⟩ := hplain h
    simp only [List.singleton_append, List.map_cons, if_neg hplus]
    rw [Percent.decode_of_ne hpercent, hbyte]
    rfl
  · split
    · rename_i h
      rw [eq_of_beq h]
      exact Percent.decode_of_ne (by decide)
    · rw [List.map_append, ← Percent.decode_encodeByte]
      simp only [Percent.encodeByte, List.map_cons, List.map_nil, if_neg hhigh, if_neg hlow]
      rfl

/-- A name or value of a form reads back. -/
theorem read_encode (s : String) : read (encode s) = Utf8.encode s := by
  unfold encode
  induction Utf8.encode s with
  | nil => rfl
  | cons b bs ih => rw [List.flatMap_cons, read_encodeByte, ih]

theorem encode_injective {s t : String} (h : encode s = encode t) : s = t := by
  refine Utf8.encode_injective ?_
  rw [← read_encode s, h, read_encode]

/-- A character that no byte is written with is in no name and in no value. -/
theorem not_mem_encode {c : Char} (hall : ∀ n : Fin 256, c ∉ encodeByte n.val.toUInt8)
    (s : String) : c ∉ encode s := by
  intro h
  obtain ⟨b, -, hb⟩ := List.mem_flatMap.1 h
  have hbyte := hall ⟨b.toNat, b.toNat_lt⟩
  simp only [Nat.toUInt8, UInt8.ofNat_toNat] at hbyte
  exact hbyte hb

theorem ampersand_not_mem_encode (s : String) : '&' ∉ encode s :=
  not_mem_encode (by decide +kernel) s

theorem equals_not_mem_encode (s : String) : '=' ∉ encode s := not_mem_encode (by decide +kernel) s

theorem ampersand_not_mem_pair (name value : String) : '&' ∉ pair (name, value) := by
  simp [pair, ampersand_not_mem_encode]

theorem pair_inj {name first second : String} (h : pair (name, first) = pair (name, second)) :
    first = second :=
  encode_injective (List.cons.inj (List.append_cancel_left h)).2

theorem pairs_cons (item next : String × String) (items : List (String × String)) :
    pairs (item :: next :: items) = pair item ++ '&' :: pairs (next :: items) := by
  simp [pairs, List.intercalate]

end Form

/-! ## Directories -/

namespace FileSystem

variable {files written : FileSystem} {path : String}

/-- What a path leads through is a directory, so a step does not see the node of a name that is
none. -/
theorem step_set {name component : String} {node : Node} {target next : Target}
    (hname : files.node? name ≠ some .directory) (h : step files target component = .ok next) :
    step (files.set name node) target component = .ok next := by
  unfold step at h ⊢
  split at h
  · cases h
  · rename_i hlength
    rw [if_neg hlength]
    cases target with
    | root => exact h
    | entry other =>
      dsimp only at h ⊢
      -- There is a step behind `other`, so it is a directory, and `name` is none.
      have hother : files.node? other = some .directory := by
        split at h
        · cases h
        · cases h
        · assumption
      have hne : other ≠ name := by
        rintro rfl
        exact hname hother
      rw [hother] at h
      rwa [node?_set, if_neg hne, hother]

theorem foldlM_step_set {name : String} {node : Node} (hname : files.node? name ≠ some .directory)
    {components : List String} {target last : Target}
    (h : components.foldlM (step files) target = .ok last) :
    components.foldlM (step (files.set name node)) target = .ok last := by
  induction components generalizing target with
  | nil => exact h
  | cons component components ih =>
    rw [List.foldlM_cons] at h ⊢
    cases hstep : step files target component with
    | error failure =>
      rw [hstep] at h
      cases h
    | ok next =>
      rw [hstep] at h
      rw [step_set hname hstep]
      exact ih h

theorem resolve_set {name : String} {node : Node} (hname : files.node? name ≠ some .directory)
    (h : files.resolve path = .ok (.entry name)) :
    (files.set name node).resolve path = .ok (.entry name) := by
  unfold resolve at h ⊢
  split at h
  · cases h
  · split at h
    · cases h
    · rename_i hnul hrelative
      rw [if_neg hnul, if_neg hrelative]
      exact foldlM_step_set hname h

theorem write_ok {contents : Bytes} (h : files.write path contents = .ok written) :
    ∃ name, files.resolve path = .ok (.entry name) ∧ files.node? name ≠ some .directory ∧
      written = files.set name (.file contents) := by
  unfold write at h
  cases hresolve : files.resolve path with
  | error failure =>
    rw [hresolve] at h
    cases h
  | ok target =>
    rw [hresolve] at h
    cases target with
    | root => cases h
    | entry name =>
      dsimp only [bind, Except.bind] at h
      split at h
      · cases h
      · rename_i hnode
        cases h
        exact ⟨name, rfl, hnode, rfl⟩

/-- What is read at a path is the file of the name that the path leads to. -/
theorem read_ok_iff {contents : Bytes} :
    files.read path = .ok contents ↔
      ∃ name, files.resolve path = .ok (.entry name) ∧
        files.node? name = some (.file contents) := by
  unfold read
  cases hresolve : files.resolve path with
  | error failure => simp [bind, Except.bind]
  | ok target =>
    cases target with
    | root => simp [bind, Except.bind, throw, throwThe, MonadExceptOf.throw]
    | entry name =>
      dsimp only [bind, Except.bind]
      split <;> simp_all [throw, throwThe, MonadExceptOf.throw, pure, Except.pure]

/-- A file that has been written reads back. -/
theorem readText_of_write {text : String} (h : files.write path (Utf8.encode text) = .ok written) :
    written.readText path = .ok text := by
  obtain ⟨name, hresolve, hnode, rfl⟩ := write_ok h
  have hread : (files.set name (.file (Utf8.encode text))).read path = .ok (Utf8.encode text) :=
    read_ok_iff.2 ⟨name, resolve_set hnode hresolve, by simp [node?_set]⟩
  unfold readText
  rw [hread]
  simp only [bind, Except.bind, Utf8.decode?_encode]
  rfl

theorem node?_of_readText {text : String} (h : files.readText path = .ok text) :
    ∃ name contents, files.resolve path = .ok (.entry name) ∧
      files.node? name = some (.file contents) := by
  unfold readText at h
  cases hread : files.read path with
  | error failure =>
    rw [hread] at h
    cases h
  | ok contents =>
    obtain ⟨name, hresolve, hnode⟩ := read_ok_iff.1 hread
    exact ⟨name, contents, hresolve, hnode⟩

/-- A file that can be read can be written. -/
theorem exists_write_of_readText {text : String} (h : files.readText path = .ok text)
    (contents : Bytes) : ∃ written, files.write path contents = .ok written := by
  obtain ⟨name, old, hresolve, hnode⟩ := node?_of_readText h
  refine ⟨files.set name (.file contents), ?_⟩
  unfold write
  rw [hresolve]
  simp only [bind, Except.bind, hnode]
  rfl

end FileSystem

end CloudTenancy
