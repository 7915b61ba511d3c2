import CloudTenancy.Proofs.Lookahead.Numbers
import CloudTenancy.Proofs.WrittenRecords
import CloudTenancy.Value
import Mathlib.Data.List.Forall2

/-!
CloudTenancy.Proofs.WrittenValues — what is written reads back, however it is laid out.

* `Json.Layout` — where blanks stand between the tokens of a text, `Layout.text` the text.
* `Json.Item` — an item of a list that a reader takes in front of a comma or a bracket.
* `Json.Decoder.Takes` — a decoder that reads a JSON value as a value, whatever its layout.
* `Json.Fields.Takes` — the fields of a record, some of which may be left out.
* `Json.Plain` — JSON values that any reader of JSON takes for themselves.

Texts without blanks and texts on several lines are two layouts of one printer, so a decoder is
looked at once for both. `Takes` speaks of JSON values and of no bytes: a record takes its members
if each field takes its own, and a list its items.

A number has no end of its own, and so it is taken only inside of a list, in front of what ends it.
The sign of an unknown value is such a list.

Main statements: `takes_record`, `takes_any`, and that what is taken is read from both texts
(`Takes.run`).
-/

namespace CloudTenancy.Json

variable {α β : Type}

/-! ## Layouts -/

/-- Where blanks stand in a text. -/
structure Layout where
  /-- The blanks in front of what stands inside so many brackets. -/
  line : Nat → Bytes
  /-- The blanks behind a colon. -/
  colon : Bytes
  blank_line : ∀ level, Blank (line level)
  blank_colon : Blank colon

namespace Layout

/-- No blanks at all. -/
def compact : Layout where
  line _ := []
  colon := []
  blank_line _ := by simp [Blank]
  blank_colon := by simp [Blank]

/-- One member or item a line. -/
def lines : Layout where
  line := newLine
  colon := [32]
  blank_line := blank_newLine
  blank_colon := by simp [Blank, isBlankByte]

variable (layout : Layout)

/-- The blanks in front of a closing bracket. An empty bracket stays closed. -/
def closing (level : Nat) (contents : List Bytes) : Bytes :=
  if contents.isEmpty then [] else layout.line level

def bracket (level : Nat) (left right : UInt8) (contents : List Bytes) : Bytes :=
  left :: (commaSeparated (contents.map (layout.line (level + 1) ++ ·)) ++
    (layout.closing level contents ++ [right]))

mutual

/-- A value inside `level` brackets. -/
def text (level : Nat) : Json → Bytes
  | .array items => layout.bracket level 91 93 (itemTexts (level + 1) items)
  | .object members => layout.bracket level 123 125 (memberTexts (level + 1) members)
  | .null => write .null
  | .bool b => write (.bool b)
  | .number n => write (.number n)
  | .string s => write (.string s)

def itemTexts (level : Nat) : List Json → List Bytes
  | [] => []
  | item :: rest => text level item :: itemTexts level rest

def memberTexts (level : Nat) : List (String × Json) → List Bytes
  | [] => []
  | (key, value) :: rest =>
    Entry.text (key, layout.colon ++ text level value) :: memberTexts level rest

end

theorem itemTexts_eq_map (level : Nat) (items : List Json) :
    layout.itemTexts level items = items.map (layout.text level) := by
  induction items with
  | nil => rfl
  | cons item rest ih => rw [itemTexts, ih, List.map_cons]

/-- The members of an object as they are written. -/
def entries (level : Nat) (members : List (String × Json)) : List Entry :=
  members.map fun member => (member.1, layout.colon ++ layout.text level member.2)

theorem memberTexts_eq_map (level : Nat) (members : List (String × Json)) :
    layout.memberTexts level members = (layout.entries level members).map Entry.text := by
  induction members with
  | nil => rfl
  | cons member rest ih => rw [memberTexts, ih, entries, entries, List.map_cons, List.map_cons]

theorem blank_closing (level : Nat) (contents : List Bytes) :
    Blank (layout.closing level contents) := by
  unfold closing
  split
  · simp [Blank]
  · exact layout.blank_line level

theorem text_array (level : Nat) (items : List Json) :
    ∃ close, Blank close ∧ layout.text level (.array items) =
      91 :: (commaSeparated ((items.map (layout.text (level + 1))).map
        (layout.line (level + 1) ++ ·)) ++ (close ++ [93])) := by
  refine ⟨_, layout.blank_closing level (layout.itemTexts (level + 1) items), ?_⟩
  rw [text, bracket, itemTexts_eq_map]

theorem text_object (level : Nat) (members : List (String × Json)) :
    ∃ close, Blank close ∧ layout.text level (.object members) =
      123 :: (commaSeparated ((layout.entries (level + 1) members).map
        (layout.line (level + 1) ++ ·.text)) ++ (close ++ [125])) := by
  refine ⟨_, layout.blank_closing level (layout.memberTexts (level + 1) members), ?_⟩
  rw [text, bracket, memberTexts_eq_map, List.map_map]
  rfl

/-! ### The two layouts -/

theorem bracket_compact (level : Nat) (left right : UInt8) (contents : List Bytes) :
    compact.bracket level left right contents = [left] ++ commaSeparated contents ++ [right] := by
  simp [bracket, closing, compact]

theorem bracket_lines (level : Nat) (left right : UInt8) (contents : List Bytes) :
    lines.bracket level left right contents = indented level left right contents := by
  cases contents with
  | nil => rfl
  | cons first rest => simp [bracket, closing, indented, lines]

mutual

theorem text_compact (level : Nat) : (value : Json) → compact.text level value = write value
  | .array items => by
    rw [text, bracket_compact, itemTexts_compact, write]
  | .object members => by
    rw [text, bracket_compact, memberTexts_compact, write]
  | .null => rfl
  | .bool _ => rfl
  | .number _ => rfl
  | .string _ => rfl

theorem itemTexts_compact (level : Nat) :
    (items : List Json) → compact.itemTexts level items = writeItems items
  | [] => rfl
  | item :: rest => by rw [itemTexts, text_compact, itemTexts_compact, writeItems]

theorem memberTexts_compact (level : Nat) :
    (members : List (String × Json)) → compact.memberTexts level members = writeMembers members
  | [] => rfl
  | (key, value) :: rest => by
    rw [memberTexts, text_compact, memberTexts_compact, writeMembers]
    simp [Entry.text, compact]

end

mutual

theorem text_lines (level : Nat) :
    (value : Json) → lines.text level value = writeIndented level value
  | .array items => by
    rw [text, bracket_lines, itemTexts_lines, writeIndented]
  | .object members => by
    rw [text, bracket_lines, memberTexts_lines, writeIndented]
  | .null => rfl
  | .bool _ => rfl
  | .number _ => rfl
  | .string _ => rfl

theorem itemTexts_lines (level : Nat) :
    (items : List Json) → lines.itemTexts level items = writeIndentedItems level items
  | [] => rfl
  | item :: rest => by rw [itemTexts, text_lines, itemTexts_lines, writeIndentedItems]

theorem memberTexts_lines (level : Nat) :
    (members : List (String × Json)) →
      lines.memberTexts level members = writeIndentedMembers level members
  | [] => rfl
  | (key, value) :: rest => by
    rw [memberTexts, text_lines, memberTexts_lines, writeIndentedMembers]
    simp [Entry.text, lines]

end

end Layout

/-! ## What follows -/

theorem skipBlanks_gap {gap : Bytes} (hgap : Blank gap) (bs : Bytes) :
    skipBlanks (gap ++ bs) = skipBlanks bs :=
  List.dropWhile_append_of_pos hgap

/-- Behind a gap stands what can follow a value. -/
theorem delimited_gap {gap : Bytes} (hgap : Blank gap) {b : UInt8} (hb : isDelimiter b = true)
    (rest : Bytes) : Delimited (gap ++ b :: rest) := by
  intro c hc
  cases gap with
  | nil =>
    cases hc
    exact hb
  | cons c' gap =>
    cases hc
    have hblank := hgap c List.mem_cons_self
    simp [isDelimiter, hblank]

/-! ## Lists -/

/-- The text begins with a byte that neither is a blank nor closes a list. -/
def Begins (text : Bytes) : Prop := ∃ b tail, text = b :: tail ∧ isBlankByte b = false ∧ b ≠ 93

/-- The reader takes an item for a value, in front of what can follow it. -/
structure Item (item : Bytes → Step α) (text : Bytes) (value : α) : Prop where
  begins : Begins text
  reads : ∀ rest, Delimited rest → item (text ++ rest) = .ok (value, rest)

section

variable {item : Bytes → Step α} {gap close : Bytes} {texts : List Bytes} {values : List α}

theorem nextItem_first (hgap : Blank gap) {text : Bytes} (h : Begins text) (rest : Bytes) :
    nextItem true (gap ++ (text ++ rest)) = .ok (some (text ++ rest)) := by
  obtain ⟨b, tail, rfl, hb, hclosing⟩ := h
  unfold nextItem
  rw [List.cons_append, skipBlanks_blank hgap hb]
  simp

theorem nextItem_later (hgap : Blank gap) {text : Bytes} (h : Begins text) (rest : Bytes) :
    nextItem false (44 :: (gap ++ (text ++ rest))) = .ok (some (text ++ rest)) := by
  obtain ⟨b, tail, rfl, hb, hclosing⟩ := h
  have hcomma : skipBlanks (44 :: (gap ++ (b :: tail ++ rest))) =
      44 :: (gap ++ (b :: tail ++ rest)) := rfl
  unfold nextItem
  rw [hcomma]
  simp [skipBlanks_blank hgap hb, hclosing]

theorem nextItem_end (hclose : Blank close) (isFirst : Bool) (rest : Bytes) :
    nextItem isFirst (close ++ 93 :: rest) = .ok none := by
  unfold nextItem
  rw [skipBlanks_blank hclose rfl]
  rfl

/-- Behind an item stands a comma or the end of the list. -/
theorem delimited_items (hclose : Blank close) (texts : List Bytes) (rest : Bytes) :
    Delimited ((texts.map (gap ++ ·)).flatMap (44 :: ·) ++ (close ++ 93 :: rest)) := by
  cases texts with
  | nil => exact delimited_gap hclose rfl rest
  | cons text texts => exact @delimited_gap [] (by simp [Blank]) _ rfl _

theorem readItems_step {text start rest : Bytes} {value : α} {isFirst : Bool}
    (hstart : nextItem isFirst start = .ok (some (text ++ rest))) (h : Item item text value)
    (hrest : Delimited rest) (n : Nat) :
    readItems item (n + 1) isFirst start =
      (readItems item n false rest).map fun (more, rest) => (value :: more, rest) := by
  rw [readItems, hstart]
  simp only [h.reads rest hrest]

/-- Items behind another one, each behind a comma and a gap. -/
theorem readItems_later (hgap : Blank gap) (hclose : Blank close)
    (h : List.Forall₂ (Item item) texts values) (rest : Bytes) {n : Nat} (hn : texts.length < n) :
    readItems item n false
        ((texts.map (gap ++ ·)).flatMap (44 :: ·) ++ (close ++ 93 :: rest)) =
      .ok (values, 93 :: rest) := by
  induction h generalizing n with
  | nil =>
    obtain ⟨n, rfl⟩ : ∃ m, n = m + 1 := ⟨n - 1, by omega⟩
    simp [readItems, nextItem_end hclose, skipBlanks_blank hclose (b := 93) rfl]
  | @cons text value texts values hitem _ ih =>
    -- Every item takes one turn of the loop, and the turns are enough for all of them.
    obtain ⟨n, rfl⟩ : ∃ m, n = m + 1 := ⟨n - 1, by omega⟩
    have hnext := nextItem_later hgap hitem.begins
      ((texts.map (gap ++ ·)).flatMap (44 :: ·) ++ (close ++ 93 :: rest))
    have hread := readItems_step hnext hitem (delimited_items hclose texts rest) n
    rw [ih (Nat.lt_of_succ_lt_succ hn)] at hread
    simpa [Except.map] using hread

/-- The items of a list, each behind a gap. -/
theorem readItems_texts (hgap : Blank gap) (hclose : Blank close)
    (h : List.Forall₂ (Item item) texts values) (rest : Bytes) {n : Nat} (hn : texts.length < n) :
    readItems item n true (commaSeparated (texts.map (gap ++ ·)) ++ (close ++ 93 :: rest)) =
      .ok (values, 93 :: rest) := by
  obtain ⟨n, rfl⟩ : ∃ m, n = m + 1 := ⟨n - 1, by omega⟩
  cases h with
  | nil =>
    simp [readItems, commaSeparated, nextItem_end hclose, skipBlanks_blank hclose (b := 93) rfl]
  | @cons text value texts values hitem hmore =>
    have hnext := nextItem_first hgap hitem.begins
      ((texts.map (gap ++ ·)).flatMap (44 :: ·) ++ (close ++ 93 :: rest))
    have hread := readItems_step hnext hitem (delimited_items hclose texts rest) n
    rw [readItems_later hgap hclose hmore rest (Nat.lt_of_succ_lt_succ hn)] at hread
    rw [List.map_cons, commaSeparated_cons]
    simpa [Except.map] using hread

theorem begins_of_items (h : List.Forall₂ (Item item) texts values) :
    ∀ text ∈ texts, Begins text := by
  induction h with
  | nil => simp
  | cons hitem _ ih => exact List.forall_mem_cons.2 ⟨hitem.begins, ih⟩

/-- A list is read to its end: the turns that its reader takes are enough for all items. -/
theorem readItems_written (hgap : Blank gap) (hclose : Blank close)
    (h : List.Forall₂ (Item item) texts values) (rest : Bytes) :
    readItems item
        ((commaSeparated (texts.map (gap ++ ·)) ++ (close ++ 93 :: rest)).length + 1) true
        (commaSeparated (texts.map (gap ++ ·)) ++ (close ++ 93 :: rest)) =
      .ok (values, 93 :: rest) := by
  have hlength : texts.length ≤ (commaSeparated (texts.map (gap ++ ·))).length := by
    have hne : ∀ text ∈ texts.map (gap ++ ·), text ≠ [] := by
      intro text htext
      obtain ⟨inner, hinner, rfl⟩ := List.mem_map.1 htext
      obtain ⟨b, tail, rfl, -⟩ := begins_of_items h inner hinner
      simp
    simpa using length_le_commaSeparated hne
  exact readItems_texts hgap hclose h rest (by simp only [List.length_append]; omega)

end

/-! ## Plain values -/

/-- JSON values that nest less than `depth` deep and give no name twice. Of numbers there is only
the one in the sign of an unknown value. -/
inductive Plain : Nat → Json → Prop
  | null {depth : Nat} : Plain (depth + 1) .null
  | bool {depth : Nat} (b : Bool) : Plain (depth + 1) (.bool b)
  | string {depth : Nat} (s : String) : Plain (depth + 1) (.string s)
  | unknown {depth : Nat} : Plain (depth + 3) Value.unknownJson
  | array {depth : Nat} {items : List Json} :
    (∀ item ∈ items, Plain (depth + 1) item) → Plain (depth + 2) (.array items)
  | object {depth : Nat} {members : List (String × Json)} :
    (members.map (·.1)).Nodup → (∀ member ∈ members, Plain (depth + 1) member.2) →
    Plain (depth + 2) (.object members)

/-- The first byte of a plain value: it is no blank, and it closes no list. -/
theorem Plain.text_cons {depth : Nat} {json : Json} (h : Plain depth json) (layout : Layout)
    (level : Nat) :
    ∃ b tail, layout.text level json = b :: tail ∧ isBlankByte b = false ∧ b ≠ 93 ∧
      (json ≠ .null → b ≠ 110) := by
  cases h with
  | null => exact ⟨110, nullTail, rfl, rfl, by decide, fun h => absurd rfl h⟩
  | bool b =>
    cases b with
    | false => exact ⟨102, falseTail, rfl, rfl, by decide, fun _ => by decide⟩
    | true => exact ⟨116, trueTail, rfl, rfl, by decide, fun _ => by decide⟩
  | string s => exact ⟨34, _, rfl, rfl, by decide, fun _ => by decide⟩
  | unknown => exact ⟨91, _, rfl, rfl, by decide, fun _ => by decide⟩
  | array _ => exact ⟨91, _, rfl, rfl, by decide, fun _ => by decide⟩
  | object _ _ => exact ⟨123, _, rfl, rfl, by decide, fun _ => by decide⟩

/-! ## Decoders -/

/-- The decoder reads a plain value as a value, whatever the layout and whatever follows. -/
structure Decoder.Takes (decoder : Decoder α) (depth : Nat) (json : Json) (value : α) : Prop where
  plain : Plain depth json
  reads : ∀ (layout : Layout) (level : Nat) (gap : Bytes), Blank gap →
    decoder.Reads depth (gap ++ layout.text level json) value

theorem blank_nil : Blank [] := by simp [Blank]

/-- What is taken is read from the text without blanks and from the text on several lines. -/
theorem Decoder.Takes.run {decoder : Decoder α} {json : Json} {value : α}
    (h : decoder.Takes depthLimit json value) :
    decoder.run json.write = .ok value ∧ decoder.run (json.writeIndented 0) = .ok value := by
  rw [← Layout.text_compact 0, ← Layout.text_lines 0]
  exact ⟨(h.reads .compact 0 [] blank_nil).run, (h.reads .lines 0 [] blank_nil).run⟩

/-- What is taken is taken as an item of a list. -/
theorem Decoder.Takes.item {decoder : Decoder α} {depth : Nat} {json : Json} {value : α}
    (h : decoder.Takes depth json value) (layout : Layout) (level : Nat) :
    Item (decoder depth) (layout.text level json) value := by
  obtain ⟨b, tail, htext, hb, hclosing, -⟩ := h.plain.text_cons layout level
  exact ⟨⟨b, tail, htext, hb, hclosing⟩, fun rest _ => h.reads layout level [] blank_nil rest⟩

section

variable {decoder : Decoder α} {depth : Nat} {json : Json} {value : α}

theorem takes_string (depth : Nat) (s : String) :
    Decoder.string.Takes (depth + 1) (.string s) s :=
  ⟨.string s, fun _ _ _ hgap => reads_string hgap (depth + 1) s⟩

theorem takes_bool (depth : Nat) (b : Bool) : Decoder.bool.Takes (depth + 1) (.bool b) b := by
  refine ⟨.bool b, fun layout level gap hgap rest => ?_⟩
  unfold Decoder.bool
  rw [List.append_assoc, skipBlanks_gap hgap]
  cases b <;> rfl

/-- What is there does not begin like null, so it is taken for itself. -/
theorem takes_some (h : decoder.Takes depth json value) (hnull : json ≠ .null) :
    (Decoder.option decoder).Takes depth json (some value) := by
  refine ⟨h.plain, fun layout level gap hgap rest => ?_⟩
  obtain ⟨b, tail, htext, hb, -, hn⟩ := h.plain.text_cons layout level
  have hread := h.reads layout level [] blank_nil rest
  rw [List.nil_append, htext, List.cons_append] at hread
  have hstart : skipBlanks (b :: (tail ++ rest)) = b :: (tail ++ rest) := by simp [skipBlanks, hb]
  unfold Decoder.option
  rw [List.append_assoc, skipBlanks_gap hgap, htext, List.cons_append, hstart]
  split
  · rename_i heq
    cases heq
    exact absurd rfl (hn hnull)
  · rw [hread]
    rfl

/-- A list takes the items of a list if each of them is taken. -/
theorem takes_list {write : α → Json} (h : ∀ a, decoder.Takes (depth + 1) (write a) a)
    (values : List α) :
    (Decoder.list decoder).Takes (depth + 2) (.array (values.map write)) values := by
  refine ⟨.array (List.forall_mem_map.2 fun a _ => (h a).plain),
    fun layout level gap hgap rest => ?_⟩
  obtain ⟨close, hclose, htext⟩ := layout.text_array level (values.map write)
  have hitems : List.Forall₂ (Item (decoder (depth + 1)))
      ((values.map write).map (layout.text (level + 1))) values := by
    rw [List.map_map, List.forall₂_map_left_iff, List.forall₂_same]
    exact fun a _ => (h a).item layout (level + 1)
  have hread := readItems_written (layout.blank_line (level + 1)) hclose hitems rest
  have hend : closeList (93 :: rest) = (.ok (), rest) := rfl
  have hstart : ∀ bs, skipBlanks (91 :: bs) = 91 :: bs := fun _ => rfl
  unfold Decoder.list
  rw [List.append_assoc, skipBlanks_gap hgap, htext, List.cons_append, List.append_assoc,
    List.append_assoc, List.singleton_append, hstart]
  simp only [descend, hread, enclose, hend]

end

/-! ## Records -/

def presentMembers (members : List (String × Option Json)) : List (String × Json) :=
  members.filterMap fun (key, value?) => value?.map fun value => (key, value)

theorem ofMembers_eq (members : List (String × Option Json)) :
    ofMembers members = .object (presentMembers members) := rfl

theorem mem_presentMembers {members : List (String × Option Json)} {key : String} {json : Json} :
    (key, json) ∈ presentMembers members ↔ (key, some json) ∈ members := by
  simp [presentMembers, List.mem_filterMap]

theorem mem_names_of_presentMembers {members : List (String × Option Json)} {name : String}
    (h : name ∈ (presentMembers members).map (·.1)) : name ∈ members.map (·.1) := by
  obtain ⟨⟨key, json⟩, hmember, rfl⟩ := List.mem_map.1 h
  exact List.mem_map.2 ⟨(key, some json), mem_presentMembers.1 hmember, rfl⟩

/-- Members that are there have names of their own if all have. -/
theorem nodup_presentMembers {members : List (String × Option Json)}
    (h : (members.map (·.1)).Nodup) : ((presentMembers members).map (·.1)).Nodup := by
  induction members with
  | nil => exact .nil
  | cons member members ih =>
    obtain ⟨key, value?⟩ := member
    obtain ⟨hname, hnames⟩ := List.nodup_cons.1 h
    cases value? with
    | none => exact ih hnames
    | some value =>
      exact List.nodup_cons.2 ⟨fun hmem => hname (mem_names_of_presentMembers hmem), ih hnames⟩

/-- What a field is given is taken as its value: a member, or nothing if the value stands for a
field that is left out. -/
def RecordField.Takes (field : RecordField α) (depth : Nat) (value : α) : Option Json → Prop
  | some json => field.decoder.Takes depth json value
  | none => field.absence = .defaulted value

/-- The fields of a record take their members, in order, for the values of a row. -/
inductive Fields.Takes (depth : Nat) :
    {αs : List Type} → Fields αs → List (String × Option Json) → Row αs → Prop
  | nil : Takes depth .nil [] ()
  | cons {α : Type} {αs : List Type} {field : RecordField α} {fields : Fields αs}
      {member? : Option Json} {members : List (String × Option Json)} {value : α} {row : Row αs} :
    field.Takes depth value member? → Takes depth fields members row →
    Takes depth (.cons field fields) ((field.name, member?) :: members) (value, row)

section

variable {αs : List Type} {fields : Fields αs} {members : List (String × Option Json)}
  {row : Row αs} {depth : Nat}

theorem Fields.Takes.plain (h : fields.Takes depth members row) {key : String} {json : Json}
    (hmember : (key, some json) ∈ members) : Plain depth json := by
  induction h with
  | nil => cases hmember
  | cons hfield _ ih =>
    rcases List.mem_cons.1 hmember with heq | hmember
    · cases heq
      exact Decoder.Takes.plain hfield
    · exact ih hmember

/-- The members that are there fill slots, and the slots that stay empty have the value that stands
for them. -/
theorem Fields.Takes.puts (h : fields.Takes depth members row)
    (hnames : (members.map (·.1)).Nodup) (layout : Layout) (level : Nat) :
    ∃ slots, Puts (fields.readMember depth) fields.empty
        (layout.entries level (presentMembers members)) slots ∧
      fields.complete slots = .ok row := by
  induction h with
  | nil => exact ⟨(), .nil, rfl⟩
  | @cons α αs field fields member? members value row hfield _ ih =>
    obtain ⟨hname, hnames⟩ := List.nodup_cons.1 hnames
    obtain ⟨slots, hputs, hrow⟩ := ih hnames
    have hother : ∀ entry ∈ layout.entries level (presentMembers members),
        field.name ≠ entry.1 := by
      rintro entry hentry heq
      obtain ⟨member, hmember, rfl⟩ := List.mem_map.1 hentry
      exact hname (heq ▸ mem_names_of_presentMembers (List.mem_map_of_mem hmember))
    cases member? with
    | none =>
      have habsence : field.absence = .defaulted value := hfield
      refine ⟨(none, slots), hputs.skip none hother, ?_⟩
      simp only [Fields.complete, habsence, hrow]
      rfl
    | some json =>
      refine ⟨(some value, slots), .cons (fun rest => ?_) (hputs.skip (some value) hother), ?_⟩
      · have hread :=
          Decoder.Takes.reads hfield layout level layout.colon layout.blank_colon rest
        have hcolon : ∀ bs, readColon (58 :: bs) = .ok bs := fun _ => rfl
        simp only [Fields.empty, Fields.readMember, if_true, hcolon, hread]
        rfl
      · simp only [Fields.complete, hrow]
        rfl

/-- A record takes its members if its fields do, however many of them are left out. -/
theorem takes_record (h : fields.Takes (depth + 1) members row)
    (hnames : (members.map (·.1)).Nodup) (name : String) (build : Row αs → β) :
    (Decoder.record name fields build).Takes (depth + 2) (ofMembers members) (build row) := by
  have hplain : Plain (depth + 2) (ofMembers members) :=
    .object (nodup_presentMembers hnames) fun _ hmember => h.plain (mem_presentMembers.1 hmember)
  refine ⟨hplain, fun layout level gap hgap rest => ?_⟩
  obtain ⟨close, hclose, htext⟩ := layout.text_object level (presentMembers members)
  obtain ⟨slots, hputs, hrow⟩ := h.puts hnames layout (level + 1)
  have hread := reads_record_of_puts (layout.blank_line (level + 1)) hclose hputs hrow name build
  unfold Decoder.record
  rw [List.append_assoc, skipBlanks_gap hgap, ofMembers_eq, htext]
  exact hread rest

end

/-! ## Any value -/

/-- A new name goes behind the others. -/
theorem put_of_not_mem {key : String} {members : List (String × Json)}
    (h : key ∉ members.map (·.1)) (value : Json) :
    put key value members = members ++ [(key, value)] := by
  induction members with
  | nil => rfl
  | cons member rest ih =>
    rw [List.map_cons, List.mem_cons, not_or] at h
    rw [put, if_neg (Ne.symm h.1), ih h.2, List.cons_append]

theorem any_gap {gap : Bytes} (hgap : Blank gap) (depth : Nat) (bs : Bytes) :
    Decoder.any (depth + 1) (gap ++ bs) = Decoder.any (depth + 1) bs := by
  rw [Decoder.any, Decoder.any, skipBlanks_gap hgap]

theorem any_list (depth : Nat) (bs : Bytes) :
    Decoder.any (depth + 2) (91 :: bs) = enclose closeList
      ((readItems (Decoder.any (depth + 1)) (bs.length + 1) true bs).map fun (items, rest) =>
        (.array items, rest)) := by
  rw [Decoder.any]
  rfl

/-- A member of an object, for a reader of any value. -/
def anyMember (depth : Nat) (members : List (String × Json)) (key : String) (bs : Bytes) :
    Step (List (String × Json)) :=
  match readColon bs with
  | .error fault => .error fault
  | .ok bs => (Decoder.any depth bs).map fun (value, rest) => (put key value members, rest)

theorem any_object (depth : Nat) (bs : Bytes) :
    Decoder.any (depth + 2) (123 :: bs) = enclose closeObject
      ((foldMembers (anyMember (depth + 1)) (bs.length + 1) true [] bs).map
        fun (members, rest) => (.object members, rest)) := by
  rw [Decoder.any]
  rfl

/-- Members of new names are put behind those that have been read. -/
theorem puts_anyMember {depth : Nat} (layout : Layout) (level : Nat)
    {front members : List (String × Json)} (hnames : ((front ++ members).map (·.1)).Nodup)
    (h : ∀ member ∈ members, ∀ gap, Blank gap →
      Decoder.any.Reads depth (gap ++ layout.text level member.2) member.2) :
    Puts (anyMember depth) front (layout.entries level members) (front ++ members) := by
  induction members generalizing front with
  | nil =>
    rw [List.append_nil]
    exact .nil
  | cons member members ih =>
    obtain ⟨hmember, hmembers⟩ := List.forall_mem_cons.1 h
    have hnew : member.1 ∉ front.map (·.1) := by
      rw [List.map_append] at hnames
      intro hmem
      exact (List.nodup_append.1 hnames).2.2 _ hmem _ (by simp) rfl
    rw [List.append_cons] at hnames ⊢
    refine .cons (fun rest => ?_) (ih hnames hmembers)
    have hread := hmember layout.colon layout.blank_colon rest
    have hcolon : ∀ bs, readColon (58 :: bs) = .ok bs := fun _ => rfl
    simp only [anyMember, hcolon, hread, Except.map, put_of_not_mem hnew]

/-- Zero is read inside of a list, in front of what ends it. -/
theorem item_zero (layout : Layout) (level depth : Nat) :
    Item (Decoder.any (depth + 1)) (layout.text level (.number (.natural 0)))
      (.number (.natural 0)) := by
  have htext : layout.text level (.number (.natural 0)) = [48] := by
    rw [Layout.text, write]
    decide
  rw [htext]
  refine ⟨⟨48, [], rfl, rfl, by decide⟩, fun rest hrest => ?_⟩
  have hskip : skipNumber [48] = .ok [] := rfl
  have hnumber : readNumber false ([48] ++ rest) = .ok (.natural 0, rest) :=
    readNumber_append hskip hrest false
  have hstart : skipBlanks ([48] ++ rest) = [48] ++ rest := rfl
  rw [Decoder.any, hstart]
  change (readNumber false ([48] ++ rest)).map _ = _
  rw [hnumber]
  rfl

/-- A list is read as itself if its items are. -/
theorem any_reads_array {depth : Nat} {items : List Json} (layout : Layout) (level : Nat)
    (h : ∀ item ∈ items,
      Item (Decoder.any (depth + 1)) (layout.text (level + 1) item) item)
    {gap : Bytes} (hgap : Blank gap) :
    Decoder.any.Reads (depth + 2) (gap ++ layout.text level (.array items)) (.array items) := by
  intro rest
  obtain ⟨close, hclose, htext⟩ := layout.text_array level items
  have hitems : List.Forall₂ (Item (Decoder.any (depth + 1)))
      (items.map (layout.text (level + 1))) items := by
    rw [List.forall₂_map_left_iff, List.forall₂_same]
    exact h
  have hread := readItems_written (layout.blank_line (level + 1)) hclose hitems rest
  rw [List.append_assoc, any_gap hgap, htext, List.cons_append, List.append_assoc,
    List.append_assoc, List.singleton_append, any_list, hread]
  rfl

/-- A plain value is read as itself. -/
theorem any_reads {depth : Nat} {json : Json} (h : Plain depth json) (layout : Layout)
    (level : Nat) (gap : Bytes) (hgap : Blank gap) :
    Decoder.any.Reads depth (gap ++ layout.text level json) json := by
  induction h generalizing layout level gap with
  | null =>
    intro rest
    rw [List.append_assoc, any_gap hgap]
    rfl
  | bool b =>
    intro rest
    rw [List.append_assoc, any_gap hgap]
    cases b <;> rfl
  | string s =>
    intro rest
    have hstart : skipBlanks (layout.text level (.string s) ++ rest) =
        34 :: (escape (Utf8.encode s) ++ [34] ++ rest) := rfl
    rw [List.append_assoc, any_gap hgap, Decoder.any, hstart, List.append_assoc]
    change (readString _).map _ = _
    rw [List.singleton_append, readString_write]
    rfl
  | @unknown depth =>
    -- The sign of unknown is a list like others: a zero and an empty list.
    refine any_reads_array layout level (fun item hitem => ?_) hgap
    rcases List.mem_cons.1 hitem with rfl | hitem
    · exact item_zero layout (level + 1) (depth + 1)
    · obtain rfl := List.mem_singleton.1 hitem
      have hempty : Decoder.any.Takes (depth + 2) (.array []) (.array []) :=
        ⟨.array (by simp), fun layout level _ hgap => any_reads_array layout level (by simp) hgap⟩
      exact hempty.item layout (level + 1)
  | array hplain ih =>
    refine any_reads_array layout level (fun item hitem => ?_) hgap
    exact Decoder.Takes.item ⟨hplain item hitem, ih item hitem⟩ layout (level + 1)
  | @object depth members hnames _ ih =>
    intro rest
    obtain ⟨close, hclose, htext⟩ := layout.text_object level members
    have hputs : Puts (anyMember (depth + 1)) [] (layout.entries (level + 1) members) members :=
      puts_anyMember layout (level + 1) hnames fun member hmember =>
        ih member hmember layout (level + 1)
    have hread := foldMembers_written (layout.blank_line (level + 1)) hclose hputs rest
    rw [List.append_assoc, any_gap hgap, htext, List.cons_append, List.append_assoc,
      List.append_assoc, List.singleton_append, any_object, hread]
    rfl

/-- Any reader of JSON takes a plain value for itself. -/
theorem takes_any {depth : Nat} {json : Json} (h : Plain depth json) :
    Decoder.any.Takes depth json json :=
  ⟨h, any_reads h⟩

end CloudTenancy.Json
