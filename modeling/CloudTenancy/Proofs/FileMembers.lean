import CloudTenancy.Proofs.Rotation
import CloudTenancy.Proofs.TokenFiles

/-!
CloudTenancy.Proofs.FileMembers — what becomes of the members of a token file at a login.

* `Decoder.members` — the members of an object, each with the text of its value.
* `Decoder.under` — what a decoder makes of the values under one name.
* `Json.SameButFor` — objects that have the same members but for the value under one name.
* `Fields.Told` — slots that hold what the members tell.
* `ServiceAccountFile.Rotates` — the members of a file before and after its token was replaced.

The reader of a record passes over members that it does not know. So it goes through an object in
step with the reader that puts all members down, and at the end the slots hold what these tell. What
is written afterwards is the record and nothing else.

Main statement: `rotation_keeps_the_account`.
-/

namespace CloudTenancy

variable {α β : Type}

namespace Json

/-! ## The members of an object -/

def collect (entries : List Entry) (key : String) (bs : Bytes) : Step (List Entry) :=
  match readColon bs with
  | .error fault => .error fault
  | .ok start =>
    (skipValue start).map fun rest =>
      (entries ++ [(key, start.take (start.length - rest.length))], rest)

/-- All members of an object, in order, with the texts of their values. -/
def Decoder.members : Decoder (List Entry) := fun _ bs =>
  match skipBlanks bs with
  | 123 :: rest => enclose closeObject (foldMembers collect (rest.length + 1) true [] rest)
  | start => .error (wrongType "a map" start)

/-- The values under a name, as a decoder reads them. -/
def Decoder.under (decoder : Decoder α) (name : String) (entries : List Entry) :
    List (Except Error α) :=
  (entries.filter (·.1 = name)).map fun entry => decoder.run entry.2

/-- The texts are the same, or both are read as the same value. -/
def SameValue (first second : Bytes) : Prop :=
  first = second ∨ ∃ value, Decoder.any.run first = .ok value ∧ Decoder.any.run second = .ok value

/-- The objects have the same members, but for the value under one name. Where a name comes more
than once, its values come in the same order. -/
def SameButFor (name : String) (before after : List Entry) : Prop :=
  ∀ key, List.Forall₂ (fun entry entry' => key = name ∨ SameValue entry.2 entry'.2)
    (before.filter (·.1 = key)) (after.filter (·.1 = key))

namespace Decoder

variable {decoder : Decoder α} {name key : String} {entries : List Entry}

/-- A member of another name is not found under this one. -/
theorem under_append_of_ne (h : name ≠ key) (raw : Bytes) :
    decoder.under name (entries ++ [(key, raw)]) = decoder.under name entries := by
  simp [under, List.filter_append, Ne.symm h]

/-- A member of this name comes last. -/
theorem under_append_self (raw : Bytes) :
    decoder.under name (entries ++ [(name, raw)]) =
      decoder.under name entries ++ [decoder.run raw] := by
  simp [under, List.filter_append]

/-- There is one value under a name, if one is read there. -/
theorem exists_of_under {value : α} (h : decoder.under name entries = [.ok value]) :
    ∃ raw, entries.filter (·.1 = name) = [(name, raw)] ∧ decoder.run raw = .ok value := by
  obtain ⟨entry, hentries, hrun⟩ := List.map_eq_singleton_iff.1 h
  have hmem : entry ∈ entries.filter (·.1 = name) := by simp [hentries]
  obtain rfl : entry.1 = name := by simpa using (List.mem_filter.1 hmem).2
  exact ⟨entry.2, hentries, hrun⟩

theorem length_under (decoder : Decoder α) (name : String) (entries : List Entry) :
    (decoder.under name entries).length = (entries.filter (·.1 = name)).length :=
  List.length_map ..

end Decoder

theorem count_names (entries : List Entry) (name : String) :
    (entries.map (·.1)).count name = (entries.filter (·.1 = name)).length := by
  rw [List.count, List.countP_map, List.countP_eq_length_filter]
  rfl

/-- Putting members into another order keeps the number of each name. -/
theorem length_filter_eq_of_perm {before after : List Entry}
    (h : (before.map (·.1)).Perm (after.map (·.1))) (name : String) :
    (before.filter (·.1 = name)).length = (after.filter (·.1 = name)).length := by
  rw [← count_names, ← count_names, h.count_eq]

/-- Objects with the same members have the same names. -/
theorem SameButFor.perm_names {name : String} {before after : List Entry}
    (h : SameButFor name before after) : (before.map (·.1)).Perm (after.map (·.1)) := by
  refine List.perm_iff_count.2 fun key => ?_
  rw [count_names, count_names, (h key).length_eq]

/-- Collecting a member keeps the bytes of its value as they stand. -/
theorem collect_ok {entries entries' : List Entry} {key : String} {bs rest : Bytes}
    (h : collect entries key bs = .ok (entries', rest)) :
    ∃ raw, entries' = entries ++ [(key, raw)] := by
  unfold collect at h
  split at h
  · cases h
  · obtain ⟨left, -, heq⟩ := exists_of_map_ok h
    cases heq
    exact ⟨_, rfl⟩

/-- A value that can be skipped can be collected. -/
theorem collect_of_skip {entries : List Entry} {key : String} {bs front rest : Bytes}
    (hcolon : readColon bs = .ok (front ++ rest)) (hskip : skipValue (front ++ rest) = .ok rest) :
    collect entries key bs = .ok (entries ++ [(key, front)], rest) := by
  simp [collect, hcolon, hskip, Except.map]

/-! ## Strings as values -/

section

variable {depth : Nat} {start left : Bytes} {s : String}

/-- Only a quoted text is decoded as one. -/
theorem exists_quote_of_string (h : Decoder.string depth start = .ok (s, left)) :
    ∃ tail, skipBlanks start = 34 :: tail ∧ readString tail = .ok (s, left) := by
  cases hblanks : skipBlanks start with
  | nil => simp [Decoder.string, hblanks] at h
  | cons b tail =>
    by_cases h34 : b = 34
    · subst h34
      exact ⟨tail, rfl, string_quote hblanks depth ▸ h⟩
    · rw [string_of_ne hblanks h34] at h
      cases h

/-- A string that is read is passed over in the same way, and its text reads back on its own. -/
theorem string_ok (h : Decoder.string depth start = .ok (s, left)) :
    skipValue start = .ok left ∧
      ∃ front, start = front ++ left ∧ Decoder.string.run front = .ok s := by
  obtain ⟨tail, hblanks, htail⟩ := exists_quote_of_string h
  have hskip := skipString_of_readString htail
  refine ⟨?_, ?_⟩
  · rw [skipValue, walk_scalar hblanks (by decide) (by decide)]
    simp only [skipScalar, hskip]
    rfl
  · obtain ⟨inner, rfl, hinner⟩ := exists_front_of_skipString hskip
    rw [readString_append hinner] at htail
    obtain ⟨gap, rfl, hgap⟩ : ∃ gap, start = gap ++ 34 :: (inner ++ left) ∧ Blank gap := by
      refine ⟨start.takeWhile isBlankByte, ?_, fun b hb => List.mem_takeWhile_imp hb⟩
      rw [← hblanks, skipBlanks, List.takeWhile_append_dropWhile]
    have hread : readString inner = .ok (s, []) := by
      cases hread : readString inner with
      | error fault =>
        rw [hread] at htail
        cases htail
      | ok step =>
        obtain ⟨s', left'⟩ := step
        rw [hread] at htail
        obtain ⟨rfl, hleft⟩ := Prod.mk.inj (Except.ok.inj htail)
        rw [List.append_left_eq_self.1 hleft]
    refine ⟨gap ++ 34 :: inner, by simp, ?_⟩
    simp [Decoder.run, string_quote (skipBlanks_blank hgap (b := 34) rfl inner), hread, skipBlanks]

/-- A text that is read as a string is that string. -/
theorem run_any_of_string {raw : Bytes} {s : String} (h : Decoder.string.run raw = .ok s) :
    Decoder.any.run raw = .ok (.string s) := by
  obtain ⟨rest, hread, hrest⟩ := run_ok h
  obtain ⟨tail, hblanks, htail⟩ := exists_quote_of_string hread
  have hany : ∀ depth, Decoder.any (depth + 1) raw = .ok (.string s, rest) := by
    intro depth
    rw [Decoder.any, hblanks]
    change readScalar (34 :: tail) = _
    rw [readScalar, htail]
    rfl
  simp only [Decoder.run, depthLimit, hany 127, hrest]

end

/-- Objects with one string each under a name have the same values there if the strings are the
same. -/
theorem sameValues_of_under {name key first second : String} {before after : List Entry}
    (hfirst : Decoder.string.under key before = [.ok first])
    (hsecond : Decoder.string.under key after = [.ok second]) (h : key = name ∨ first = second) :
    List.Forall₂ (fun entry entry' : Entry => key = name ∨ SameValue entry.2 entry'.2)
      (before.filter (·.1 = key)) (after.filter (·.1 = key)) := by
  obtain ⟨raw, hraw, hrun⟩ := Decoder.exists_of_under hfirst
  obtain ⟨raw', hraw', hrun'⟩ := Decoder.exists_of_under hsecond
  rw [hraw, hraw']
  refine .cons (h.imp_right fun heq => .inr ⟨.string first, run_any_of_string hrun, ?_⟩) .nil
  rw [heq, run_any_of_string hrun']

/-! ## Reading in step -/

namespace Fields

/-- Every slot holds what is read under the name of its field. -/
def Told (entries : List Entry) : {αs : List Type} → Fields αs → Slots αs → Prop
  | _, nil, _ => True
  | _, cons field fields, (slot, slots) =>
    field.decoder.under field.name entries = slot.toList.map .ok ∧ fields.Told entries slots

theorem told_empty : {αs : List Type} → (fields : Fields αs) → fields.Told [] fields.empty
  | _, nil => trivial
  | _, cons _ fields => ⟨rfl, told_empty fields⟩

/-- Members of other names tell the fields nothing. -/
theorem Told.append {entries : List Entry} {key : String} (raw : Bytes) : {αs : List Type} →
    {fields : Fields αs} → {slots : Slots αs} → key ∉ fields.names → fields.Told entries slots →
    fields.Told (entries ++ [(key, raw)]) slots
  | _, nil, _, _, _ => trivial
  | _, cons field fields, (slot, slots), hkey, h => by
    obtain ⟨hslot, hslots⟩ := h
    rw [names, List.mem_cons, not_or] at hkey
    refine ⟨?_, hslots.append raw hkey.2⟩
    rw [Decoder.under_append_of_ne (Ne.symm hkey.1), hslot]

/-- A reader of strings and the reader that puts all members down go along with each other. -/
theorem Told.readMember (depth : Nat) {entries : List Entry} {key : String} {bs rest : Bytes}
    {αs : List Type} {fields : Fields αs} (htexts : fields.Texts) (hnames : fields.names.Nodup)
    {slots next : Slots αs} (h : fields.Told entries slots)
    (hread : fields.readMember depth slots key bs = .ok (next, rest)) :
    ∃ entries', collect entries key bs = .ok (entries', rest) ∧ fields.Told entries' next := by
  induction htexts with
  | nil =>
    rw [Fields.readMember] at hread
    split at hread
    · cases hread
    · rename_i start hcolon
      obtain ⟨left, hskip, heq⟩ := exists_of_map_ok hread
      cases heq
      simp [collect, hcolon, hskip, Except.map, Told]
  | @cons αs field fields hdecoder _ ih =>
    obtain ⟨slot, slots⟩ := slots
    obtain ⟨hslot, hslots⟩ := h
    rw [names, List.nodup_cons] at hnames
    rw [Fields.readMember] at hread
    by_cases hkey : field.name = key
    · subst hkey
      rw [if_pos rfl] at hread
      split at hread
      · cases hread
      · rename_i hsome
        -- A field that comes twice is refused, so nothing has been read under this name.
        obtain rfl : slot = none := by simpa using hsome
        split at hread
        · cases hread
        · rename_i start hcolon
          rw [hdecoder] at hread
          obtain ⟨⟨s, left⟩, hstring, heq⟩ := exists_of_map_ok hread
          cases heq
          obtain ⟨hskip, front, rfl, hrun⟩ := string_ok hstring
          refine ⟨_, collect_of_skip hcolon hskip, ?_, hslots.append front hnames.1⟩
          rw [Decoder.under_append_self, hslot, hdecoder, hrun]
          rfl
    · rw [if_neg hkey] at hread
      obtain ⟨⟨next', left⟩, hmember, heq⟩ := exists_of_map_ok hread
      cases heq
      obtain ⟨entries', hcollect, htold⟩ := ih hnames.2 hslots hmember
      obtain ⟨raw, rfl⟩ := collect_ok hcollect
      refine ⟨_, hcollect, ?_, htold⟩
      rw [Decoder.under_append_of_ne hkey, hslot]

end Fields

/-- The members of an object that is read as a record, and what they tell. -/
theorem run_members_of_record {record : String} {αs : List Type} {fields : Fields αs}
    {build : Row αs → β} {text : Bytes} {value : β} (htexts : fields.Texts)
    (hnames : fields.names.Nodup) (hobject : (skipBlanks text).head? = some 123)
    (h : (Decoder.record record fields build).run text = .ok value) :
    ∃ entries slots row, Decoder.members.run text = .ok entries ∧ fields.Told entries slots ∧
      fields.complete slots = .ok row ∧ value = build row := by
  obtain ⟨rest, hread, hrest⟩ := run_ok h
  obtain ⟨tail, hblanks⟩ := List.head?_eq_some_iff.1 hobject
  rw [record_object hblanks] at hread
  obtain ⟨depth, hread⟩ := descend_ok hread
  obtain ⟨after, hread, hclose⟩ := enclose_ok hread
  unfold completed at hread
  split at hread
  · cases hread
  · rename_i slots after' hmembers
    split at hread
    · cases hread
    · rename_i row hrow
      cases hread
      obtain ⟨entries, hentries, htold⟩ :=
        foldMembers_follow (R := fun slots entries => fields.Told entries slots) hmembers
          fields.told_empty fun _ _ _ _ _ _ htold => htold.readMember depth htexts hnames
      refine ⟨entries, slots, row, ?_, htold, hrow, rfl⟩
      have hwhole : Decoder.members depthLimit text = .ok (entries, rest) := by
        simp only [Decoder.members, hblanks, hentries, enclose, hclose]
      simp only [Decoder.run, hwhole, hrest]

/-! ## Written objects -/

/-- Members whose texts are values are put down as they are written. -/
theorem puts_collect {entries : List Entry}
    (h : ∀ entry ∈ entries, ∀ rest, skipValue (entry.2 ++ rest) = .ok rest) (front : List Entry) :
    Puts collect front entries (front ++ entries) := by
  induction entries generalizing front with
  | nil =>
    rw [List.append_nil]
    exact .nil
  | cons entry entries ih =>
    have hlater := ih (fun other hother => h other (List.mem_cons_of_mem entry hother))
      (front ++ [entry])
    rw [List.append_assoc] at hlater
    exact .cons (fun rest => collect_of_skip rfl (h entry List.mem_cons_self rest)) hlater

/-- The members of an object that has been written are those that were written. -/
theorem run_members_of_written {gap close : Bytes} {entries : List Entry} (hgap : Blank gap)
    (hclose : Blank close)
    (h : ∀ entry ∈ entries, ∀ rest, skipValue (entry.2 ++ rest) = .ok rest) :
    Decoder.members.run
        (123 :: (commaSeparated (entries.map (gap ++ ·.text)) ++ (close ++ [125]))) =
      .ok entries := by
  have hmembers := foldMembers_written hgap hclose (puts_collect h []) []
  have hstart : ∀ rest, skipBlanks (123 :: rest) = 123 :: rest := fun _ => rfl
  have hend : closeObject [125] = (.ok (), []) := rfl
  have hwhole : Decoder.members depthLimit
      (123 :: (commaSeparated (entries.map (gap ++ ·.text)) ++ (close ++ [125]))) =
        .ok (entries, []) := by
    simp only [Decoder.members, hstart, hmembers, enclose, hend, List.nil_append]
  simp only [Decoder.run, hwhole]
  rfl

end Json

/-! ## Files of service accounts -/

namespace ServiceAccountFile

open Json (Entry Decoder Fields SameButFor SameValue)

/-- What a login with a new refresh token makes of the members of a file. -/
structure Rotates (token : String) (before after : List Entry) : Prop where
  /-- All that is written are the members that a login reads. -/
  names : after.map (·.1) = fields.names
  /-- The new token is in the place of the old one. -/
  refreshToken : (∃ old, Decoder.string.under "refresh_token" before = [.ok old]) ∧
    Decoder.string.under "refresh_token" after = [.ok token]
  clientId : ∃ id, Decoder.string.under "client_id" before = [.ok id] ∧
    Decoder.string.under "client_id" after = [.ok id]
  /-- The type is empty where the file gave none. -/
  tokenType : ∃ type, Decoder.string.under "token_type" after = [.ok type] ∧
    (Decoder.string.under "token_type" before = [.ok type] ∨
      Decoder.string.under "token_type" before = [] ∧ type = "")

/-- The members of the file have different names. -/
theorem nodup_names : fields.names.Nodup := by decide

/-- What is written is read back as the members it was made of. -/
theorem run_members_contents (file : ServiceAccountFile) :
    Decoder.members.run file.contents = .ok file.entries := by
  have hstring : ∀ s rest, Json.skipValue (32 :: Json.writeString s ++ rest) = .ok rest :=
    fun s rest => (Json.string_ok (reads_value 0 s rest)).1
  rw [contents_eq]
  refine Json.run_members_of_written (Json.blank_newLine 1) (Json.blank_newLine 0) ?_
  simp only [entries, List.forall_mem_cons]
  exact ⟨hstring _, hstring _, hstring _, by simp⟩

/-- Every member that is written stands under its name once. -/
theorem under_entries (file : ServiceAccountFile) :
    Decoder.string.under "token_type" file.entries = [.ok file.tokenType] ∧
      Decoder.string.under "refresh_token" file.entries = [.ok file.refreshToken] ∧
      Decoder.string.under "client_id" file.entries = [.ok file.clientId] := by
  have hstring : ∀ s, Decoder.string.run (32 :: Json.writeString s) = .ok s :=
    fun s => (reads_value _ s).run
  simp [entries, Decoder.under, hstring]

/-- What the members of a file tell that is read as an object. -/
theorem members_of_run {text : Bytes} {file : ServiceAccountFile}
    (hobject : (Json.skipBlanks text).head? = some 123) (h : decoder.run text = .ok file) :
    ∃ before, Decoder.members.run text = .ok before ∧
      Decoder.string.under "refresh_token" before = [.ok file.refreshToken] ∧
      Decoder.string.under "client_id" before = [.ok file.clientId] ∧
      (Decoder.string.under "token_type" before = [.ok file.tokenType] ∨
        Decoder.string.under "token_type" before = [] ∧ file.tokenType = "") := by
  obtain ⟨before, ⟨type?, token?, id?, _⟩, row, hbefore, ⟨htype, htoken, hid, -⟩, hrow, rfl⟩ :=
    Json.run_members_of_record texts_fields nodup_names hobject h
  refine ⟨before, hbefore, ?_⟩
  cases token? with
  | none => cases type? <;> cases hrow
  | some token =>
    cases id? with
    | none => cases type? <;> cases hrow
    | some id =>
      cases type? with
      | none =>
        cases hrow
        exact ⟨htoken, hid, .inr ⟨htype, rfl⟩⟩
      | some type =>
        cases hrow
        exact ⟨htoken, hid, .inl htype⟩

/-- What is written with a new token has the members of what was read. -/
theorem rotates {text : Bytes} {file : ServiceAccountFile} (token : String)
    (hobject : (Json.skipBlanks text).head? = some 123) (h : decoder.run text = .ok file) :
    ∃ before after, Decoder.members.run text = .ok before ∧
      Decoder.members.run { file with refreshToken := token }.contents = .ok after ∧
      Rotates token before after := by
  obtain ⟨before, hbefore, htoken, hid, htype⟩ := members_of_run hobject h
  obtain ⟨htype', htoken', hid'⟩ := under_entries { file with refreshToken := token }
  refine ⟨before, _, hbefore, run_members_contents _, rfl, ⟨⟨_, htoken⟩, htoken'⟩,
    ⟨_, hid, hid'⟩, ⟨_, htype', htype⟩⟩

/-- All else is kept exactly if the file had these members and no other ones. -/
theorem Rotates.sameButFor_iff {token : String} {before after : List Entry}
    (h : Rotates token before after) :
    SameButFor "refresh_token" before after ↔ (before.map (·.1)).Perm fields.names := by
  rw [← h.names]
  refine ⟨SameButFor.perm_names, fun hperm key => ?_⟩
  have hlength := Json.length_filter_eq_of_perm hperm
  obtain ⟨⟨old, hold⟩, hnew⟩ := h.refreshToken
  obtain ⟨id, hid, hid'⟩ := h.clientId
  obtain ⟨type, htype', htype⟩ := h.tokenType
  -- Under the three names there is one value in either object, under all other names there is none.
  by_cases hkey : key ∈ after.map (·.1)
  · have hcases : key = "token_type" ∨ key = "refresh_token" ∨ key = "client_id" := by
      rw [h.names] at hkey
      simpa [fields, Fields.names, defaulted, required] using hkey
    obtain rfl | rfl | rfl := hcases
    · have hsame : Decoder.string.under "token_type" before = [.ok type] := by
        refine htype.resolve_right fun hnone => ?_
        have hempty := hlength "token_type"
        rw [← Decoder.length_under Decoder.string, ← Decoder.length_under Decoder.string, hnone.1,
          htype'] at hempty
        cases hempty
      exact Json.sameValues_of_under hsame htype' (.inr rfl)
    · exact Json.sameValues_of_under hold hnew (.inl rfl)
    · exact Json.sameValues_of_under hid hid' (.inr rfl)
  · have hafter : after.filter (·.1 = key) = [] := by
      refine List.filter_eq_nil_iff.2 fun entry hmem hname => hkey ?_
      obtain rfl : entry.1 = key := by simpa using hname
      exact List.mem_map_of_mem hmem
    have hbefore : before.filter (·.1 = key) = [] := by
      rw [← List.length_eq_zero_iff, hlength key, hafter]
      rfl
    rw [hbefore, hafter]
    exact .nil

end ServiceAccountFile

/-! ## Logins -/

namespace Login

variable {settings : Settings} {path : String} {net later : Network} {file : ServiceAccountFile}
  {grant : TokenGrant} {token : String} {client : Client}

/-- A login that is granted a new refresh token writes it before it is done. -/
theorem exists_write_of_connect
    (hcredentials : settings.credentials = .serviceAccountTokenFile path)
    (h : net.files.Holds path file) (hgrants : Grants settings file net grant)
    (htoken : grant.refreshToken? = some token)
    (hconnect : (Client.connect settings).perform net = (.ok client, later)) :
    ∃ files : FileSystem,
      files.write path { file with refreshToken := token }.contents = .ok later.files := by
  have hlogin := serviceAccount_of_holds settings h
  rw [← token_eq hcredentials] at hlogin
  have hgranted := refresh_ok_iff.2 hgrants
  cases hrefresh : (refresh settings file.refreshToken (some file.clientId)).perform net with
  | mk result left =>
    rw [hrefresh] at hgranted
    obtain rfl : result = .ok grant := hgranted
    rw [Call.perform_bind_of_ok hrefresh] at hlogin
    cases hwrite : left.files.write path { file with refreshToken := token }.contents with
    | error failure =>
      rw [keep_of_unwritten htoken hwrite] at hlogin
      rw [connect_of_error hlogin] at hconnect
      cases hconnect
    | ok written =>
      rw [keep_of_written htoken hwrite] at hlogin
      obtain ⟨client', -, hdone⟩ := connect_of_ok hlogin
      rw [hdone] at hconnect
      cases hconnect
      exact ⟨left.files, hwrite⟩

end Login

/-- **What a new refresh token leaves of the file.** A login of a service account that is granted a
new refresh token, whose file is an object, leaves an object there with the members that a login
reads, and no other ones: the new token, and the client id and the type as they were. So the members
are the same but for the token exactly if the file had these three and no other ones. -/
theorem rotation_keeps_the_account (settings : Settings) (path : String) (net later : Network)
    (text : String) (file : ServiceAccountFile) (grant : TokenGrant) (token : String)
    (client : Client) (hcredentials : settings.credentials = .serviceAccountTokenFile path)
    (htext : net.files.readText path = .ok text)
    (hobject : (Json.skipBlanks (Utf8.encode text)).head? = some 123)
    (hfile : ServiceAccountFile.decoder.run (Utf8.encode text) = .ok file)
    (hgrants : Login.Grants settings file net grant) (htoken : grant.refreshToken? = some token)
    (hconnect : (Client.connect settings).perform net = (.ok client, later)) :
    ∃ before text' after, Json.Decoder.members.run (Utf8.encode text) = .ok before ∧
      later.files.readText path = .ok text' ∧
      Json.Decoder.members.run (Utf8.encode text') = .ok after ∧
      ServiceAccountFile.Rotates token before after ∧
      (Json.SameButFor "refresh_token" before after ↔
        (before.map (·.1)).Perm ServiceAccountFile.fields.names) := by
  obtain ⟨before, after, hbefore, hafter, hrotates⟩ :=
    ServiceAccountFile.rotates token hobject hfile
  obtain ⟨files, hwrite⟩ :=
    Login.exists_write_of_connect hcredentials ⟨text, htext, hfile⟩ hgrants htoken hconnect
  obtain ⟨text', htext'⟩ := { file with refreshToken := token }.isText_contents
  rw [← htext'] at hwrite hafter
  exact ⟨before, text', after, hbefore, FileSystem.readText_of_write hwrite, hafter, hrotates,
    hrotates.sameButFor_iff⟩

/-! ### Samples -/

/-- A token file without a type, and with a note. -/
def notedText : String :=
  "\x7b\"refresh_token\": \"first\", \"client_id\": \"robot\", \"note\": \"keep\"\x7d"

def notedFiles : FileSystem := [("f", .file (Utf8.encode notedText))]

/-- What a login with a new refresh token makes of it. -/
theorem rotation_keeps_the_account_of_robot :
    sampleVisit.settings.credentials = .serviceAccountTokenFile "f" ∧
    notedFiles.readText "f" = .ok notedText ∧
    (Json.skipBlanks (Utf8.encode notedText)).head? = some 123 ∧
    ∃ before text' after, Json.Decoder.members.run (Utf8.encode notedText) = .ok before ∧
      (sampleVisit.login notedFiles).2.files.readText "f" = .ok text' ∧
      Json.Decoder.members.run (Utf8.encode text') = .ok after ∧
      ServiceAccountFile.Rotates "\"" before after := by
  have htext : notedFiles.readText "f" = .ok notedText := ok_of_toOption (by decide +kernel)
  have hfile : ServiceAccountFile.decoder.run (Utf8.encode notedText) =
      .ok { refreshToken := "first", clientId := "robot" } := ok_of_toOption (by decide +kernel)
  have hgrants : Login.Grants sampleVisit.settings { refreshToken := "first", clientId := "robot" }
      (sampleVisit.network notedFiles) { accessToken := "a", refreshToken? := some "\"" } :=
    Login.refresh_ok_iff.1 (ok_of_toOption (by decide +kernel))
  have hdone : (sampleVisit.login notedFiles).1.toOption.isSome = true := by decide +kernel
  cases hlogin : sampleVisit.login notedFiles with
  | mk result later =>
    rw [hlogin] at hdone
    cases result with
    | error error => cases hdone
    | ok client =>
      obtain ⟨before, text', after, hbefore, htext', hafter, hrotates, -⟩ :=
        rotation_keeps_the_account sampleVisit.settings "f" (sampleVisit.network notedFiles) later
          notedText _ _ _ client rfl htext (by decide +kernel) hfile hgrants rfl hlogin
      exact ⟨rfl, htext, by decide +kernel, before, text', after, hbefore, htext', hafter, hrotates⟩

def rotatedText : String :=
  "\x7b\n  \"token_type\": \"\",\n  \"refresh_token\": \"\\\"\",\n  \"client_id\": \"robot\"\n\x7d"

/-- The note is in the file before the login, and it is not there afterwards. -/
theorem note_is_lost_at_rotation :
    (sampleVisit.login notedFiles).1.toOption.isSome = true ∧
    ∃ before after, Json.Decoder.members.run (Utf8.encode notedText) = .ok before ∧
      (sampleVisit.login notedFiles).2.files.readText "f" = .ok rotatedText ∧
      Json.Decoder.members.run (Utf8.encode rotatedText) = .ok after ∧
      "note" ∈ before.map (·.1) ∧ "note" ∉ after.map (·.1) ∧
      ¬ Json.SameButFor "refresh_token" before after := by
  refine ⟨by decide +kernel,
    [("refresh_token", Utf8.encode " \"first\""), ("client_id", Utf8.encode " \"robot\""),
      ("note", Utf8.encode " \"keep\"")],
    ServiceAccountFile.entries { refreshToken := "\"", clientId := "robot" },
    ok_of_toOption (by decide +kernel), ok_of_toOption (by decide +kernel),
    ok_of_toOption (by decide +kernel), by decide, by decide, fun hsame => ?_⟩
  exact absurd (hsame "note").length_eq (by decide)

end CloudTenancy
