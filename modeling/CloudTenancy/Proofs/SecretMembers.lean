import CloudTenancy.Proofs.Lookahead.Values
import CloudTenancy.Proofs.TwoRuns
import CloudTenancy.Proofs.WrittenValues

/-!
CloudTenancy.Proofs.SecretMembers — objects that differ in the value of one member.

* `Json.Members`, `Json.LeadsTo` — the text of an object up to the value of a member.
* `Json.SameButValue` — two texts with values of their own for a member.
* `Json.SameKind` — values that a reader of strings does not tell apart in what it reports.
* `Fields.Texts` — fields that are all strings.
* `SameRead` — values that belong together, with the same input left.
* `Closes` — two readings of the members of an object that end alike.

Up to the value both readings are one. There they read strings, or refuse both values at their first
byte, with as much left unread. Behind the value they go on with the same input, and with slots that
differ at most in the one of the member. So a fault is the same one, and it has the same place, as
the values are of one length and on one line.

Main statement: `sameEnd_run_record`.
-/

namespace CloudTenancy

variable {α β σ : Type}

namespace Json

/-! ## Texts -/

/-- Members of an object, each with a comma behind it. -/
inductive Members : Bytes → Prop
  | nil : Members []
  | cons {gap key gap' value gap'' more : Bytes} :
    Blank gap → skipString key = .ok [] → Blank gap' → skipValue value = .ok [] → Blank gap'' →
    Members more →
    Members (gap ++ 34 :: (key ++ (gap' ++ 58 :: (value ++ (gap'' ++ 44 :: more)))))

/-- The text of an object up to the value of a member of a name. -/
inductive LeadsTo (name : String) : Bytes → Prop
  | intro {lead members gap key gap' gap'' : Bytes} :
    Blank lead → Members members → Blank gap → readString key = .ok (name, []) → Blank gap' →
    Blank gap'' →
    LeadsTo name (lead ++ 123 :: (members ++ (gap ++ 34 :: (key ++ (gap' ++ 58 :: gap'')))))

/-- The texts are those of objects that differ at most in the value of a member of a name, whatever
follows it. The values are of one length and on one line. -/
inductive SameButValue (name : String) (R : Bytes → Bytes → Prop) : Bytes → Bytes → Prop
  | intro {front first second : Bytes} (rest : Bytes) :
    LeadsTo name front → R first second → first.length = second.length → 10 ∉ first →
    10 ∉ second → SameButValue name R (front ++ (first ++ rest)) (front ++ (second ++ rest))

/-- The values are strings that can be read, or both lists, or both objects. -/
inductive SameKind : Bytes → Bytes → Prop
  | string {first second : Bytes} {s t : String} :
    readString first = .ok (s, []) → readString second = .ok (t, []) →
    SameKind (34 :: first) (34 :: second)
  | list (first second : Bytes) : SameKind (91 :: first) (91 :: second)
  | object (first second : Bytes) : SameKind (123 :: first) (123 :: second)

/-- The values that are read belong together, and the same input is left. -/
structure SameRead (Q : α → β → Prop) (read : α × Bytes) (read' : β × Bytes) : Prop where
  value : Q read.1 read'.1
  left : read.2 = read'.2

/-! ## Fields -/

namespace Fields

/-- All fields are strings. -/
inductive Texts : {αs : List Type} → Fields αs → Prop
  | nil : Texts .nil
  | cons {αs : List Type} {field : RecordField String} {fields : Fields αs} :
    field.decoder = Decoder.string → Texts fields → Texts (.cons field fields)

def names : {αs : List Type} → Fields αs → List String
  | _, nil => []
  | _, cons field fields => field.name :: fields.names

/-- The slots differ at most in what the field of a name holds. -/
def SameSlots (name : String) : {αs : List Type} → Fields αs → Slots αs → Slots αs → Prop
  | _, nil, _, _ => True
  | _, cons field fields, (slot, slots), (slot', slots') =>
    slot.isSome = slot'.isSome ∧ (field.name ≠ name → slot = slot') ∧
      fields.SameSlots name slots slots'

/-- The rows differ at most in what the field of a name holds. -/
def SameRows (name : String) : {αs : List Type} → Fields αs → Row αs → Row αs → Prop
  | _, nil, _, _ => True
  | _, cons field fields, (value, row), (value', row') =>
    (field.name ≠ name → value = value') ∧ fields.SameRows name row row'

theorem SameSlots.refl (name : String) : {αs : List Type} → (fields : Fields αs) →
    (slots : Slots αs) → fields.SameSlots name slots slots
  | _, nil, _ => trivial
  | _, cons _ fields, (_, slots) => ⟨rfl, fun _ => rfl, SameSlots.refl name fields slots⟩

variable {name key : String} {depth : Nat}

/-- One more member, the same one in both readings. -/
theorem SameSlots.readMember (depth : Nat) (key : String) (bs : Bytes) : {αs : List Type} →
    {fields : Fields αs} → {slots slots' : Slots αs} → fields.SameSlots name slots slots' →
    SameEnd (SameRead (fields.SameSlots name)) (fields.readMember depth slots key bs)
      (fields.readMember depth slots' key bs)
  | _, nil, _, _, _ => (SameEnd.of_eq rfl).mono fun _ _ h => ⟨trivial, congrArg Prod.snd h⟩
  | _, cons field fields, (slot, slots), (slot', slots'), hsame => by
    obtain ⟨hsome, hslot, hslots⟩ := hsame
    rw [Fields.readMember, Fields.readMember]
    by_cases hkey : field.name = key
    · rw [if_pos hkey, if_pos hkey, ← hsome]
      split
      · exact .error _
      · split
        · exact .error _
        · rename_i start _
          refine (SameEnd.of_eq rfl).map fun read _ h => ?_
          cases h
          exact ⟨⟨rfl, fun _ => rfl, hslots⟩, rfl⟩
    · rw [if_neg hkey, if_neg hkey]
      exact (SameSlots.readMember depth key bs hslots).map fun _ _ h =>
        ⟨⟨hsome, hslot, h.value⟩, h.left⟩

/-- The value of a field for what its slot holds. -/
def valueOf (field : RecordField α) (slot : Option α) : Except Cause α :=
  match slot, field.absence with
  | some value, _ => .ok value
  | none, .optional value => .ok value
  | none, .defaulted value => .ok value
  | none, .required => .error (.missingField field.name)

/-- A record is complete when the value of its first field is there and the rest is complete. -/
theorem complete_cons {αs : List Type} (field : RecordField α) (fields : Fields αs)
    (slot : Option α) (slots : Slots αs) :
    (cons field fields).complete (slot, slots) =
      (valueOf field slot).bind fun value =>
        (fields.complete slots).map fun row => (value, row) := by
  obtain ⟨name, decoder, absence⟩ := field
  cases slot with
  | some value => rfl
  | none => cases absence <;> rfl

/-- Slots that are filled alike complete to rows that belong together. -/
theorem SameSlots.complete : {αs : List Type} → {fields : Fields αs} → {slots slots' : Slots αs} →
    fields.SameSlots name slots slots' →
    SameEnd (fields.SameRows name) (fields.complete slots) (fields.complete slots')
  | _, nil, _, _, _ => .ok trivial
  | _, cons field fields, (slot, slots), (slot', slots'), hsame => by
    obtain ⟨hsome, hslot, hslots⟩ := hsame
    have hvalue : SameEnd (fun value value' => field.name ≠ name → value = value')
        (valueOf field slot) (valueOf field slot') := by
      cases slot with
      | some value =>
        cases slot' with
        | none => cases hsome
        | some value' => exact .ok fun hname => Option.some.inj (hslot hname)
      | none =>
        cases slot' with
        | some value' => cases hsome
        | none => exact (SameEnd.of_eq rfl).mono fun _ _ h _ => h
    rw [complete_cons, complete_cons]
    exact SameEnd.bind hvalue fun _ _ hvalue =>
      (SameSlots.complete hslots).map fun _ _ hrows => ⟨hvalue, hrows⟩

end Fields

/-! ## Members -/

/-- Members behind the same place, all the same ones in both readings. -/
theorem sameEnd_foldMembers {Q : σ → σ → Prop} {member : σ → String → Bytes → Step σ}
    (hmember : ∀ state state' key bs, Q state state' →
      SameEnd (SameRead Q) (member state key bs) (member state' key bs))
    (n : Nat) (isFirst : Bool) {state state' : σ} (h : Q state state') (bs : Bytes) :
    SameEnd (SameRead Q) (foldMembers member n isFirst state bs)
      (foldMembers member n isFirst state' bs) := by
  induction n generalizing isFirst state state' bs with
  | zero => exact .error _
  | succ n ih =>
    rw [foldMembers, foldMembers]
    split
    · exact .error _
    · exact .ok ⟨h, rfl⟩
    · split
      · exact .error _
      · rename_i key rest _
        have hnext := hmember state state' key rest h
        generalize member state key rest = step at hnext ⊢
        generalize member state' key rest = step' at hnext ⊢
        cases hnext with
        | error fault => exact .error fault
        | @ok read read' hread =>
          obtain ⟨hstates, hrest⟩ := hread
          dsimp only
          rw [← hrest]
          exact ih false hstates read.2

/-- The readings of the members of an object end alike: where the object ends, or with a fault that
has the same place once the object has been closed. -/
inductive Closes (Q : α → β → Prop) : Step α → Step β → Prop
  | ok {a : α} {b : β} (rest : Bytes) : Q a b → Closes Q (.ok (a, rest)) (.ok (b, rest))
  | placed (cause : Cause) (left : Nat) :
    Closes Q (.error (.placed cause left)) (.error (.placed cause left))
  | floating (cause : Cause) {rest rest' : Bytes} :
    (closeObject rest).2.length = (closeObject rest').2.length →
    Closes Q (.error (.floating cause rest)) (.error (.floating cause rest'))

/-- Readings that end alike close alike. -/
theorem Closes.of_sameEnd {Q : α → β → Prop} {step : Step α} {step' : Step β}
    (h : SameEnd (SameRead Q) step step') : Closes Q step step' := by
  cases h with
  | @ok read read' h =>
    obtain ⟨a, rest⟩ := read
    obtain ⟨b, rest'⟩ := read'
    obtain ⟨hread, rfl⟩ := h
    exact .ok rest hread
  | error fault =>
    cases fault with
    | placed cause left => exact .placed cause left
    | floating cause rest => exact .floating cause rfl

/-- What is read between the brackets closes alike, and so does the object. -/
theorem Closes.enclose {Q : α → β → Prop} {step : Step α} {step' : Step β}
    (h : Closes Q step step') :
    SameEnd (SameRead Q) (enclose closeObject step) (enclose closeObject step') := by
  cases h with
  | @ok a b rest h =>
    simp only [Json.enclose]
    split
    · exact .error _
    · exact .ok ⟨h, rfl⟩
  | placed cause left => exact .error _
  | floating cause h =>
    simp only [Json.enclose, Fault.here, h]
    exact .error _

/-- Where an object ends is where the first byte stands that is no blank, which comes before what is
different in both readings. -/
theorem length_closeObject {common : Bytes} (hcommon : ¬ Blank common) {x y : Bytes}
    (hlength : x.length = y.length) :
    (closeObject (common ++ x)).2.length = (closeObject (common ++ y)).2.length := by
  have hne : skipBlanks common ≠ [] := fun hnil =>
    hcommon fun b hb => List.dropWhile_eq_nil_iff.1 hnil b hb
  obtain ⟨b, tail, hblanks⟩ := List.exists_cons_of_ne_nil hne
  have hclose : ∀ z : Bytes, (closeObject (common ++ z)).2.length =
      if b = 125 then tail.length + z.length else tail.length + z.length + 1 := by
    intro z
    unfold closeObject
    rw [skipBlanks_append hne, hblanks, List.cons_append]
    split
    · rename_i heq
      cases heq
    · rename_i heq
      cases heq
      simp
    · rename_i heq
      cases heq
      simp
    · rename_i _ h125 _
      have hb : b ≠ 125 := fun hb => h125 (tail ++ z) (by rw [hb])
      simp [hb]
  rw [hclose, hclose, hlength]

/-- A fault in a part that both readings share. -/
theorem Closes.before {Q : α → β → Prop} (fault : Fault) {common x y : Bytes}
    (hcommon : ¬ Blank common) (hlength : x.length = y.length) :
    Closes Q (.error (fault.before (common ++ x))) (.error (fault.before (common ++ y))) := by
  cases fault with
  | placed cause left =>
    simp only [Fault.before, List.length_append, hlength]
    exact .placed _ _
  | floating cause unread =>
    refine .floating cause ?_
    rw [← List.append_assoc, ← List.append_assoc]
    refine length_closeObject (fun hblank => hcommon ?_) hlength
    exact fun b hb => hblank b (List.mem_append_right _ hb)

theorem not_blank_append (gap : Bytes) {b : UInt8} (hb : isBlankByte b = false) (rest : Bytes) :
    ¬ Blank (gap ++ b :: rest) := by
  intro hblank
  have hb' := hblank b (List.mem_append_right _ List.mem_cons_self)
  rw [hb] at hb'
  cases hb'

theorem Closes.map {γ δ : Type} {Q : α → β → Prop} {S : γ → δ → Prop} {step : Step α}
    {step' : Step β} {f : α → γ} {g : β → δ} (h : Closes Q step step')
    (hmap : ∀ a b, Q a b → S (f a) (g b)) :
    Closes S (step.map fun (a, rest) => (f a, rest)) (step'.map fun (b, rest) => (g b, rest)) := by
  cases h with
  | ok rest h => exact .ok rest (hmap _ _ h)
  | placed cause left => exact .placed cause left
  | floating cause h => exact .floating cause h

theorem readColon_gap {gap : Bytes} (hgap : Blank gap) (rest : Bytes) :
    readColon (gap ++ 58 :: rest) = .ok rest := by
  simp only [readColon, skipBlanks_blank hgap (b := 58) rfl]

section

variable {name : String} {first second : Bytes}

/-- A list or an object is refused at its first byte. -/
theorem closes_string_bracket (depth : Nat) {b : UInt8} {found : Found}
    (hwrong : ∀ tail, wrongType "a string" (b :: tail) =
      .here (.invalidType found "a string") (b :: tail)) (hb : isBlankByte b = false) (h34 : b ≠ 34)
    (hlength : first.length = second.length) {gap : Bytes} (hgap : Blank gap) (rest : Bytes) :
    Closes (fun _ _ => True) (Decoder.string depth (gap ++ (b :: first ++ rest)))
      (Decoder.string depth (gap ++ (b :: second ++ rest))) := by
  have hsame : (b :: (first ++ rest)).length = (b :: (second ++ rest)).length := by simp [hlength]
  rw [List.cons_append, List.cons_append, string_of_ne (skipBlanks_blank hgap hb _) h34,
    string_of_ne (skipBlanks_blank hgap hb _) h34, hwrong, hwrong, Fault.here, Fault.here, hsame]
  exact .placed _ _

/-- The values of one kind are read as strings or refused alike. -/
theorem SameKind.closes_string (depth : Nat) (h : SameKind first second)
    (hlength : first.length = second.length) {gap : Bytes} (hgap : Blank gap) (rest : Bytes) :
    Closes (fun _ _ => True) (Decoder.string depth (gap ++ (first ++ rest)))
      (Decoder.string depth (gap ++ (second ++ rest))) := by
  cases h with
  | @string first second s t hfirst hsecond =>
    rw [List.cons_append, List.cons_append, string_quote (skipBlanks_blank hgap rfl _),
      string_quote (skipBlanks_blank hgap rfl _),
      readString_append (skipString_of_readString hfirst),
      readString_append (skipString_of_readString hsecond), hfirst, hsecond]
    exact .ok _ trivial
  | list first second =>
    exact closes_string_bracket depth (fun _ => rfl) rfl (by decide) (Nat.succ.inj hlength) hgap
      rest
  | object first second =>
    exact closes_string_bracket depth (fun _ => rfl) rfl (by decide) (Nat.succ.inj hlength) hgap
      rest

/-- The member that holds the value, as one field of a record. -/
theorem closes_readMember (depth : Nat) (hkind : SameKind first second)
    (hlength : first.length = second.length) {gap gap' : Bytes} (hgap : Blank gap)
    (hgap' : Blank gap') (rest : Bytes) {αs : List Type}
    {fields : Fields αs} (htexts : fields.Texts) (hmem : name ∈ fields.names) (slots : Slots αs) :
    Closes (fields.SameSlots name)
      (fields.readMember depth slots name (gap ++ 58 :: (gap' ++ (first ++ rest))))
      (fields.readMember depth slots name (gap ++ 58 :: (gap' ++ (second ++ rest)))) := by
  induction htexts with
  | nil => cases hmem
  | @cons αs field fields hdecoder _ ih =>
    obtain ⟨slot, slots⟩ := slots
    rw [Fields.readMember, Fields.readMember]
    by_cases hname : field.name = name
    · rw [if_pos hname, if_pos hname, readColon_gap hgap, readColon_gap hgap, hdecoder]
      split
      · have hend := length_closeObject (not_blank_append gap (b := 58) rfl gap')
          (x := first ++ rest) (y := second ++ rest) (by simp [hlength])
        refine .floating _ ?_
        simpa using hend
      · exact (hkind.closes_string depth hlength hgap' rest).map
          (f := fun value => ((some value, slots) : Slots (String :: αs)))
          (g := fun value => ((some value, slots) : Slots (String :: αs)))
          fun _ _ _ => ⟨rfl, fun h => absurd hname h, .refl name fields slots⟩
    · rw [if_neg hname, if_neg hname]
      have hmem' : name ∈ fields.names := by
        obtain rfl | hmem := List.mem_cons.1 hmem
        · exact absurd rfl hname
        · exact hmem
      exact (ih hmem' slots).map fun _ _ hslots => ⟨rfl, fun _ => rfl, hslots⟩

/-- A whole member of a record is read or refused the same whatever follows, and to its end if it is
read. -/
theorem readMember_append (depth : Nat) {gap value : Bytes} (hgap : Blank gap)
    (hvalue : skipValue value = .ok []) (key : String) {αs : List Type} {fields : Fields αs}
    (htexts : fields.Texts) (slots : Slots αs) :
    (∀ rest, Delimited rest →
      fields.readMember depth slots key (gap ++ 58 :: (value ++ rest)) =
        Step.before rest (fields.readMember depth slots key (gap ++ 58 :: value))) ∧
    ∀ next left, fields.readMember depth slots key (gap ++ 58 :: value) = .ok (next, left) →
      left = [] := by
  -- The fields are gone through as the reader goes through them, up to the one with the key.
  induction htexts with
  | nil =>
    refine ⟨fun rest hrest => ?_, fun next left h => ?_⟩
    · rw [Fields.readMember, Fields.readMember, readColon_gap hgap, readColon_gap hgap]
      dsimp only
      rw [skipValue_append hvalue fun _ => hrest, hvalue]
      rfl
    · rw [Fields.readMember, readColon_gap hgap] at h
      dsimp only at h
      rw [hvalue] at h
      cases h
      rfl
  | @cons αs field fields hdecoder _ ih =>
    obtain ⟨slot, slots⟩ := slots
    obtain ⟨hread, hend⟩ := string_append hvalue depth
    obtain ⟨hlater, hlaterEnd⟩ := ih slots
    refine ⟨fun rest hrest => ?_, fun next left h => ?_⟩
    · rw [Fields.readMember, Fields.readMember]
      by_cases hkey : field.name = key
      · rw [if_pos hkey, if_pos hkey, readColon_gap hgap, readColon_gap hgap, hdecoder]
        split
        · simp [Step.before, Fault.before]
        · dsimp only
          rw [hread rest hrest]
          exact (Step.before_map rest
            (fun value => ((some value, slots) : Slots (String :: αs))) _).symm
      · rw [if_neg hkey, if_neg hkey, hlater rest hrest]
        exact (Step.before_map rest
          (fun slots => ((slot, slots) : Slots (String :: αs))) _).symm
    · rw [Fields.readMember, readColon_gap hgap, hdecoder] at h
      split at h
      · split at h
        · cases h
        · obtain ⟨⟨s, left'⟩, hstring, hsame⟩ := exists_of_map_ok h
          cases hsame
          exact hend s left hstring
      · obtain ⟨⟨slots', left'⟩, hmember, hsame⟩ := exists_of_map_ok h
        cases hsame
        exact hlaterEnd slots' left hmember

/-! ## Objects -/

/-- What stands in front of a member: nothing in front of the first one, and a comma in front of
others. -/
def Opens (isFirst : Bool) (front : Bytes) : Prop :=
  ∀ {gap : Bytes} (rest : Bytes), Blank gap →
    nextKey isFirst (front ++ (gap ++ 34 :: rest)) = .ok (some rest)

theorem opens_first : Opens true [] := fun rest hgap => nextKey_first hgap rest

theorem opens_later {gap : Bytes} (hgap : Blank gap) : Opens false (gap ++ [44]) := by
  intro gap' rest hgap'
  unfold nextKey
  rw [List.append_assoc, List.singleton_append, skipBlanks_blank hgap rfl]
  simp [skipBlanks_blank hgap' (b := 34) rfl]

theorem foldMembers_opened {member : σ → String → Bytes → Step σ} {isFirst : Bool}
    {front gap key rest : Bytes} (hopens : Opens isFirst front) (hgap : Blank gap) (n : Nat)
    (state : σ) :
    foldMembers member (n + 1) isFirst state (front ++ (gap ++ 34 :: (key ++ rest))) =
      match readString (key ++ rest) with
      | .error fault => .error fault
      | .ok (key, rest) =>
        match member state key rest with
        | .error fault => .error fault
        | .ok (state, rest) => foldMembers member n false state rest := by
  rewrite [foldMembers, hopens _ hgap]
  rfl

/-- The member that holds the value, and all that follows it. -/
theorem closes_secret (depth : Nat) (hkind : SameKind first second)
    (hlength : first.length = second.length) {front gap key gap' gap'' : Bytes} (hgap : Blank gap)
    (hkey : readString key = .ok (name, [])) (hgap' : Blank gap') (hgap'' : Blank gap'')
    (rest : Bytes) {αs : List Type} {fields : Fields αs} (htexts : fields.Texts)
    (hmem : name ∈ fields.names) (n : Nat) {isFirst : Bool} (hopens : Opens isFirst front)
    (slots : Slots αs) :
    Closes (fields.SameSlots name)
      (foldMembers (fields.readMember depth) n isFirst slots
        (front ++ (gap ++ 34 :: (key ++ (gap' ++ 58 :: (gap'' ++ (first ++ rest)))))))
      (foldMembers (fields.readMember depth) n isFirst slots
        (front ++ (gap ++ 34 :: (key ++ (gap' ++ 58 :: (gap'' ++ (second ++ rest))))))) := by
  cases n with
  | zero =>
    simp only [foldMembers, Fault.here, List.length_append, List.length_cons, hlength]
    exact .placed _ _
  | succ n =>
    rw [foldMembers_opened hopens hgap, foldMembers_opened hopens hgap,
      readString_append (skipString_of_readString hkey),
      readString_append (skipString_of_readString hkey), hkey]
    have hmember := closes_readMember depth hkind hlength hgap' hgap'' rest htexts hmem
      slots
    simp only [Step.before, List.nil_append]
    generalize fields.readMember depth slots name (gap' ++ 58 :: (gap'' ++ (first ++ rest))) = step
      at hmember ⊢
    generalize fields.readMember depth slots name (gap' ++ 58 :: (gap'' ++ (second ++ rest))) =
      step' at hmember ⊢
    cases hmember with
    | ok left hslots =>
      exact .of_sameEnd (sameEnd_foldMembers (fun _ _ key bs h => h.readMember depth key bs) n false
        hslots left)
    | placed cause left => exact .placed cause left
    | floating cause h => exact .floating cause h

/-- Members in front of it, which are the same in both readings. -/
theorem closes_members (depth : Nat) {members : Bytes} (hmembers : Members members) {x y : Bytes}
    (hlength : x.length = y.length) {αs : List Type} {fields : Fields αs} (htexts : fields.Texts)
    {Q : Slots αs → Slots αs → Prop}
    (hlast : ∀ n {isFirst front}, Opens isFirst front → ∀ slots : Slots αs,
      Closes Q (foldMembers (fields.readMember depth) n isFirst slots (front ++ x))
        (foldMembers (fields.readMember depth) n isFirst slots (front ++ y)))
    (n : Nat) {isFirst : Bool} {front : Bytes} (hopens : Opens isFirst front) (slots : Slots αs) :
    Closes Q (foldMembers (fields.readMember depth) n isFirst slots (front ++ (members ++ x)))
      (foldMembers (fields.readMember depth) n isFirst slots (front ++ (members ++ y))) := by
  induction hmembers generalizing n isFirst front slots with
  | nil => exact hlast n hopens slots
  | @cons gap key gap' value gap'' more hgap hkey hgap' hvalue hgap'' _ ih =>
    cases n with
    | zero =>
      simp only [foldMembers, Fault.here, List.length_append, hlength]
      exact .placed _ _
    | succ n =>
      -- What is read of the member is the same in front of either rest.
      have hassoc : ∀ z : Bytes,
          gap ++ 34 :: (key ++ (gap' ++ 58 :: (value ++ (gap'' ++ 44 :: more)))) ++ z =
            gap ++ 34 :: (key ++ (gap' ++ 58 :: (value ++ (gap'' ++ [44] ++ (more ++ z))))) := by
        intro z
        simp
      have hrest : (more ++ x).length = (more ++ y).length := by simp [hlength]
      rw [hassoc, hassoc, foldMembers_opened hopens hgap, foldMembers_opened hopens hgap,
        readString_append hkey, readString_append hkey]
      cases hread : readString key with
      | error fault =>
        have hfault := Closes.before (Q := Q) fault
          (not_blank_append gap' (b := 58) rfl (value ++ (gap'' ++ [44]))) hrest
        simpa [Step.before] using hfault
      | ok step =>
        obtain ⟨word, left⟩ := step
        obtain rfl : left = [] :=
          Except.ok.inj ((skipString_of_readString hread).symm.trans hkey)
        simp only [Step.before, List.nil_append]
        obtain ⟨hmember, hend⟩ := readMember_append depth hgap' hvalue word htexts slots
        have hdelimited : ∀ z : Bytes, Delimited (gap'' ++ [44] ++ z) := by
          intro z
          rw [List.append_assoc]
          exact delimited_gap hgap'' (b := 44) rfl _
        rw [hmember _ (hdelimited _), hmember _ (hdelimited _)]
        cases hstep : fields.readMember depth slots word (gap' ++ 58 :: value) with
        | error fault => exact .before fault (not_blank_append gap'' (b := 44) rfl []) hrest
        | ok step =>
          obtain ⟨next, left⟩ := step
          obtain rfl := hend next left hstep
          exact ih n (opens_later hgap'') next

end

/-! ## Records -/

section

variable {αs : List Type} {fields : Fields αs} {build : Row αs → β}

def completed (fields : Fields αs) (build : Row αs → β) : Step (Slots αs) → Step β
  | .error fault => .error fault
  | .ok (slots, after) =>
    match fields.complete slots with
    | .error cause => .error (.floating cause after)
    | .ok row => .ok (build row, after)

/-- A record that begins with a brace is read member by member. -/
theorem record_object {bs tail : Bytes} (hblanks : skipBlanks bs = 123 :: tail) (record : String)
    (depth : Nat) :
    Decoder.record record fields build depth bs =
      descend depth (123 :: tail) fun depth =>
        enclose closeObject (completed fields build
          (foldMembers (fields.readMember depth) (tail.length + 1) true fields.empty tail)) := by
  simp only [Decoder.record, hblanks]
  rfl

/-- Slots that differ in one field are completed to rows that do, or lack the same field. -/
theorem Closes.completed {name : String} {Q : β → β → Prop} {step step' : Step (Slots αs)}
    (h : Closes (fields.SameSlots name) step step')
    (hbuild : ∀ row row', fields.SameRows name row row' → Q (build row) (build row')) :
    Closes Q (completed fields build step) (completed fields build step') := by
  cases h with
  | @ok slots slots' rest hslots =>
    have hcomplete := hslots.complete
    simp only [Json.completed]
    generalize fields.complete slots = result at hcomplete ⊢
    generalize fields.complete slots' = result' at hcomplete ⊢
    cases hcomplete with
    | ok hrows => exact .ok rest (hbuild _ _ hrows)
    | error cause => exact .floating cause rfl
  | placed cause left => exact .placed cause left
  | floating cause h => exact .floating cause h

/-- The depth is the same in both readings, so that neither goes too deep alone. -/
theorem sameEnd_descend {Q : α × Bytes → α × Bytes → Prop} {bs bs' : Bytes}
    {read read' : Nat → Step α} (hlength : bs.length = bs'.length)
    (h : ∀ depth, SameEnd Q (read depth) (read' depth)) (depth : Nat) :
    SameEnd Q (descend depth bs read) (descend depth bs' read') := by
  unfold descend
  split
  · exact h _
  · rw [Fault.next, Fault.next, hlength]
    exact .error _

variable {name : String} {text text' : Bytes}

/-- The texts of records that differ in the value of one member are read alike. -/
theorem sameEnd_record (h : SameButValue name SameKind text text') (record : String)
    (htexts : fields.Texts) (hmem : name ∈ fields.names) {Q : β → β → Prop}
    (hbuild : ∀ row row', fields.SameRows name row row' → Q (build row) (build row'))
    (depth : Nat) :
    SameEnd (SameRead Q) (Decoder.record record fields build depth text)
      (Decoder.record record fields build depth text') := by
  obtain @⟨_, first, second, rest, hfront, hkind, hlength, -, -⟩ := h
  obtain @⟨lead, members, gap, key, gap', gap'', hlead, hmembers, hgap, hkey, hgap', hgap''⟩ :=
    hfront
  have hassoc : ∀ z : Bytes,
      lead ++ 123 :: (members ++ (gap ++ 34 :: (key ++ (gap' ++ 58 :: gap'')))) ++ (z ++ rest) =
        lead ++ 123 :: (members ++
          (gap ++ 34 :: (key ++ (gap' ++ 58 :: (gap'' ++ (z ++ rest)))))) := by
    intro z
    simp
  have hlast : (gap ++ 34 :: (key ++ (gap' ++ 58 :: (gap'' ++ (first ++ rest))))).length =
      (gap ++ 34 :: (key ++ (gap' ++ 58 :: (gap'' ++ (second ++ rest))))).length := by
    simp [hlength]
  rw [hassoc, hassoc, record_object (skipBlanks_blank hlead rfl _),
    record_object (skipBlanks_blank hlead rfl _)]
  refine sameEnd_descend (by simp [hlength]) (fun depth => Closes.enclose ?_) depth
  rw [List.length_append, hlast, ← List.length_append]
  refine Closes.completed ?_ hbuild
  exact closes_members depth hmembers hlast htexts
    (fun n _ _ hopens slots =>
      closes_secret depth hkind hlength hgap hkey hgap' hgap'' rest htexts hmem n hopens slots)
    _ opens_first fields.empty

/-! ## Places -/

def lineEnds (bs : Bytes) : List Bool := bs.map (· == 10)

/-- A place only depends on where the lines end. -/
theorem Place.after_congr {read read' : Bytes} (h : lineEnds read = lineEnds read') :
    after read = after read' := by
  have hafter : ∀ read : Bytes, after read =
      ⟨(lineEnds read).count true + 1, ((lineEnds read).reverse.takeWhile (!·)).length⟩ := by
    intro read
    have hcount : (lineEnds read).count true = read.count 10 := by
      simp [lineEnds, List.count, List.countP_map, Function.comp_def]
    have hcolumn : (lineEnds read).reverse.takeWhile (!·) =
        (read.reverse.takeWhile (· ≠ 10)).map (· == 10) := by
      rw [lineEnds, ← List.map_reverse, List.takeWhile_map]
      congr 2
      funext b
      cases hb : b == 10 <;> simp_all
    rw [after, hcount, hcolumn, List.length_map]
  rw [hafter, hafter, h]

/-- A fault has the same place in texts whose lines end at the same bytes. -/
theorem Fault.toError_congr (h : lineEnds text = lineEnds text') (fault : Fault) :
    fault.toError text = fault.toError text' := by
  cases fault with
  | floating cause rest => rfl
  | placed cause left =>
    have hlength : text.length = text'.length := by
      simpa [lineEnds] using congrArg List.length h
    have htake : lineEnds (text.take (text.length - left)) =
        lineEnds (text'.take (text'.length - left)) := by
      simp only [lineEnds] at h ⊢
      rw [List.map_take, List.map_take, h, hlength]
    rw [toError, toError, Place.after_congr htake]

theorem SameButValue.lineEnds_eq {R : Bytes → Bytes → Prop} (h : SameButValue name R text text') :
    lineEnds text = lineEnds text' := by
  have hnone : ∀ {value : Bytes}, 10 ∉ value →
      lineEnds value = List.replicate value.length false := by
    intro value hvalue
    refine List.eq_replicate_iff.2 ⟨List.length_map .., fun isEnd hmem => ?_⟩
    obtain ⟨b, hb, rfl⟩ := List.mem_map.1 hmem
    exact beq_eq_false_iff_ne.2 fun heq => hvalue (heq ▸ hb)
  cases h with
  | intro rest _ _ hlength hfirst hsecond =>
    have hvalues := (hnone hfirst).trans (hlength ▸ (hnone hsecond).symm)
    simp only [lineEnds, List.map_append] at hvalues ⊢
    rw [hvalues]

/-- The texts of records that differ in the value of one member are decoded alike. -/
theorem sameEnd_run_record (h : SameButValue name SameKind text text') (record : String)
    (htexts : fields.Texts) (hmem : name ∈ fields.names) {Q : β → β → Prop}
    (hbuild : ∀ row row', fields.SameRows name row row' → Q (build row) (build row')) :
    SameEnd Q ((Decoder.record record fields build).run text)
      ((Decoder.record record fields build).run text') := by
  have hplaces := Fault.toError_congr h.lineEnds_eq
  have hread := sameEnd_record h record htexts hmem hbuild depthLimit
  unfold Decoder.run
  generalize Decoder.record record fields build depthLimit text = step at hread ⊢
  generalize Decoder.record record fields build depthLimit text' = step' at hread ⊢
  cases hread with
  | error fault =>
    dsimp only
    rw [hplaces]
    exact .error _
  | @ok read read' hread =>
    obtain ⟨value, rest⟩ := read
    obtain ⟨value', rest'⟩ := read'
    obtain ⟨hvalue, rfl⟩ := hread
    dsimp only
    split
    · exact .ok hvalue
    · rw [hplaces]
      exact .error _

end

end Json

end CloudTenancy
