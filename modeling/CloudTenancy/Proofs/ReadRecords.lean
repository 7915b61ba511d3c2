import CloudTenancy.Api.Decode
import CloudTenancy.Http.Message

/-!
CloudTenancy.Proofs.ReadRecords — what holds of every value that has been read.

* `Json.Decoder.Gives` — a decoder that gives only values with a property.
* `Json.Guards` — a property for every field of a record.
* `Json.Fields.Gives` — fields whose values, read or left out, have their properties.

A record is read from an object, member by member in any order, or from a list. `Slots.Meets` is
what one more member keeps; the slots that are filled at the end make the row.

Main statements: `gives_record`, and that the page count of a collection fits 64 bits.
-/

namespace CloudTenancy

namespace Json

variable {α : Type}

theorem exists_of_map_ok {ε β : Type} {f : α → β} {result : Except ε α} {b : β}
    (h : result.map f = .ok b) : ∃ a, result = .ok a ∧ f a = b := by
  cases result with
  | error error => cases h
  | ok a => exact ⟨a, rfl, Except.ok.inj h⟩

/-- All values that the decoder gives have the property. -/
def Decoder.Gives (decoder : Decoder α) (P : α → Prop) : Prop :=
  ∀ depth bs value rest, decoder depth bs = .ok (value, rest) → P value

/-! ## Numbers -/

/-- Digits are gathered only while the number fits. -/
theorem gather_lt {value : Nat} (h : value < Nat.pow 2 64) (ds : Bytes) :
    (gather value ds).1 < Nat.pow 2 64 := by
  induction ds generalizing value with
  | nil => exact h
  | cons d ds ih =>
    simp only [gather]
    split
    · rename_i hfits
      exact ih hfits
    · exact h

/-- What has a fraction or an exponent is read as no natural number, even where it denotes one. -/
theorem not_natural_finishDouble {isNegative : Bool} {significand : Nat} {exponent : Int}
    {bs rest : Bytes} {n : Nat} :
    finishDouble isNegative significand exponent bs ≠ .ok (.natural n, rest) := by
  unfold finishDouble
  split <;> simp

theorem not_natural_readExponent {isNegative : Bool} {significand : Nat} {exponent : Int}
    {bs rest : Bytes} {n : Nat} :
    readExponent isNegative significand exponent bs ≠ .ok (.natural n, rest) := by
  have hend : ∀ (tooLarge : Prop) [Decidable tooLarge] (after : Bytes),
      (if tooLarge then .error (.here .numberOutOfRange after)
        else finishDouble isNegative 0 0 (after.dropWhile isDigitByte)) ≠
        (.ok (.natural n, rest) : Step Number) := by
    intro tooLarge _ after
    split
    · simp
    · exact not_natural_finishDouble
  unfold readExponent
  dsimp only
  split
  · simp
  · split
    · simp
    · split
      · exact not_natural_finishDouble
      · exact hend _ _

theorem not_natural_readFraction {isNegative : Bool} {significand : Nat} {exponent : Int}
    {bs rest : Bytes} {n : Nat} :
    readFraction isNegative significand exponent bs ≠ .ok (.natural n, rest) := by
  unfold readFraction
  dsimp only
  split
  · simp
  · unfold readScale
    split
    · exact not_natural_readExponent
    · exact not_natural_readExponent
    · exact not_natural_finishDouble

/-- A natural number that was read is the one that its digits denote. -/
theorem readTail_natural {isNegative : Bool} {significand dropped n : Nat} {bs rest : Bytes}
    (h : readTail isNegative significand dropped bs = .ok (.natural n, rest)) :
    n = significand := by
  unfold readTail at h
  split at h
  · exact absurd h not_natural_readFraction
  · exact absurd h not_natural_readExponent
  · exact absurd h not_natural_readExponent
  · split at h
    · unfold ofInteger at h
      split at h
      · simp only [Except.ok.injEq, Prod.mk.injEq, Number.natural.injEq] at h
        exact h.1.symm
      · split at h
        · exact absurd h not_natural_finishDouble
        · simp at h
    · exact absurd h not_natural_finishDouble

/-- Numbers that do not fit 64 bits are read as doubles. -/
theorem readNumber_natural_lt {isNegative : Bool} {bs rest : Bytes} {n : Nat}
    (h : readNumber isNegative bs = .ok (.natural n, rest)) : n < Nat.pow 2 64 := by
  unfold readNumber at h
  split at h
  · simp at h
  · split at h
    · simp at h
    · rw [readTail_natural h]
      decide
  · split at h
    · simp at h
    · rw [readTail_natural h]
      exact gather_lt (by decide) _

/-- An integer is a number that has been read and is accepted. -/
theorem integerOf_ok {type : String} {accept : Number → Option α} {depth : Nat} {bs rest : Bytes}
    {value : α} (h : Decoder.integerOf type accept depth bs = .ok (value, rest)) :
    ∃ isNegative input n after,
      readNumber isNegative input = .ok (n, after) ∧ accept n = some value := by
  unfold Decoder.integerOf at h
  dsimp only at h
  split at h
  · simp at h
  · rename_i input _
    cases hread : readNumber true input with
    | error fault => simp [hread] at h
    | ok read =>
      refine ⟨true, input, read.1, read.2, hread, ?_⟩
      rw [hread] at h
      dsimp only at h
      split at h <;> simp_all
  · rename_i b input _ _
    split at h
    · cases hread : readNumber false (b :: input) with
      | error fault => simp [hread] at h
      | ok read =>
        refine ⟨false, b :: input, read.1, read.2, hread, ?_⟩
        rw [hread] at h
        dsimp only at h
        split at h <;> simp_all
    · simp at h

/-- A natural number that was decoded has at most sixty-four bits. -/
theorem gives_natural : Decoder.natural.Gives (· < Nat.pow 2 64) := by
  intro depth bs value rest h
  obtain ⟨isNegative, input, n, after, hread, haccept⟩ := integerOf_ok h
  cases n with
  | natural n =>
    cases haccept
    exact readNumber_natural_lt hread
  | negative n => cases haccept
  | double bits => cases haccept

/-! ## Records -/

/-- A property for every field. -/
inductive Guards : List Type → Type 1
  | nil : Guards []
  | cons {α : Type} {αs : List Type} (P : α → Prop) (rest : Guards αs) : Guards (α :: αs)

def Row.Meets : {αs : List Type} → Guards αs → Row αs → Prop
  | _, .nil, _ => True
  | _, .cons P rest, (value, row) => P value ∧ Row.Meets rest row

def Slots.Meets : {αs : List Type} → Guards αs → Slots αs → Prop
  | _, .nil, _ => True
  | _, .cons P rest, (slot, slots) =>
    (∀ value, slot = some value → P value) ∧ Slots.Meets rest slots

def Absence.Meets (P : α → Prop) : Absence α → Prop
  | .required => True
  | .optional value => P value
  | .defaulted value => P value

/-- Every field gives only values with its property. -/
def Fields.Gives : {αs : List Type} → Guards αs → Fields αs → Prop
  | _, .nil, .nil => True
  | _, .cons P guards, .cons field rest =>
    field.decoder.Gives P ∧ field.absence.Meets P ∧ rest.Gives guards

theorem Slots.meets_empty : {αs : List Type} → (guards : Guards αs) → (fields : Fields αs) →
    Slots.Meets guards fields.empty
  | _, .nil, .nil => trivial
  | _, .cons _ guards, .cons _ rest => ⟨by simp, Slots.meets_empty guards rest⟩

/-- One more member keeps the slots as they should be. -/
theorem Slots.Meets.readMember {depth : Nat} {key : String} {bs after : Bytes} :
    {αs : List Type} → {guards : Guards αs} → {fields : Fields αs} → {slots slots' : Slots αs} →
    fields.Gives guards → Slots.Meets guards slots →
    fields.readMember depth slots key bs = .ok (slots', after) → Slots.Meets guards slots'
  | _, .nil, .nil, _, _, _, _, _ => trivial
  | _, .cons P guards, .cons field rest, (slot, slots), (slot', slots'), hgives, hmeets, h => by
    obtain ⟨hfield, -, hrest⟩ := hgives
    obtain ⟨hslot, hslots⟩ := hmeets
    rw [Fields.readMember] at h
    split at h
    · split at h
      · simp at h
      · cases hcolon : readColon bs with
        | error fault => simp [hcolon] at h
        | ok start =>
          rw [hcolon] at h
          obtain ⟨read, hvalue, heq⟩ := exists_of_map_ok h
          cases heq
          refine ⟨?_, hslots⟩
          intro value hsome
          cases hsome
          exact hfield depth start read.1 read.2 hvalue
    · obtain ⟨read, hlater, heq⟩ := exists_of_map_ok h
      cases heq
      exact ⟨hslot, Slots.Meets.readMember hrest hslots hlater⟩

/-- Where a reader of members comes to the end, so does one that goes along with it from member to
member. -/
theorem foldMembers_follow {σ τ : Type} {member : σ → String → Bytes → Step σ}
    {member' : τ → String → Bytes → Step τ} {R : σ → τ → Prop} {n : Nat} {isFirst : Bool}
    {state last : σ} {state' : τ} {bs rest : Bytes}
    (h : foldMembers member n isFirst state bs = .ok (last, rest)) (hstart : R state state')
    (hmember : ∀ state next state' key bs rest, R state state' →
      member state key bs = .ok (next, rest) →
      ∃ next', member' state' key bs = .ok (next', rest) ∧ R next next') :
    ∃ last', foldMembers member' n isFirst state' bs = .ok (last', rest) ∧ R last last' := by
  induction n generalizing isFirst state state' bs with
  | zero => cases h
  | succ n ih =>
    rw [foldMembers] at h ⊢
    split at h
    · cases h
    · cases h
      exact ⟨state', rfl, hstart⟩
    · split at h
      · cases h
      · split at h
        · cases h
        · rename_i hread
          obtain ⟨next', hnext', hnext⟩ := hmember _ _ _ _ _ _ hstart hread
          obtain ⟨last', hlast', hlast⟩ := ih h hnext
          refine ⟨last', ?_, hlast⟩
          simp only [hnext', hlast']

/-- What every member keeps holds of the whole object. -/
theorem foldMembers_induction {σ : Type} {member : σ → String → Bytes → Step σ} {Inv : σ → Prop}
    (hmember : ∀ state key bs state' rest, Inv state → member state key bs = .ok (state', rest) →
      Inv state') {fuel : Nat} {isFirst : Bool} {state state' : σ} {bs rest : Bytes}
    (hstart : Inv state) (h : foldMembers member fuel isFirst state bs = .ok (state', rest)) :
    Inv state' := by
  obtain ⟨_, -, rfl, hinv⟩ :=
    foldMembers_follow (R := fun state other => state = other ∧ Inv state) h ⟨rfl, hstart⟩ (by
      rintro state next _ key bs rest ⟨rfl, hinv⟩ hread
      exact ⟨next, hread, rfl, hmember _ _ _ _ _ hinv hread⟩)
  exact hinv

/-- Slots make a row, with what stands for the fields that were left out. -/
theorem Slots.Meets.complete : {αs : List Type} → {guards : Guards αs} → {fields : Fields αs} →
    {slots : Slots αs} → {row : Row αs} → fields.Gives guards → Slots.Meets guards slots →
    fields.complete slots = .ok row → Row.Meets guards row
  | _, .nil, .nil, _, _, _, _, _ => trivial
  | _, .cons P guards, .cons field rest, (slot, slots), (value, row), hgives, hmeets, h => by
    obtain ⟨-, habsence, hrest⟩ := hgives
    obtain ⟨hslot, hslots⟩ := hmeets
    simp only [Fields.complete] at h
    split at h
    · simp at h
    · rename_i given hgiven
      obtain ⟨later, hlater, heq⟩ := exists_of_map_ok h
      cases heq
      refine ⟨?_, Slots.Meets.complete hrest hslots hlater⟩
      -- A slot holds what was read, or the field says what an absent member stands for.
      cases slot with
      | some read =>
        cases hgiven
        exact hslot _ rfl
      | none =>
        cases hfield : field.absence with
        | required => simp [hfield] at hgiven
        | optional fallback =>
          rw [hfield] at hgiven habsence
          cases hgiven
          exact habsence
        | defaulted fallback =>
          rw [hfield] at hgiven habsence
          cases hgiven
          exact habsence

/-- The items of a record that is written as a list. -/
theorem Fields.meets_readItems {expected : String} {depth : Nat} :
    {αs : List Type} → {guards : Guards αs} → {fields : Fields αs} → {index : Nat} →
    {bs after : Bytes} → {row : Row αs} → fields.Gives guards →
    fields.readItems expected depth index bs = .ok (row, after) → Row.Meets guards row
  | _, .nil, .nil, _, _, _, _, _, _ => trivial
  | _, .cons P guards, .cons field rest, index, bs, after, (value, row), hgives, h => by
    obtain ⟨hfield, habsence, hrest⟩ := hgives
    unfold Fields.readItems at h
    split at h
    · simp at h
    · split at h
      · rename_i fallback hdefault
        rw [hdefault] at habsence
        obtain ⟨later, hlater, heq⟩ := exists_of_map_ok h
        cases heq
        exact ⟨habsence, Fields.meets_readItems hrest hlater⟩
      · simp at h
    · split at h
      · simp at h
      · rename_i hread
        obtain ⟨later, hlater, heq⟩ := exists_of_map_ok h
        cases heq
        exact ⟨hfield _ _ _ _ hread, Fields.meets_readItems hrest hlater⟩

theorem descend_ok {depth : Nat} {bs rest : Bytes} {read : Nat → Step α} {value : α}
    (h : descend depth bs read = .ok (value, rest)) :
    ∃ depth', read depth' = .ok (value, rest) := by
  unfold descend at h
  split at h
  · exact ⟨_, h⟩
  · simp at h

theorem enclose_ok {close : Bytes → Except Fault Unit × Bytes} {contents : Step α} {value : α}
    {rest : Bytes} (h : enclose close contents = .ok (value, rest)) :
    ∃ after, contents = .ok (value, after) ∧ close after = (.ok (), rest) := by
  unfold enclose at h
  split at h
  · simp at h
  · simp at h
  · rename_i after
    split at h
    · simp at h
    · rename_i hclose
      cases h
      exact ⟨after, rfl, hclose⟩

/-- A record is built from values that have their properties. -/
theorem gives_record {αs : List Type} {β : Type} {name : String} {fields : Fields αs}
    {build : Row αs → β} {guards : Guards αs} (hgives : fields.Gives guards) :
    (Decoder.record name fields build).Gives
      fun value => ∃ row, Row.Meets guards row ∧ value = build row := by
  intro depth bs value rest h
  unfold Decoder.record at h
  split at h
  · simp at h
  · obtain ⟨depth', h⟩ := descend_ok h
    obtain ⟨read, hitems, heq⟩ := exists_of_map_ok h
    cases heq
    obtain ⟨after, hread, -⟩ := enclose_ok hitems
    exact ⟨read.1, Fields.meets_readItems hgives hread, rfl⟩
  · obtain ⟨depth', h⟩ := descend_ok h
    obtain ⟨after, h, -⟩ := enclose_ok h
    split at h
    · simp at h
    · rename_i slots _ hmembers
      split at h
      · simp at h
      · rename_i row hrow
        simp only [Except.ok.injEq, Prod.mk.injEq] at h
        have hslots := foldMembers_induction
          (fun _ _ _ _ _ hmeets hread => Slots.Meets.readMember hgives hmeets hread)
          (Slots.meets_empty guards fields) hmembers
        exact ⟨row, Slots.Meets.complete hgives hslots hrow, h.1.symm⟩
  · simp at h

/-- A text is decoded only if nothing but blanks is left behind the value. -/
theorem run_ok {decoder : Decoder α} {input : Bytes} {value : α}
    (h : decoder.run input = .ok value) :
    ∃ rest, decoder depthLimit input = .ok (value, rest) ∧ skipBlanks rest = [] := by
  unfold Decoder.run at h
  split at h
  · simp at h
  · rename_i rest hread
    split at h
    · rename_i hblanks
      cases h
      exact ⟨rest, hread, hblanks⟩
    · simp at h

end Json

/-! ## Replies -/

/-- What a reply holds has been read from its body. -/
theorem Reply.decode_ok {α : Type} {reply : Reply} {decoder : Json.Decoder α} {value : α}
    (h : reply.decode decoder = .ok value) :
    ∃ rest, decoder Json.depthLimit reply.body = .ok (value, rest) := by
  unfold Reply.decode at h
  split at h
  · simp at h
  · split at h
    · rename_i hrun
      cases h
      obtain ⟨rest, hread, -⟩ := Json.run_ok hrun
      exact ⟨rest, hread⟩
    · simp at h

/-- The page count of a collection fits 64 bits. -/
theorem Page.pageCount_lt {α : Type} {decoder : Json.Decoder α} {reply : Reply} {page : Page α}
    (h : reply.decode (Page.decoder decoder) = .ok page) : page.pageCount < Nat.pow 2 64 := by
  have hgives : (Page.fields decoder).Gives
      (.cons (fun _ => True) <| .cons (· < Nat.pow 2 64) <| .cons (fun _ => True) <|
        .cons (fun _ => True) .nil) :=
    ⟨fun _ _ _ _ _ => trivial, trivial, Json.gives_natural, (by decide : 0 < Nat.pow 2 64),
      fun _ _ _ _ _ => trivial, trivial, fun _ _ _ _ _ => trivial, trivial, trivial⟩
  obtain ⟨rest, hread⟩ := Reply.decode_ok h
  obtain ⟨row, hrow, rfl⟩ := Json.gives_record hgives _ _ _ _ hread
  exact hrow.2.1

end CloudTenancy
