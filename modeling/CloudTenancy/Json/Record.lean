import CloudTenancy.Json.Decoder

/-!
CloudTenancy.Json.Record — reading objects with known fields.

* `Absence` — what a field is when it is left out.
* `RecordField`, `Fields` — one field and its type, and a list of fields with the list of their
  types.
* `Row`, `Slots` — a value for every field; perhaps a value for every field.
* `Fields.readMember` — one member of an object put into its slot. Members of other names are passed
  over, and a field that comes twice is an error.
* `Fields.readItems` — the fields in order, for a record written as a list.
* `record` — the decoder of a structure.

Main statement: slots that are all filled complete to their row.
-/

namespace CloudTenancy.Json

/-! ## Fields -/

/-- What a field is when it is left out. -/
inductive Absence (α : Type)
  /-- The record is refused. -/
  | required
  /-- An object may leave the field out, a list may not. -/
  | optional (value : α)
  /-- The value that stands for it everywhere. -/
  | defaulted (value : α)

/-- A field of a record. -/
structure RecordField (α : Type) where
  name : String
  decoder : Decoder α
  absence : Absence α

/-- The fields of a record, in order, with their types. -/
inductive Fields : List Type → Type 1
  | nil : Fields []
  | cons {α : Type} {αs : List Type} (field : RecordField α) (rest : Fields αs) : Fields (α :: αs)

def Row : List Type → Type
  | [] => Unit
  | α :: αs => α × Row αs

def Slots : List Type → Type
  | [] => Unit
  | α :: αs => Option α × Slots αs

namespace Fields

def empty : {αs : List Type} → Fields αs → Slots αs
  | _, nil => ()
  | _, cons _ rest => (none, rest.empty)

def fill : {αs : List Type} → Fields αs → Row αs → Slots αs
  | _, nil, _ => ()
  | _, cons _ rest, (value, row) => (some value, rest.fill row)

/-- The member of name `key`, in front of its colon. -/
def readMember (depth : Nat) :
    {αs : List Type} → Fields αs → Slots αs → String → Bytes → Step (Slots αs)
  | _, nil, slots, _, bs =>
    match readColon bs with
    | .error fault => .error fault
    | .ok bs => (skipValue bs).map fun rest => (slots, rest)
  | _, cons field rest, (slot, slots), key, bs =>
    if field.name = key then
      if slot.isSome then .error (.floating (.duplicateField key) bs)
      else match readColon bs with
        | .error fault => .error fault
        | .ok bs => (field.decoder depth bs).map fun (value, after) => ((some value, slots), after)
    else (rest.readMember depth slots key bs).map fun (slots, after) => ((slot, slots), after)

/-- The values of an object that has been read, with those of the fields it leaves out. -/
def complete : {αs : List Type} → Fields αs → Slots αs → Except Cause (Row αs)
  | _, nil, _ => .ok ()
  | _, cons field rest, (slot, slots) =>
    let value := match slot, field.absence with
      | some value, _ => Except.ok value
      | none, .optional value => .ok value
      | none, .defaulted value => .ok value
      | none, .required => .error (Cause.missingField field.name)
    match value with
    | .error cause => .error cause
    | .ok value => (rest.complete slots).map fun row => (value, row)

/-- The items of a record written as a list, from the field of number `index` on. -/
def readItems (expected : String) (depth : Nat) :
    {αs : List Type} → Fields αs → Nat → Bytes → Step (Row αs)
  | _, nil, _, bs => .ok ((), bs)
  | _, cons field rest, index, bs =>
    match nextItem (index == 0) bs with
    | .error fault => .error fault
    | .ok none =>
      match field.absence with
      | .defaulted value =>
        (rest.readItems expected depth (index + 1) bs).map fun (row, after) => ((value, row), after)
      | _ => .error (.floating (.invalidLength index expected) (skipBlanks bs))
    | .ok (some start) =>
      match field.decoder depth start with
      | .error fault => .error fault
      | .ok (value, bs) =>
        (rest.readItems expected depth (index + 1) bs).map fun (row, after) => ((value, row), after)

def size : {αs : List Type} → Fields αs → Nat
  | _, nil => 0
  | _, cons _ rest => rest.size + 1

/-- A row fills all slots, and full slots complete to their row. -/
theorem complete_fill : {αs : List Type} → (fields : Fields αs) → (row : Row αs) →
    fields.complete (fields.fill row) = .ok row
  | _, nil, _ => rfl
  | _, cons _ rest, (value, row) => by
    have ih := complete_fill rest row
    simp only [fill, complete]
    rw [ih]
    rfl

end Fields

/-! ## Records -/

def elementCount (n : Nat) : String :=
  toString n ++ if n = 1 then " element" else " elements"

/-- A structure, written as an object or as the list of its fields. -/
def Decoder.record {αs : List Type} {β : Type} (name : String) (fields : Fields αs)
    (build : Row αs → β) : Decoder β := fun depth bs =>
  match skipBlanks bs with
  | [] => .error (.next .endInValue [])
  | 91 :: rest =>
    descend depth (91 :: rest) fun depth =>
      let expected := "struct " ++ name ++ " with " ++ elementCount fields.size
      (enclose closeList (fields.readItems expected depth 0 rest)).map fun (row, after) =>
        (build row, after)
  | 123 :: rest =>
    descend depth (123 :: rest) fun depth =>
      let members := foldMembers (fields.readMember depth) (rest.length + 1) true fields.empty rest
      enclose closeObject <| match members with
        | .error fault => .error fault
        | .ok (slots, after) =>
          match fields.complete slots with
          | .error cause => .error (.floating cause after)
          | .ok row => .ok (build row, after)
  | start => .error (wrongType ("struct " ++ name) start)

end CloudTenancy.Json
