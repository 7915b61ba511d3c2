import CloudTenancy.Json.Skip

/-!
CloudTenancy.Json.Decoder — reading values of a wanted type.

* `Decoder` — reads a value of one type from the front of a byte sequence, at a given depth.
* `string`, `bool`, `natural`, `integer`, `option`, `list` — decoders of the basic types.
* `any` — reads any JSON value.
* `Decoder.run` — reads a whole text.

A value of another kind is read to its end before it is refused, except that lists and objects are
refused at their first byte. Values nest at most `depthLimit - 1` deep.
-/

namespace CloudTenancy.Json

/-- Reads a value. The first argument is how many levels of nesting are left. -/
abbrev Decoder (α : Type) := Nat → Bytes → Step α

def depthLimit : Nat := 128

/-! ## Values of the wrong kind -/

/-- Refuses the value in front, which is not blank: reads it if it is a scalar, and reports what it
is together with what was wanted. -/
def wrongType (expected : String) (bs : Bytes) : Fault :=
  let report := fun (found : Found) (rest : Bytes) => Fault.here (.invalidType found expected) rest
  let ident := fun (tail rest : Bytes) (found : Found) =>
    match readIdent tail rest with
    | .error fault => fault
    | .ok rest => report found rest
  let number := fun (step : Step Number) =>
    match step with
    | .error fault => fault
    | .ok (n, rest) => report (.number n) rest
  match bs with
  | [] => .next .expectedValue []
  | 110 :: rest => ident nullTail rest .null
  | 116 :: rest => ident trueTail rest (.bool true)
  | 102 :: rest => ident falseTail rest (.bool false)
  | 45 :: rest => number (readNumber true rest)
  | 34 :: rest =>
    match readString rest with
    | .error fault => fault
    | .ok (s, rest) => report (.string s) rest
  | 91 :: _ => report .sequence bs
  | 123 :: _ => report .map bs
  | b :: _ => if isDigitByte b then number (readNumber false bs) else .next .expectedValue bs

namespace Decoder

/-! ## Scalars -/

def string : Decoder String := fun _ bs =>
  match skipBlanks bs with
  | [] => .error (.next .endInValue [])
  | 34 :: rest => readString rest
  | start => .error (wrongType "a string" start)

def bool : Decoder Bool := fun _ bs =>
  match skipBlanks bs with
  | [] => .error (.next .endInValue [])
  | 116 :: rest => (readIdent trueTail rest).map fun rest => (true, rest)
  | 102 :: rest => (readIdent falseTail rest).map fun rest => (false, rest)
  | start => .error (wrongType "a boolean" start)

/-- A number of one of the integer types, named `type`, that `accept` takes. -/
def integerOf {α : Type} (type : String) (accept : Number → Option α) : Decoder α := fun _ bs =>
  let check := fun (step : Step Number) => match step with
    | .error fault => .error fault
    | .ok (n, rest) =>
      match accept n, n with
      | some value, _ => .ok (value, rest)
      | none, .double _ => .error (.here (.invalidType (.number n) type) rest)
      | none, _ => .error (.here (.invalidValue (.number n) type) rest)
  match skipBlanks bs with
  | [] => .error (.next .endInValue [])
  | 45 :: rest => check (readNumber true rest)
  | b :: rest =>
    if isDigitByte b then check (readNumber false (b :: rest))
    else .error (wrongType type (b :: rest))

def natural : Decoder Nat :=
  integerOf "u64" fun
    | .natural n => some n
    | _ => none

def integer : Decoder Int :=
  integerOf "i64" fun
    | .natural n => if n < Nat.pow 2 63 then some n else none
    | .negative n => some (-n)
    | .double _ => none

def option {α : Type} (decoder : Decoder α) : Decoder (Option α) := fun depth bs =>
  match skipBlanks bs with
  | 110 :: rest => (readIdent nullTail rest).map fun rest => (none, rest)
  | start => (decoder depth start).map fun (value, rest) => (some value, rest)

end Decoder

/-! ## Brackets -/

def closeList (bs : Bytes) : Except Fault Unit × Bytes :=
  match skipBlanks bs with
  | [] => (.error (.next .endInList []), [])
  | 93 :: rest => (.ok (), rest)
  | 44 :: rest =>
    let rest := skipBlanks rest
    if rest.head? = some 93 then (.error (.next .trailingComma rest), rest)
    else (.error (.next .trailingCharacters rest), rest)
  | rest => (.error (.next .trailingCharacters rest), rest)

def closeObject (bs : Bytes) : Except Fault Unit × Bytes :=
  match skipBlanks bs with
  | [] => (.error (.next .endInObject []), [])
  | 125 :: rest => (.ok (), rest)
  | 44 :: rest => (.error (.next .trailingComma (44 :: rest)), 44 :: rest)
  | rest => (.error (.next .trailingCharacters rest), rest)

/-- The end of a bracket behind its contents. A fault in the contents that has no place yet is
reported where the bracket ends. -/
def enclose {α : Type} (close : Bytes → Except Fault Unit × Bytes) (contents : Step α) : Step α :=
  match contents with
  | .error (.floating cause rest) => .error (.here cause (close rest).2)
  | .error fault => .error fault
  | .ok (value, rest) =>
    match close rest with
    | (.error fault, _) => .error fault
    | (.ok (), rest) => .ok (value, rest)

/-- Enters a bracket, unless that is too deep. `bs` stands in front of the bracket. -/
def descend {α : Type} (depth : Nat) (bs : Bytes) (read : Nat → Step α) : Step α :=
  match depth with
  | n + 2 => read (n + 1)
  | _ => .error (.next .tooDeep bs)

/-! ## Lists -/

/-- Where the next item of a list starts, none in front of the closing bracket. -/
def nextItem (isFirst : Bool) (bs : Bytes) : Except Fault (Option Bytes) :=
  match skipBlanks bs with
  | [] => .error (.next .endInList [])
  | 93 :: _ => .ok none
  | b :: rest =>
    if isFirst then .ok (some (b :: rest))
    else if b = 44 then
      match skipBlanks rest with
      | [] => .error (.next .endInValue [])
      | 93 :: rest => .error (.next .trailingComma (93 :: rest))
      | start => .ok (some start)
    else .error (.next .expectedListCommaOrEnd (b :: rest))

/-- The items of a list up to its closing bracket. Every item takes at least one byte. -/
def readItems {α : Type} (item : Bytes → Step α) : Nat → Bool → Bytes → Step (List α)
  | 0, _, bs => .error (.here .endInList bs)
  | n + 1, isFirst, bs =>
    match nextItem isFirst bs with
    | .error fault => .error fault
    | .ok none => .ok ([], skipBlanks bs)
    | .ok (some start) =>
      match item start with
      | .error fault => .error fault
      | .ok (value, rest) =>
        (readItems item n false rest).map fun (more, rest) => (value :: more, rest)

def Decoder.list {α : Type} (decoder : Decoder α) : Decoder (List α) := fun depth bs =>
  match skipBlanks bs with
  | [] => .error (.next .endInValue [])
  | 91 :: rest =>
    descend depth (91 :: rest) fun depth =>
      enclose closeList (readItems (decoder depth) (rest.length + 1) true rest)
  | start => .error (wrongType "a sequence" start)

/-! ## Objects -/

/-- Where the next key of an object starts, behind its quote, none in front of the closing
bracket. -/
def nextKey (isFirst : Bool) (bs : Bytes) : Except Fault (Option Bytes) :=
  match skipBlanks bs with
  | [] => .error (.next .endInObject [])
  | 125 :: _ => .ok none
  | b :: rest =>
    let key := fun (bs : Bytes) => match bs with
      | 34 :: rest => Except.ok (some rest)
      | rest => .error (.next .keyNotString rest)
    if isFirst then key (b :: rest)
    else if b = 44 then
      match skipBlanks rest with
      | [] => .error (.next .endInValue [])
      | 125 :: rest => .error (.next .trailingComma (125 :: rest))
      | start => key start
    else .error (.next .expectedObjectCommaOrEnd (b :: rest))

def readColon (bs : Bytes) : Except Fault Bytes :=
  match skipBlanks bs with
  | [] => .error (.next .endInObject [])
  | 58 :: rest => .ok rest
  | rest => .error (.next .expectedColon rest)

/-- The members of an object up to its closing bracket, folded over a value. The reader of a member
gets the key and stands in front of the colon. Every member takes at least one byte. -/
def foldMembers {σ : Type} (member : σ → String → Bytes → Step σ) :
    Nat → Bool → σ → Bytes → Step σ
  | 0, _, _, bs => .error (.here .endInObject bs)
  | n + 1, isFirst, state, bs =>
    match nextKey isFirst bs with
    | .error fault => .error fault
    | .ok none => .ok (state, skipBlanks bs)
    | .ok (some start) =>
      match readString start with
      | .error fault => .error fault
      | .ok (key, rest) =>
        match member state key rest with
        | .error fault => .error fault
        | .ok (state, rest) => foldMembers member n false state rest

/-! ## Any value -/

/-- Any value that is no list and no object, whose first byte is not blank. -/
def readScalar (bs : Bytes) : Step Json :=
  match bs with
  | [] => .error (.next .endInValue [])
  | 110 :: rest => (readIdent nullTail rest).map fun rest => (.null, rest)
  | 116 :: rest => (readIdent trueTail rest).map fun rest => (.bool true, rest)
  | 102 :: rest => (readIdent falseTail rest).map fun rest => (.bool false, rest)
  | 34 :: rest => (readString rest).map fun (s, rest) => (.string s, rest)
  | 45 :: rest => (readNumber true rest).map fun (n, rest) => (.number n, rest)
  | b :: _ =>
    if isDigitByte b then (readNumber false bs).map fun (n, rest) => (.number n, rest)
    else .error (.next .expectedValue bs)

/-- Any JSON value. Of several members with one key the last one counts. -/
def Decoder.any : Decoder Json
  | 0, bs => .error (.next .tooDeep bs)
  | depth + 1, bs =>
    match skipBlanks bs with
    | 91 :: rest =>
      if depth = 0 then .error (.next .tooDeep (91 :: rest))
      else
        enclose closeList <|
          (readItems (any depth) (rest.length + 1) true rest).map fun (items, rest) =>
            (.array items, rest)
    | 123 :: rest =>
      if depth = 0 then .error (.next .tooDeep (123 :: rest))
      else
        let member := fun (members : List (String × Json)) (key : String) (bs : Bytes) =>
          match readColon bs with
          | .error fault => .error fault
          | .ok bs => (any depth bs).map fun (value, rest) => (put key value members, rest)
        enclose closeObject <|
          (foldMembers member (rest.length + 1) true [] rest).map fun (members, rest) =>
            (.object members, rest)
    | start => readScalar start

/-! ## Whole texts -/

/-- Reads a text that holds one value, with blanks around it. -/
def Decoder.run {α : Type} (decoder : Decoder α) (input : Bytes) : Except Error α :=
  match decoder depthLimit input with
  | .error fault => .error (fault.toError input)
  | .ok (value, rest) =>
    match skipBlanks rest with
    | [] => .ok value
    | rest => .error (Fault.toError input (.next .trailingCharacters rest))

end CloudTenancy.Json
