import CloudTenancy.Json.Record

/-!
CloudTenancy.Value — the value of an attribute in a configuration, a plan or a state.

* `Value` — null, unknown, or known.
* `Value.text` — the text of a string attribute, empty unless it is known.
* `Value.toJson` — null as null, unknown as `[0, []]`, a known value as itself.
* `Value.ofJson?`, `Value.decoder` — the way back. A known value is tried first; any pair of an
  8-bit integer and bytes is unknown.

Main statement: a value that has been written reads back, provided that the known values do so and
none of them looks like null or unknown.
-/

namespace CloudTenancy

inductive Value (α : Type)
  /-- Left out. -/
  | null
  /-- Not decided before the change is applied. -/
  | unknown
  | known (value : α)
  deriving DecidableEq, Repr

namespace Value

variable {α : Type}

/-! ## Access -/

def known? : Value α → Option α
  | known a => some a
  | _ => none

def isNull : Value α → Bool
  | null => true
  | _ => false

def getD (value : Value α) (default : α) : α := value.known?.getD default

/-- The text of a string attribute, empty when it is null or unknown. -/
def text (value : Value String) : String := value.getD ""

@[simp] theorem known?_known (a : α) : (known a).known? = some a := rfl

@[simp] theorem text_known (s : String) : (known s).text = s := rfl

@[simp] theorem isNull_known (a : α) : (known a).isNull = false := rfl

/-! ## JSON -/

/-- The sign of an unknown value. -/
def unknownJson : Json := .array [.number (.natural 0), .array []]

def toJson (write : α → Json) : Value α → Json
  | null => .null
  | unknown => unknownJson
  | known a => write a

/-- An integer of eight bits. -/
def isSmallInteger : Json → Bool
  | .number (.natural n) => n ≤ 127
  | .number (.negative n) => n ≤ 128
  | _ => false

/-- Bytes: a list of numbers below 256, or a string. -/
def isBytes : Json → Bool
  | .array items => items.all fun
    | .number (.natural n) => n ≤ 255
    | _ => false
  | .string _ => true
  | _ => false

/-- The sign of an unknown value, whatever integer and bytes it carries. -/
def isUnknownJson : Json → Bool
  | .array [kind, bytes] => isSmallInteger kind && isBytes bytes
  | _ => false

def ofJson? (read : Json → Option α) (json : Json) : Option (Value α) :=
  match read json with
  | some a => some (known a)
  | none =>
    match json with
    | .null => some null
    | json => if isUnknownJson json then some unknown else none

/-- Reads any JSON value and takes it for an attribute value. -/
def decoder (read : Json → Option α) : Json.Decoder (Value α) := fun depth bs =>
  match Json.Decoder.any depth bs with
  | .error fault => .error fault
  | .ok (json, rest) =>
    match ofJson? read json with
    | some value => .ok (value, rest)
    | none => .error (.floating (.noVariant "Value") rest)

/-- Reading undoes writing if it does so for known values, and if null and the sign of unknown are
nobody's known value. -/
theorem ofJson?_toJson {write : α → Json} {read : Json → Option α}
    (hread : ∀ a, read (write a) = some a) (hnull : read .null = none)
    (hunknown : read unknownJson = none) (value : Value α) :
    ofJson? read (value.toJson write) = some value := by
  cases value with
  | null => simp [toJson, ofJson?, hnull]
  | unknown =>
    show ofJson? read unknownJson = some unknown
    unfold ofJson?
    simp only [hunknown]
    rfl
  | known a => simp [toJson, ofJson?, hread]

/-! ## Strings, booleans and lists -/

def stringOfJson? : Json → Option String
  | .string s => some s
  | _ => none

def boolOfJson? : Json → Option Bool
  | .bool b => some b
  | _ => none

def listOfJson? (read : Json → Option α) : Json → Option (List (Value α))
  | .array items => items.mapM (ofJson? read)
  | _ => none

def listToJson (write : α → Json) (values : List (Value α)) : Json :=
  .array (values.map (toJson write))

def stringDecoder : Json.Decoder (Value String) := decoder stringOfJson?

def boolDecoder : Json.Decoder (Value Bool) := decoder boolOfJson?

def stringListDecoder : Json.Decoder (Value (List (Value String))) :=
  decoder (listOfJson? stringOfJson?)

theorem stringOfJson?_string (s : String) : stringOfJson? (.string s) = some s := rfl

theorem boolOfJson?_bool (b : Bool) : boolOfJson? (.bool b) = some b := rfl

/-- A list of attribute values that has been written reads back. -/
theorem listOfJson?_listToJson {write : α → Json} {read : Json → Option α}
    (hread : ∀ a, read (write a) = some a) (hnull : read .null = none)
    (hunknown : read unknownJson = none) (values : List (Value α)) :
    listOfJson? read (listToJson write values) = some values := by
  rw [listToJson, listOfJson?]
  induction values with
  | nil => rfl
  | cons v vs ih =>
    simp only [List.map_cons, List.mapM_cons, ih, ofJson?_toJson hread hnull hunknown v]
    rfl

end Value

end CloudTenancy
