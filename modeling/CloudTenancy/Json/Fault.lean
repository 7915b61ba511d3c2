import CloudTenancy.Text.Utf8
import CloudTenancy.Text.Quoted
import CloudTenancy.Json.Value

/-!
CloudTenancy.Json.Fault — why a text is not the JSON that was asked for, and where.

* `Found` — what stands where something else was expected.
* `Cause` — the reasons; `Cause.message` gives the wording.
* `Fault` — a cause and the number of bytes left behind the place it is reported at. While the
  place is still open, the fault carries the input not yet read.
* `Place` — line and column of a number of bytes read.
* `Error` — a cause with its place, `Error.message` the whole text.
-/

namespace CloudTenancy.Json

/-! ## Causes -/

/-- What was found where something else was expected. -/
inductive Found
  | null
  | bool (b : Bool)
  | number (n : Number)
  | string (s : String)
  | sequence
  | map
  deriving DecidableEq, Repr

/-- A description with a value that is told apart by its kind. -/
def Found.describe : Found → String
  | null => "null"
  | bool b => "boolean `" ++ (if b then "true" else "false") ++ "`"
  | number (.double bits) => "floating point `" ++ (Number.double bits).render ++ "`"
  | number n => "integer `" ++ n.render ++ "`"
  | string s => "string " ++ Text.quoted s
  | sequence => "sequence"
  | map => "map"

/-- Why reading failed. -/
inductive Cause
  | endInList
  | endInObject
  | endInString
  | endInValue
  | expectedColon
  | expectedListCommaOrEnd
  | expectedObjectCommaOrEnd
  | expectedIdent
  | expectedValue
  | invalidEscape
  | invalidNumber
  | numberOutOfRange
  | invalidCodePoint
  | controlCharacter
  | keyNotString
  | loneSurrogate
  | trailingComma
  | trailingCharacters
  | endOfHexEscape
  | tooDeep
  | invalidType (found : Found) (expected : String)
  | invalidValue (found : Found) (expected : String)
  | invalidLength (length : Nat) (expected : String)
  | missingField (name : String)
  | duplicateField (name : String)
  | noVariant (type : String)
  deriving DecidableEq, Repr

def Cause.message : Cause → String
  | endInList => "EOF while parsing a list"
  | endInObject => "EOF while parsing an object"
  | endInString => "EOF while parsing a string"
  | endInValue => "EOF while parsing a value"
  | expectedColon => "expected `:`"
  | expectedListCommaOrEnd => "expected `,` or `]`"
  | expectedObjectCommaOrEnd => "expected `,` or `\x7d`"
  | expectedIdent => "expected ident"
  | expectedValue => "expected value"
  | invalidEscape => "invalid escape"
  | invalidNumber => "invalid number"
  | numberOutOfRange => "number out of range"
  | invalidCodePoint => "invalid unicode code point"
  | controlCharacter => "control character (\\u0000-\\u001F) found while parsing a string"
  | keyNotString => "key must be a string"
  | loneSurrogate => "lone leading surrogate in hex escape"
  | trailingComma => "trailing comma"
  | trailingCharacters => "trailing characters"
  | endOfHexEscape => "unexpected end of hex escape"
  | tooDeep => "recursion limit exceeded"
  | invalidType found expected => "invalid type: " ++ found.describe ++ ", expected " ++ expected
  | invalidValue found expected => "invalid value: " ++ found.describe ++ ", expected " ++ expected
  | invalidLength length expected =>
    "invalid length " ++ toString length ++ ", expected " ++ expected
  | missingField name => "missing field `" ++ name ++ "`"
  | duplicateField name => "duplicate field `" ++ name ++ "`"
  | noVariant type => "data did not match any variant of untagged enum " ++ type

/-! ## Places -/

/-- A failure inside a text. -/
inductive Fault
  /-- Reported where `left` bytes are still unread. -/
  | placed (cause : Cause) (left : Nat)
  /-- Reported where the enclosing value ends; `rest` is unread. -/
  | floating (cause : Cause) (rest : Bytes)
  deriving DecidableEq, Repr

def Fault.here (cause : Cause) (rest : Bytes) : Fault := .placed cause rest.length

/-- The fault is reported at the next byte, which has not been read. -/
def Fault.next (cause : Cause) (rest : Bytes) : Fault := .placed cause (rest.length - 1)

/-- A line, from one, and the number of bytes in front of a place in it. -/
structure Place where
  line : Nat
  column : Nat
  deriving DecidableEq, Repr

def Place.after (read : Bytes) : Place where
  line := read.count 10 + 1
  column := (read.reverse.takeWhile (· ≠ 10)).length

/-- A failure to read a text, with its place if it has one. -/
structure Error where
  cause : Cause
  place? : Option Place
  deriving DecidableEq, Repr

/-- The wording of the cause, followed by the place. -/
def Error.message (e : Error) : String :=
  match e.place? with
  | none => e.cause.message
  | some place =>
    e.cause.message ++ " at line " ++ toString place.line ++ " column " ++ toString place.column

def Fault.toError (input : Bytes) : Fault → Error
  | placed cause left => ⟨cause, some (.after (input.take (input.length - left)))⟩
  | floating cause _ => ⟨cause, none⟩

end CloudTenancy.Json
