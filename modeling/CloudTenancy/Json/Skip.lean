import CloudTenancy.Json.Token

/-!
CloudTenancy.Json.Skip — passing over a value that nobody asked for.

* `skipNumber`, `skipString` — tokens checked for their form only.
* `Frame` — an open bracket, `Position` — where the walk stands between tokens.
* `skipValue` — the rest behind a value of any depth.

The open brackets are kept in a list, so that the depth of a skipped value has no limit. Escapes
need not denote characters, and the bytes of strings need not be valid UTF-8.
-/

namespace CloudTenancy.Json

/-! ## Tokens -/

def skipExponent (bs : Bytes) : Except Fault Bytes :=
  let digits := match bs with
    | 43 :: rest => rest
    | 45 :: rest => rest
    | _ => bs
  match digits with
  | [] => .error (.here .invalidNumber [])
  | d :: rest =>
    if isDigitByte d then .ok (rest.dropWhile isDigitByte)
    else .error (.here .invalidNumber rest)

def skipFraction (bs : Bytes) : Except Fault Bytes :=
  let rest := bs.dropWhile isDigitByte
  if rest.length = bs.length then .error (.next .invalidNumber rest)
  else match rest with
    | 101 :: rest => skipExponent rest
    | 69 :: rest => skipExponent rest
    | _ => .ok rest

def skipTail (bs : Bytes) : Except Fault Bytes :=
  match bs with
  | 46 :: rest => skipFraction rest
  | 101 :: rest => skipExponent rest
  | 69 :: rest => skipExponent rest
  | _ => .ok bs

def skipNumber (bs : Bytes) : Except Fault Bytes :=
  match bs with
  | [] => .error (.here .invalidNumber [])
  | 48 :: rest =>
    if rest.head?.any isDigitByte then .error (.next .invalidNumber rest) else skipTail rest
  | d :: rest =>
    if isDigitByte d then skipTail (rest.dropWhile isDigitByte)
    else .error (.here .invalidNumber rest)

def skipEscape : Bytes → Except Fault Bytes
  | [] => .error (.here .endInString [])
  | b :: rest =>
    if (shortEscape? b).isSome then .ok rest
    else if b = 117 then (readHex4 rest).map (·.2)
    else .error (.here .invalidEscape rest)

theorem skipEscape_length {bs rest : Bytes} (h : skipEscape bs = .ok rest) :
    rest.length < bs.length := by
  unfold skipEscape at h
  split at h
  · simp at h
  · split at h
    · simp at h
      subst h
      simp
    · split at h
      · rename_i tail _ _
        cases hx : readHex4 tail with
        | error fault => simp [hx, Except.map] at h
        | ok r =>
          obtain ⟨n, after⟩ := r
          simp [hx, Except.map] at h
          subst h
          have := readHex4_length hx
          simp
          omega
      · simp at h

/-- A string behind its opening quote. A control character is reported where it stands. -/
def skipString (bs : Bytes) : Except Fault Bytes :=
  match bs with
  | [] => .error (.here .endInString [])
  | b :: rest =>
    if b = 34 then .ok rest
    else if b = 92 then
      match _h : skipEscape rest with
      | .error fault => .error fault
      | .ok after => skipString after
    else if b < 32 then .error (.here .controlCharacter bs)
    else skipString rest
termination_by bs.length
decreasing_by
  · have := skipEscape_length _h
    simp
    omega
  · simp

/-! ## Values -/

inductive Frame
  | list
  | object
  deriving DecidableEq, Repr

namespace Frame

def closing : Frame → UInt8
  | list => 93
  | object => 125

/-- The input ended inside the bracket. -/
def atEnd : Frame → Cause
  | list => .endInList
  | object => .endInObject

/-- Neither a comma nor the closing bracket follows an item. -/
def atItem : Frame → Cause
  | list => .expectedListCommaOrEnd
  | object => .expectedObjectCommaOrEnd

end Frame

/-- Where the walk stands: in front of a value, or inside a bracket, behind the opening one or
behind an item. The brackets around are listed from the inside. -/
inductive Position
  | value (around : List Frame)
  | inside (frame : Frame) (around : List Frame) (afterItem : Bool)
  deriving Repr

def Position.afterValue : List Frame → Option Position
  | [] => none
  | frame :: around => some (.inside frame around true)

def skipKey (bs : Bytes) : Except Fault Bytes :=
  match skipBlanks bs with
  | [] => .error (.next .endInObject [])
  | 34 :: rest =>
    match skipString rest with
    | .error fault => .error fault
    | .ok rest =>
      match skipBlanks rest with
      | [] => .error (.next .endInObject [])
      | 58 :: rest => .ok rest
      | rest => .error (.next .expectedColon rest)
  | rest => .error (.next .keyNotString rest)

/-- What comes in front of the value of an item: the key in an object, nothing in a list. -/
def skipItemStart (frame : Frame) (bs : Bytes) : Except Fault Bytes :=
  match frame with
  | .list => .ok bs
  | .object => skipKey bs

/-- A value that is no list and no object, whose first byte is not blank. -/
def skipScalar (bs : Bytes) : Except Fault Bytes :=
  match bs with
  | [] => .error (.next .endInValue [])
  | 110 :: rest => readIdent nullTail rest
  | 116 :: rest => readIdent trueTail rest
  | 102 :: rest => readIdent falseTail rest
  | 34 :: rest => skipString rest
  | 45 :: rest => skipNumber rest
  | b :: _ => if isDigitByte b then skipNumber bs else .error (.next .expectedValue bs)

/-- Walks on from a position until nothing is open. Two steps take at least one byte. -/
def walk : Nat → Position → Bytes → Except Fault Bytes
  | 0, _, _ => .error (.here .endInValue [])
  | n + 1, .value around, bs =>
    match skipBlanks bs with
    | 91 :: rest => walk n (.inside .list around false) rest
    | 123 :: rest => walk n (.inside .object around false) rest
    | start =>
      match skipScalar start with
      | .error fault => .error fault
      | .ok rest =>
        match Position.afterValue around with
        | none => .ok rest
        | some position => walk n position rest
  | n + 1, .inside frame around afterItem, bs =>
    match skipBlanks bs with
    | [] => .error (.next frame.atEnd [])
    | b :: rest =>
      if b = frame.closing then
        match Position.afterValue around with
        | none => .ok rest
        | some position => walk n position rest
      else if afterItem ∧ b ≠ 44 then .error (.next frame.atItem (b :: rest))
      else
        match skipItemStart frame (if afterItem then rest else b :: rest) with
        | .error fault => .error fault
        | .ok rest => walk n (.value (frame :: around)) rest

def skipValue (bs : Bytes) : Except Fault Bytes := walk (2 * bs.length + 2) (.value []) bs

end CloudTenancy.Json
