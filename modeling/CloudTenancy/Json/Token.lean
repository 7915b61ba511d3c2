import CloudTenancy.Json.Fault

/-!
CloudTenancy.Json.Token — the tokens of JSON, read from the front of a byte sequence.

* `skipBlanks` — the four blanks of JSON.
* `readIdent` — the remaining bytes of `null`, `true` or `false`.
* `readNumber` — integers of 64 bits, and doubles for all other numbers.
* `readString` — the bytes between quotes, with escapes resolved.

Every reader takes the bytes behind the first one that told what token it is, and gives back what
it read together with the rest. Main statement: an escape takes at least one byte, so that reading
a string comes to an end.
-/

namespace CloudTenancy.Json

/-- The result of reading something from the front of a byte sequence: its value and the rest. -/
abbrev Step (α : Type) := Except Fault (α × Bytes)

/-! ## Bytes -/

def isBlankByte (b : UInt8) : Bool := b == 32 || b == 10 || b == 9 || b == 13

def isDigitByte (b : UInt8) : Bool := 48 ≤ b && b ≤ 57

def hexValue? (b : UInt8) : Option Nat :=
  if isDigitByte b then some (b.toNat - 48)
  else if 97 ≤ b && b ≤ 102 then some (b.toNat - 87)
  else if 65 ≤ b && b ≤ 70 then some (b.toNat - 55)
  else none

def skipBlanks (bs : Bytes) : Bytes := bs.dropWhile isBlankByte

/-- The bytes of a keyword behind its first letter. -/
def readIdent : Bytes → Bytes → Except Fault Bytes
  | [], bs => .ok bs
  | _ :: _, [] => .error (.here .endInValue [])
  | e :: es, b :: bs => if b = e then readIdent es bs else .error (.here .expectedIdent bs)

def nullTail : Bytes := [117, 108, 108]

def trueTail : Bytes := [114, 117, 101]

def falseTail : Bytes := [97, 108, 115, 101]

/-! ## Numbers -/

/-- Digits put behind `value` while the result fits 64 bits, and how many digits then remain. -/
def gather (value : Nat) : Bytes → Nat × Nat
  | [] => (value, 0)
  | d :: ds =>
    let longer := 10 * value + (d.toNat - 48)
    if longer < Nat.pow 2 64 then gather longer ds else (value, ds.length + 1)

def powerOfTen (n : Nat) : Float := Float.ofScientific 1 false n

/-- `f * 10 ^ e` for negative `e`, by at most `10 ^ 308` at a time. -/
def scaleDown : Nat → Float → Nat → Float
  | 0, f, _ => f
  | n + 1, f, e =>
    if e ≤ 308 then f / powerOfTen e
    else if f == 0 then f
    else scaleDown n (f / powerOfTen 308) (e - 308)

/-- `significand * 10 ^ exponent` as a double, none if it is too large. The significand is rounded
first and the product or quotient after it. -/
def toDouble? (significand : Nat) (exponent : Int) : Option Float :=
  let f := significand.toUInt64.toFloat
  if 0 ≤ exponent then
    if exponent ≤ 308 then
      let scaled := f * powerOfTen exponent.toNat
      if scaled.isInf then none else some scaled
    else if f == 0 then some f else none
  else some (scaleDown (exponent.natAbs / 308 + 1) f exponent.natAbs)

def finishDouble (isNegative : Bool) (significand : Nat) (exponent : Int) (rest : Bytes) :
    Step Number :=
  match toDouble? significand exponent with
  | some f => .ok (.double (if isNegative then (-f).toBits else f.toBits), rest)
  | none => .error (.here .numberOutOfRange rest)

/-- The digits of an exponent, none if its value takes more than 31 bits, and the rest: behind the
digit that was too many in that case. -/
def readPower (value : Nat) : Bytes → Option Nat × Bytes
  | [] => (some value, [])
  | b :: bs =>
    if isDigitByte b then
      let longer := 10 * value + (b.toNat - 48)
      if longer < Nat.pow 2 31 then readPower longer bs else (none, bs)
    else (some value, b :: bs)

/-- The exponent behind its mark, for a significand that is already scaled by `exponent`. -/
def readExponent (isNegative : Bool) (significand : Nat) (exponent : Int) (bs : Bytes) :
    Step Number :=
  let (isDown, digits) := match bs with
    | 43 :: rest => (false, rest)
    | 45 :: rest => (true, rest)
    | _ => (false, bs)
  match digits with
  | [] => .error (.here .endInValue [])
  | d :: rest =>
    if !isDigitByte d then .error (.here .invalidNumber rest)
    else match readPower (d.toNat - 48) rest with
      | (some power, rest) =>
        finishDouble isNegative significand
          (if isDown then exponent - power else exponent + power) rest
      | (none, rest) =>
        if significand ≠ 0 ∧ !isDown then .error (.here .numberOutOfRange rest)
        else finishDouble isNegative 0 0 (rest.dropWhile isDigitByte)

/-- What follows the digits of a double: an exponent or the end. -/
def readScale (isNegative : Bool) (significand : Nat) (exponent : Int) (bs : Bytes) :
    Step Number :=
  match bs with
  | 101 :: rest => readExponent isNegative significand exponent rest
  | 69 :: rest => readExponent isNegative significand exponent rest
  | _ => finishDouble isNegative significand exponent bs

def readFraction (isNegative : Bool) (significand : Nat) (exponent : Int) (bs : Bytes) :
    Step Number :=
  let digits := bs.takeWhile isDigitByte
  let rest := bs.dropWhile isDigitByte
  if digits.isEmpty then
    .error (.next (if rest.isEmpty then .endInValue else .invalidNumber) rest)
  else
    let (longer, dropped) := gather significand digits
    readScale isNegative longer (exponent - (digits.length - dropped : Nat)) rest

/-- An integer that fits 64 bits. Minus zero and integers below `-2 ^ 63` are doubles. -/
def ofInteger (isNegative : Bool) (significand : Nat) (rest : Bytes) : Step Number :=
  if !isNegative then .ok (.natural significand, rest)
  else if significand = 0 ∨ Nat.pow 2 63 < significand then finishDouble true significand 0 rest
  else .ok (.negative significand, rest)

/-- What follows the whole digits of a number: a fraction, an exponent or the end. `dropped` of
the digits did not fit the significand. -/
def readTail (isNegative : Bool) (significand dropped : Nat) (bs : Bytes) : Step Number :=
  match bs with
  | 46 :: rest => readFraction isNegative significand dropped rest
  | 101 :: rest => readExponent isNegative significand dropped rest
  | 69 :: rest => readExponent isNegative significand dropped rest
  | _ =>
    if dropped = 0 then ofInteger isNegative significand bs
    else finishDouble isNegative significand dropped bs

def readNumber (isNegative : Bool) (bs : Bytes) : Step Number :=
  match bs with
  | [] => .error (.here .endInValue [])
  | 48 :: rest =>
    if rest.head?.any isDigitByte then .error (.next .invalidNumber rest)
    else readTail isNegative 0 0 rest
  | d :: rest =>
    if !isDigitByte d then .error (.here .invalidNumber rest)
    else
      let (significand, dropped) := gather 0 (bs.takeWhile isDigitByte)
      readTail isNegative significand dropped (bs.dropWhile isDigitByte)

/-! ## Strings -/

def readHex4 : Bytes → Step Nat
  | a :: b :: c :: d :: rest =>
    match hexValue? a, hexValue? b, hexValue? c, hexValue? d with
    | some a, some b, some c, some d => .ok (a * 4096 + b * 256 + c * 16 + d, rest)
    | _, _, _, _ => .error (.here .invalidEscape rest)
  | _ => .error (.here .endInString [])

def encodeCodePoint (n : Nat) : Bytes := Utf8.encode (String.singleton (Char.ofNat n))

def isLowSurrogate (n : Nat) : Bool := 0xDC00 ≤ n && n ≤ 0xDFFF

def isHighSurrogate (n : Nat) : Bool := 0xD800 ≤ n && n ≤ 0xDBFF

/-- The second half of a surrogate pair, which must be another escape. -/
def readLowSurrogate (high : Nat) : Bytes → Step Bytes
  | [] => .error (.here .endInString [])
  | 92 :: [] => .error (.here .endInString [])
  | 92 :: 117 :: rest =>
    match readHex4 rest with
    | .error fault => .error fault
    | .ok (low, rest) =>
      if isLowSurrogate low then
        .ok (encodeCodePoint ((high - 0xD800) * 0x400 + (low - 0xDC00) + 0x10000), rest)
      else .error (.here .loneSurrogate rest)
  | 92 :: _ :: rest => .error (.here .endOfHexEscape rest)
  | _ :: rest => .error (.here .endOfHexEscape rest)

/-- A code point written in hexadecimal, or a pair of surrogates. -/
def readCodePoint (bs : Bytes) : Step Bytes :=
  match readHex4 bs with
  | .error fault => .error fault
  | .ok (n, rest) =>
    if isLowSurrogate n then .error (.here .loneSurrogate rest)
    else if isHighSurrogate n then readLowSurrogate n rest
    else .ok (encodeCodePoint n, rest)

def shortEscape? (b : UInt8) : Option UInt8 :=
  match b with
  | 34 => some 34
  | 92 => some 92
  | 47 => some 47
  | 98 => some 8
  | 102 => some 12
  | 110 => some 10
  | 114 => some 13
  | 116 => some 9
  | _ => none

def readEscape : Bytes → Step Bytes
  | [] => .error (.here .endInString [])
  | b :: rest =>
    match shortEscape? b with
    | some c => .ok ([c], rest)
    | none => if b = 117 then readCodePoint rest else .error (.here .invalidEscape rest)

theorem readHex4_length {bs rest : Bytes} {n : Nat} (h : readHex4 bs = .ok (n, rest)) :
    rest.length < bs.length := by
  unfold readHex4 at h
  split at h
  · split at h <;> simp at h
    obtain ⟨-, rfl⟩ := h
    simp
    omega
  · simp at h

theorem readLowSurrogate_length {high : Nat} {bs out rest : Bytes}
    (h : readLowSurrogate high bs = .ok (out, rest)) : rest.length < bs.length := by
  unfold readLowSurrogate at h
  split at h
  · simp at h
  · simp at h
  · split at h
    · simp at h
    · rename_i hx
      have := readHex4_length hx
      split at h <;> simp at h
      obtain ⟨-, rfl⟩ := h
      simp
      omega
  · simp at h
  · simp at h

theorem readCodePoint_length {bs out rest : Bytes} (h : readCodePoint bs = .ok (out, rest)) :
    rest.length < bs.length := by
  unfold readCodePoint at h
  split at h
  · simp at h
  · rename_i hx
    have h4 := readHex4_length hx
    split at h
    · simp at h
    · split at h
      · have := readLowSurrogate_length h
        omega
      · simp at h
        obtain ⟨-, rfl⟩ := h
        exact h4

/-- An escape takes at least one byte. -/
theorem readEscape_length {bs out rest : Bytes} (h : readEscape bs = .ok (out, rest)) :
    rest.length < bs.length := by
  unfold readEscape at h
  split at h
  · simp at h
  · split at h
    · simp at h
      obtain ⟨-, rfl⟩ := h
      simp
    · split at h
      · have := readCodePoint_length h
        simp
        omega
      · simp at h

/-- The bytes up to the closing quote, with escapes resolved. -/
def readRaw (bs : Bytes) : Step Bytes :=
  match bs with
  | [] => .error (.here .endInString [])
  | b :: rest =>
    if b = 34 then .ok ([], rest)
    else if b = 92 then
      match _h : readEscape rest with
      | .error fault => .error fault
      | .ok (out, after) => (readRaw after).map fun (more, rest) => (out ++ more, rest)
    else if b < 32 then .error (.here .controlCharacter rest)
    else (readRaw rest).map fun (more, rest) => (b :: more, rest)
termination_by bs.length
decreasing_by
  · have := readEscape_length _h
    simp
    omega
  · simp

theorem readRaw_quote (rest : Bytes) : readRaw (34 :: rest) = .ok ([], rest) := by
  rw [readRaw]
  simp

theorem readRaw_escaped {bs out after : Bytes} (h : readEscape bs = .ok (out, after)) :
    readRaw (92 :: bs) = (readRaw after).map fun (more, rest) => (out ++ more, rest) := by
  rw [readRaw]
  simp only [show ¬ (92 : UInt8) = 34 by decide, if_false, if_true]
  split
  · rename_i hx
    simp [h] at hx
  · rename_i hx
    rw [h] at hx
    simp only [Except.ok.injEq, Prod.mk.injEq] at hx
    obtain ⟨rfl, rfl⟩ := hx
    rfl

/-- A byte that is neither a quote, a backslash nor a control character stands for itself. -/
theorem readRaw_plain {b : UInt8} (h34 : b ≠ 34) (h92 : b ≠ 92) (h32 : ¬ b < 32) (bs : Bytes) :
    readRaw (b :: bs) = (readRaw bs).map fun (more, rest) => (b :: more, rest) := by
  rw [readRaw]
  simp [h34, h92, h32]

/-- A string behind its opening quote. -/
def readString (bs : Bytes) : Step String :=
  match readRaw bs with
  | .error fault => .error fault
  | .ok (raw, rest) =>
    match Utf8.decode? raw with
    | some s => .ok (s, rest)
    | none => .error (.here .invalidCodePoint rest)

end CloudTenancy.Json
