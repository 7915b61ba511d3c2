import CloudTenancy.Json.Token

/-!
CloudTenancy.Json.Printer — JSON values as bytes.

* `escapeByte`, `writeString` — strings; only quotes, backslashes and control characters are
  escaped.
* `Json.write` — a value without blanks.
* `Json.writeIndented` — a value with one member or item a line, two blanks a level.

Main statement: reading the escaped bytes of a string gives the bytes back (`readRaw_escape`).
-/

namespace CloudTenancy.Json

/-! ## Strings -/

def hexByte (n : Nat) : UInt8 := if n < 10 then (48 + n).toUInt8 else (87 + n).toUInt8

def escapeByte (b : UInt8) : Bytes :=
  if b = 34 then [92, 34]
  else if b = 92 then [92, 92]
  else if b = 8 then [92, 98]
  else if b = 12 then [92, 102]
  else if b = 10 then [92, 110]
  else if b = 13 then [92, 114]
  else if b = 9 then [92, 116]
  else if b < 32 then [92, 117, 48, 48, hexByte (b.toNat / 16), hexByte (b.toNat % 16)]
  else [b]

/-- The bytes of a string as they are written between the quotes. -/
def escape (bs : Bytes) : Bytes := bs.flatMap escapeByte

def writeString (s : String) : Bytes := [34] ++ escape (Utf8.encode s) ++ [34]

/-! ## Values -/

def commaSeparated : List Bytes → Bytes
  | [] => []
  | [one] => one
  | first :: rest => first ++ [44] ++ commaSeparated rest

mutual

def write : Json → Bytes
  | .null => Utf8.encode "null"
  | .bool b => Utf8.encode (if b then "true" else "false")
  | .number n => Utf8.encode n.render
  | .string s => writeString s
  | .array items => [91] ++ commaSeparated (writeItems items) ++ [93]
  | .object members => [123] ++ commaSeparated (writeMembers members) ++ [125]

def writeItems : List Json → List Bytes
  | [] => []
  | item :: rest => write item :: writeItems rest

def writeMembers : List (String × Json) → List Bytes
  | [] => []
  | (key, value) :: rest => (writeString key ++ [58] ++ write value) :: writeMembers rest

end

def newLine (level : Nat) : Bytes := 10 :: List.replicate (2 * level) 32

/-- The contents of a bracket, each on a line of its own. An empty bracket stays closed. -/
def indented (level : Nat) (left right : UInt8) (contents : List Bytes) : Bytes :=
  if contents.isEmpty then [left, right]
  else
    [left] ++ commaSeparated (contents.map (newLine (level + 1) ++ ·)) ++ newLine level ++ [right]

mutual

/-- A value inside `level` brackets, with one item a line. -/
def writeIndented (level : Nat) : Json → Bytes
  | .array items => indented level 91 93 (writeIndentedItems (level + 1) items)
  | .object members => indented level 123 125 (writeIndentedMembers (level + 1) members)
  | .null => Utf8.encode "null"
  | .bool b => Utf8.encode (if b then "true" else "false")
  | .number n => Utf8.encode n.render
  | .string s => writeString s

def writeIndentedItems (level : Nat) : List Json → List Bytes
  | [] => []
  | item :: rest => writeIndented level item :: writeIndentedItems level rest

def writeIndentedMembers (level : Nat) : List (String × Json) → List Bytes
  | [] => []
  | (key, value) :: rest =>
    (writeString key ++ [58, 32] ++ writeIndented level value) :: writeIndentedMembers level rest

end

/-! ## Reading back -/

/-- The escape of one byte reads back as the byte. -/
theorem readRaw_escapeByte (b : UInt8) (tail : Bytes) :
    readRaw (escapeByte b ++ tail) = (readRaw tail).map fun (more, rest) => (b :: more, rest) := by
  have short : ∀ c d : UInt8, shortEscape? c = some d →
      readRaw (92 :: c :: tail) = (readRaw tail).map fun (more, rest) => (d :: more, rest) := by
    intro c d h
    have hread : readEscape (c :: tail) = .ok ([d], tail) := by simp [readEscape, h]
    exact readRaw_escaped hread
  unfold escapeByte
  by_cases h34 : b = 34
  · subst h34; exact short 34 34 rfl
  by_cases h92 : b = 92
  · subst h92; exact short 92 92 rfl
  by_cases h8 : b = 8
  · subst h8; exact short 98 8 rfl
  by_cases h12 : b = 12
  · subst h12; exact short 102 12 rfl
  by_cases h10 : b = 10
  · subst h10; exact short 110 10 rfl
  by_cases h13 : b = 13
  · subst h13; exact short 114 13 rfl
  by_cases h9 : b = 9
  · subst h9; exact short 116 9 rfl
  simp only [h34, h92, h8, h12, h10, h13, h9, if_false]
  -- The other control characters are escaped by their number, which a table of 32 decides.
  by_cases h32 : b < 32
  · simp only [h32, if_true]
    have hcontrol : ∀ n : Fin 32, readEscape
        (117 :: 48 :: 48 :: hexByte (n.val / 16) :: hexByte (n.val % 16) :: tail) =
          .ok ([n.val.toUInt8], tail) := by
      intro n
      have hdigits : ∀ n : Fin 32, hexValue? (hexByte (n.val / 16)) = some (n.val / 16) ∧
          hexValue? (hexByte (n.val % 16)) = some (n.val % 16) ∧
          encodeCodePoint n.val = [n.val.toUInt8] := by decide
      obtain ⟨h1, h2, h3⟩ := hdigits n
      have h48 : hexValue? 48 = some 0 := by decide
      have hn : n.val / 16 * 16 + n.val % 16 = n.val := by omega
      have hlt := n.isLt
      have hlow : isLowSurrogate n.val = false := by simp [isLowSurrogate]; omega
      have hhigh : isHighSurrogate n.val = false := by simp [isHighSurrogate]; omega
      have hshort : shortEscape? 117 = none := by decide
      simp [readEscape, hshort, readCodePoint, readHex4, h48, h1, h2, hn, hlow, hhigh, h3]
    have hb := hcontrol ⟨b.toNat, by simpa [UInt8.lt_iff_toNat_lt] using h32⟩
    have hread : readEscape (117 :: 48 :: 48 :: hexByte (b.toNat / 16) :: hexByte (b.toNat % 16) ::
        tail) = .ok ([b], tail) := by simpa using hb
    exact readRaw_escaped hread
  · simp only [h32, if_false, List.singleton_append]
    exact readRaw_plain h34 h92 h32 tail

/-- Reading the escaped bytes up to a quote gives the bytes and what follows the quote. -/
theorem readRaw_escape (bs rest : Bytes) :
    readRaw (escape bs ++ 34 :: rest) = .ok (bs, rest) := by
  induction bs with
  | nil => exact readRaw_quote rest
  | cons b bs ih =>
    have : escape (b :: bs) ++ 34 :: rest = escapeByte b ++ (escape bs ++ 34 :: rest) := by
      simp [escape]
    rw [this, readRaw_escapeByte, ih]
    rfl

/-- A string that has been written reads back. -/
theorem readString_write (s : String) (rest : Bytes) :
    readString (escape (Utf8.encode s) ++ 34 :: rest) = .ok (s, rest) := by
  rw [readString, readRaw_escape]
  simp [Utf8.decode?_encode]

end CloudTenancy.Json
