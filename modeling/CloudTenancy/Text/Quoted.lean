import CloudTenancy.Text.Printable

/-!
CloudTenancy.Text.Quoted — texts between double quotes, with every odd character made visible.

* `hexDigits` — lower-case hexadecimal digits of a number.
* `escapeChar` — one character as written between the quotes.
* `quoted` — the whole text, quotes included.

A quote and a backslash get a backslash in front; NUL, tab, line feed and carriage return have
short escapes; other characters without a glyph, and those that would combine with the character
before, are written by code point. An apostrophe stays as it is.
-/

namespace CloudTenancy.Text

def hexDigit (n : Nat) : Char :=
  if n < 10 then Char.ofNat (48 + n) else Char.ofNat (87 + n)

def hexDigits (n : Nat) : List Char :=
  if n < 16 then [hexDigit n] else hexDigits (n / 16) ++ [hexDigit (n % 16)]
termination_by n

/-- One character as it is written between double quotes. -/
def escapeChar (c : Char) : List Char :=
  match c with
  | '\x00' => ['\\', '0']
  | '\t' => ['\\', 't']
  | '\n' => ['\\', 'n']
  | '\r' => ['\\', 'r']
  | '"' => ['\\', '"']
  | '\\' => ['\\', '\\']
  | c =>
    if extendsGrapheme c || !isPrintable c then
      ['\\', 'u', '\x7b'] ++ hexDigits c.toNat ++ ['\x7d']
    else [c]

def quoted (s : String) : String :=
  String.ofList (['"'] ++ s.toList.flatMap escapeChar ++ ['"'])

end CloudTenancy.Text
