import CloudTenancy.Url.Label
import CloudTenancy.Url.Punycode

/-!
CloudTenancy.Url.Domain — domain names in ASCII.

* `Domain.isForbidden` — ASCII characters that no domain name may hold.
* `Domain.mapChars` — a name without regard to case and width, composed.
* `Domain.readLabel?`, `Domain.writeLabel` — one label with its code resolved, and in ASCII.
* `Domain.toAscii?` — a whole name in ASCII.

Labels with other characters are written in the code of `Punycode`, behind `xn--`. A label that
starts so must be the code of a label with other characters.
-/

namespace CloudTenancy.Domain

/-- ASCII characters that no domain name may hold. -/
def isForbidden (c : Char) : Bool :=
  c.toNat ≤ 0x20 || c.toNat == 0x7F ||
    ['%', '#', '/', ':', '<', '>', '?', '@', '[', '\\', ']', '^', '|'].contains c

def isAscii (c : Char) : Bool := c.toNat < 128

def codeMark : List Char := "xn--".toList

/-- A name without regard to case and width, composed. -/
def mapChars (cs : List Char) : List Char :=
  Text.Normal.normalize (cs.flatMap fun c => (Mapping.of? c).getD [c])

/-- Longer codes are refused. -/
def maxCodeLength : Nat := 2000

/-- The label that a code stands for, if it is one that needs a code. -/
def decodeLabel? (code : List Char) : Option (List Char) := do
  guard (!code.isEmpty && code.length ≤ maxCodeLength && code.getLast? != some '-')
  let label ← Punycode.decode? code
  guard (!label.all isAscii && mapChars label == label && Label.isValid label)
  return label

/-- A label as it is read: the code resolved. -/
def readLabel? (label : List Char) : Option (List Char) :=
  if codeMark.isPrefixOf label then decodeLabel? (label.drop codeMark.length)
  else if label.all isAscii || Label.isValid label then some label
  else none

def writeLabel (label : List Char) : List Char :=
  if label.all isAscii then label else codeMark ++ Punycode.encode label

def readLabels? (cs : List Char) : Option (List (List Char)) :=
  (Text.splitOn '.' cs).mapM readLabel?

/-- The labels appear in order, if any of them runs from right to left. -/
def areOrdered (labels : List (List Char)) : Bool :=
  !labels.any Label.runsLeft || labels.all Label.isOrdered

/-- A name in ASCII, none if it cannot be a name. -/
def toAscii? (cs : List Char) : Option (List Char) :=
  let mapped := if cs.all isAscii then cs.map Char.toLower else mapChars cs
  if mapped.any isForbidden then none
  else (readLabels? mapped).bind fun labels =>
    if areOrdered labels then some (['.'].intercalate (labels.map writeLabel)) else none

end CloudTenancy.Domain
