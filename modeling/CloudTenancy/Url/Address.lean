import CloudTenancy.Text.Split
import CloudTenancy.Text.Quoted

/-!
CloudTenancy.Url.Address — numeric hosts.

* `Ipv4.parseNumber` — one part of an IPv4 address, decimal, octal or hexadecimal.
* `Ipv4.endsInNumber` — whether a domain has to be an IPv4 address.
* `Ipv4.parse?`, `Ipv4.render` — up to four parts, the last one filling the rest of the address.
* `Ipv6.parse?`, `Ipv6.render` — eight pieces, one run of zeros written as `::`.

Main statement: the parts of an IPv4 address that is read fit 32 bits.
-/

namespace CloudTenancy

/-! ## IPv4 -/

namespace Ipv4

def digitIn? (base : Nat) (c : Char) : Option Nat :=
  let n := c.toNat
  let value :=
    if 48 ≤ n ∧ n ≤ 57 then n - 48
    else if 97 ≤ n ∧ n ≤ 102 then n - 87
    else if 65 ≤ n ∧ n ≤ 70 then n - 55
    else base
  if value < base then some value else none

def ofDigits? (base acc : Nat) : List Char → Option Nat
  | [] => some acc
  | c :: cs => (digitIn? base c).bind fun d => ofDigits? base (base * acc + d) cs

/-- The number a part denotes: hexadecimal behind `0x`, octal behind another `0`. -/
def parseNumber? (part : List Char) : Option Nat :=
  match part with
  | [] => none
  | '0' :: 'x' :: digits => ofDigits? 16 0 digits
  | '0' :: 'X' :: digits => ofDigits? 16 0 digits
  | '0' :: d :: digits => ofDigits? 8 0 (d :: digits)
  | digits => ofDigits? 10 0 digits

/-- The parts of a host, without the empty one behind a dot at the end. -/
def parts (host : List Char) : List (List Char) :=
  let parts := Text.splitOn '.' host
  if 1 < parts.length ∧ parts.getLast? = some [] then parts.dropLast else parts

/-- The last part is a number or at least consists of digits. -/
def endsInNumber (host : List Char) : Bool :=
  match (parts host).getLast? with
  | none => false
  | some last => (!last.isEmpty && last.all Char.isDigit) || (parseNumber? last).isSome

def combine (numbers : List Nat) (last : Nat) : Nat :=
  let place := fun (i n : Nat) => n * Nat.pow 256 (3 - i)
  (numbers.mapIdx place).foldl (· + ·) last

/-- An address of one to four parts. All but the last are bytes, the last one fills the rest. -/
def parse? (host : List Char) : Option Nat := do
  let parts := parts host
  guard (parts.length ≤ 4)
  let numbers ← parts.mapM parseNumber?
  let last ← numbers.getLast?
  let front := numbers.dropLast
  guard (front.all (· ≤ 255))
  guard (last < Nat.pow 256 (4 - front.length))
  return combine front last

def render (address : Nat) : String :=
  ".".intercalate ([3, 2, 1, 0].map fun i => toString (address / Nat.pow 256 i % 256))

end Ipv4

/-! ## IPv6 -/

namespace Ipv6

/-- Pieces read so far: those in front of the gap, and those behind it once there is a gap. The
gap itself stands for at least one piece, which counts to the front. -/
structure Pieces where
  front : List Nat := []
  back? : Option (List Nat) := none

namespace Pieces

def count (p : Pieces) : Nat := p.front.length + (p.back?.getD []).length

def push (p : Pieces) (piece : Nat) : Pieces :=
  match p.back? with
  | none => { p with front := p.front ++ [piece] }
  | some back => { p with back? := some (back ++ [piece]) }

/-- The gap, unless there is one. -/
def gap? (p : Pieces) : Option Pieces :=
  match p.back? with
  | none => some { front := p.front ++ [0], back? := some [] }
  | some _ => none

/-- All eight pieces. Without a gap there must be eight. -/
def finish? (p : Pieces) : Option (List Nat) :=
  match p.back? with
  | none => if p.front.length = 8 then some p.front else none
  | some back =>
    if p.count ≤ 8 then some (p.front ++ List.replicate (8 - p.count) 0 ++ back) else none

end Pieces

/-- A decimal byte without leading zeros, as four of them end an address. -/
def parseByte? (part : List Char) : Option Nat :=
  match part with
  | [] => none
  | ['0'] => some 0
  | '0' :: _ => none
  | digits => (Ipv4.ofDigits? 10 0 digits).filter (· ≤ 255)

/-- Four decimal bytes as the last two pieces. -/
def readTail? (p : Pieces) (cs : List Char) : Option Pieces :=
  if 6 < p.count then none
  else
    match (Text.splitOn '.' cs).mapM parseByte? with
    | some [a, b, c, d] => some ((p.push (a * 256 + b)).push (c * 256 + d))
    | _ => none

def hexValue (digits : List Char) : Nat := (Ipv4.ofDigits? 16 0 digits).getD 0

/-- Reads pieces up to the end. Every step takes at least one character. -/
def readPieces? : Nat → Pieces → List Char → Option Pieces
  | _, p, [] => some p
  | 0, _, _ => none
  | n + 1, p, c :: cs =>
    if p.count = 8 then none
    else if c = ':' then p.gap?.bind fun p => readPieces? n p cs
    else
      let digits := ((c :: cs).take 4).takeWhile fun c => (Ipv4.digitIn? 16 c).isSome
      match (c :: cs).drop digits.length with
      | [] => some (p.push (hexValue digits))
      | '.' :: _ => if digits.isEmpty then none else readTail? p (c :: cs)
      | ':' :: rest =>
        if rest.isEmpty then none else readPieces? n (p.push (hexValue digits)) rest
      | _ => none

/-- The eight pieces of an address. -/
def parse? (cs : List Char) : Option (List Nat) :=
  match cs with
  | [] => none
  | [_] => none
  | ':' :: ':' :: rest => do
    let p ← Pieces.gap? {}
    (← readPieces? rest.length p rest).finish?
  | ':' :: _ => none
  | _ => do (← readPieces? cs.length {} cs).finish?

def zeroRun (pieces : List Nat) : Nat := (pieces.takeWhile (· = 0)).length

/-- Start and length of the first longest run of at least two zeros. -/
def longestRun? (pieces : List Nat) : Option (Nat × Nat) :=
  let runs := (List.range pieces.length).map fun i => (i, zeroRun (pieces.drop i))
  let best := runs.foldl (fun (best : Nat × Nat) run => if best.2 < run.2 then run else best) (0, 0)
  if 2 ≤ best.2 then some best else none

def renderPieces (pieces : List Nat) : List Char :=
  [':'].intercalate (pieces.map Text.hexDigits)

/-- The pieces in hexadecimal, the longest run of zeros left out. -/
def render (pieces : List Nat) : String :=
  String.ofList <| match longestRun? pieces with
    | none => renderPieces pieces
    | some (start, length) =>
      renderPieces (pieces.take start) ++ [':', ':'] ++ renderPieces (pieces.drop (start + length))

end Ipv6

end CloudTenancy
