/-!
CloudTenancy.Decimal.Shortest — the fewest decimal digits that name a binary floating point number.

* `Binary64` — sign, significand and exponent of a finite double.
* `Ratio` — non-negative fractions, compared exactly.
* `Binary64.interval` — the numbers that round to a double.
* `Decimal` — digits and a power of ten.
* `shortest` — the shortest decimal in the interval, the nearest one of that length.
* `NumberStyle`, `Decimal.render` — how digits are written: where the positional form ends.

The search goes through the numbers of digits in turn. If a multiple of a power of ten lies in the
interval, then so does one of the two multiples next to the double itself, so only these are tried.
-/

namespace CloudTenancy

/-! ## Doubles as exact numbers -/

/-- A finite double: `significand * 2 ^ exponent`, with a sign. -/
structure Binary64 where
  negative : Bool
  significand : Nat
  exponent : Int
  /-- The number below is nearer than the number above. -/
  lowerIsCloser : Bool
  deriving DecidableEq, Repr

def Binary64.ofBits (bits : UInt64) : Binary64 :=
  let n := bits.toNat
  let fraction := n % Nat.pow 2 52
  let biased := n / Nat.pow 2 52 % Nat.pow 2 11
  { negative := n / Nat.pow 2 63 = 1
    significand := if biased = 0 then fraction else Nat.pow 2 52 + fraction
    exponent := if biased = 0 then -1074 else Int.ofNat biased - 1075
    lowerIsCloser := decide (fraction = 0) && decide (1 < biased) }

/-- A fraction of natural numbers with a positive denominator. -/
structure Ratio where
  num : Nat
  den : Nat
  deriving Repr

namespace Ratio

def scaled (n b : Nat) (e : Int) : Ratio :=
  if 0 ≤ e then ⟨n * b.pow e.toNat, 1⟩ else ⟨n, b.pow (-e).toNat⟩

def lt (a b : Ratio) : Bool := a.num * b.den < b.num * a.den

def le (a b : Ratio) : Bool := a.num * b.den ≤ b.num * a.den

def shift (a : Ratio) (e : Int) : Ratio :=
  if 0 ≤ e then ⟨a.num, a.den * Nat.pow 10 e.toNat⟩ else ⟨a.num * Nat.pow 10 (-e).toNat, a.den⟩

def floor (a : Ratio) : Nat := a.num / a.den

end Ratio

/-- The numbers that round to a double: bounds, and whether the bounds belong to them. -/
structure Interval where
  low : Ratio
  high : Ratio
  closed : Bool

def Interval.contains (i : Interval) (x : Ratio) : Bool :=
  if i.closed then i.low.le x && x.le i.high else i.low.lt x && x.lt i.high

namespace Binary64

def toRatio (x : Binary64) : Ratio := .scaled x.significand 2 x.exponent

/-- Half a unit to both sides, a quarter below a power of two; a tie goes to the even
significand. -/
def interval (x : Binary64) : Interval where
  low := .scaled (4 * x.significand - if x.lowerIsCloser then 1 else 2) 2 (x.exponent - 2)
  high := .scaled (4 * x.significand + 2) 2 (x.exponent - 2)
  closed := x.significand % 2 = 0

end Binary64

/-! ## Shortest decimals -/

/-- `digits * 10 ^ exponent` -/
structure Decimal where
  digits : Nat
  exponent : Int
  deriving DecidableEq, Repr

/-- The number of decimal digits in front of the point; for a number below one, minus the number
of zeros behind it. -/
def Ratio.magnitude (a : Ratio) : Int :=
  if a.num = 0 then 1
  else if a.den ≤ a.num then (Nat.toDigits 10 a.floor).length
  else
    -- the denominator is at most `2 ^ 1074`, so the first digit comes within 325 places
    let zeros := (List.range 330).find? (fun z => a.den ≤ a.num * Nat.pow 10 (z + 1))
    Int.neg (zeros.getD 330)

/-- The candidate of a given exponent that lies in the interval, the nearer one of two. -/
def nearest? (x : Binary64) (exponent : Int) : Option Decimal :=
  let value := x.toRatio.shift exponent
  let below := value.floor
  let inside := fun n => x.interval.contains (.scaled n 10 exponent)
  let belowIsNearer := 2 * value.num ≤ (2 * below + 1) * value.den
  match inside below, inside (below + 1) with
  | true, true => some ⟨if belowIsNearer then below else below + 1, exponent⟩
  | true, false => some ⟨below, exponent⟩
  | false, true => some ⟨below + 1, exponent⟩
  | false, false => none

def Decimal.normalize : Nat → Decimal → Decimal
  | 0, d => d
  | n + 1, d =>
    if d.digits ≠ 0 ∧ d.digits % 10 = 0 then normalize n ⟨d.digits / 10, d.exponent + 1⟩ else d

/-- The shortest decimal that rounds to the double; seventeen digits always suffice. -/
def shortest (x : Binary64) : Decimal :=
  let magnitude := x.toRatio.magnitude
  let found := (List.range 17).findSome? fun n => nearest? x (magnitude - (n + 1 : Nat))
  (found.getD ⟨x.toRatio.floor, 0⟩).normalize 20

/-! ## Writing decimals -/

/-- How a decimal is written: the scientific exponents with positional form. -/
structure NumberStyle where
  leastPositional : Int
  greatestPositional : Int

/-- Digits with a point after `point` of them, with zeros added where digits are missing. -/
def positional (digits : List Char) (point : Int) : List Char :=
  if point ≤ 0 then
    ['0', '.'] ++ List.replicate (-point).toNat '0' ++ digits
  else
    let whole := digits.take point.toNat ++ List.replicate (point.toNat - digits.length) '0'
    let rest := digits.drop point.toNat
    whole ++ ['.'] ++ if rest.isEmpty then ['0'] else rest

/-- One digit, the others behind a point, and a signed power of ten. -/
def scientific (digits : List Char) (exponent : Int) : List Char :=
  let power := (if exponent < 0 then ['e', '-'] else ['e', '+']) ++ Nat.toDigits 10 exponent.natAbs
  match digits with
  | [] => power
  | [d] => d :: power
  | d :: ds => d :: '.' :: ds ++ power

def Decimal.render (style : NumberStyle) (d : Decimal) : List Char :=
  let digits := Nat.toDigits 10 d.digits
  let exponent := d.exponent + digits.length - 1
  if d.digits = 0 then ['0', '.', '0']
  else if style.leastPositional ≤ exponent ∧ exponent ≤ style.greatestPositional then
    positional digits (exponent + 1)
  else scientific digits exponent

/-- The text of a finite double: its sign and its shortest decimal. -/
def Binary64.render (style : NumberStyle) (x : Binary64) : String :=
  String.ofList ((if x.negative then ['-'] else []) ++ (shortest x).render style)

end CloudTenancy
