/-!
CloudTenancy.Url.Punycode — labels outside ASCII written with ASCII letters and digits.

* `digitChar`, `digitValue?` — digits of base 36.
* `threshold`, `adapt` — how many code points a digit covers, and how that follows the label.
* `encode` — the ASCII characters of a label, a hyphen, and the others as numbers in ascending
  order of their code points.
* `decode?` — the way back.

Main statement: the digits read back, and every threshold lies between 1 and 26, which is what ends
the loops.
-/

namespace CloudTenancy.Punycode

/-! ## Digits -/

def digitChar (d : Nat) : Char := if d < 26 then Char.ofNat (97 + d) else Char.ofNat (22 + d)

/-- The value of a digit. Letters of both cases count. -/
def digitValue? (c : Char) : Option Nat :=
  let n := c.toNat
  if 97 ≤ n ∧ n ≤ 122 then some (n - 97)
  else if 65 ≤ n ∧ n ≤ 90 then some (n - 65)
  else if 48 ≤ n ∧ n ≤ 57 then some (n - 22)
  else none

theorem digitValue?_digitChar : ∀ d : Fin 36, digitValue? (digitChar d.val) = some d.val := by
  decide

/-- The least value of a digit at position `k` that is followed by another digit. -/
def threshold (k bias : Nat) : Nat :=
  if k ≤ bias then 1 else if bias + 26 ≤ k then 26 else k - bias

theorem threshold_bounds (k bias : Nat) : 1 ≤ threshold k bias ∧ threshold k bias ≤ 26 := by
  unfold threshold
  split
  · omega
  · split <;> omega

/-! ## The bias -/

/-- Divides by 35 while the number is above 455, counting 36 for each time. -/
def reduce (delta k : Nat) : Nat × Nat :=
  if 455 < delta then reduce (delta / 35) (k + 36) else (delta, k)
termination_by delta

/-- The bias after a number, for a label that now has `count` code points. -/
def adapt (delta count : Nat) (isFirst : Bool) : Nat :=
  let start := if isFirst then delta / 700 else delta / 2
  let (reduced, k) := reduce (start + start / count) 0
  k + 36 * reduced / (reduced + 38)

/-! ## Encoding -/

def encodeNumber (bias k q : Nat) : List Char :=
  let t := threshold k bias
  if q < t then [digitChar q]
  else digitChar (t + (q - t) % (36 - t)) :: encodeNumber bias (k + 36) ((q - t) / (36 - t))
termination_by q
decreasing_by
  have := threshold_bounds k bias
  have := Nat.div_le_self (q - threshold k bias) (36 - threshold k bias)
  omega

/-- What the encoder knows: the code point reached, the distance from the last one written, the
bias and how many code points are written. -/
structure State where
  next : Nat := 128
  delta : Nat := 0
  bias : Nat := 72
  written : Nat

/-- The digits for all occurrences of one code point, in one walk over the label. -/
def encodeRound (basic : Nat) (point : Nat) :
    State → List Nat → List Char × State
  | s, [] => ([], s)
  | s, c :: cs =>
    if c < point then encodeRound basic point { s with delta := s.delta + 1 } cs
    else if c = point then
      let digits := encodeNumber s.bias 36 s.delta
      let bias := adapt s.delta (s.written + 1) (s.written == basic)
      let (more, s) :=
        encodeRound basic point { s with delta := 0, bias, written := s.written + 1 } cs
      (digits ++ more, s)
    else encodeRound basic point s cs

/-- One walk for each code point outside ASCII, in ascending order. -/
def encodeRounds (basic : Nat) (label : List Nat) : State → List Nat → List Char
  | _, [] => []
  | s, point :: points =>
    let jump := (point - s.next) * (s.written + 1)
    let (digits, s) := encodeRound basic point { s with delta := s.delta + jump } label
    digits ++ encodeRounds basic label
      { s with next := point + 1, delta := s.delta + 1 } points

/-- A number put into an ascending list, unless it is there. -/
def place (n : Nat) : List Nat → List Nat
  | [] => [n]
  | m :: ms => if n < m then n :: m :: ms else if n = m then m :: ms else m :: place n ms

/-- A label with ASCII characters only. -/
def encode (label : List Char) : List Char :=
  let basic := label.filter (·.toNat < 128)
  let points := label.map Char.toNat
  let others := (points.filter (128 ≤ ·)).foldr place []
  let front := if basic.isEmpty then [] else basic ++ ['-']
  front ++ encodeRounds basic.length points { written := basic.length } others

/-! ## Decoding -/

/-- Numbers from here on are too large for codes. -/
def bound : Nat := Nat.pow 2 32

/-- One number from the front of the digits, added to `acc`. The first digit has the place value
`weight`. -/
def decodeNumber? (bias k weight acc : Nat) : List Char → Option (Nat × List Char)
  | [] => none
  | c :: cs =>
    match digitValue? c with
    | none => none
    | some d =>
      let acc := acc + d * weight
      let t := threshold k bias
      let next := weight * (36 - t)
      if bound ≤ acc then none
      else if d < t then some (acc, cs)
      else if bound ≤ next then none
      else decodeNumber? bias (k + 36) next acc cs

theorem decodeNumber?_length {bias k weight acc n : Nat} {cs rest : List Char}
    (h : decodeNumber? bias k weight acc cs = some (n, rest)) : rest.length < cs.length := by
  induction cs generalizing k weight acc with
  | nil => simp [decodeNumber?] at h
  | cons c cs ih =>
    rw [decodeNumber?] at h
    split at h
    · simp at h
    · dsimp only at h
      split at h
      · simp at h
      · split at h
        · simp only [Option.some.injEq, Prod.mk.injEq] at h
          rw [← h.2]
          simp
        · split at h
          · simp at h
          · have := ih h
            simp
            omega

/-- The label so far, with a code point put in for each number that remains. -/
def decodeRounds? (label : List Char) (next position bias : Nat) (isFirst : Bool)
    (digits : List Char) : Option (List Char) :=
  match digits with
  | [] => some label
  | c :: cs =>
    match _h : decodeNumber? bias 36 1 position (c :: cs) with
    | none => none
    | some (total, rest) =>
      let count := label.length + 1
      let point := next + total / count
      if point.isValidChar then
        let index := total % count
        decodeRounds? (label.take index ++ [Char.ofNat point] ++ label.drop index) point
          (index + 1) (adapt (total - position) count isFirst) false rest
      else none
termination_by digits.length
decreasing_by
  have := decodeNumber?_length _h
  simpa using this

/-- The label that ASCII characters stand for. The last hyphen ends the plain characters, unless it
comes first. -/
def decode? (cs : List Char) : Option (List Char) :=
  let digits := (cs.reverse.takeWhile (· ≠ '-')).reverse
  let front := cs.take (cs.length - digits.length)
  if !cs.all (·.toNat < 128) then none
  else if front.length = 1 then none
  else decodeRounds? front.dropLast 128 0 72 true digits

end CloudTenancy.Punycode
