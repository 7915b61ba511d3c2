import CloudTenancy.Text.Digit
import CloudTenancy.Version.Order

/-!
CloudTenancy.Version.Condition — conditions on a version such as `>= 40.0`.

* `Operator` — the six relations, with the spellings of each.
* `Condition` — an operator and the version it compares with.
* `Condition.parse` — blanks, an optional operator, blanks, a dotted number, blanks.
* `Condition.holds?` — whether a version stands in the relation.

White space and digits are those of all scripts; a version with digits outside ASCII is accepted
and then compares with nothing.
-/

namespace CloudTenancy.Version

inductive Operator
  | eq | ne | lt | le | gt | ge
  deriving DecidableEq, Repr

/-- A version compared with `other` must stand in the relation `operator`. -/
structure Condition where
  operator : Operator
  version : String
  deriving DecidableEq, Repr

/-- A text that is no condition. -/
structure MalformedCondition where
  text : String
  deriving DecidableEq, Repr

def MalformedCondition.message (m : MalformedCondition) : String :=
  "invalid version condition '" ++ m.text ++ "', expected e.g. '>= 40.0'"

namespace Operator

/-- The operator in front of a text, the longest spelling first, and the text after it. No
operator means equality. -/
def read : List Char → Operator × List Char
  | '>' :: '=' :: cs => (ge, cs)
  | '<' :: '=' :: cs => (le, cs)
  | '=' :: '=' :: cs => (eq, cs)
  | '!' :: '=' :: cs => (ne, cs)
  | '>' :: cs => (gt, cs)
  | '<' :: cs => (lt, cs)
  | '=' :: cs => (eq, cs)
  | cs => (eq, cs)

def accepts : Operator → Ordering → Bool
  | eq, ordering => ordering == .eq
  | ne, ordering => ordering != .eq
  | lt, ordering => ordering == .lt
  | le, ordering => ordering != .gt
  | gt, ordering => ordering == .gt
  | ge, ordering => ordering != .lt

end Operator

/-- One or more runs of digits joined by single dots. -/
def isDottedNumber (cs : List Char) : Bool :=
  (Text.splitOn '.' cs).all fun run => !run.isEmpty && run.all Text.isDecimalDigit

namespace Condition

def parse (text : String) : Except MalformedCondition Condition :=
  let (operator, rest) := Operator.read (Text.trimStartChars text.toList)
  let version := Text.trimChars rest
  if isDottedNumber version then .ok { operator, version := String.ofList version }
  else .error { text }

/-- Whether `version` satisfies the condition, undefined unless both are dotted numeric. -/
def holds? (condition : Condition) (version : String) : Option Bool :=
  (compare? version condition.version).map condition.operator.accepts

end Condition

end CloudTenancy.Version
