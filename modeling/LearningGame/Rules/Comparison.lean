import LearningGame.Content.Narrative
import LearningGame.Value.Text
import LearningGame.Text.Characters

/-!
# Comparing values

Conditions compare variables, the score and the like with given values. Two values that both count
as numbers are compared as floats. Any other two are compared as texts, and only for equality. What
is missing differs from everything that is not.
-/

namespace LearningGame.Rules

open Content Schema

/-- The float that a value counts as, read from a text if need be. -/
def floatOf? : Value → Except Fault (Option Float)
  | .str s => .ok (Number.readFloat? (Text.strip s))
  | v =>
    match v.number? with
    | some n => n.toFloat.map some
    | none => .ok none

/-- The text by which values are compared: truth values in small letters, whole floats without
places. -/
def comparableText : Value → String
  | .bool b => if b then "true" else "false"
  | .float x =>
    if Number.isWhole x then
      match Number.truncate x with
      | .ok n => Number.intText n
      | .error _ => Number.floatText x
    else Number.floatText x
  | v => v.text

/-- Compare two floats. -/
def compareFloats : Comparison → Float → Float → Bool
  | .equal, x, y => x == y
  | .notEqual, x, y => !(x == y)
  | .greater, x, y => y < x
  | .less, x, y => x < y
  | .atLeast, x, y => y ≤ x
  | .atMost, x, y => x ≤ y

/-- Compare two texts; they have no order. -/
def compareTexts : Comparison → String → String → Bool
  | .equal, a, b => a == b
  | .notEqual, a, b => !(a == b)
  | _, _, _ => false

/-- Compare two values of which the left one is not missing. -/
def comparePresent (c : Comparison) (left right : Value) : Except Fault Bool := do
  let x ← floatOf? left
  let y ← floatOf? right
  match x, y with
  | some x, some y => return compareFloats c x y
  | _, _ => return compareTexts c (comparableText left) (comparableText right)

/-- Compare two values. -/
def compareValues (left : Value) (c : Comparison) (right : Value) : Except Fault Bool :=
  match left with
  | .null => .ok (c == .notEqual && !right.isNull)
  | left => comparePresent c left right

/-- Compare two values by a comparison that is given by its name. -/
def compareByName (left : Value) (operator : String) (right : Value) : Except Fault Bool :=
  match Named.find? operator, left with
  | some c, left => compareValues left c right
  | none, .null => .ok false
  | none, left => do
    let _ ← floatOf? left
    let _ ← floatOf? right
    throw (.unknownComparison operator)

/-! ### Conditions -/

/-- What conditions look at. -/
structure Circumstances where
  vars : Fields
  score : Number
  inventory : List String

/-- The item that a condition asks for. -/
def Condition.item (c : Condition) : String :=
  if c.value.isNull then c.variableName else c.value.text

/-- Whether a condition holds. -/
def Condition.holds (s : Circumstances) (c : Condition) : Except Fault Bool :=
  match c.kind with
  | .score => compareValues s.score.toValue c.comparison c.value
  | .item =>
    let present := s.inventory.contains (Condition.item c)
    .ok (if c.comparison = .notEqual then !present else present)
  | .variable => compareValues (s.vars.get c.variableName) c.comparison c.value

/-- Whether a condition holds; none is no condition. -/
def holds (s : Circumstances) : Option Condition → Except Fault Bool
  | none => .ok true
  | some c => Condition.holds s c

end LearningGame.Rules
