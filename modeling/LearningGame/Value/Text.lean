import LearningGame.Value.Basic
import LearningGame.Number.Layout
import LearningGame.Text.Quoted
import LearningGame.Fault

/-!
# Text of values

A value in a message or a label: texts stand as they are on their own and in quotes inside lists
and maps. A number is a value, and its text is that of the value.
-/

namespace LearningGame

/-- The text of a key inside a map. -/
def Key.quoted : Key → String
  | .text s => Text.quoted s
  | .null => "None"
  | .bool b => if b then "True" else "False"
  | .int n => Number.intText n
  | .float x => Number.floatText x
  | .nan _ => Number.plainLayout.notANumber

mutual

/-- The text of a value inside a list or map. -/
def Value.quoted : Value → String
  | .null => "None"
  | .bool b => if b then "True" else "False"
  | .int n => Number.intText n
  | .float x => Number.floatText x
  | .str s => Text.quoted s
  | .list items => "[" ++ ", ".intercalate (Value.quotedItems items) ++ "]"
  | .map entries => "\x7b" ++ ", ".intercalate (Value.quotedEntries entries) ++ "\x7d"

/-- The texts of the elements of a list. -/
def Value.quotedItems : List Value → List String
  | [] => []
  | v :: rest => v.quoted :: Value.quotedItems rest

/-- The texts of the entries of a map. -/
def Value.quotedEntries : List (Key × Value) → List String
  | [] => []
  | (k, v) :: rest => (k.quoted ++ ": " ++ v.quoted) :: Value.quotedEntries rest

end

/-- The text of a value on its own. -/
def Value.text : Value → String
  | .str s => s
  | v => v.quoted

/-- The text of a key on its own. -/
def Key.toText : Key → String
  | .text s => s
  | k => k.quoted

/-! ### Numbers -/

/-- A number as a value. -/
def Number.toValue : Number → Value
  | .int n => .int n
  | .float x => .float x

/-- The text of a number. -/
def Number.text (n : Number) : String := n.toValue.text

/-- The number that a value counts as; other values cannot be computed with. -/
def Value.toNumber (v : Value) : Except Fault Number :=
  match v.number? with
  | some n => .ok n
  | none => .error .notNumeric

end LearningGame
