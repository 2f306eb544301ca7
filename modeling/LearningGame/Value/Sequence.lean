import LearningGame.Value.Fields
import LearningGame.Fault

/-!
# Values as sequences

A text is the sequence of its characters, a list that of its elements and a map that of its keys. A
map can be given by a sequence of pairs.
-/

namespace LearningGame.Value

/-- The elements of a value; null, truth values and numbers have none. -/
def elements : Value → Except Fault (List Value)
  | .str s => .ok (s.toList.map fun c => .str (String.singleton c))
  | .list items => .ok items
  | .map m => .ok (m.map fun e => e.1.toValue)
  | _ => .error .notASequence

/-- The key that a value is. -/
def toKey (v : Value) : Except Fault Key :=
  match v.toKey? with
  | some k => .ok k
  | none => .error .unusableKey

/-- A pair of a key and a value, given as a sequence of two elements. -/
def toPair (v : Value) : Except Fault (Key × Value) :=
  match v.elements with
  | .error e => .error e
  | .ok [k, x] => k.toKey.map fun k => (k, x)
  | .ok _ => .error .notAPair

/-- Put pairs into a map, one after the other. -/
def putPairs : Fields → List Value → Except Fault Fields
  | m, [] => .ok m
  | m, v :: rest =>
    match v.toPair with
    | .error e => .error e
    | .ok (k, x) => putPairs (m.put k x) rest

/-- The entries of a map, given as such or by a sequence of pairs. -/
def toFields : Value → Except Fault Fields
  | .map m => .ok m
  | v =>
    match v.elements with
    | .error e => .error e
    | .ok items => putPairs [] items

end LearningGame.Value
