import LearningGame.Value.Basic

/-!
# Entries of a map

Looking up, putting in and removing entries. An entry keeps its place when its value is replaced,
and a new one goes to the end.
-/

namespace LearningGame.Fields

/-- The value at a key. -/
def find? (m : Fields) (k : Key) : Option Value := (List.find? (fun e => e.1.same k) m).map (·.2)

/-- The value at a key, null if there is none. -/
def get (m : Fields) (k : Key) : Value := (m.find? k).getD .null

/-- The value at a key, or a default if there is none. -/
def getD (m : Fields) (k : Key) (default : Value) : Value := (m.find? k).getD default

/-- Whether a key has an entry. -/
def has (m : Fields) (k : Key) : Bool := (m.find? k).isSome

/-- Put a value at a key. -/
def put : Fields → Key → Value → Fields
  | [], k, v => [(k, v)]
  | (k', v') :: rest, k, v => if k'.same k then (k', v) :: rest else (k', v') :: put rest k v

/-- Put a value at a key that has none. -/
def putNew (m : Fields) (k : Key) (v : Value) : Fields := if m.has k then m else m.put k v

/-- Remove the entry at a key. -/
def erase (m : Fields) (k : Key) : Fields := List.filter (fun e => !e.1.same k) m

/-- Put all entries of another map, in its order. -/
def putAll (m other : Fields) : Fields := other.foldl (fun m e => m.put e.1 e.2) m

/-- The entries whose value is not null. -/
def dropNulls (m : Fields) : Fields := List.filter (fun e => !e.2.isNull) m

/-- Entries in the given order, of equal keys the first place and the last value. -/
def ofList (entries : List (Key × Value)) : Fields := putAll [] entries

end LearningGame.Fields
