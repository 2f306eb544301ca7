import LearningGame.Number.Basic

/-!
# Values

Content documents, answers and game variables are values: null, truth values, unbounded integers,
floats, texts, lists, and maps that keep the order in which their keys were first put in.
-/

namespace LearningGame

/-- A key of a map. Documents have text keys only; a game variable may be named by any scalar. -/
inductive Key where
  | text (s : String)
  | null
  | bool (b : Bool)
  | int (n : Int)
  | float (x : Float)
  /-- What is not a number, as a name that is given at a place of the document. -/
  | nan (place : List String)

/-- A document, an answer or the value of a game variable. -/
inductive Value where
  | null
  | bool (b : Bool)
  | int (n : Int)
  | float (x : Float)
  | str (s : String)
  | list (items : List Value)
  | map (entries : List (Key × Value))

/-- The entries of a map, in the order in which their keys were first put in. -/
abbrev Fields := List (Key × Value)

instance : Inhabited Value := ⟨.null⟩
instance : Coe String Key := ⟨.text⟩
instance : Coe String Value := ⟨.str⟩
instance : Coe Int Value := ⟨.int⟩
instance : Coe Bool Value := ⟨.bool⟩

/-! ### Numbers among values -/

/-- The number that a value counts as; truth values count as one and zero. -/
def Value.number? : Value → Option Number
  | .bool b => some (.int (if b then 1 else 0))
  | .int n => some (.int n)
  | .float x => some (.float x)
  | _ => none

/-- The value with the same content as a key. -/
def Key.toValue : Key → Value
  | .text s => .str s
  | .null => .null
  | .bool b => .bool b
  | .int n => .int n
  | .float x => .float x
  | .nan _ => .float (0 / 0)

/-- The key with the same content as a value; lists and maps are no keys. -/
def Value.toKey? : Value → Option Key
  | .str s => some (.text s)
  | .null => some .null
  | .bool b => some (.bool b)
  | .int n => some (.int n)
  | .float x => some (.float x)
  | .list _ => none
  | .map _ => none

/-- A key that is given at a place of the document. -/
def Key.givenAt (place : List String) : Key → Key
  | .float x => if x.isNaN then .nan place else .float x
  | k => k

/-- Whether two keys name the same entry: equal numbers do, whatever their kind. What is not a number
names the same entry only as long as it is given at the same place. -/
def Key.same : Key → Key → Bool
  | .text a, .text b => a == b
  | .null, .null => true
  | .nan a, .nan b => a == b
  | a, b =>
    match a.toValue.number?, b.toValue.number? with
    | some x, some y => x.same y
    | _, _ => false

/-! ### Equality -/

mutual

/-- Whether two values are equal: numbers by value whatever their kind, lists element by element,
maps entry by entry in any order. -/
def Value.same : Value → Value → Bool
  | .null, .null => true
  | .str a, .str b => a == b
  | .list a, .list b => Value.sameItems a b
  | .map a, .map b => a.length == b.length && Value.sameEntries a b
  | .bool a, b => (b.number?.map (Number.same (.int (if a then 1 else 0)))).getD false
  | .int a, b => (b.number?.map (Number.same (.int a))).getD false
  | .float a, b => (b.number?.map (Number.same (.float a))).getD false
  | _, _ => false

/-- Whether two lists have equal elements in the same places. -/
def Value.sameItems : List Value → List Value → Bool
  | [], [] => true
  | a :: as, b :: bs => a.same b && Value.sameItems as bs
  | _, _ => false

/-- Whether every entry of the first map has an equal one in the second. -/
def Value.sameEntries : List (Key × Value) → Fields → Bool
  | [], _ => true
  | (k, v) :: rest, other =>
    (match other.find? fun e => e.1.same k with
      | some e => v.same e.2
      | none => false) && Value.sameEntries rest other

end

/-! ### Shape -/

/-- Whether a value counts as true: all but null, false, zero and what is empty. -/
def Value.truthy : Value → Bool
  | .null => false
  | .bool b => b
  | .int n => n != 0
  | .float x => !(x == 0)
  | .str s => s != ""
  | .list items => !items.isEmpty
  | .map entries => !entries.isEmpty

/-- The value itself if it counts as true, else another one. -/
def Value.orElse (v other : Value) : Value := if v.truthy then v else other

/-- Whether the value is null. -/
def Value.isNull : Value → Bool
  | .null => true
  | _ => false

/-- Whether the value is a list. -/
def Value.isList : Value → Bool
  | .list _ => true
  | _ => false

/-- The elements of a list; anything else has none. -/
def Value.items : Value → List Value
  | .list items => items
  | _ => []

/-- The entries of a map. -/
def Value.fields? : Value → Option Fields
  | .map entries => some entries
  | _ => none

/-- Whether a text value is one of the given texts. -/
def Value.isOneOf (v : Value) (texts : List String) : Bool :=
  match v with
  | .str s => texts.contains s
  | _ => false

end LearningGame
