import LearningGame.Schema.Numeral
import LearningGame.Value.Fields

/-!
# Codecs

A codec reads a kind of data from a document and writes it back. Reading is lenient: a number may
be given as a text and a truth value as one of some words. Writing always gives the plain form, in
one of two ways: in full, or as a document, without the entries for what is absent.
-/

namespace LearningGame.Schema

-- Powers are the core ones of natural numbers and integers, whatever else is imported; numerals
-- that are exponents are given their type for it.
attribute [local instance (2000)] instPowNat

/-- Reading, writing and comparing one kind of data. -/
structure Codec (α : Type) where
  /-- Read the data from a part of a document. -/
  read : Value → Checked α
  /-- Write the data, in full or as a document. -/
  write : Bool → α → Value
  /-- Whether two items of data are equal. -/
  same : α → α → Bool
  /-- Whether there is nothing to write in a document. -/
  absent : α → Bool := fun _ => false

namespace Codec

variable {α β : Type}

/-! ### Scalars -/

mutual

/-- A value with null in place of the floats that are not finite. -/
def finitePart : Value → Value
  | .float x => if x.isFinite then .float x else .null
  | .list items => .list (finiteItems items)
  | .map entries => .map (finiteEntries entries)
  | v => v

/-- The elements of a list with null in place of the floats that are not finite. -/
def finiteItems : List Value → List Value
  | [] => []
  | v :: rest => finitePart v :: finiteItems rest

/-- The entries of a map with null in place of the floats that are not finite. -/
def finiteEntries : List (Key × Value) → List (Key × Value)
  | [] => []
  | (k, v) :: rest => (k, finitePart v) :: finiteEntries rest

end

/-- Any part of a document, taken as it is. A document is written with null for what no document can
hold. -/
def any : Codec Value where
  read := .valid
  write full v := if full then v else finitePart v
  same := Value.same
  absent := Value.isNull

/-- Texts are read from texts only. -/
def readText : Value → Checked String
  | .str s => .valid s
  | _ => .refuse .notText

/-- Texts. -/
def text : Codec String where
  read := readText
  write _ s := .str s
  same := (· == ·)

/-- Integers are read from integers, truth values, whole floats and texts. -/
def readInteger : Value → Checked Int
  | .int n => .valid n
  | .bool b => .valid (if b then 1 else 0)
  | .float x =>
    match Number.truncate x with
    | .error _ => .refuse .notFinite
    | .ok n =>
      if !Number.isWhole x then .refuse .fraction
      else if n.natAbs < 2 ^ (63 : Nat) then .valid n
      else .refuse .tooLarge
  | .str s => integerOfText s
  | _ => .refuse .notInteger

/-- Integers. -/
def integer : Codec Int where
  read := readInteger
  write _ n := .int n
  same := (· == ·)

/-- Floats are read from numbers, truth values and texts. -/
def readFloat : Value → Checked Float
  | .float x => .valid x
  | .bool b => .valid (if b then 1 else 0)
  | .int n =>
    match Number.ofInt? n with
    | some x => .valid x
    | none => .refuse .notNumber
  | .str s => floatOfText s
  | _ => .refuse .notNumber

/-- Whether two floats are equal; what is not a number equals itself. -/
def sameFloat (x y : Float) : Bool := x == y || (x.isNaN && y.isNaN)

/-- Floats. -/
def float : Codec Float where
  read := readFloat
  write _ x := .float x
  same := sameFloat

/-- Numbers that are always read and written as floats, while a default may be an integer. -/
def number : Codec Number where
  read v := (readFloat v).map .float
  write _ n :=
    match n.toFloat? with
    | some x => .float x
    | none => .null
  same
    | .float x, .float y => sameFloat x y
    | a, b => a.same b

/-- The words that stand for false. -/
def falseWords : List String := ["0", "off", "f", "false", "n", "no"]

/-- The words that stand for true. -/
def trueWords : List String := ["1", "on", "t", "true", "y", "yes"]

/-- A text with the common letters in lower case. -/
def commonLower (s : String) : String := String.ofList (s.toList.map Char.toLower)

/-- Zero and one stand for truth values; an integer beyond 64 bits is of the wrong kind. -/
def booleanOfInt (n : Int) : Checked Bool :=
  if n = 0 then .valid false
  else if n = 1 then .valid true
  else if -2 ^ (63 : Nat) ≤ n ∧ n < 2 ^ (63 : Nat) then .refuse .unreadableBoolean
  else .refuse .notBoolean

/-- Truth values are read from truth values, zero and one, and some words. -/
def readBoolean : Value → Checked Bool
  | .bool b => .valid b
  | .int n => booleanOfInt n
  | .float x =>
    match readInteger (.float x) with
    | .valid n => booleanOfInt n
    | .invalid _ => .refuse .notBoolean
  | .str s =>
    let word := commonLower s
    if falseWords.contains word then .valid false
    else if trueWords.contains word then .valid true
    else .refuse .unreadableBoolean
  | _ => .refuse .notBoolean

/-- Truth values. -/
def boolean : Codec Bool where
  read := readBoolean
  write _ b := .bool b
  same := (· == ·)

/-! ### Containers -/

/-- Data that may be absent; absence is null. -/
def optional (c : Codec α) : Codec (Option α) where
  read
    | .null => .valid none
    | v => (c.read v).map some
  write full
    | none => .null
    | some a => c.write full a
  same
    | none, none => true
    | some a, some b => c.same a b
    | _, _ => false
  absent := Option.isNone

/-- Read the elements of a list, the first of which has the given index. -/
def readItems (c : Codec α) (index : Nat) : List Value → Checked (List α)
  | [] => .valid []
  | v :: rest =>
    (((c.read v).under (toString index)).map List.cons).both (readItems c (index + 1) rest)

/-- Whether two lists have equal elements in the same places. -/
def sameItems (c : Codec α) : List α → List α → Bool
  | [], [] => true
  | a :: as, b :: bs => c.same a b && sameItems c as bs
  | _, _ => false

/-- Lists. -/
def list (c : Codec α) : Codec (List α) where
  read
    | .list items => readItems c 0 items
    | _ => .refuse .notList
  write full as := .list (as.map (c.write full))
  same := sameItems c

/-- A key as a step of a path; truth values count as one and zero. -/
def stepOf : Key → String
  | .bool b => if b then "1" else "0"
  | k => k.toText

/-- The name of an entry; only texts are names. -/
def readName : Key → Checked String
  | .text s => .valid s
  | k => .invalid [⟨[stepOf k, "[key]"], .notText⟩]

/-- Read the entries of a map. -/
def readEntries (c : Codec α) : List (Key × Value) → Checked (List (String × α))
  | [] => .valid []
  | (k, v) :: rest =>
    (((readName k).map fun name a => (name, a)).both ((c.read v).under (stepOf k))).map List.cons
      |>.both (readEntries c rest)

/-- Whether every named entry has an equal one in another list. -/
def sameEntries (c : Codec α) (as bs : List (String × α)) : Bool :=
  as.length == bs.length && as.all fun e =>
    match bs.lookup e.1 with
    | some b => c.same e.2 b
    | none => false

/-- Maps with free names. -/
def entries (c : Codec α) : Codec (List (String × α)) where
  read
    | .map m => readEntries c m
    | _ => .refuse .notMap
  write full as := .map (as.map fun e => (.text e.1, c.write full e.2))
  same := sameEntries c

end Codec

/-! ### Choices -/

/-- A type whose values are written as fixed texts. -/
class Named (α : Type) where
  /-- All values, in the order in which they are listed in messages. -/
  all : List α
  name : α → String

/-- The names of all values of a type. -/
def Named.names (α : Type) [Named α] : List String := (Named.all (α := α)).map Named.name

/-- The value with a name. -/
def Named.find? {α : Type} [Named α] (name : String) : Option α :=
  Named.all.find? fun a => Named.name a == name

/-- Named values. -/
def Codec.named {α : Type} [Named α] : Codec α where
  read v :=
    let found : Option α := match v with
      | .str s => Named.find? s
      | _ => none
    match found with
    | some a => .valid a
    | none => .refuse (.notOneOf (Named.names α))
  write _ a := .str (Named.name a)
  same a b := Named.name a == Named.name b

end LearningGame.Schema
