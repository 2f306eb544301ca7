import LearningGame.Fault
import LearningGame.Number.Places
import LearningGame.Value.Fields
import LearningGame.Value.Text

/-!
# Message templates

A message may have placeholders that are filled with arguments: texts, single characters, whole
numbers in three bases, and floats in three forms, each filled up to a width. The arguments are taken
in order, or looked up by name in a map. A template is read and filled from the left to the right in
one go, so that the first thing that goes wrong is what is reported.
-/

namespace LearningGame.Log

-- Powers are the core ones of natural numbers and integers, whatever else is imported; numerals
-- that are exponents are given their type for it.
attribute [local instance (2000)] instPowNat

/-- What a placeholder shows of its argument. -/
inductive Conversion where
  /-- The text of a value. -/
  | text
  /-- The text of a value as inside a list. -/
  | quoted
  /-- The same with all characters beyond the common ones escaped. -/
  | escaped
  /-- A character, given as such or by its number. -/
  | character
  /-- A whole number in decimals; floats lose their places. -/
  | decimal
  | octal
  | hex (capitals : Bool)
  | float (form : Number.Form) (capitals : Bool)
  deriving DecidableEq

/-- The conversion with a letter. -/
def Conversion.ofLetter? : Char → Option Conversion
  | 's' => some .text
  | 'r' => some .quoted
  | 'a' => some .escaped
  | 'c' => some .character
  | 'd' => some .decimal
  | 'i' => some .decimal
  | 'u' => some .decimal
  | 'o' => some .octal
  | 'x' => some (.hex false)
  | 'X' => some (.hex true)
  | 'e' => some (.float .scientific false)
  | 'E' => some (.float .scientific true)
  | 'f' => some (.float .fixed false)
  | 'F' => some (.float .fixed true)
  | 'g' => some (.float .general false)
  | 'G' => some (.float .general true)
  | _ => none

/-- How a placeholder is to be filled. -/
structure Shape where
  flags : List Char
  width : Nat
  places : Option Nat

/-- Why a template cannot be filled. -/
inductive TemplateError where
  /-- A placeholder is not well formed. -/
  | malformed
  /-- The arguments do not fit the placeholders. -/
  | mismatch
  /-- An argument that is asked for by name is missing. -/
  | missing (name : String)
  /-- A number is no width, or not the number of a character, or asks for too many digits. -/
  | outOfRange
  /-- The text of a placeholder would be too long to be held. -/
  | tooLong
  | fault (f : Fault)

/-! ### Filling -/

/-- The sign of a number. -/
def signOf (flags : List Char) (negative : Bool) : String :=
  if negative then "-" else if flags.contains '+' then "+" else if flags.contains ' ' then " " else ""

/-- Fill a text up to a width. -/
def pad (p : Shape) (numeric : Bool) (sign body : String) : String :=
  let missing := p.width - (sign.length + body.length)
  if p.flags.contains '-' then sign ++ body ++ String.ofList (List.replicate missing ' ')
  else if numeric && p.flags.contains '0' then
    sign ++ String.ofList (List.replicate missing '0') ++ body
  else String.ofList (List.replicate missing ' ') ++ sign ++ body

/-- A text in capitals, if it is to be. -/
def inCapitals (capitals : Bool) (cs : List Char) : String :=
  String.ofList (if capitals then cs.map Char.toUpper else cs)

/-- A whole number. -/
def fillInt (p : Shape) (base : Nat) (capitals : Bool) (mark : String) (n : Int) : String :=
  let sign := signOf p.flags (n < 0) ++ (if p.flags.contains '#' then mark else "")
  pad p true sign (inCapitals capitals (Number.digitsOf base (p.places.getD 1) n.natAbs))

/-- A float. Six places are shown if nothing else is asked for. -/
def fillFloat (p : Shape) (form : Number.Form) (capitals : Bool) (x : Float) : String :=
  let parts := Number.parts x
  pad p true (signOf p.flags parts.isNegative)
    (inCapitals capitals
      (Number.magnitudeText form (p.flags.contains '#') (p.places.getD 6) parts))

/-- A text, cut off at a length if one is given. -/
def fillText (p : Shape) (s : String) : String :=
  pad p false "" (match p.places with
    | some n => String.ofList (s.toList.take n)
    | none => s)

/-- A text with all characters beyond the common ones escaped. -/
def escapeUncommon (s : String) : String :=
  String.ofList (s.toList.flatMap fun c => if c.toNat < 0x80 then [c] else Text.codeEscape c)

/-- The integer that a value is. -/
def integer (v : Value) : Except TemplateError Int :=
  match v.number? with
  | some (.int n) => .ok n
  | _ => .error .mismatch

/-- The greatest number of digits that can be asked for. -/
def digitsLimit : Nat := 2 ^ (31 : Nat) - 4

/-- A whole number, unless too many digits are asked for. -/
def fillWhole (p : Shape) (base : Nat) (capitals : Bool) (mark : String) (n : Int) :
    Except TemplateError String :=
  if p.places.any (digitsLimit < ·) then .error .outOfRange
  else .ok (fillInt p base capitals mark n)

/-- The character that a value is. -/
def character (v : Value) : Except TemplateError Char :=
  match v with
  | .str s =>
    match s.toList with
    | [c] => .ok c
    | _ => .error .mismatch
  | v => (integer v).bind fun n =>
    if 0 ≤ n ∧ n < 0x110000 then .ok (Char.ofNat n.toNat) else .error .outOfRange

/-- Fill a placeholder with a value. -/
def fill (p : Shape) (conversion : Conversion) (v : Value) : Except TemplateError String :=
  match conversion with
  | .text => .ok (fillText p v.text)
  | .quoted => .ok (fillText p v.quoted)
  | .escaped => .ok (fillText p (escapeUncommon v.quoted))
  | .character => (character v).map fun c => pad p false "" (String.singleton c)
  | .decimal =>
    match v.number? with
    | none => .error .mismatch
    | some n => (n.toInt.mapError .fault).bind (fillWhole p 10 false "")
  | .octal => (integer v).bind (fillWhole p 8 false "0o")
  | .hex capitals =>
    (integer v).bind (fillWhole p 16 capitals (if capitals then "0X" else "0x"))
  | .float form capitals =>
    match v.number? with
    | none => .error .mismatch
    | some n => (n.toFloat.mapError .fault).map (fillFloat p form capitals)

/-! ### Arguments -/

/-- The arguments of a template: a map that names are looked up in, and what is still to be taken in
order. -/
structure Arguments where
  named : Option Fields
  rest : List Value

/-- A step of filling a template. -/
abbrev Filling := StateT Arguments (Except TemplateError)

/-- Take the next argument. -/
def nextArgument : Filling Value := fun a =>
  match a.rest with
  | [] => .error .mismatch
  | v :: rest => .ok (v, { a with rest })

/-- Have the argument with a name be the next one and the only one. -/
def lookUp (name : String) : Filling Unit := fun a =>
  match a.named.bind fun m => m.find? name with
  | none => .error (.missing name)
  | some v => .ok ((), { a with rest := [v] })

/-- Take the next argument as a number between two bounds. -/
def nextCount (low high : Int) : Filling Int := do
  let n ← integer (← nextArgument)
  if low ≤ n ∧ n ≤ high then return n else throw .outOfRange

/-! ### Reading templates -/

/-- The characters that modify a placeholder. -/
def flagChars : List Char := ['-', '+', ' ', '0', '#']

/-- A number at the start of a text, if there is one that is not above a bound, and the rest. -/
def takeNumber (high : Nat) (cs : List Char) : Filling (Option Nat × List Char) :=
  let digits := cs.takeWhile Char.isDigit
  if digits.isEmpty then return (none, cs)
  else
    let n := Nat.ofDigitChars 10 digits 0
    if n ≤ high then return (some n, cs.drop digits.length) else throw .malformed

/-- The characters up to the bracket that closes a name, of which `depth` more are open, and the
rest. -/
def takeName : Nat → List Char → Option (List Char × List Char)
  | _, [] => none
  | depth, c :: rest =>
    match c, depth with
    | ')', 0 => some ([], rest)
    | ')', depth + 1 => (takeName depth rest).map fun (name, rest) => (')' :: name, rest)
    | '(', depth => (takeName (depth + 1) rest).map fun (name, rest) => ('(' :: name, rest)
    | c, depth => (takeName depth rest).map fun (name, rest) => (c :: name, rest)

/-- Look up the argument whose name stands in brackets at the start of a placeholder, if there is
one; gives the rest. -/
def readName : List Char → Filling (List Char)
  | '(' :: cs => do
    if (← get).named.isNone then throw .mismatch
    match takeName 0 cs with
    | none => throw .malformed
    | some (name, rest) =>
      lookUp (String.ofList name)
      return rest
  | cs => return cs

/-- The greatest width that is read. -/
def widthLimit : Nat := 2 ^ (63 : Nat) - 1

/-- The greatest width that can be held. -/
def widest : Nat := 2 ^ (36 : Nat)

/-- The greatest number of places that is read. -/
def placesLimit : Nat := 2 ^ (31 : Nat) - 1

/-- Read a width. A star stands for an argument; a negative one asks for filling up at the end. -/
def readWidth (flags cs : List Char) : Filling (List Char × Nat × List Char) :=
  match cs with
  | '*' :: rest => do
    let n ← nextCount (-widthLimit) widthLimit
    return (if n < 0 then '-' :: flags else flags, n.natAbs, rest)
  | cs => do
    let (n, rest) ← takeNumber widthLimit cs
    return (flags, n.getD 0, rest)

/-- Read the places after a point, if there are any. A star stands for an argument. -/
def readPlaces : List Char → Filling (Option Nat × List Char)
  | '.' :: '*' :: rest => do
    let n ← nextCount (-placesLimit - 1) placesLimit
    return (some n.toNat, rest)
  | '.' :: cs => do
    let (n, rest) ← takeNumber placesLimit cs
    return (some (n.getD 0), rest)
  | cs => return (none, cs)

/-- Pass over the size of a number, which says nothing. -/
def dropSize : List Char → List Char
  | 'h' :: rest => rest
  | 'l' :: rest => rest
  | 'L' :: rest => rest
  | cs => cs

/-- Read a placeholder after its sign and fill it; gives what it shows and the rest. The argument is
taken before the letter is looked at. -/
def fillNext (cs : List Char) : Filling (String × List Char) := do
  let cs ← readName cs
  let flags := cs.takeWhile flagChars.contains
  let (flags, width, cs) ← readWidth flags (cs.drop flags.length)
  let (places, cs) ← readPlaces cs
  match dropSize cs with
  | [] => throw .malformed
  | c :: rest =>
    let v ← nextArgument
    match Conversion.ofLetter? c with
    | none => throw .malformed
    | some conversion =>
      let text ← fill ⟨flags, if widest < width then 0 else width, places⟩ conversion v
      if widest < width then throw .tooLong
      return (text, rest)

/-- Fill a template of at most so many characters. A sign that is written twice stands for itself. -/
def fillWithin : Nat → List Char → Filling (List String)
  | 0, _ => return []
  | _, [] => return []
  | n + 1, '%' :: '%' :: cs => do
    let others ← fillWithin n cs
    return "%" :: others
  | n + 1, '%' :: cs => do
    let (text, rest) ← fillNext cs
    let others ← fillWithin n rest
    return text :: others
  | n + 1, c :: cs => do
    let others ← fillWithin n cs
    return String.singleton c :: others

/-- The arguments of a template. A single map that is not empty is the one that names are looked up
in. -/
def Arguments.ofList : List Value → Arguments
  | [.map (e :: m)] => ⟨some (e :: m), [.map (e :: m)]⟩
  | args => ⟨none, args⟩

/-- Fill a template with arguments, of which none may be left over unless they have names; without
arguments it stays as it is. -/
def render (template : String) (args : List Value) : Except TemplateError String :=
  if args.isEmpty then .ok template
  else do
    let (parts, left) ← (fillWithin template.length template.toList).run (Arguments.ofList args)
    if left.named.isNone && !left.rest.isEmpty then throw .mismatch
    return String.join parts

end LearningGame.Log
