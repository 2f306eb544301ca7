import LearningGame.Number.Binary
import LearningGame.Text.Characters

/-!
# Reading numerals

Texts are read as integers or floats: a sign, digits with single underscores between them, and for
a float a point and an exponent. The wide grammar takes the digits of all scripts and blanks around
the numeral.
-/

namespace LearningGame.Number

open LearningGame.Text

/-! ### Digits with separators -/

/-- A numeral has at most so many digits. -/
def digitLimit : Nat := 4300

/-- The value of a character as a common digit. -/
def commonDigit? (c : Char) : Option Nat :=
  if c.isDigit then some (c.toNat - '0'.toNat) else none

/-- The value and number of leading digits, single underscores between two digits being passed
over, and the rest of the text. -/
def takeDigits (value count : Nat) : List Char → Nat × Nat × List Char
  | '_' :: c :: rest =>
    match commonDigit? c with
    | some d =>
      if count = 0 then (value, count, '_' :: c :: rest)
      else takeDigits (10 * value + d) (count + 1) rest
    | none => (value, count, '_' :: c :: rest)
  | c :: rest =>
    match commonDigit? c with
    | some d => takeDigits (10 * value + d) (count + 1) rest
    | none => (value, count, c :: rest)
  | [] => (value, count, [])

/-- The sign at the start of a numeral. -/
def takeSign : List Char → Bool × List Char
  | '-' :: rest => (true, rest)
  | '+' :: rest => (false, rest)
  | cs => (false, cs)

/-- The integer that digits with an optional sign stand for, and the number of digits. -/
def signedDigits? (cs : List Char) : Option (Int × Nat) :=
  let (negative, body) := takeSign cs
  match takeDigits 0 0 body with
  | (value, count, []) => if count = 0 then none else some (signed negative value, count)
  | _ => none

/-- Read an integer from digits with an optional sign, unless there are too many of them. -/
def integerOf? (cs : List Char) : Option Int :=
  match signedDigits? cs with
  | some (n, count) => if count ≤ digitLimit then some n else none
  | none => none

/-! ### Floats -/

/-- The names of what is not a finite number, in lower case. -/
def specialFloat? (negative : Bool) (cs : List Char) : Option Float :=
  let name := String.ofList (cs.map Char.toLower)
  if name = "inf" ∨ name = "infinity" then some (infinity negative)
  else if name = "nan" then some (Float.ofBits 0x7FF8000000000000)
  else none

/-- The exponent at the end of a numeral. -/
def exponentOf? : List Char → Option Int
  | [] => some 0
  | c :: rest =>
    if c = 'e' ∨ c = 'E' then
      let (negative, body) := takeSign rest
      match takeDigits 0 0 body with
      | (value, count, []) => if count = 0 then none else some (signed negative value)
      | _ => none
    else none

/-- Read a float from digits with an optional sign, point and exponent. -/
def floatOf? (cs : List Char) : Option Float :=
  let (negative, body) := takeSign cs
  match specialFloat? negative body with
  | some x => some x
  | none =>
    let (whole, wholeCount, rest) := takeDigits 0 0 body
    let (digits, places, rest) :=
      match rest with
      | '.' :: rest =>
        let (digits, count, rest) := takeDigits whole 0 rest
        (digits, count, rest)
      | _ => (whole, 0, rest)
    if wholeCount + places = 0 then none
    else (exponentOf? rest).map fun e => ofDecimal negative digits (e - places)

/-! ### The wide grammar -/

/-- Give the digits of all scripts as common digits and blanks beyond the common characters as
spaces. -/
def commonForm (c : Char) : Char :=
  if c.toNat < 0x7F then c
  else match digitValue? c with
    | some d => digitChar d
    | none => if isBlank c then ' ' else c

/-- Blanks that may surround a numeral. -/
def isNumeralBlank (c : Char) : Bool :=
  c = ' ' || (0x9 ≤ c.toNat && c.toNat ≤ 0xD)

/-- Drop the blanks around a numeral. -/
def trimNumeral (blank : Char → Bool) (cs : List Char) : List Char :=
  ((cs.dropWhile blank).reverse.dropWhile blank).reverse

/-- Read an integer in the wide grammar. -/
def readInt? (s : String) : Option Int :=
  integerOf? (trimNumeral isNumeralBlank (s.toList.map commonForm))

/-- Read a float in the wide grammar. -/
def readFloat? (s : String) : Option Float :=
  floatOf? (trimNumeral isNumeralBlank (s.toList.map commonForm))

end LearningGame.Number
