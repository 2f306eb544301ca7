import LearningGame.Schema.Issue
import LearningGame.Number.Numeral

/-!
# Numbers given as texts

A checked field takes a number also as a text. The ten common digits count, blanks may surround the
number, and single underscores may separate its characters. An integer may begin with zeros and end
with a point and zeros.
-/

namespace LearningGame.Schema

/-- Blanks that may surround a number given as a text. -/
def isOuterBlank (c : Char) : Bool := Text.isBlank c && !(0x1C ≤ c.toNat && c.toNat ≤ 0x1F)

/-! ### Underscores -/

/-- Whether every underscore has another character on both sides; `last` tells whether the
character in front of the text is an underscore, or there is none. -/
def isSeparated (last : Bool) : List Char → Bool
  | [] => !last
  | c :: rest => !(last && c == '_') && isSeparated (c == '_') rest

/-- Leave out the underscores that separate characters. A text with any other underscore stays as it
is. -/
def joinSeparated (cs : List Char) : List Char :=
  if isSeparated true cs then cs.filter (· != '_') else cs

/-! ### Integers -/

/-- Drop a point with nothing but zeros behind it. -/
def dropZeroPlaces (cs : List Char) : List Char :=
  match cs.span (· != '.') with
  | (whole, '.' :: places) => if !places.isEmpty && places.all (· == '0') then whole else cs
  | _ => cs

/-- What is left of a number after the zeros at its start, where `last` is the last of them. An
underscore counts as a zero, a number that is nothing but zeros keeps the last one, and so does one
that goes on with a point. -/
def afterZeros (last : Char) : List Char → Option (List Char)
  | [] => some [last]
  | c :: rest =>
    if c = '0' ∨ c = '_' then afterZeros c rest
    else if c = '.' then some (last :: c :: rest)
    else if c.isDigit ∨ c = '-' then some (c :: rest)
    else none

/-- A number without the zeros at its start; it has to begin with a digit. -/
def dropZeros : List Char → Option (List Char)
  | [] => none
  | c :: rest =>
    if c = '0' then afterZeros c rest else if c.isDigit then some (c :: rest) else none

/-- Give a number its bare form: without a plus sign, zeros in front, zero places and underscores. -/
def bareInteger (cs : List Char) : Option (List Char) :=
  let (negative, body) := Number.takeSign cs
  (dropZeros body).map fun digits =>
    let digits := joinSeparated (dropZeroPlaces digits)
    if negative then '-' :: digits else digits

/-- Read an integer from its bare form: a minus sign if need be, then digits without a zero in
front. A sign and digits of more characters than a numeral may have are too large, whatever comes
after them. -/
def integerOfBare (cs : List Char) : Checked Int :=
  let negative := cs.head? == some '-'
  let body := if negative then cs.drop 1 else cs
  match body.takeWhile Char.isDigit, body.dropWhile Char.isDigit with
  | [], _ => .refuse .unreadableInteger
  | c :: digits, rest =>
    if c = '0' then
      if digits.isEmpty && rest.isEmpty then .valid 0 else .refuse .unreadableInteger
    else if Number.digitLimit < cs.length - rest.length then .refuse .tooLarge
    else if rest.isEmpty then
      .valid (Number.signed negative (Nat.ofDigitChars 10 (c :: digits) 0))
    else .refuse .unreadableInteger

/-- Read an integer from a text. -/
def integerOfText (s : String) : Checked Int :=
  match bareInteger (Number.trimNumeral isOuterBlank s.toList) with
  | some cs => integerOfBare cs
  | none => .refuse .unreadableInteger

/-! ### Floats -/

/-- Read a float from a text without underscores. -/
def plainFloat? (cs : List Char) : Option Float :=
  if cs.contains '_' then none else Number.floatOf? cs

/-- Read a float from a text. A text with underscores has no blanks around the number. -/
def floatOfText (s : String) : Checked Float :=
  match plainFloat? (Number.trimNumeral isOuterBlank s.toList) with
  | some x => .valid x
  | none =>
    match plainFloat? (joinSeparated s.toList) with
    | some x => .valid x
    | none => .refuse .unreadableNumber

end LearningGame.Schema
