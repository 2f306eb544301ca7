import LearningGame.Number.Shortest

/-!
# Decimals of a given length

A positive fraction is written with so many places behind the point, or with so many digits in all,
rounded to the nearest decimal, a half to the even one.
-/

namespace LearningGame.Number

-- Powers are the core ones of natural numbers, whatever else is imported.
attribute [local instance (2000)] instPowNat

/-- How a fraction is written. -/
inductive Form where
  /-- With the given places behind the point. -/
  | fixed
  /-- With one digit before the point, the given places behind it and an exponent. -/
  | scientific
  /-- With the given digits in all, less the zeros at the end, and with an exponent only if the
  fraction is very small or has more digits before the point. -/
  | general
  deriving DecidableEq

/-- The digits of a natural number in a base, at least so many. -/
def digitsOf (base least n : Nat) : List Char :=
  let digits := Nat.toDigits base n
  List.replicate (least - digits.length) '0' ++ digits

/-- The first digits of a fraction, so many of them, and the decimal exponent of the very first. -/
def firstDigits (count num den : Nat) : List Char × Int :=
  if num = 0 then (List.replicate count '0', 0)
  else
    let point := pointOf num den
    let shift := (count : Int) - point
    let n := roundDiv (num * 10 ^ shift.toNat) (den * 10 ^ (-shift).toNat)
    if n = 10 ^ count then (digitsOf 10 count (10 ^ (count - 1)), point)
    else (digitsOf 10 count n, point - 1)

/-- Digits before and behind a point, which is left out if nothing is behind it unless it is to be
kept. -/
def pointed (keepPoint : Bool) (whole places : List Char) : List Char :=
  if places.isEmpty && !keepPoint then whole else whole ++ '.' :: places

/-- An exponent, of at least two digits. -/
def exponentText (e : Int) : List Char :=
  'e' :: (if e < 0 then '-' else '+') :: digitsOf 10 2 e.natAbs

/-- A list of digits without the zeros at its end. -/
def dropLastZeros (digits : List Char) : List Char :=
  (digits.reverse.dropWhile (· == '0')).reverse

/-- A fraction with fixed places. -/
def fixedText (keepPoint : Bool) (places num den : Nat) : List Char :=
  let digits := digitsOf 10 (places + 1) (roundDiv (num * 10 ^ places) den)
  let whole := digits.length - places
  pointed keepPoint (digits.take whole) (digits.drop whole)

/-- A fraction with an exponent. -/
def scientificText (keepPoint : Bool) (places num den : Nat) : List Char :=
  let (digits, e) := firstDigits (places + 1) num den
  pointed keepPoint (digits.take 1) (digits.drop 1) ++ exponentText e

/-- A fraction with a number of digits in all; if the point is kept, so are the zeros at the end. -/
def generalText (keepPoint : Bool) (count num den : Nat) : List Char :=
  let count := max 1 count
  let (digits, e) := firstDigits count num den
  let trimmed (places : List Char) := if keepPoint then places else dropLastZeros places
  if e < -4 ∨ (count : Int) ≤ e then
    pointed keepPoint (digits.take 1) (trimmed (digits.drop 1)) ++ exponentText e
  else if 0 ≤ e then
    let whole := e.toNat + 1
    pointed keepPoint (digits.take whole) (trimmed (digits.drop whole))
  else pointed keepPoint ['0'] (trimmed (List.replicate ((-e).toNat - 1) '0' ++ digits))

/-- The magnitude of a float in a form with a given length. -/
def magnitudeText (form : Form) (keepPoint : Bool) (length : Nat) : Parts → List Char
  | .nan => ['n', 'a', 'n']
  | .infinite _ => ['i', 'n', 'f']
  | .finite _ m e =>
    let (up, down) := powerOfTwo e
    match form with
    | .fixed => fixedText keepPoint length (m * up) down
    | .scientific => scientificText keepPoint length (m * up) down
    | .general => generalText keepPoint length (m * up) down

/-- Whether a float has a minus sign. -/
def Parts.isNegative : Parts → Bool
  | .nan => false
  | .infinite negative => negative
  | .finite negative _ _ => negative

end LearningGame.Number
