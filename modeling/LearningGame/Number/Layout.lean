import LearningGame.Number.Shortest

/-!
# Number text

How numbers are written: floats with the fewest digits that read back, positional unless they are
very large or very small, and always with a point or an exponent, so that they are told from
integers.
-/

namespace LearningGame.Number

/-- The choices of a float format. -/
structure Layout where
  /-- The least decimal exponent written positionally. -/
  least : Int
  /-- The decimal exponent from which on the exponent form is used. -/
  bound : Int
  /-- The least number of digits of a written exponent. -/
  exponentDigits : Nat
  notANumber : String
  positiveInfinity : String
  negativeInfinity : String

/-- The format of values in texts: positional from `1e-4` up to below `1e16`, exponents of two
digits at least. -/
def plainLayout : Layout := ⟨-4, 16, 2, "nan", "inf", "-inf"⟩

/-- The format of documents; it differs in the names of what is not finite. -/
def documentLayout : Layout := ⟨-4, 16, 2, "NaN", "Infinity", "-Infinity"⟩

/-- The text of a list of digits with the point after `point` of them. -/
def positional (digits : List Char) (point : Int) : List Char :=
  if point ≤ 0 then '0' :: '.' :: (List.replicate (-point).toNat '0' ++ digits)
  else
    let n := point.toNat
    let whole := digits.take n ++ List.replicate (n - digits.length) '0'
    let rest := digits.drop n
    whole ++ '.' :: (if rest.isEmpty then ['0'] else rest)

/-- The text of a list of digits with an exponent. -/
def exponential (layout : Layout) (digits : List Char) (exponent : Int) : List Char :=
  let whole := digits.take 1
  let rest := digits.drop 1
  let magnitude := Nat.toDigits 10 exponent.natAbs
  whole ++ (if rest.isEmpty then [] else '.' :: rest) ++ 'e' :: (if exponent < 0 then '-' else '+') ::
    (List.replicate (layout.exponentDigits - magnitude.length) '0' ++ magnitude)

/-- The text of a float. -/
def Layout.render (layout : Layout) (x : Float) : String :=
  match parts x with
  | .nan => layout.notANumber
  | .infinite negative => if negative then layout.negativeInfinity else layout.positiveInfinity
  | .finite negative m e =>
    let decimal := if m = 0 then ⟨0, 0⟩ else shortest m e
    let digits := Nat.toDigits 10 decimal.digits
    let point := decimal.exponent + digits.length
    let body :=
      if layout.least ≤ point - 1 ∧ point - 1 < layout.bound then positional digits point
      else exponential layout digits (point - 1)
    String.ofList (if negative then '-' :: body else body)

/-- The text of an integer. -/
def intText (n : Int) : String := toString n

/-- The text of a float in texts. -/
def floatText (x : Float) : String := plainLayout.render x

end LearningGame.Number
