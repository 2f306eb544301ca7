import LearningGame.Number.Binary

/-!
# Shortest decimals

The decimal shown for a float is the one with the fewest digits that reads back as the same float,
and of those the one nearest to it, an exact tie going to the even digit.
-/

namespace LearningGame.Number

-- Powers are the core ones of natural numbers and integers, whatever else is imported; numerals
-- that are exponents are given their type for it.
attribute [local instance (2000)] instPowNat

/-- The decimal `digits * 10 ^ exponent`. -/
structure Decimal where
  digits : Nat
  exponent : Int

/-- Move the zeros at the end of the digits into the exponent. -/
def Decimal.reduce : Nat → Decimal → Decimal
  | 0, d => d
  | fuel + 1, d =>
    if d.digits % 10 = 0 ∧ d.digits ≠ 0 then
      Decimal.reduce fuel ⟨d.digits / 10, d.exponent + 1⟩
    else d

/-- Number of steps by which a fraction below one is multiplied by ten until it reaches one. -/
def leadingZeros (den : Nat) : Nat → Nat → Nat
  | 0, _ => 0
  | fuel + 1, num => if den ≤ num then 0 else leadingZeros den fuel (num * 10) + 1

/-- Where the point stands in the decimal form of a positive fraction: the fraction is below
`10 ^ point` and not below `10 ^ (point - 1)`. -/
def pointOf (num den : Nat) : Int :=
  if den ≤ num then (Nat.toDigits 10 (num / den)).length else 1 - (leadingZeros den 400 num : Int)

/-- The fractions that are read as one float: they lie between two bounds over the denominator
`den`, the bounds themselves included if `closed`. -/
structure ReadInterval where
  low : Nat
  value : Nat
  high : Nat
  den : Nat
  closed : Bool

/-- The interval of a positive finite float. Below a power of two the next float is only half as
far as above it. -/
def readInterval (mantissa : Nat) (exponent : Int) : ReadInterval :=
  let (up, down) := powerOfTwo exponent
  let low :=
    if mantissa = 2 ^ (52 : Nat) ∧ -1074 < exponent then 4 * mantissa - 1 else 4 * mantissa - 2
  ⟨low * up, 4 * mantissa * up, (4 * mantissa + 2) * up, 4 * down, mantissa % 2 = 0⟩

/-- Whether a fraction is read as the float of the interval. -/
def ReadInterval.holds (i : ReadInterval) (num den : Nat) : Bool :=
  let x := num * i.den
  if i.closed then i.low * den ≤ x && x ≤ i.high * den
  else i.low * den < x && x < i.high * den

/-- The nearest decimal with the given number of digits that is read as the float, of the two
neighbours of the value on that grid. -/
def ReadInterval.onGrid? (i : ReadInterval) (point : Int) (count : Nat) : Option Nat :=
  let shift := point - count
  let (up, down) := if 0 ≤ shift then (10 ^ shift.toNat, 1) else (1, 10 ^ (-shift).toNat)
  let num := i.value * down
  let den := i.den * up
  let below := num / den
  let okBelow := i.holds (below * up) down
  let okAbove := i.holds ((below + 1) * up) down
  let nearBelow := roundDiv num den = below
  if okBelow && (nearBelow || !okAbove) then some below
  else if okAbove then some (below + 1)
  else none

/-- The decimal with the fewest digits, tried from `count` digits on. -/
def ReadInterval.search (i : ReadInterval) (point : Int) : Nat → Nat → Decimal
  | 0, _ => ⟨i.value / i.den, 0⟩
  | fuel + 1, count =>
    match i.onGrid? point count with
    | some digits => ⟨digits, point - count⟩
    | none => i.search point fuel (count + 1)

/-- The shortest decimal of a positive finite float; seventeen digits always suffice. -/
def shortest (mantissa : Nat) (exponent : Int) : Decimal :=
  let i := readInterval mantissa exponent
  (i.search (pointOf i.value i.den) 17 1).reduce 18

end LearningGame.Number
