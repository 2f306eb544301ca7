/-!
# Binary floating point numbers

A float is taken apart into a sign, a mantissa and a power of two, and put together again as the
float nearest to a fraction. With both directions exact, rounding to whole numbers, reading and
printing decimals and comparing with integers are integer arithmetic.
-/

namespace LearningGame.Number

-- Powers are the core ones of natural numbers and integers, whatever else is imported; numerals
-- that are exponents are given their type for it.
attribute [local instance (2000)] instPowNat

/-- A float taken apart. -/
inductive Parts where
  | nan
  | infinite (negative : Bool)
  /-- The value is `mantissa * 2 ^ exponent`, with a minus sign if `negative`. -/
  | finite (negative : Bool) (mantissa : Nat) (exponent : Int)

/-- The parts of a float, read off its bits. -/
def parts (x : Float) : Parts :=
  let bits := x.toBits.toNat
  let negative : Bool := 2 ^ (63 : Nat) ≤ bits
  let scale : Nat := bits / 2 ^ (52 : Nat) % 2 ^ (11 : Nat)
  let fraction : Nat := bits % 2 ^ (52 : Nat)
  if scale = 2047 then
    if fraction = 0 then .infinite negative else .nan
  else if scale = 0 then .finite negative fraction (-1074)
  else .finite negative (fraction + 2 ^ (52 : Nat)) ((scale : Int) - 1075)

/-- A power of two as a fraction. -/
def powerOfTwo (e : Int) : Nat × Nat :=
  if 0 ≤ e then (2 ^ e.toNat, 1) else (1, 2 ^ (-e).toNat)

/-- The quotient rounded to the nearest natural number, a half to the even neighbour. -/
def roundDiv (num den : Nat) : Nat :=
  let q := num / den
  let r := num % den
  if 2 * r < den then q
  else if den < 2 * r then q + 1
  else if q % 2 = 0 then q else q + 1

/-! ### Nearest float -/

/-- The bits of positive infinity. -/
def infinityBits : Nat := 2047 * 2 ^ (52 : Nat)

/-- The exponent at which a positive fraction has a mantissa of 53 bits, or the least exponent if
the fraction is too small for that. -/
def mantissaExponent (num den : Nat) : Int :=
  let k : Int := (Nat.log2 num : Int) - Nat.log2 den
  let (up, down) := powerOfTwo k
  let e := if num * down < den * up then k - 53 else k - 52
  if e < -1074 then -1074 else e

/-- The bits of the float nearest to a fraction; at least `infinityBits` if it is too large. A
mantissa that is rounded up to the next power of two carries into the exponent, as it should. -/
def nearestBits (num den : Nat) : Nat :=
  if num = 0 then 0
  else
    let e := mantissaExponent num den
    let (up, down) := powerOfTwo e
    (e + 1074).toNat * 2 ^ (52 : Nat) + roundDiv (num * down) (den * up)

/-- The float with a sign and the bits of a magnitude. -/
def ofMagnitude (negative : Bool) (bits : Nat) : Float :=
  Float.ofBits (UInt64.ofNat ((if negative then 2 ^ (63 : Nat) else 0) + bits))

/-- Positive or negative infinity. -/
def infinity (negative : Bool) : Float := ofMagnitude negative infinityBits

/-- The float nearest to a fraction, infinite if the fraction is too large. -/
def ofFraction (negative : Bool) (num den : Nat) : Float :=
  ofMagnitude negative (min (nearestBits num den) infinityBits)

/-- The float nearest to a fraction, if the fraction is not too large. -/
def ofFraction? (negative : Bool) (num den : Nat) : Option Float :=
  let bits := nearestBits num den
  if bits < infinityBits then some (ofMagnitude negative bits) else none

/-- The float nearest to an integer, if the integer is not too large. -/
def ofInt? (n : Int) : Option Float := ofFraction? (n < 0) n.natAbs 1

/-- The float nearest to the quotient of two integers, if it is not too large; the divisor is not
zero. -/
def quotient? (a b : Int) : Option Float :=
  if a = 0 then some (if b < 0 then ofMagnitude true 0 else ofMagnitude false 0)
  else ofFraction? ((a < 0) != (b < 0)) a.natAbs b.natAbs

/-- The float nearest to a decimal `digits * 10 ^ exponent`. Exponents far out of the range of
floats are settled without computing the power. -/
def ofDecimal (negative : Bool) (digits : Nat) (exponent : Int) : Float :=
  if digits = 0 then ofMagnitude negative 0
  else
    let leading : Int := exponent + (Nat.log2 digits) / 4
    let length : Int := exponent + Nat.log2 digits
    if 400 < leading then infinity negative
    else if length < -400 then ofMagnitude negative 0
    else if 0 ≤ exponent then ofFraction negative (digits * 10 ^ exponent.toNat) 1
    else ofFraction negative digits (10 ^ (-exponent).toNat)

/-! ### Whole numbers -/

/-- Why a float has no whole part. -/
inductive NoWholePart where
  | nan
  | infinite

/-- Apply a rounding rule for fractions to a float. -/
def wholePart (rule : Bool → Nat → Nat → Int) (x : Float) : Except NoWholePart Int :=
  match parts x with
  | .nan => .error .nan
  | .infinite _ => .error .infinite
  | .finite negative m e =>
    let (up, down) := powerOfTwo e
    .ok (rule negative (m * up) down)

/-- Attach a sign to a natural number. -/
def signed (negative : Bool) (n : Nat) : Int := if negative then -(n : Int) else n

/-- The whole part toward zero. -/
def truncate : Float → Except NoWholePart Int :=
  wholePart fun negative num den => signed negative (num / den)

/-- The greatest integer that is not above the float. -/
def floor : Float → Except NoWholePart Int :=
  wholePart fun negative num den => (signed negative num).fdiv den

/-- The nearest integer, a half going to the even neighbour. -/
def round : Float → Except NoWholePart Int :=
  wholePart fun negative num den => signed negative (roundDiv num den)

/-- Whether a float is a whole number. -/
def isWhole (x : Float) : Bool :=
  match parts x with
  | .finite _ m e => let (up, down) := powerOfTwo e; m * up % down = 0
  | _ => false

/-! ### Comparison with integers -/

/-- The order of an integer and a float, none if the float is not a number. -/
def compareInt (n : Int) (x : Float) : Option Ordering :=
  match parts x with
  | .nan => none
  | .infinite negative => some (if negative then .gt else .lt)
  | .finite negative m e =>
    let (up, down) := powerOfTwo e
    some (compare (n * down) (signed negative (m * up)))

end LearningGame.Number
