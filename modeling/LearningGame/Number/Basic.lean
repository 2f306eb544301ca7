import LearningGame.Number.Binary

/-!
# Numbers

A number is an unbounded integer or a float. The two kinds are compared by their exact values and
mixed arithmetic is done in floats.
-/

namespace LearningGame

/-- An integer or a float. -/
inductive Number where
  | int (n : Int)
  | float (x : Float)

namespace Number

/-- The order of two numbers, none if one of them is not a number. -/
def compare? : Number → Number → Option Ordering
  | .int a, .int b => some (compare a b)
  | .int a, .float y => compareInt a y
  | .float x, .int b => (compareInt b x).map Ordering.swap
  | .float x, .float y =>
    if x < y then some .lt else if x == y then some .eq else if y < x then some .gt else none

/-- Whether two numbers have the same value. -/
def same (a b : Number) : Bool := a.compare? b == some .eq

/-- Whether the first number is less than the second. -/
def less (a b : Number) : Bool := a.compare? b == some .lt

/-- Whether the first number is at most the second. -/
def atMost (a b : Number) : Bool := a.less b || a.same b

/-- The float nearest to a number, if it is not too large. -/
def toFloat? : Number → Option Float
  | .int n => ofInt? n
  | .float x => some x

end Number

end LearningGame
