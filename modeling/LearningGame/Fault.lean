import LearningGame.Number.Basic

/-!
# Faults

What can go wrong inside the library other than content that is refused. A fault ends the operation
in which it arises; changes made before it stay.
-/

namespace LearningGame

/-- Why an operation was broken off. -/
inductive Fault where
  /-- A whole number is asked of a float that is not a number. -/
  | wholeOfNaN
  /-- A whole number is asked of an infinite float. -/
  | wholeOfInfinity
  /-- An integer or a quotient is too large for a float. -/
  | beyondFloat
  /-- An integer in a text has more digits than are read. -/
  | tooManyDigits
  /-- The elements of something without elements are asked for. -/
  | notASequence
  /-- An entry of a map is given by a sequence that is no pair. -/
  | notAPair
  /-- A list or map is used as a key. -/
  | unusableKey
  /-- Arithmetic on what is no number. -/
  | notNumeric
  /-- A text is needed and something else is given. -/
  | notText
  /-- There is no card to go on to. -/
  | noCardLeft
  /-- There is nothing to be answered. -/
  | nothingAsked
  /-- The content of a section is not of the kind that the section names. -/
  | contentMismatch
  /-- One thing calls for the next without end. -/
  | endless
  /-- A name that nothing has. -/
  | unknownName
  /-- An index outside of a list. -/
  | outOfRange
  /-- A countdown needs a positive number of seconds. -/
  | badDuration (name seconds : String)
  | unknownScope (scope : String)
  | unknownComparison (operator : String)

/-- The wording of a fault that reports wrong use. -/
def Fault.message? : Fault → Option String
  | .badDuration name seconds =>
    some s!"Countdown '{name}' needs a positive duration, got {seconds}"
  | .unknownScope scope => some s!"Unknown timer scope: {scope}"
  | .unknownComparison operator => some s!"Unknown comparison operator: {operator}"
  | _ => none

/-- A missing whole part as a fault. -/
def Number.NoWholePart.toFault : Number.NoWholePart → Fault
  | .nan => .wholeOfNaN
  | .infinite => .wholeOfInfinity

/-- The whole part of a number toward zero. -/
def Number.toInt : Number → Except Fault Int
  | .int n => .ok n
  | .float x => (Number.truncate x).mapError NoWholePart.toFault

/-- The greatest integer that is not above a number. -/
def Number.toFloor : Number → Except Fault Int
  | .int n => .ok n
  | .float x => (Number.floor x).mapError NoWholePart.toFault

/-- The integer nearest to a number, a half going to the even neighbour. -/
def Number.toNearest : Number → Except Fault Int
  | .int n => .ok n
  | .float x => (Number.round x).mapError NoWholePart.toFault

/-- The float nearest to a number. -/
def Number.toFloat (n : Number) : Except Fault Float :=
  match n.toFloat? with
  | some x => .ok x
  | none => .error .beyondFloat

/-- The quotient of two integers as a float; the divisor is not zero. -/
def Number.quotient (a b : Int) : Except Fault Float :=
  match Number.quotient? a b with
  | some x => .ok x
  | none => .error .beyondFloat

end LearningGame
