import LearningGame.Fault

/-!
# Arithmetic of mixed numbers

Integers stay exact among themselves; as soon as a float takes part, the integer becomes a float
too, which it must not be too large for.
-/

namespace LearningGame.Number

/-- Apply an operation on floats to two numbers. -/
def onFloats (f : Float → Float → Float) (a b : Number) : Except Fault Number := do
  let x ← a.toFloat
  let y ← b.toFloat
  return .float (f x y)

/-- The sum of two numbers. -/
def add : Number → Number → Except Fault Number
  | .int a, .int b => .ok (.int (a + b))
  | a, b => onFloats (· + ·) a b

/-- The difference of two numbers. -/
def sub : Number → Number → Except Fault Number
  | .int a, .int b => .ok (.int (a - b))
  | a, b => onFloats (· - ·) a b

/-- The product of two numbers. -/
def mul : Number → Number → Except Fault Number
  | .int a, .int b => .ok (.int (a * b))
  | a, b => onFloats (· * ·) a b

/-- The quotient of a number and an integer that is not zero, as a float. -/
def divInt (a : Number) (b : Int) : Except Fault Float :=
  match a with
  | .int n => quotient n b
  | .float x => do
    let y ← (Number.int b).toFloat
    return x / y

@[simp] theorem add_int (a b : Int) : add (.int a) (.int b) = .ok (.int (a + b)) := rfl

@[simp] theorem sub_int (a b : Int) : sub (.int a) (.int b) = .ok (.int (a - b)) := rfl

end LearningGame.Number

