import LearningGame.Number.Binary

/-!
# Dice

The source of random numbers of a game: a stream of numbers from zero up to below one, and how many
of them have been drawn.
-/

namespace LearningGame.Play

/-- A stream of random numbers. -/
structure Dice where
  throws : Nat → Float
  drawn : Nat

namespace Dice

/-- Dice that repeat a list of numbers for ever; they show zero if it is empty. -/
def repeating (xs : Array Float) : Dice := ⟨fun n => xs.getD (n % xs.size) 0, 0⟩

/-- The next number. -/
def top (d : Dice) : Float := d.throws d.drawn

/-- The dice after a number has been drawn. -/
def advance (d : Dice) : Dice := { d with drawn := d.drawn + 1 }

/-- The index below a bound that a random number stands for. -/
def index (x : Float) (n : Nat) : Nat :=
  match Number.truncate (x * Float.ofNat n) with
  | .ok i => i.toNat
  | .error _ => 0

/-- Draw an index below a bound. -/
def below (n : Nat) : StateM Dice Nat := do
  let d ← get
  set d.advance
  return index d.top n

/-! ### Shuffling -/

variable {α : Type}

/-- Swap two elements of a list. -/
def swap (xs : List α) (i j : Nat) : List α :=
  match xs[i]?, xs[j]? with
  | some a, some b => (xs.set i b).set j a
  | _, _ => xs

/-- Swap the element before a bound with a random one up to it, and so on downwards. -/
def shuffleBelow : Nat → List α → StateM Dice (List α)
  | 0, xs => return xs
  | 1, xs => return xs
  | n + 2, xs => do
    let j ← below (n + 2)
    shuffleBelow (n + 1) (swap xs (n + 1) j)

/-- Put a list into random order. -/
def shuffle (xs : List α) : StateM Dice (List α) := shuffleBelow xs.length xs

end Dice

end LearningGame.Play
