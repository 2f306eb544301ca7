import LearningGame.Log
import LearningGame.Value.Text

/-!
# Countdowns

Named countdowns that run by the second. A countdown belongs to the current section or to the whole
play, and is void once that is over: the registry counts the sections and plays that have gone by,
and a countdown remembers the counts at which it was armed.
-/

namespace LearningGame.Play

/-- How long a countdown can live: a section, or a whole play. -/
inductive Scope where
  | ofSection
  | ofPlay
  deriving DecidableEq

/-- The name of a scope. -/
def Scope.name : Scope → String
  | .ofSection => "section"
  | .ofPlay => "phase"

/-- The scope with a name. -/
def Scope.find? (name : String) : Option Scope :=
  if name = "section" then some .ofSection else if name = "phase" then some .ofPlay else none

/-- How many plays and sections have gone by. -/
structure Epochs where
  plays : Nat
  sections : Nat
  deriving DecidableEq

/-- Whether what was made at some epochs is still valid at others. -/
def Epochs.current (made now : Epochs) (scope : Scope) : Bool :=
  made.plays == now.plays &&
    match scope with
    | .ofSection => made.sections == now.sections
    | .ofPlay => true

/-- A countdown and what it does. -/
structure Countdown (α : Type) where
  /-- Which of the countdowns ever armed this is. -/
  serial : Nat
  name : String
  remaining : Int
  scope : Scope
  epochs : Epochs
  alarm : α

/-- The countdowns of a session. -/
structure Registry (α : Type) where
  epochs : Epochs
  /-- The number of countdowns ever armed. -/
  armed : Nat
  /-- The countdowns in the order in which their names were first armed. -/
  countdowns : List (Countdown α)
  /-- The seconds left to every countdown that has lost one, whether it is still there or not. -/
  lefts : List (Nat × Int)

namespace Registry

variable {α : Type}

/-- A registry without countdowns. -/
def empty : Registry α := ⟨⟨0, 0⟩, 0, [], []⟩

/-- The countdown with a name. -/
def find? (r : Registry α) (name : String) : Option (Countdown α) :=
  r.countdowns.find? (·.name == name)

/-- Whether a countdown is still valid. -/
def isCurrent (r : Registry α) (c : Countdown α) : Bool := c.epochs.current r.epochs c.scope

/-- The seconds that are left to a countdown. -/
def remaining? (r : Registry α) (name : String) : Option Int :=
  match r.find? name with
  | some c => if r.isCurrent c then some c.remaining else none
  | none => none

/-- Put a countdown in the place of the one with its name, or at the end. -/
def place (c : Countdown α) : List (Countdown α) → List (Countdown α)
  | [] => [c]
  | d :: rest => if d.name == c.name then c :: rest else d :: place c rest

/-- Arm a countdown. -/
def arm (r : Registry α) (name : String) (seconds : Int) (scope : Scope) (alarm : α) : Registry α :=
  { r with
    armed := r.armed + 1
    countdowns := place ⟨r.armed, name, seconds, scope, r.epochs, alarm⟩ r.countdowns }

/-- Take a countdown out. -/
def cancel (r : Registry α) (name : String) : Registry α :=
  { r with countdowns := r.countdowns.filter (·.name != name) }

/-- Begin a new section; the countdowns of the old one are void. -/
def nextSection (r : Registry α) : Registry α :=
  { r with
    epochs := { r.epochs with sections := r.epochs.sections + 1 }
    countdowns := r.countdowns.filter (·.scope != .ofSection) }

/-- End the play; all countdowns are void. -/
def nextPhase (r : Registry α) : Registry α :=
  { r with epochs := ⟨r.epochs.plays + 1, r.epochs.sections + 1⟩, countdowns := [] }

/-- Take all countdowns out. -/
def clear (r : Registry α) : Registry α := { r with countdowns := [] }

/-- Which countdowns there are. -/
def serials (r : Registry α) : List Nat := r.countdowns.map (·.serial)

/-- The countdown with a serial number, if it is still valid. -/
def live? (r : Registry α) (serial : Nat) : Option (Countdown α) :=
  (r.countdowns.find? (·.serial == serial)).filter r.isCurrent

/-- Take a second off a countdown. -/
def step (r : Registry α) (c : Countdown α) : Registry α :=
  { r with
    countdowns := r.countdowns.map fun d =>
      if d.serial == c.serial then { d with remaining := c.remaining - 1 } else d
    lefts := (c.serial, c.remaining - 1) :: r.lefts.filter (·.1 != c.serial) }

/-- The seconds left to a countdown when it last lost one. It may have been taken out since. -/
def left (r : Registry α) (c : Countdown α) : Int := (r.lefts.lookup c.serial).getD c.remaining

/-- After a countdown has lost a second it has one less. -/
@[simp] theorem left_step (r : Registry α) (c : Countdown α) :
    (r.step c).left c = c.remaining - 1 := by
  simp [left, step]

end Registry

/-! ### Arming on request -/

/-- Arm a countdown whose duration and scope are yet to be checked. -/
def Registry.arm? {α : Type} (r : Registry α) (name : String) (seconds : Value) (scope : String)
    (alarm : α) : Except Fault (Registry α) :=
  seconds.toNumber.bind fun n =>
    if n.atMost (.int 0) then .error (.badDuration name seconds.text)
    else
      match Scope.find? scope with
      | none => .error (.unknownScope scope)
      | some scope => n.toInt.map fun n => r.arm name n scope alarm

/-! ### Notes -/

/-- What is noted when a countdown is armed. -/
def armedNote (name : String) (seconds : Value) (scope : Scope) : String :=
  "Timer armed: " ++ name ++ " (" ++ seconds.text ++ "s, " ++ scope.name ++ ")"

/-- What is noted when a countdown is taken out. -/
def cancelledNote (name : String) : String := "Timer cancelled: " ++ name

/-- What is noted when a countdown has run out. -/
def expiredNote (name : String) : String := "Timer expired: " ++ name

/-- What is noted when a report comes too late. -/
def staleNote (operation : String) : String := "Ignoring stale callback " ++ operation

/-- Who makes the notes on countdowns. -/
def countdownSource : String := "edugame.timers"

end LearningGame.Play
