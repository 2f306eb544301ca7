import LearningGame.Play.Countdown
import LearningGame.Play.Script

/-!
# The table

What is common to everything that is played: the countdowns that are running and the notes that are
made. A tick takes a second off every countdown that was there when it began; one that runs out is
taken off the table before its alarm goes.
-/

namespace LearningGame.Play

/-- Countdowns and notes. -/
structure Table (α : Type) where
  registry : Registry α
  /-- The notes, the latest first. -/
  notes : List Log.Record

/-- Worlds with a table. -/
class Tabled (ω : Type) (α : outParam Type) where
  table : ω → Table α
  setTable : ω → Table α → ω

/-- An empty table. -/
def Table.empty {α : Type} : Table α := ⟨Registry.empty, []⟩

namespace Table

variable {ω α : Type} [Tabled ω α]

/-- The countdowns of a world. -/
def registryOf (w : ω) : Registry α := (Tabled.table w).registry

/-- Change the countdowns of a world. -/
def mapRegistry (f : Registry α → Registry α) (w : ω) : ω :=
  Tabled.setTable w { Tabled.table w with registry := f (registryOf w) }

/-- Add a note. -/
def write (r : Log.Record) (w : ω) : ω :=
  Tabled.setTable w { Tabled.table w with notes := r :: (Tabled.table w).notes }

/-- Make a note. -/
def note (level : Log.Level) (source message : String) : Act ω Unit :=
  modify (write ⟨level, source, message⟩)

/-- Take over a result with the notes that come with it. -/
def take {β : Type} (x : Traced Fault β) : Act ω β :=
  Act.ofFun fun w => (x.result, x.notes.foldl (fun w r => write r w) w)

/-- Arm a countdown. -/
def arm (name : String) (seconds : Int) (scope : Scope) (alarm : α) : Act ω Unit := do
  modify (mapRegistry fun r => r.arm name seconds scope alarm)
  note .debug countdownSource (armedNote name (.int seconds) scope)

/-- Take a countdown out, if there is one. -/
def cancel (name : String) : Act ω Unit := do
  let w ← get
  match (registryOf w).find? name with
  | none => return ()
  | some _ =>
    modify (mapRegistry fun r => r.cancel name)
    note .debug countdownSource (cancelledNote name)

/-! ### Ticking -/

/-- What countdowns do. -/
structure Bells (ω α : Type) where
  /-- What is done when a second of a countdown has gone by. -/
  tick : Countdown α → Int → Act ω Unit
  /-- What is done when a countdown has run out. -/
  expire : Countdown α → Act ω Unit

/-- Have a countdown that has run out go off. -/
def goOff (bells : Bells ω α) (c : Countdown α) : Act ω Unit := do
  modify (mapRegistry fun r => r.cancel c.name)
  note .debug countdownSource (expiredNote c.name)
  bells.expire c

/-- Take a second off a countdown; tells its name if it has run out. What it does with every second
may cost it more of them, even as it is taken out. -/
def advance (bells : Bells ω α) (serial : Nat) : Act ω (Option String) := do
  let w ← get
  match (registryOf w).live? serial with
  | none => return none
  | some c =>
    modify (mapRegistry fun r => r.step c)
    bells.tick c (c.remaining - 1)
    let w ← get
    if (registryOf w).left c ≤ 0 then
      goOff bells c
      return some c.name
    else return none

/-- Take a second off the countdowns with some serial numbers; tells the names of those that have
run out. -/
def advanceAll (bells : Bells ω α) : List Nat → Act ω (List String)
  | [] => return []
  | serial :: rest => do
    let expired ← advance bells serial
    let others ← advanceAll bells rest
    return expired.toList ++ others

/-- Let a second go by; tells the names of the countdowns that have run out. -/
def tick (bells : Bells ω α) : Act ω (List String) := do
  let w ← get
  advanceAll bells (registryOf w).serials

end Table

end LearningGame.Play
