import LearningGame.Play.Table

/-!
# Agendas

Countdowns on their own: an agenda is a list of errands on a table, of which some arm countdowns that
have errands of their own. It shows how countdowns behave whatever is done when they run out.
-/

namespace LearningGame.Play

/-- Something that is done with countdowns. -/
inductive Errand where
  /-- Arm a countdown, with what is to be done when it runs out and with every second. -/
  | arm (name : String) (seconds : Value) (scope : String) (onExpire : List Errand)
      (onTick : Option (List Errand))
  | cancel (name : String)
  | remaining (name : String)
  | isArmed (name : String)
  | nextSection
  | nextPhase
  | clear
  | tick
  /-- Set up a report that is heard as long as the epochs of a scope last. -/
  | guard (name scope : String)
  /-- Make a report that has been set up. -/
  | call (name : String) (args : List Value)

/-- The errands of a countdown. -/
structure Chime where
  onExpire : List Errand
  onTick : Option (List Errand)

/-- A report that is heard for a time. -/
structure Guard where
  epochs : Epochs
  scope : Scope

/-- What happened on an errand. -/
inductive Happening where
  | tick (name : String) (remaining : Int)
  | expire (name : String)
  | called (name : String) (args : List Value)
  | nested (result : Except Fault Value)

/-- A table on which errands are run. -/
structure Agenda where
  table : Table Chime
  guards : List (String × Guard)
  /-- What has happened, the latest first. -/
  happenings : List Happening

instance : Tabled Agenda Chime where
  table w := w.table
  setTable w t := { w with table := t }

namespace Agenda

/-- An empty table. -/
def empty : Agenda := ⟨.empty, [], []⟩

/-- The countdowns. -/
def registry (w : Agenda) : Registry Chime := w.table.registry

/-- Take down that something happened. -/
def happen (h : Happening) : Act Agenda Unit :=
  modify fun w => { w with happenings := h :: w.happenings }

/-- Numbers of epochs as values. -/
def epochValues (e : Epochs) : List Value := [.int e.plays, .int e.sections]

/-- Arm a countdown. -/
def arm (name : String) (seconds : Value) (scope : String) (chime : Chime) :
    Act Agenda Value := do
  let w ← get
  let r ← Act.lift (w.registry.arm? name seconds scope chime)
  set { w with table := { w.table with registry := r } }
  Table.note .debug countdownSource
    (armedNote name seconds ((Scope.find? scope).getD .ofSection))
  let left := ((r.remaining? name).map Value.int).getD .null
  return .list ([.str name, left, .str scope] ++ epochValues r.epochs)

/-- Set up a report. A scope that is not known lasts as long as a play. -/
def setGuard (name scope : String) : Act Agenda Value := do
  modify fun w =>
    { w with
      guards := (name, ⟨w.registry.epochs, (Scope.find? scope).getD .ofPlay⟩) :: w.guards }
  return .null

/-- Make a report; it is not heard if its time is over. -/
def call (name : String) (args : List Value) : Act Agenda Value := do
  let w ← get
  match w.guards.lookup name with
  | none => Act.fault .unknownName
  | some g =>
    if g.epochs.current w.registry.epochs g.scope then
      happen (.called name args)
      return .int args.length
    else
      Table.note .warning countdownSource (staleNote name)
      return .null

/-- Change the countdowns. -/
def change (f : Registry Chime → Registry Chime) : Act Agenda Value := do
  modify (Table.mapRegistry f)
  return .null

/-- Run errands and take down how each ends. -/
def nest (run : Errand → Act Agenda Value) : List Errand → Act Agenda Unit
  | [] => return ()
  | e :: rest => do
    let w ← get
    let (result, after) := (run e).runIn w
    set after
    happen (.nested result)
    nest run rest

/-- What countdowns do. -/
def bells (run : Errand → Act Agenda Value) : Table.Bells Agenda Chime where
  tick c left :=
    match c.alarm.onTick with
    | none => return ()
    | some errands => do
      happen (.tick c.name left)
      nest run errands
  expire c := do
    happen (.expire c.name)
    nest run c.alarm.onExpire

/-- Run an errand, with at most so many levels of errands within errands. -/
def runWithin : Nat → Errand → Act Agenda Value
  | 0, _ => Act.fault .endless
  | n + 1, e =>
    match e with
    | .arm name seconds scope onExpire onTick => arm name seconds scope ⟨onExpire, onTick⟩
    | .cancel name => do
      Table.cancel name
      return .null
    | .remaining name => do
      let w ← get
      return ((w.registry.remaining? name).map Value.int).getD .null
    | .isArmed name => do
      let w ← get
      return .bool (w.registry.remaining? name).isSome
    | .nextSection => change Registry.nextSection
    | .nextPhase => change Registry.nextPhase
    | .clear => change Registry.clear
    | .tick => do
      let names ← Table.tick (bells (runWithin n))
      return .list (names.map .str)
    | .guard name scope => setGuard name scope
    | .call name args => call name args

/-- So deep can errands be nested. -/
def depth : Nat := 400

/-- Run an errand. -/
def run : Errand → Act Agenda Value := runWithin depth

/-- The countdowns that are armed, with the seconds left to them. -/
def armed (w : Agenda) : List (String × Int) :=
  w.registry.countdowns.filterMap fun c =>
    (w.registry.remaining? c.name).map fun left => (c.name, left)

end Agenda

end LearningGame.Play
