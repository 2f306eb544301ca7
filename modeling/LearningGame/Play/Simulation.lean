import LearningGame.Catalogue
import LearningGame.Number.Arithmetic
import LearningGame.Play.Sitting
import LearningGame.Play.State

/-!
# Playing a simulation

In each turn the player performs any number of actions that are unlocked, affordable and not cooling
down, and then ends the turn. That may bring up an event, which has to be resolved before the next
turn begins. After every change the objectives are looked at:

* when all required objectives are complete, the simulation is won;
* when the last turn is over, it is won if a required objective is complete, else lost;
* when a declared resource is at its minimum, it is lost.
-/

namespace LearningGame.Play

open Content Schema

/-- Amounts of resources by id. -/
abbrev Holdings := Catalogue Number

/-- A simulation in play. -/
structure SimulationSitting extends Sitting where
  content : Simulation
  resources : Holdings
  turn : Int
  unlocked : List String
  completedObjectives : List String
  /-- For how many turns each action is still cooling down. -/
  cooldowns : Catalogue Int
  performed : List String
  /-- The objectives of keeping a value that have been missed. -/
  brokenMaintains : List String
  currentEvent : Option SimEvent
  /-- Whether the simulation was won, once it is over. -/
  won : Option Bool

instance : Seated SimulationSitting where
  sitting s := s.toSitting
  seat s t := { s with toSitting := t }

namespace SimulationSitting

/-- Put an element into a set. -/
def insert (xs : List String) (x : String) : List String := if xs.contains x then xs else xs ++ [x]

/-- Sit down to a simulation. -/
def create (content : Simulation) (started : Float) : SimulationSitting :=
  let i := content.initialState
  ⟨⟨false, started⟩, content, i.resources.map fun e => (e.1, .float e.2), i.turn,
    i.unlockedActions.foldl insert [], i.completedObjectives, [], [], [], none, none⟩

/-- Whether the simulation is over. -/
def isOver (s : SimulationSitting) : Bool := s.won.isSome

/-! ### Resources -/

/-- The amount of a resource; there is nothing of what has never been mentioned. -/
def amount (h : Holdings) (id : String) : Number := (h.find? id).getD (.int 0)

/-- The declared resources by id. -/
def declared (s : SimulationSitting) : Catalogue Resource :=
  Catalogue.ofList Resource.id s.content.resources

/-- The bounds of a resource that is not declared. -/
def defaultBounds : Number × Number := (.float 0, .float 100)

/-- The bounds of a resource. -/
def bounds (s : SimulationSitting) (id : String) : Number × Number :=
  match s.declared.find? id with
  | some r => (r.minValue, r.maxValue)
  | none => defaultBounds

/-- The nearest number between two bounds, the lower one if they are crossed. -/
def clamp (b : Number × Number) (x : Number) : Number :=
  let capped := if x.less b.2 then x else b.2
  if b.1.less capped then capped else b.1

/-- Add amounts to the resources, within their bounds. -/
def applyEffects : Amounts → Script SimulationSitting Unit
  | [] => pure ()
  | (id, delta) :: rest => do
    let s ← Script.state
    let sum ← Script.lift ((amount s.resources id).add (.float delta))
    Script.setState { s with resources := s.resources.put id (clamp (s.bounds id) sum) }
    applyEffects rest

/-- Take amounts off the resources. -/
def pay : Amounts → Script SimulationSitting Unit
  | [] => pure ()
  | (id, cost) :: rest => do
    let s ← Script.state
    let left ← Script.lift ((amount s.resources id).sub (.float cost))
    Script.setState { s with resources := s.resources.put id left }
    pay rest

/-! ### Objectives and the end -/

/-- Whether an objective is met now. -/
def isMet (s : SimulationSitting) (o : Objective) : Bool :=
  match o.kind with
  | .reachValue => o.value.atMost (amount s.resources o.target)
  | .surviveTurns => o.value.atMost (.int s.turn)
  | .completeAction => s.performed.contains o.target
  | .maintainValue => !s.brokenMaintains.contains o.id && decide (s.content.maxTurns ≤ s.turn)

/-- Whether a value that is to be kept is missed now. -/
def isMissed (s : SimulationSitting) (o : Objective) : Bool :=
  o.kind == .maintainValue && (amount s.resources o.target).less o.value

/-- Look at an objective. -/
def evaluate (o : Objective) : Script SimulationSitting Unit := do
  Script.change fun s =>
    if s.isMissed o then { s with brokenMaintains := insert s.brokenMaintains o.id } else s
  let s ← Script.state
  if !s.completedObjectives.contains o.id && s.isMet o then
    Script.setState { s with completedObjectives := s.completedObjectives ++ [o.id] }
    Script.note .info ("Objective '" ++ o.id ++ "' completed")
  else pure ()

/-- The required objectives. -/
def required (s : SimulationSitting) : List String :=
  (s.content.objectives.filter (·.required)).map (·.id)

/-- The required objectives that are complete. -/
def requiredDone (s : SimulationSitting) : List String :=
  s.required.filter fun id => s.completedObjectives.contains id

/-- Whether a declared resource is at its minimum. -/
def isExhausted (s : SimulationSitting) : Bool :=
  s.declared.any fun e => (amount s.resources e.1).atMost e.2.minValue

/-- Whether the simulation is won or lost now, if it is over. -/
def outcome? (s : SimulationSitting) : Option Bool :=
  if !s.required.isEmpty && s.requiredDone.length == s.required.length then some true
  else if s.content.maxTurns ≤ s.turn then some !s.requiredDone.isEmpty
  else if s.isExhausted then some false
  else none

-- The zero of a sum of integers is the core one, whatever else is imported.
attribute [local instance (2000)] Zero.ofOfNat0

/-- The points of the complete objectives. -/
def points (s : SimulationSitting) : Int :=
  ((s.content.objectives.filter fun o => s.completedObjectives.contains o.id).map (·.points)).sum

variable (c : Setting)

/-- The name of an outcome. -/
def resultName (won : Bool) : String := if won then "win" else "lose"

/-- End the simulation and report the outcome. -/
def finish (won : Bool) : Script SimulationSitting Unit := do
  Script.change fun s => { s with won := some won }
  let s ← Script.state
  Setting.answer c.sectionId
    (.map [("result", resultName won), ("turn", .int s.turn),
      ("completedObjectives", .list (s.completedObjectives.map .str))])
    won s.points
  Script.note .info
    ("Simulation '" ++ c.sectionId ++ "' ended: " ++ resultName won ++ " on turn " ++
      Number.intText s.turn)

/-- Look at the objectives after a change, and end if it is time. -/
def afterChange : Script SimulationSitting Unit := do
  let s ← Script.state
  Script.forEach evaluate s.content.objectives
  let s ← Script.state
  match s.outcome? with
  | some won => finish c won
  | none => pure ()

/-! ### Actions -/

/-- Whether an action can be performed. -/
def canPerform (s : SimulationSitting) (a : SimAction) : Bool :=
  !decide (0 < (s.cooldowns.find? a.id).getD 0) &&
    (a.unlockCondition.getD "" == "" || s.unlocked.contains a.id) &&
    a.cost.all fun e => (Number.float e.2).atMost (amount s.resources e.1)

/-- Do something unless the simulation is over or an event is waiting. -/
def unlessBlocked {α : Type} (action : String) (refused : α) (x : Script SimulationSitting α) :
    Script SimulationSitting α :=
  c.unlessCompleted action refused do
    let s ← Script.state
    if s.isOver then
      Script.warn ("Ignoring " ++ action ++ ": simulation is over")
      return refused
    else
      match s.currentEvent with
      | some e =>
        Script.warn ("Ignoring " ++ action ++ ": resolve event '" ++ e.id ++ "' first")
        return refused
      | none => x

/-- Pay for an action and bring about its effects. -/
def carryOut (a : SimAction) : Script SimulationSitting Unit := do
  pay a.cost
  applyEffects a.effects
  Script.change fun s =>
    { s with
      cooldowns := if a.cooldown = 0 then s.cooldowns else s.cooldowns.put a.id a.cooldown
      performed := insert s.performed a.id }
  afterChange c

/-- Perform an action; tells whether it was possible. -/
def perform (id : String) : Script SimulationSitting Bool :=
  unlessBlocked c "perform" false do
    let s ← Script.state
    match (Catalogue.ofList SimAction.id s.content.actions).find? id with
    | none =>
      Script.warn ("Unknown action '" ++ id ++ "'")
      return false
    | some a =>
      if s.canPerform a then
        carryOut c a
        return true
      else
        Script.note .info ("Action '" ++ id ++ "' rejected")
        return false

/-- Unlock an action. -/
def unlock (id : String) : Script SimulationSitting Unit :=
  Script.change fun s => { s with unlocked := insert s.unlocked id }

/-! ### Turns and events -/

/-- Begin the next turn. -/
def nextTurn : Script SimulationSitting Unit := do
  Script.change fun s => { s with turn := s.turn + 1 }
  let s ← Script.state
  Script.updateVariables (s.resources.map fun e => (e.1, e.2.toValue))
  afterChange c

/-- The cooldowns after a turn. -/
def cooled (cooldowns : Catalogue Int) : Catalogue Int :=
  cooldowns.filterMap fun e => if 1 < e.2 then some (e.1, e.2 - 1) else none

/-- Whether an event happens. -/
def happens (e : SimEvent) : Script SimulationSitting Bool := do
  let x ← Script.draw
  return x < e.probability

/-- Have one of the events that happen wait to be resolved. -/
def raise (events : List SimEvent) : Script SimulationSitting (Option SimEvent) := do
  let e ← Script.choose events
  Script.change fun s => { s with currentEvent := some e }
  let s ← Script.state
  Script.note .info ("Event '" ++ e.id ++ "' on turn " ++ Number.intText s.turn)
  return some e

/-- End the turn; gives the event that has to be resolved, if there is one. -/
def endTurn : Script SimulationSitting (Option SimEvent) :=
  unlessBlocked c "end turn" none do
    Script.change fun s => { s with cooldowns := cooled s.cooldowns }
    let s ← Script.state
    let events ← Script.filter happens s.content.events
    if events.isEmpty then
      nextTurn c
      return none
    else raise events

/-- The effects of an event, or of the choice that is made in it. -/
def effectsOf (e : SimEvent) : Option Int → Amounts
  | none => e.effects
  | some i => if 0 ≤ i then ((e.choices[i.toNat]?).map (·.effects)).getD e.effects else e.effects

/-- Resolve the event that is waiting, by a choice or as it is. -/
def resolveEvent (choice : Option Int) : Script SimulationSitting Unit := do
  let s ← Script.state
  match (if s.isOver then none else s.currentEvent) with
  | none => Script.warn "No event to resolve"
  | some e =>
    applyEffects (effectsOf e choice)
    Script.change fun s => { s with currentEvent := none }
    nextTurn c

/-- Go on after the end. -/
def leave : Script SimulationSitting Unit := do
  let s ← Script.state
  if s.isOver then c.complete else Script.warn "Simulation is still running"

/-- What the player sees. -/
def view (s : SimulationSitting) : Fields :=
  [("type", Named.name SectionKind.simulation),
   ("turn", .int s.turn),
   ("maxTurns", .int s.content.maxTurns),
   ("resources", .map (s.resources.map fun e => (e.1, e.2.toValue))),
   ("actions", .list (s.content.actions.map fun a =>
     .map [("id", a.id), ("name", a.name), ("available", .bool (s.canPerform a)),
       ("cooldown", .int ((s.cooldowns.find? a.id).getD 0))])),
   ("event", match s.currentEvent with
     | some e => SimEvent.codec.write true e
     | none => .null),
   ("completedObjectives", .list (s.completedObjectives.map .str)),
   ("result", optionalText (s.won.map resultName))]

end SimulationSitting

end LearningGame.Play
