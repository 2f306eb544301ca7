import LearningGame.Completion.Entries
import LearningGame.Content.Simulation

/-!
# Filling simulations

Resources that the initial state does not mention start with their initial value.
-/

namespace LearningGame.Completion

open Content Schema

/-- Give every map of a list its id, made of a word and its number. -/
def fillIds (word : String) (ms : List Fields) : List Fields :=
  (numbered ms).map fun e => fillId e.1 (word ++ toString e.2)

/-- The entries of a map that may be given by pairs; what counts as false has none. -/
def entriesOf (v : Value) : Except Fault Fields := if v.truthy then v.toFields else .ok []

/-- Start the resources that have no amount yet. -/
def startResources (resources : List Fields) (amounts : Fields) : Fields :=
  resources.foldl (fun amounts r => amounts.putNew (textAt r "id") (r.getD "initialValue" (.int 0)))
    amounts

/-- Fill the initial state of a simulation. -/
def fillInitialState (resources : List Fields) (v : Value) : Except Fault Fields := do
  let initial ← entriesOf v
  let amounts ← entriesOf (initial.get "resources")
  let initial := initial.put "resources" (.map (startResources resources amounts))
  let initial := initial.putNew "turn" (.int 0)
  let initial := initial.putNew "variables" (.map [])
  let initial := initial.putNew "unlockedActions" (.list [])
  return initial.putNew "completedObjectives" (.list [])

/-- Fill the choices of an event. -/
def fillEvent (event : Fields) (n : Nat) : Filling Fields := do
  let event := fillId event ("event" ++ toString n)
  let choices ← objects "event choice" (event.get "choices")
  return event.put "choices" (mapList choices)

/-- Fill an objective. -/
def fillObjective (objective : Fields) (n : Nat) : Fields :=
  let objective := fillId objective ("obj" ++ toString n)
  if (objective.get "type").isOneOf (Named.names ObjectiveKind) then objective
  else objective.put "type" (Named.name ObjectiveKind.reachValue)

/-- Fill a simulation. -/
def fillSimulation (content : Fields) : Filling Fields := do
  let resources ← objects "simulation resource" (content.get "resources")
  let resources := fillIds "res" resources
  let initial ← Traced.lift (fillInitialState resources (content.get "initialState"))
  let actions ← objects "simulation action" (content.get "actions")
  let actions := fillIds "action" actions
  let events ← objects "simulation event" (content.get "events")
  let events ← Traced.traverse (fun e => fillEvent e.1 e.2) (numbered events)
  let objectives ← objects "simulation objective" (content.get "objectives")
  let objectives := (numbered objectives).map fun e => fillObjective e.1 e.2
  let content := content.put "initialState" (.map initial)
  let content := content.put "resources" (mapList resources)
  let content := content.put "actions" (mapList actions)
  let content := content.put "events" (mapList events)
  let content := content.put "objectives" (mapList objectives)
  fillWhole content "maxTurns" 10

end LearningGame.Completion
