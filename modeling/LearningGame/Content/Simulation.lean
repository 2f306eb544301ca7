import LearningGame.Schema.Record

/-!
# Simulations

In a simulation the player spends resources on actions, turn by turn, meets random events and
pursues objectives.
-/

namespace LearningGame.Content

open Schema

/-- Amounts of resources by name. -/
abbrev Amounts := List (String × Float)

/-- How amounts are written. -/
def Amounts.codec : Codec Amounts := Codec.entries .float

/-- The state in which a simulation starts. -/
structure InitialState where
  turn : Int
  resources : Amounts
  vars : List (String × Value)
  unlockedActions : List String
  completedObjectives : List String

/-- How initial states are written. -/
def InitialState.codec : Codec InitialState :=
  RecordOf.build InitialState.mk
    |>.apply (.withDefault "turn" .integer 0 (·.turn))
    |>.apply (.withDefault "resources" Amounts.codec [] (·.resources))
    |>.apply (.withDefault "variables" (Codec.entries .any) [] (·.vars))
    |>.apply (.withDefault "unlockedActions" (Codec.list .text) [] (·.unlockedActions))
    |>.apply (.withDefault "completedObjectives" (Codec.list .text) [] (·.completedObjectives))
    |>.codec "SimulationState"

/-- A resource and its bounds. -/
structure Resource where
  id : String
  name : String
  icon : String
  initialValue : Number
  minValue : Number
  maxValue : Number
  description : String

/-- How resources are written. -/
def Resource.codec : Codec Resource :=
  RecordOf.build Resource.mk
    |>.apply (.required "id" .text (·.id))
    |>.apply (.withDefault "name" .text "" (·.name))
    |>.apply (.withDefault "icon" .text "" (·.icon))
    |>.apply (.withDefault "initialValue" .number (.int 0) (·.initialValue))
    |>.apply (.withDefault "minValue" .number (.int 0) (·.minValue))
    |>.apply (.withDefault "maxValue" .number (.int 100) (·.maxValue))
    |>.apply (.withDefault "description" .text "" (·.description))
    |>.codec "SimResource"

/-- An action with its cost and effects. -/
structure SimAction where
  id : String
  name : String
  description : String
  icon : String
  cost : Amounts
  effects : Amounts
  unlockCondition : Option String
  cooldown : Int

/-- How actions are written. -/
def SimAction.codec : Codec SimAction :=
  RecordOf.build SimAction.mk
    |>.apply (.required "id" .text (·.id))
    |>.apply (.withDefault "name" .text "" (·.name))
    |>.apply (.withDefault "description" .text "" (·.description))
    |>.apply (.withDefault "icon" .text "" (·.icon))
    |>.apply (.withDefault "cost" Amounts.codec [] (·.cost))
    |>.apply (.withDefault "effects" Amounts.codec [] (·.effects))
    |>.apply (.optional "unlockCondition" .text (·.unlockCondition))
    |>.apply (.withDefault "cooldown" .integer 0 (·.cooldown))
    |>.codec "SimAction"

/-- A choice in an event. -/
structure EventChoice where
  text : String
  effects : Amounts

/-- How choices in events are written. -/
def EventChoice.codec : Codec EventChoice :=
  RecordOf.build EventChoice.mk
    |>.apply (.required "text" .text (·.text))
    |>.apply (.withDefault "effects" Amounts.codec [] (·.effects))
    |>.codec "SimEventChoice"

/-- Something that may happen at the end of a turn. -/
structure SimEvent where
  id : String
  name : String
  description : String
  probability : Float
  conditions : Option String
  effects : Amounts
  choices : List EventChoice

/-- How events are written. -/
def SimEvent.codec : Codec SimEvent :=
  RecordOf.build SimEvent.mk
    |>.apply (.required "id" .text (·.id))
    |>.apply (.withDefault "name" .text "" (·.name))
    |>.apply (.withDefault "description" .text "" (·.description))
    |>.apply (.withDefault "probability" .float 0 (·.probability))
    |>.apply (.optional "conditions" .text (·.conditions))
    |>.apply (.withDefault "effects" Amounts.codec [] (·.effects))
    |>.apply (.withDefault "choices" EventChoice.codec.list [] (·.choices))
    |>.codec "SimEvent"

/-- What an objective asks for. -/
inductive ObjectiveKind where
  | reachValue
  | maintainValue
  | completeAction
  | surviveTurns
  deriving DecidableEq

instance : Named ObjectiveKind where
  all := [.reachValue, .maintainValue, .completeAction, .surviveTurns]
  name
    | .reachValue => "reach-value"
    | .maintainValue => "maintain-value"
    | .completeAction => "complete-action"
    | .surviveTurns => "survive-turns"

/-- An objective. -/
structure Objective where
  id : String
  description : String
  kind : ObjectiveKind
  target : String
  value : Number
  required : Bool
  points : Int

/-- How objectives are written. -/
def Objective.codec : Codec Objective :=
  RecordOf.build Objective.mk
    |>.apply (.required "id" .text (·.id))
    |>.apply (.withDefault "description" .text "" (·.description))
    |>.apply (.required "type" .named (·.kind))
    |>.apply (.withDefault "target" .text "" (·.target))
    |>.apply (.withDefault "value" .number (.int 0) (·.value))
    |>.apply (.withDefault "required" .boolean false (·.required))
    |>.apply (.withDefault "points" .integer 0 (·.points))
    |>.codec "SimObjective"

/-- A simulation. -/
structure Simulation where
  initialState : InitialState
  resources : List Resource
  actions : List SimAction
  events : List SimEvent
  objectives : List Objective
  maxTurns : Int

/-- The fields of a simulation. -/
def Simulation.fields : RecordOf Simulation Simulation :=
  RecordOf.build Simulation.mk
    |>.apply (.required "initialState" InitialState.codec (·.initialState))
    |>.apply (.required "resources" Resource.codec.list (·.resources))
    |>.apply (.withDefault "actions" SimAction.codec.list [] (·.actions))
    |>.apply (.withDefault "events" SimEvent.codec.list [] (·.events))
    |>.apply (.withDefault "objectives" Objective.codec.list [] (·.objectives))
    |>.apply (.withDefault "maxTurns" .integer 10 (·.maxTurns))

end LearningGame.Content
