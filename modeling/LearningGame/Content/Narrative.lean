import LearningGame.Schema.Record

/-!
# Narratives

A narrative is a graph of scenes. A scene leads on by choices, which may depend on a condition and
have effects, or straight to a next scene.
-/

namespace LearningGame.Content

open Schema

/-! ### Conditions -/

/-- What a condition looks at. -/
inductive ConditionKind where
  | variable
  | score
  | item
  deriving DecidableEq

instance : Named ConditionKind where
  all := [.variable, .score, .item]
  name
    | .variable => "variable"
    | .score => "score"
    | .item => "item"

/-- How two values are compared. -/
inductive Comparison where
  | equal
  | notEqual
  | greater
  | less
  | atLeast
  | atMost
  deriving DecidableEq

instance : Named Comparison where
  all := [.equal, .notEqual, .greater, .less, .atLeast, .atMost]
  name
    | .equal => "=="
    | .notEqual => "!="
    | .greater => ">"
    | .less => "<"
    | .atLeast => ">="
    | .atMost => "<="

/-- A condition on variables, score or inventory. -/
structure Condition where
  kind : ConditionKind
  variableName : String
  comparison : Comparison
  value : Value

/-- How conditions are written. -/
def Condition.codec : Codec Condition :=
  RecordOf.build Condition.mk
    |>.apply (.withDefault "type" .named .variable (·.kind))
    |>.apply (.withDefault "variable" .text "" (·.variableName))
    |>.apply (.withDefault "operator" .named .equal (·.comparison))
    |>.apply (.withDefault "value" .any .null (·.value))
    |>.codec "ChoiceCondition"

/-! ### Effects and actions -/

/-- What an effect changes. -/
inductive EffectKind where
  | setVariable
  | addScore
  | addItem
  | removeItem
  deriving DecidableEq

instance : Named EffectKind where
  all := [.setVariable, .addScore, .addItem, .removeItem]
  name
    | .setVariable => "set-variable"
    | .addScore => "add-score"
    | .addItem => "add-item"
    | .removeItem => "remove-item"

/-- An effect of a choice. -/
structure Effect where
  kind : EffectKind
  target : String
  value : Value

/-- How effects are written. -/
def Effect.codec : Codec Effect :=
  RecordOf.build Effect.mk
    |>.apply (.required "type" .named (·.kind))
    |>.apply (.withDefault "target" .text "" (·.target))
    |>.apply (.withDefault "value" .any .null (·.value))
    |>.codec "ChoiceEffect"

/-- Something that happens on entering a scene; kinds that are not known do nothing. -/
structure SceneAction where
  kind : String
  payload : List (String × Value)

/-- How scene actions are written. -/
def SceneAction.codec : Codec SceneAction :=
  RecordOf.build SceneAction.mk
    |>.apply (.required "type" .text (·.kind))
    |>.apply (.withDefault "payload" (Codec.entries .any) [] (·.payload))
    |>.codec "SceneAction"

/-! ### Scenes -/

/-- A way on from a scene. -/
structure Choice where
  id : String
  text : String
  targetScene : String
  condition : Option Condition
  effects : List Effect

/-- How choices are written. -/
def Choice.codec : Codec Choice :=
  RecordOf.build Choice.mk
    |>.apply (.required "id" .text (·.id))
    |>.apply (.required "text" .text (·.text))
    |>.apply (.required "targetScene" .text (·.targetScene))
    |>.apply (.optional "condition" Condition.codec (·.condition))
    |>.apply (.withDefault "effects" Effect.codec.list [] (·.effects))
    |>.codec "NarrativeChoice"

/-- How a story can end. -/
inductive EndingKind where
  | success
  | failure
  | neutral
  deriving DecidableEq

instance : Named EndingKind where
  all := [.success, .failure, .neutral]
  name
    | .success => "success"
    | .failure => "failure"
    | .neutral => "neutral"

/-- A scene. -/
structure Scene where
  id : String
  text : String
  speaker : Option String
  background : Option String
  choices : List Choice
  nextScene : Option String
  actions : List SceneAction
  isEnding : Bool
  ending : Option EndingKind

/-- How scenes are written. -/
def Scene.codec : Codec Scene :=
  RecordOf.build Scene.mk
    |>.apply (.required "id" .text (·.id))
    |>.apply (.withDefault "text" .text "" (·.text))
    |>.apply (.optional "speaker" .text (·.speaker))
    |>.apply (.optional "background" .text (·.background))
    |>.apply (.withDefault "choices" Choice.codec.list [] (·.choices))
    |>.apply (.optional "nextScene" .text (·.nextScene))
    |>.apply (.withDefault "actions" SceneAction.codec.list [] (·.actions))
    |>.apply (.withDefault "isEnding" .boolean false (·.isEnding))
    |>.apply (.optional "endingType" .named (·.ending))
    |>.codec "NarrativeScene"

/-- A story. -/
structure Narrative where
  scenes : List Scene
  startScene : String

/-- The fields of a story. -/
def Narrative.fields : RecordOf Narrative Narrative :=
  RecordOf.build Narrative.mk
    |>.apply (.required "scenes" Scene.codec.list (·.scenes))
    |>.apply (.required "startScene" .text (·.startScene))

end LearningGame.Content
