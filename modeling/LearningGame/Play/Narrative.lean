import LearningGame.Catalogue
import LearningGame.Play.Sitting
import LearningGame.Play.State
import LearningGame.Value.Sequence

/-!
# Playing a narrative

The player goes from scene to scene. The actions of a scene happen whenever it is entered; the
effects of a choice happen when it is made, before its target scene is entered. Going on from an
ending finishes the section.
-/

namespace LearningGame.Play

open Content Schema Rules

/-- A narrative in play. -/
structure NarrativeSitting extends Sitting where
  scenes : Catalogue Scene
  sceneId : String
  /-- Whether the text of the scene is still being typed out. -/
  typing : Bool
  /-- The scenes that have been entered. -/
  history : List String

instance : Seated NarrativeSitting where
  sitting s := s.toSitting
  seat s t := { s with toSitting := t }

namespace NarrativeSitting

/-- A good ending earns so many times the points of a correct answer. -/
def endingMultiplier : Int := 5

/-- The scene in which the player is. -/
def current? (s : NarrativeSitting) : Option Scene := s.scenes.find? s.sceneId

/-- Sit down to a narrative. -/
def create (content : Narrative) (started : Float) : NarrativeSitting :=
  ⟨⟨false, started⟩, Catalogue.ofList Scene.id content.scenes, content.startScene, false, []⟩

/-- The points that a value stands for; what is no number stands for none. -/
def pointsOf (v : Value) : Except Fault Int := do
  let x ← floatOf? v
  match x with
  | none => return 0
  | some x => if x == 0 then return 0 else (Number.float x).toInt

variable (c : Setting)

/-! ### Scenes -/

/-- Do what a scene asks for by the action at an index. -/
def act (scene : Scene) (a : SceneAction) (index : Nat) : Script NarrativeSitting Unit := do
  let field (name : String) : Value := (a.payload.lookup name).getD .null
  match a.kind with
  | "set-variable" =>
    let name ← Script.lift (field "variable").toKey
    let place := [c.sectionId, scene.id, toString index]
    Script.updateVariables [(name.givenAt place, field "value")]
  | "add-score" =>
    let points ← Script.lift (pointsOf (field "points"))
    Script.report scene.id "scene-bonus" true points 0
  | "add-item" => Script.addItem (field "item").text
  | "remove-item" => Script.removeItem (field "item").text
  | "navigate" => Script.navigate (field "sectionId").text
  | kind => Script.warn ("Unknown scene action '" ++ kind ++ "' in scene '" ++ scene.id ++ "'")

/-- Enter a scene; where there is none the story ends. -/
def enterScene (id : String) : Script NarrativeSitting Unit := do
  let s ← Script.state
  match s.scenes.find? id with
  | none =>
    Script.warn ("Scene '" ++ id ++ "' not found; ending narrative")
    c.complete
  | some scene =>
    Script.setState
      { s with sceneId := id, history := s.history ++ [id], typing := scene.text != "" }
    Setting.startClock
    Script.forEach (fun a => act c scene a.1 a.2) scene.actions.zipIdx

/-- Begin to play. -/
def enter : Script NarrativeSitting Unit := do
  let s ← Script.state
  enterScene c s.sceneId

/-- Have the rest of the text at once. -/
def skipTyping : Script NarrativeSitting Unit := Script.change fun s => { s with typing := false }

/-! ### Choices -/

/-- The choices whose conditions hold. -/
def openChoices (circumstances : Circumstances) : List Choice → Except Fault (List Choice)
  | [] => return []
  | k :: rest => do
    let isOpen ← holds circumstances k.condition
    let others ← openChoices circumstances rest
    return if isOpen then k :: others else others

/-- The choices that the player has. -/
def choices (s : NarrativeSitting) (circumstances : Circumstances) : Except Fault (List Choice) :=
  match s.current? with
  | none => .ok []
  | some scene => openChoices circumstances scene.choices

/-- The item that an effect is about. -/
def itemOf (e : Effect) : String := if e.target == "" then e.value.text else e.target

/-- Bring about an effect of a choice. -/
def bringAbout (sceneId : String) (choice : Choice) (time : Int) (e : Effect) :
    Script NarrativeSitting Unit := do
  match e.kind with
  | .setVariable => Script.updateVariables [(e.target, e.value)]
  | .addScore =>
    let points ← Script.lift (pointsOf e.value)
    Script.report (sceneId ++ "-" ++ choice.id) choice.text true points time
  | .addItem => Script.addItem (itemOf e)
  | .removeItem => Script.removeItem (itemOf e)

/-- Make a choice that is open. -/
def take (sceneId : String) (choice : Choice) : Script NarrativeSitting Unit := do
  let time ← Setting.elapsed
  Script.forEach (bringAbout sceneId choice time) choice.effects
  enterScene c choice.targetScene

/-- Make the choice with an id; tells whether it was open. -/
def choose (id : String) : Script NarrativeSitting Bool :=
  c.unlessCompleted "choose" false do
    let circumstances ← Script.look
    let s ← Script.state
    let choices ← Script.lift (s.choices circumstances)
    match choices.find? (·.id == id) with
    | none =>
      Script.warn ("Choice '" ++ id ++ "' is not available in scene '" ++ s.sceneId ++ "'")
      return false
    | some choice =>
      take c s.sceneId choice
      return true

/-! ### Going on -/

/-- Finish at an ending. -/
def finish (scene : Scene) : Script NarrativeSitting Unit := do
  let success := scene.ending == some .success
  Setting.answer scene.id (optionalText (scene.ending.map Named.name)) success
    (if success then c.pointsPerCorrect * endingMultiplier else 0)
  c.complete

/-- Go on to the next scene, or finish where none follows. -/
def goOn : Script NarrativeSitting Unit :=
  c.unlessCompleted "continue" () do
    let s ← Script.state
    match s.current? with
    | none => return ()
    | some scene =>
      let next := scene.nextScene.getD ""
      if scene.isEnding then finish c scene
      else if next != "" then enterScene c next
      else if !scene.choices.isEmpty then
        Script.warn ("Scene '" ++ scene.id ++ "' requires a choice")
      else
        Script.warn ("Scene '" ++ scene.id ++ "' is a dead end; ending narrative")
        c.complete

/-- Whether the player can go on without a choice. -/
def canGoOn (scene : Scene) : Bool := scene.isEnding || scene.nextScene.getD "" != ""

/-- What the player sees. -/
def view (s : NarrativeSitting) (circumstances : Circumstances) : Except Fault Fields := do
  let choices ← s.choices circumstances
  let scene := s.current?
  return [("type", Named.name SectionKind.narrative),
    ("sceneId", s.sceneId),
    ("text", ((scene.map (·.text)).getD "" : String)),
    ("speaker", optionalText (scene.bind (·.speaker))),
    ("background", optionalText (scene.bind (·.background))),
    ("typing", .bool s.typing),
    ("choices", .list (choices.map fun k => .map [("id", k.id), ("text", k.text)])),
    ("isEnding", .bool ((scene.map (·.isEnding)).getD false)),
    ("endingType", optionalText ((scene.bind (·.ending)).map Named.name)),
    ("canContinue", .bool ((scene.map canGoOn).getD false))]

end NarrativeSitting

end LearningGame.Play
