import LearningGame.Completion.Entries
import LearningGame.Content.Narrative

/-!
# Filling narratives

Choices that lead nowhere and conditions and effects of unknown kinds are dropped; play starts in
the first scene if the start is not one of the scenes.
-/

namespace LearningGame.Completion

open Content Schema

/-- Where in a narrative a note belongs. -/
def inScene (scene : String) : String := " in scene '" ++ scene ++ "'"

/-- Fill a condition, unless its kind or comparison is unknown. -/
def fillKnownCondition (scene : String) (m : Fields) : Filling Value := do
  let m := m.put "type" ((m.get "type").orElse "variable")
  let m := m.put "operator" ((m.get "operator").orElse "==")
  let kind := m.get "type"
  let operator := m.get "operator"
  if kind.isOneOf (Named.names ConditionKind) ∧ operator.isOneOf (Named.names Comparison) then
    return .map (fillSomeText m "variable")
  else
    warn ("Dropping condition with type " ++ kind.quoted ++ " and operator " ++ operator.quoted ++
      inScene scene)
    return .null

/-- Fill the condition of a choice. -/
def fillCondition (scene : String) : Value → Filling Value
  | .null => pure .null
  | .map m => fillKnownCondition scene m
  | _ => do
    warn ("Dropping non-object choice condition" ++ inScene scene)
    return .null

/-- Fill an effect, unless its kind is unknown. -/
def fillEffect? (scene : String) (effect : Fields) : Filling (Option Fields) := do
  let kind := effect.get "type"
  if kind.isOneOf (Named.names EffectKind) then
    return some (fillSomeText effect "target")
  else
    warn ("Dropping effect of unknown type " ++ kind.quoted ++ inScene scene)
    return none

/-- Fill the effects of a choice. -/
def fillEffects (scene : String) (v : Value) : Filling (List Fields) := do
  let effects ← objects "choice effect" v
  Traced.filterMap (fillEffect? scene) effects

/-- Fill a choice, unless it leads nowhere. -/
def fillChoice? (scene : String) (choice : Fields) (n : Nat) : Filling (Option Fields) := do
  let target := choice.get "targetScene"
  if target.truthy then
    let choice := fillText (fillId choice ("choice" ++ toString n)) "text"
    let choice := choice.put "targetScene" target.text
    let condition ← fillCondition scene (choice.get "condition")
    let choice := choice.put "condition" condition
    let effects ← fillEffects scene (choice.get "effects")
    return some (choice.put "effects" (mapList effects))
  else
    warn ("Dropping choice without targetScene" ++ inScene scene)
    return none

/-- Make an unknown kind of ending a neutral one. -/
def fillEnding (scene : String) (m : Fields) : Filling Fields := do
  let ending := m.get "endingType"
  if ending.isNull ∨ ending.isOneOf (Named.names EndingKind) then
    return m
  else
    warn ("Unknown endingType " ++ ending.quoted ++ inScene scene ++ ", using 'neutral'")
    return m.put "endingType" (Named.name EndingKind.neutral)

/-- Fill a scene. -/
def fillScene (scene : Fields) (n : Nat) : Filling Fields := do
  let scene := fillId scene ("scene" ++ toString n)
  let id := textAt scene "id"
  let choices ← objects "narrative choice" (scene.get "choices")
  let choices ← Traced.filterMap (fun e => fillChoice? id e.1 e.2) (numbered choices)
  let scene := fillSomeText (scene.put "choices" (mapList choices)) "text"
  let actions ← objects "scene action" (scene.get "actions")
  let scene := scene.put "actions" (mapList (actions.map fun a => fillSomeText a "type"))
  fillEnding id scene

/-- A start among some ids, the first of them if it is none. -/
def startAmong (ids : List String) (start : Value) : Value :=
  if start.isOneOf ids then start else .str (ids.headD "")

/-- Fill a narrative. -/
def fillNarrative (content : Fields) : Filling Fields := do
  let scenes ← objects "narrative scene" (content.get "scenes")
  let scenes ← Traced.traverse (fun e => fillScene e.1 e.2) (numbered scenes)
  let ids := scenes.map fun s => textAt s "id"
  return (content.put "scenes" (mapList scenes)).put "startScene"
    (startAmong ids (content.get "startScene"))

end LearningGame.Completion
