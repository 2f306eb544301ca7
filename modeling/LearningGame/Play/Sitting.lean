import LearningGame.Play.Script
import LearningGame.Content.Section
import LearningGame.Content.Frame

/-!
# Sitting in a section

What all sections in play share: whether they are finished, when the current item was begun, and how
they report answers and their end.
-/

namespace LearningGame.Play

open Content Schema

/-- What a section in play knows about the game around it. -/
structure Setting where
  sectionId : String
  kind : SectionKind
  config : Config
  pointsPerCorrect : Int
  /-- The points for reading. -/
  infoPoints : Int

/-- The part of the state that all sections share. -/
structure Sitting where
  completed : Bool
  /-- The time at which the current item was begun. -/
  started : Float

/-- States that contain a sitting. -/
class Seated (σ : Type) where
  sitting : σ → Sitting
  seat : σ → Sitting → σ

/-- Who makes the notes of a section. -/
def Setting.source (c : Setting) : String := "edugame.handlers." ++ Named.name c.kind

namespace Setting

variable {σ : Type} [Seated σ] (c : Setting)

/-- The time spent on the current item, in whole seconds. -/
def elapsed : Script σ Int := do
  let now ← Script.now
  let s ← Script.state
  let time ← Script.lift ((Number.float (now - (Seated.sitting s).started)).toNearest)
  return max 0 time

/-- Begin an item. -/
def startClock : Script σ Unit := do
  let now ← Script.now
  Script.change fun s => Seated.seat s { Seated.sitting s with started := now }

/-- Report an answer with the time that has been spent on it. -/
def answer (itemId : String) (given : Value) (isCorrect : Bool) (points : Int) : Script σ Unit := do
  let time ← elapsed
  Script.report itemId given isCorrect points time

/-- Finish the section, once. -/
def complete : Script σ Unit := do
  let s ← Script.state
  if (Seated.sitting s).completed then
    Script.warn ("Section '" ++ c.sectionId ++ "' already completed")
  else
    Script.setState (Seated.seat s { Seated.sitting s with completed := true })
    Script.reportEnd

/-- Do something unless the section is finished. -/
def unlessCompleted {α : Type} (action : String) (refused : α) (x : Script σ α) : Script σ α := do
  let s ← Script.state
  if (Seated.sitting s).completed then
    Script.warn ("Ignoring " ++ action ++ " on completed section '" ++ c.sectionId ++ "'")
    return refused
  else x

end Setting

end LearningGame.Play
