import LearningGame.Completion.Quiz
import LearningGame.Completion.Cards
import LearningGame.Completion.Narrative
import LearningGame.Completion.Simulation
import LearningGame.Completion.Exploration
import LearningGame.Completion.Challenge
import LearningGame.Completion.Info
import LearningGame.Content.Section

/-!
# Filling sections

A section of a known kind gets an id and a title, and its content is filled as its kind asks.
Anything else cannot be played and is dropped.
-/

namespace LearningGame.Completion

open Content Schema

/-- Fill the content of a section of a known kind. -/
def fillContent (kind : SectionKind) (points : Int) (title : Value) (content : Fields) :
    Filling Fields :=
  match kind with
  | .quiz => fillQuiz points content
  | .flashcards => fillFlashcards content
  | .matching => fillMatching content
  | .sorting => fillSorting content
  | .narrative => fillNarrative content
  | .simulation => fillSimulation content
  | .exploration => fillExploration content
  | .challenge => fillChallenge points content
  | .info => pure (fillInfo title content)

/-- The kind that a value names. -/
def sectionKind? : Value → Option SectionKind
  | .str s => Named.find? s
  | _ => none

/-- The entries of a map; anything else has none. -/
def fieldsOf : Value → Fields
  | .map m => m
  | _ => []

/-- Fill the section at an index, unless its kind is unknown. -/
def fillKnownSection (m : Fields) (index : Int) (points : Int) : Filling (Option Fields) := do
  let content := fieldsOf (m.get "content")
  let named := (m.get "type").orElse (content.get "type")
  match sectionKind? named with
  | none =>
    warn ("Skipping section " ++ Number.intText index ++ " with unknown type " ++ named.quoted)
    return none
  | some kind =>
    let m := fillId m ("section" ++ Number.intText (index + 1))
    let title := (m.get "title").orElse ("Section " ++ Number.intText (index + 1))
    let m := if (m.get "title").truthy then m else m.put "title" title
    let filled ← fillContent kind points title content
    let m := m.put "type" (Named.name kind)
    return some (m.put "content" (.map (filled.put "type" (Named.name kind))))

/-- Fill the section at an index; what cannot be played is none. -/
def fillSection (raw : Value) (index : Int) (points : Int) : Filling (Option Fields) :=
  match raw with
  | .map m => fillKnownSection m index points
  | _ => do
    warn ("Dropping non-object section at index " ++ Number.intText index)
    return none

end LearningGame.Completion
