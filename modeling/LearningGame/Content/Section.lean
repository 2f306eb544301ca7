import LearningGame.Content.Quiz
import LearningGame.Content.Cards
import LearningGame.Content.Narrative
import LearningGame.Content.Simulation
import LearningGame.Content.Exploration
import LearningGame.Content.Challenge
import LearningGame.Content.Info

/-!
# Sections

A game consists of sections of nine kinds. The content of a section is tagged with its kind.
-/

namespace LearningGame.Content

open Schema

/-- The kinds of sections. -/
inductive SectionKind where
  | quiz
  | flashcards
  | matching
  | sorting
  | narrative
  | simulation
  | exploration
  | challenge
  | info
  deriving DecidableEq

instance : Named SectionKind where
  all := [.quiz, .flashcards, .matching, .sorting, .narrative, .simulation, .exploration,
    .challenge, .info]
  name
    | .quiz => "quiz"
    | .flashcards => "flashcards"
    | .matching => "matching"
    | .sorting => "sorting"
    | .narrative => "narrative"
    | .simulation => "simulation"
    | .exploration => "exploration"
    | .challenge => "challenge"
    | .info => "info"

/-- What a section is about. -/
inductive SectionContent where
  | quiz (c : Quiz)
  | flashcards (c : Flashcards)
  | matching (c : Matching)
  | sorting (c : Sorting)
  | narrative (c : Narrative)
  | simulation (c : Simulation)
  | exploration (c : Exploration)
  | challenge (c : Challenge)
  | info (c : Info)

namespace SectionContent

/-- The kind of a content. -/
def kind : SectionContent → SectionKind
  | .quiz _ => .quiz
  | .flashcards _ => .flashcards
  | .matching _ => .matching
  | .sorting _ => .sorting
  | .narrative _ => .narrative
  | .simulation _ => .simulation
  | .exploration _ => .exploration
  | .challenge _ => .challenge
  | .info _ => .info

/-- Read the fields of a content of a known kind. -/
def readAs (m : Fields) : SectionKind → Checked SectionContent
  | .quiz => (Quiz.fields.read m).map .quiz
  | .flashcards => (Flashcards.fields.read m).map .flashcards
  | .matching => (Matching.fields.read m).map .matching
  | .sorting => (Sorting.fields.read m).map .sorting
  | .narrative => (Narrative.fields.read m).map .narrative
  | .simulation => (Simulation.fields.read m).map .simulation
  | .exploration => (Exploration.fields.read m).map .exploration
  | .challenge => (Challenge.fields.read m).map .challenge
  | .info => (Info.fields.read m).map .info

/-- Read a content by its tag. -/
def read : Value → Checked SectionContent
  | .map m =>
    match Fields.find? m "type" with
    | none => .refuse (.noTag "type")
    | some tag =>
      let found : Option SectionKind := match tag with
        | .str s => Named.find? s
        | _ => none
      match found with
      | some kind => (readAs m kind).under (Named.name kind)
      | none => .refuse (.unknownTag tag.text "type" (Named.names SectionKind))
  | _ => .refuse .notTagged

/-- Write the fields of a content. -/
def writeFields (full : Bool) : SectionContent → Fields
  | .quiz c => Quiz.fields.write full c
  | .flashcards c => Flashcards.fields.write full c
  | .matching c => Matching.fields.write full c
  | .sorting c => Sorting.fields.write full c
  | .narrative c => Narrative.fields.write full c
  | .simulation c => Simulation.fields.write full c
  | .exploration c => Exploration.fields.write full c
  | .challenge c => Challenge.fields.write full c
  | .info c => Info.fields.write full c

/-- Write a content with its tag. -/
def write (full : Bool) (c : SectionContent) : Value :=
  .map ((.text "type", .str (Named.name c.kind)) :: c.writeFields full)

/-- Whether two contents are equal. -/
def same : SectionContent → SectionContent → Bool
  | .quiz a, .quiz b => Quiz.fields.same a b
  | .flashcards a, .flashcards b => Flashcards.fields.same a b
  | .matching a, .matching b => Matching.fields.same a b
  | .sorting a, .sorting b => Sorting.fields.same a b
  | .narrative a, .narrative b => Narrative.fields.same a b
  | .simulation a, .simulation b => Simulation.fields.same a b
  | .exploration a, .exploration b => Exploration.fields.same a b
  | .challenge a, .challenge b => Challenge.fields.same a b
  | .info a, .info b => Info.fields.same a b
  | _, _ => false

/-- How contents are written. -/
def codec : Codec SectionContent where
  read := read
  write := write
  same := same

end SectionContent

/-- What opens a section. -/
inductive UnlockKind where
  | score
  | completeSection
  | variable
  deriving DecidableEq

instance : Named UnlockKind where
  all := [.score, .completeSection, .variable]
  name
    | .score => "score"
    | .completeSection => "complete-section"
    | .variable => "variable"

/-- A condition under which a section is open. -/
structure UnlockCondition where
  kind : UnlockKind
  target : String
  value : Value

/-- How unlock conditions are written. -/
def UnlockCondition.codec : Codec UnlockCondition :=
  RecordOf.build UnlockCondition.mk
    |>.apply (.required "type" .named (·.kind))
    |>.apply (.withDefault "target" .text "" (·.target))
    |>.apply (.withDefault "value" .any .null (·.value))
    |>.codec "UnlockCondition"

/-- A section of a game. -/
structure Section where
  id : String
  title : String
  description : Option String
  kind : SectionKind
  content : SectionContent
  unlockCondition : Option UnlockCondition

/-- How sections are written. -/
def Section.codec : Codec Section :=
  RecordOf.build Section.mk
    |>.apply (.required "id" .text (·.id))
    |>.apply (.required "title" .text (·.title))
    |>.apply (.optional "description" .text (·.description))
    |>.apply (.required "type" .named (·.kind))
    |>.apply (.required "content" SectionContent.codec (·.content))
    |>.apply (.optional "unlockCondition" UnlockCondition.codec (·.unlockCondition))
    |>.codec "GameSection"

end LearningGame.Content
