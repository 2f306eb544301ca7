import LearningGame.Content.Game
import LearningGame.Value.Text

/-!
# Summaries

A game in a few lines: what it is called, how it is played and scored, and what its sections hold.
-/

namespace LearningGame

open Content Schema

/-- How many things a section holds, and what they are. -/
def Content.SectionContent.count : SectionContent → Nat × String
  | .quiz c => (c.questions.length, "questions")
  | .flashcards c => (c.cards.length, "cards")
  | .matching c => (c.pairs.length, "pairs")
  | .sorting c => (c.items.length, "items")
  | .narrative c => (c.scenes.length, "scenes")
  | .simulation c => (c.objectives.length, "objectives")
  | .exploration c => (c.locations.length, "locations")
  | .challenge c => (c.items.length, "items")
  | .info c => (c.blocks.length, "blocks")

/-- The line of a section. -/
def Content.Section.summary (s : Section) : String :=
  let (n, things) := s.content.count
  "    - " ++ s.id ++ " (" ++ Named.name s.kind ++ ") " ++ s.title ++ ": " ++ toString n ++ " " ++
    things

namespace Game

/-- The lines about the game as a whole. -/
def summaryHead (g : Game) : List String :=
  [g.metadata.title ++ "  [" ++ Named.name g.metadata.difficulty ++ " / " ++
      Named.name g.metadata.complexity ++ "]",
   "  game type:   " ++ g.config.gameType,
   "  progression: " ++ Named.name g.progression.kind ++ " " ++
      Value.quoted (.list (g.order.map .str)),
   "  scoring:     max " ++ Number.intText g.scoring.maxScore ++ ", " ++
      Number.intText g.scoring.pointsPerCorrect ++ " per correct, " ++
      toString g.scoring.ratings.length ++ " rating tier(s)",
   "  sections:"]

/-- A game in a few lines. -/
def summary (g : Game) : String :=
  "\n".intercalate (g.summaryHead ++ g.sections.map Section.summary)

end Game

end LearningGame
