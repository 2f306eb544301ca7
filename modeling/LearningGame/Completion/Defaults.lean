import LearningGame.Value.Fields
import LearningGame.Content.Frame
import LearningGame.Completion.Entries

/-!
# Defaults

The parts that a document gets when it has none of its own. Free labels for difficulty and
complexity are mapped to the known ones; what is not known gets a default.
-/

namespace LearningGame.Completion

open Content Schema

/-! ### Parts -/

/-- The look of a game that has none. -/
def defaultTheme : Fields :=
  [("primaryColor", "#B6EBE7"),
   ("secondaryColor", "#7DD3C8"),
   ("background", .map
     [("type", "gradient"),
      ("value", "linear-gradient(135deg, #B6EBE7 0%, #7DD3C8 100%)")]),
   ("icon", "🎮"),
   ("mood", "playful")]

/-- A rating tier as a map. -/
def tier (minPercentage : Int) (label message : String) (stars : Int) : Value :=
  .map [("minPercentage", .int minPercentage), ("label", label), ("message", message),
    ("stars", .int stars)]

/-- The rating tiers of a game that has none. -/
def defaultTiers : List Value :=
  [tier 90 "Excellent" "Outstanding!" 3,
   tier 70 "Good" "Well done!" 2,
   tier 50 "Fair" "Keep practicing!" 1,
   tier 0 "Needs Work" "Try again!" 0]

/-- The settings of a game that has none. -/
def defaultConfig (gameType : Value) : Fields :=
  [("gameType", gameType),
   ("timeLimit", .int 0),
   ("questionTimeLimit", .int 0),
   ("allowSkip", .bool true),
   ("allowBack", .bool true),
   ("hintsEnabled", .bool true),
   ("maxHints", .int 3),
   ("lives", .int 0),
   ("shuffleContent", .bool false),
   ("feedbackType", "immediate"),
   ("showCorrectAnswer", .bool true)]

/-- The order of play of a game that has none: the sections as they stand. -/
def defaultProgression (ids : List String) : Fields :=
  [("type", Named.name ProgressionKind.linear),
   ("sectionOrder", .list (ids.map .str)),
   ("showProgress", .bool true)]

/-- The scoring of a game that has none. -/
def defaultScoring (maxScore : Int) : Fields :=
  [("maxScore", .int maxScore),
   ("pointsPerCorrect", .int 10),
   ("penaltyPerWrong", .int 0),
   ("timeBonus", .bool false),
   ("streakMultiplier", .int 1),
   ("ratings", .list defaultTiers)]

/-! ### Labels -/

/-- Words for difficulties. -/
def difficultyWords : List (String × Difficulty) :=
  [("beginner", .beginner), ("easy", .beginner),
   ("intermediate", .intermediate), ("medium", .intermediate),
   ("advanced", .advanced), ("hard", .advanced)]

/-- Words for complexities. -/
def complexityWords : List (String × Complexity) :=
  [("basic", .basic), ("simple", .basic), ("easy", .basic),
   ("normal", .standard), ("standard", .standard), ("medium", .standard),
   ("complex", .complex), ("advanced", .complex), ("hard", .complex)]

/-- What a label means, a default if it is no known word. -/
def meaning {α : Type} (words : List (String × α)) (default : α) : Value → α
  | .str s => (words.lookup (folded s)).getD default
  | _ => default

/-- The difficulty that a label means. -/
def difficultyOf (default : Difficulty) (label : Value) : Difficulty :=
  meaning difficultyWords default label

/-- The complexity that a label means. -/
def complexityOf (label : Value) : Complexity := meaning complexityWords .basic label

end LearningGame.Completion
