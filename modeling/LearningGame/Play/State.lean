import LearningGame.Content.Game
import LearningGame.Value.Text

/-!
# The state of a game

What a session keeps of one play of a game, and its picture as a document.
-/

namespace LearningGame.Play

open Content Schema

/-- An answer that was given, and what it earned. -/
structure AnswerRecord where
  sectionId : String
  itemId : String
  answer : Value
  isCorrect : Bool
  timeSpent : Number
  points : Number

/-- The state of one play of a game. -/
structure GameState where
  sectionId : String
  itemIndex : Int
  score : Number
  /-- The lives that are left, none if there is no limit. -/
  lives : Option Int
  hints : Int
  timeElapsed : Int
  /-- The seconds that are left, none if there is no limit. -/
  timeRemaining : Option Int
  /-- The answers, in the order in which they were given. -/
  answers : List AnswerRecord
  completed : List String
  vars : Fields
  inventory : List String
  streak : Int
  isComplete : Bool
  rating : Option RatingTier

/-- A positive number, none for any other. -/
def positive? (n : Int) : Option Int := if 0 < n then some n else none

namespace GameState

/-- The state in which a game starts. -/
def initial (g : Game) : GameState where
  sectionId := g.firstSectionId
  itemIndex := 0
  score := .int 0
  lives := positive? g.config.lives
  hints := if g.config.hintsEnabled then g.config.maxHints else 0
  timeElapsed := 0
  timeRemaining := positive? g.config.timeLimit
  answers := []
  completed := []
  vars := []
  inventory := []
  streak := 0
  isComplete := false
  rating := none

/-- The number of correct answers. -/
def correctCount (s : GameState) : Nat := s.answers.countP (·.isCorrect)

/-- Whether a section has been completed. -/
def hasCompleted (s : GameState) (id : String) : Bool := s.completed.contains id

end GameState

/-! ### Snapshots -/

/-- A number that may be absent, as a value. -/
def optionalInt : Option Int → Value
  | some n => .int n
  | none => .null

/-- A text that may be absent, as a value. -/
def optionalText : Option String → Value
  | some s => .str s
  | none => .null

/-- An answer as a document. -/
def AnswerRecord.snapshot (a : AnswerRecord) : Value :=
  .map [("sectionId", a.sectionId), ("itemId", a.itemId), ("answer", a.answer),
    ("isCorrect", .bool a.isCorrect), ("timeSpent", a.timeSpent.toValue),
    ("pointsEarned", a.points.toValue)]

/-- A tier as a document. -/
def tierSnapshot (t : RatingTier) : Value := RatingTier.codec.write true t

/-- A state as a document. -/
def GameState.snapshot (s : GameState) : Value :=
  .map
    [("currentSectionId", s.sectionId),
     ("currentItemIndex", .int s.itemIndex),
     ("score", s.score.toValue),
     ("lives", optionalInt s.lives),
     ("hints", .int s.hints),
     ("timeElapsed", .int s.timeElapsed),
     ("timeRemaining", optionalInt s.timeRemaining),
     ("answers", .list (s.answers.map AnswerRecord.snapshot)),
     ("completedSections", .list (s.completed.map .str)),
     ("variables", .map s.vars),
     ("inventory", .list (s.inventory.map .str)),
     ("streak", .int s.streak),
     ("isComplete", .bool s.isComplete),
     ("finalRating", match s.rating with
       | some t => tierSnapshot t
       | none => .null)]

end LearningGame.Play
