import LearningGame.Play.State
import LearningGame.Rules.Rating
import LearningGame.Log

/-!
# The closing screen

The figures of a game, and the closing message with the figures put in. Every occurrence of a
placeholder is replaced, from left to right; what has been put in is not looked at again.
-/

namespace LearningGame.Text

/-- Replace a pattern after passing over some characters. -/
def replaceFrom (pattern new : List Char) : Nat → List Char → List Char
  | _, [] => []
  | skip + 1, _ :: rest => replaceFrom pattern new skip rest
  | 0, c :: rest =>
    if pattern.isPrefixOf (c :: rest) then new ++ replaceFrom pattern new (pattern.length - 1) rest
    else c :: replaceFrom pattern new 0 rest

/-- Replace every occurrence of a pattern that is not empty. -/
def replace (s pattern new : String) : String :=
  String.ofList (replaceFrom pattern.toList new.toList 0 s.toList)

end LearningGame.Text

namespace LearningGame.Play

open Content Rules

/-- Seconds as minutes and seconds; a negative time is none at all. -/
def formatTime (seconds : Int) : String :=
  let n := seconds.toNat
  toString (n / 60) ++ "m " ++ toString (n % 60) ++ "s"

/-- A figure between braces in a closing message. -/
def placeholder (name : String) : String := "\x7b" ++ name ++ "\x7d"

/-- Put figures into a closing message, one after the other. -/
def fillMessage (message : String) (figures : List (String × String)) : String :=
  figures.foldl (fun m f => Text.replace m (placeholder f.1) f.2) message

/-- The part of the answers that are correct, in percent. -/
def accuracy (correct total : Nat) : Except Fault Int :=
  if total = 0 then .ok 0
  else do
    let share ← Number.quotient correct total
    (Number.float (share * 100)).toNearest

/-- The tier of a state: the final one, else the one that the score reaches now. -/
def tierOf (g : Game) (s : GameState) : Traced Fault RatingTier :=
  match s.rating with
  | some t => pure t
  | none => rateNoted g.scoring s.score

/-- The closing screen of a game. -/
def outroSummary (g : Game) (s : GameState) : Traced Fault Value := do
  let maxScore := g.scoring.maxScore
  let share ← Traced.lift (percentage s.score maxScore)
  let percent ← Traced.lift (Number.float share).toNearest
  let total := s.answers.length
  let percentCorrect ← Traced.lift (accuracy s.correctCount total)
  let time := formatTime s.timeElapsed
  let tier ← tierOf g s
  let outro := g.content.outro.getD ⟨"", "", []⟩
  let message := fillMessage outro.completionMessage
    [("score", s.score.text), ("total", Number.intText maxScore),
     ("percentage", Number.intText percent), ("time", time)]
  return .map
    [("score", s.score.toValue),
     ("maxScore", .int maxScore),
     ("percentage", .int percent),
     ("correctAnswers", .int s.correctCount),
     ("totalAnswers", .int total),
     ("accuracy", .int percentCorrect),
     ("timeElapsed", .int s.timeElapsed),
     ("formattedTime", time),
     ("rating", tierSnapshot tier),
     ("completionMessage", message),
     ("learningSummary", outro.learningSummary),
     ("nextSteps", .list (outro.nextSteps.map .str))]

end LearningGame.Play
