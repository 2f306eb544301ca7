import LearningGame.Number.Arithmetic
import LearningGame.Play.Session.Basic

/-!
# The ledger of a session

Answers with their points, the streak and the lives; hints, variables and the inventory.
-/

namespace LearningGame.Play

open Content Schema Rules

/-- So many correct answers in a row earn points on top. -/
def bonusStreak : Int := 3

/-- What is reported of an answer. -/
structure Submission where
  sectionId : String
  itemId : String
  answer : Value
  isCorrect : Bool
  basePoints : Number
  timeSpent : Number

/-- The points on top for an answer after which the streak is so long. -/
def bonusOf (scoring : Scoring) (isCorrect : Bool) (basePoints : Number) (streak : Int) :
    Except Fault Int :=
  if isCorrect && decide (bonusStreak ≤ streak) && (Number.int 1).less scoring.streakMultiplier then do
    let rate ← scoring.streakMultiplier.sub (.int 1)
    let bonus ← basePoints.mul rate
    bonus.toFloor
  else .ok 0

/-- The points that an answer earns after which the streak is so long. -/
def earned (scoring : Scoring) (isCorrect : Bool) (basePoints : Number) (streak : Int) :
    Except Fault Number := do
  let bonus ← bonusOf scoring isCorrect basePoints streak
  let points ← basePoints.add (.int bonus)
  if !isCorrect && decide (0 < scoring.penaltyPerWrong) then
    points.sub (.int scoring.penaltyPerWrong)
  else return points

namespace Session

/-- The countdown to the end after the last life is lost. -/
def lifeLossName : String := "life-loss"

/-- Have the game end because there are no lives left, at once if no time is granted. -/
def scheduleEnd : Act Session Unit := do
  let w ← get
  let grace := w.settings.graceSeconds
  note .info ("Out of lives; ending game in " ++ Number.intText grace ++ "s")
  if grace ≤ 0 then
    let _ ← stop
  else Table.arm lifeLossName grace .ofPlay SessionAlarm.lifeLoss

/-- Lose a life if lives are counted and there is one. -/
def loseLife : Act Session Unit := do
  let w ← get
  match w.state.lives with
  | none => return ()
  | some lives =>
    if 0 < lives then
      change fun s => { s with lives := some (lives - 1) }
      if lives - 1 = 0 then scheduleEnd else return ()
    else return ()

/-- Enter an answer that is heard. -/
def enterAnswer (x : Submission) : Act Session AnswerRecord := do
  let w ← get
  let streak := if x.isCorrect then w.state.streak + 1 else 0
  let points ← Act.lift (earned w.game.scoring x.isCorrect x.basePoints streak)
  let entry : AnswerRecord := ⟨x.sectionId, x.itemId, x.answer, x.isCorrect, x.timeSpent, points⟩
  change fun s => { s with answers := s.answers ++ [entry] }
  let score ← Act.lift (w.state.score.add points)
  change fun s => { s with score, streak }
  note .debug ("Answer " ++ x.sectionId ++ "/" ++ x.itemId ++ ": correct=" ++
    Value.text (.bool x.isCorrect) ++ " points=" ++ points.text ++ " streak=" ++
    Number.intText streak)
  if x.isCorrect then pure () else loseLife
  return entry

/-- Take an answer and score it. -/
def submitAnswer (x : Submission) : Act Session (Option AnswerRecord) :=
  whilePlaying "submit_answer" none do
    let entry ← enterAnswer x
    return some entry

/-- Spend a hint; tells whether there was one. -/
def useHint : Act Session Bool :=
  whilePlaying "use_hint" false do
    let w ← get
    if w.state.hints ≤ 0 then return false
    else
      change fun s => { s with hints := s.hints - 1 }
      return true

/-- Set variables. -/
def updateVariables (patch : Fields) : Act Session Unit :=
  whilePlaying "update_variables" () do
    change fun s => { s with vars := s.vars.putAll patch }

/-- Put an item into the inventory, unless it is there. -/
def addItem (item : String) : Act Session Unit :=
  whilePlaying "add_item" () do
    change fun s =>
      if s.inventory.contains item then s else { s with inventory := s.inventory ++ [item] }

/-- Take an item out of the inventory. -/
def removeItem (item : String) : Act Session Unit :=
  whilePlaying "remove_item" () do
    change fun s => { s with inventory := s.inventory.erase item }

end Session

end LearningGame.Play
