import LearningGame.Content.Quiz
import LearningGame.Content.Challenge
import LearningGame.Number.Arithmetic
import LearningGame.Text.Characters
import LearningGame.Text.LetterCase

/-!
# Grading

When an answer is correct, and how many points single answers earn.
-/

namespace LearningGame.Rules

open Content

/-- The text by which answers are compared: without blanks around it and in lower case. -/
def plain (s : String) : String := Text.lower (Text.strip s)

/-- Whether two texts are the same answer. -/
def sameAnswer (a b : String) : Bool := plain a == plain b

/-! ### Quiz questions -/

/-- The index of the option that an answer names by its id; other answers stay as they are. -/
def chosenIndex (q : QuizQuestion) (answer : Value) : Value :=
  match answer with
  | .str s =>
    match q.options.findIdx? (·.id == s) with
    | some i => .int i
    | none => answer
  | _ => answer

/-- The values that all have to be chosen. -/
def AnswerKey.parts : AnswerKey → List Value
  | .indices ns => ns.map .int
  | k => [k.toValue]

/-- Whether a choice of several options is right: as many as asked for, and each of them. -/
def isChoiceCorrect (q : QuizQuestion) (answers : List Value) : Bool :=
  let expected := AnswerKey.parts q.answerKey
  let chosen := answers.map (chosenIndex q)
  chosen.length == expected.length && expected.all fun e => chosen.any fun c => c.same e

/-- Whether an answer to a question is correct. -/
def isCorrect (q : QuizQuestion) (answer : Value) : Bool :=
  match q.kind, answer with
  | _, .null => false
  | .textInput, v => sameAnswer v.text q.answerKey.toValue.text
  | .multipleChoice, .list answers => isChoiceCorrect q answers
  | .multipleChoice, _ => false
  | _, v => (chosenIndex q v).same q.answerKey.toValue

/-! ### Challenges -/

/-- The part of the points that a streak earns on top. -/
def streakRate : Float := 0.2

/-- A streak of so many answers earns points on top. -/
def streakLength : Int := 2

/-- The points on top for a streak. -/
def streakBonus (points : Int) (streak : Int) : Except Fault Int :=
  if streakLength ≤ streak then do
    let x ← (Number.int points).toFloat
    (Number.float (x * streakRate)).toFloor
  else .ok 0

/-- Whether more than half of the time is left. -/
def isEarly (remaining limit : Int) : Except Fault Bool := do
  let half ← Number.quotient limit 2
  return (Number.float half).less (.int remaining)

/-- The points on top for a quick answer. -/
def earlyBonus (bonus : Option Int) (remaining limit : Int) : Except Fault Int :=
  match bonus with
  | none => .ok 0
  | some b =>
    if b = 0 then .ok 0
    else do
      let early ← isEarly remaining limit
      return if early then b else 0

/-- The points of a correct answer in a challenge. -/
def challengePoints (item : ChallengeItem) (streak : Int) (remaining limit : Int) :
    Except Fault Int := do
  let early ← earlyBonus item.timeBonus remaining limit
  let bonus ← streakBonus item.points streak
  return item.points + early + bonus

/-! ### Sorting -/

/-- The points for some correct items out of all. -/
def partialCredit (correct items pointsPerCorrect : Int) : Except Fault Int :=
  if items ≤ 0 then .ok 0
  else do
    let share ← Number.quotient correct items
    let points ← (Number.int pointsPerCorrect).toFloat
    let count ← (Number.int items).toFloat
    (Number.float (share * points * count)).toFloor

end LearningGame.Rules
