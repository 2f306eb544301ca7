import LearningGame.Play.Sitting
import LearningGame.Play.State
import LearningGame.Rules.Grading

/-!
# Playing a quiz

The questions are asked one after the other. Each is answered once, its result is shown, and then
play goes on to the next. A question with a time limit is answered with nothing when the time has
run out.
-/

namespace LearningGame.Play

open Content Schema Rules

/-- The result of a question. -/
structure QuizResult where
  questionId : String
  isCorrect : Bool
  points : Int
  /-- The correct answer, if it is to be shown. -/
  correctAnswer : Option AnswerKey
  explanation : Option String

/-- A result as a document. -/
def QuizResult.toValue (r : QuizResult) : Value :=
  .map
    [("questionId", r.questionId), ("isCorrect", .bool r.isCorrect), ("points", .int r.points),
     ("correctAnswer", match r.correctAnswer with
       | some k => k.toValue
       | none => .null),
     ("explanation", optionalText r.explanation)]

/-- A quiz in play. -/
structure QuizSitting extends Sitting where
  /-- The questions in the order in which they are asked. -/
  questions : List QuizQuestion
  index : Nat
  showResult : Bool
  lastResult : Option QuizResult
  hintVisible : Bool

instance : Seated QuizSitting where
  sitting s := s.toSitting
  seat s t := { s with toSitting := t }

namespace QuizSitting

/-- The question that is being asked. -/
def current? (s : QuizSitting) : Option QuizQuestion := s.questions[s.index]?

/-- Whether no question follows. -/
def isLast (s : QuizSitting) : Bool := s.questions.length ≤ s.index + 1

/-- Sit down to a quiz. -/
def create (c : Setting) (quiz : Quiz) (started : Float) : StateM Dice QuizSitting := do
  let questions ←
    if c.config.shuffleContent then Dice.shuffle quiz.questions else pure quiz.questions
  return ⟨⟨false, started⟩, questions, 0, false, none, false⟩

variable (c : Setting)

/-- The seconds for a question: its own limit if it has one, else that of the game. -/
def limitOf (q : QuizQuestion) : Int :=
  match q.timeLimit with
  | some n => if n = 0 then c.config.questionTimeLimit else n
  | none => c.config.questionTimeLimit

/-- Ask the current question. -/
def ask : Script QuizSitting Unit := do
  Script.change fun s => { s with showResult := false, lastResult := none, hintVisible := false }
  Setting.startClock
  let s ← Script.state
  match s.current? with
  | some q => if 0 < limitOf c q then Script.arm .question (limitOf c q) else pure ()
  | none => pure ()

/-- Begin to play. -/
def enter : Script QuizSitting Unit := do
  let s ← Script.state
  if s.questions.isEmpty then
    Script.warn ("Quiz '" ++ c.sectionId ++ "' has no questions")
    c.complete
  else ask c

/-- The result of an answer to a question. -/
def resultOf (q : QuizQuestion) (answer : Value) : QuizResult where
  questionId := q.id
  isCorrect := isCorrect q answer
  points := if isCorrect q answer then q.points else 0
  correctAnswer := if c.config.showCorrectAnswer then some q.answerKey else none
  explanation := q.explanation

/-- Grade an answer to a question and report it. -/
def grade (q : QuizQuestion) (answer : Value) : Script QuizSitting (Option QuizResult) := do
  Script.cancel .question
  let r := resultOf c q answer
  Setting.answer q.id answer r.isCorrect r.points
  Script.change fun s => { s with showResult := true, lastResult := some r }
  return some r

/-- Answer the current question. -/
def submit (answer : Value) : Script QuizSitting (Option QuizResult) :=
  c.unlessCompleted "submit" none do
    let s ← Script.state
    match s.current? with
    | none => return none
    | some q =>
      if s.showResult then
        Script.warn "Question already answered; call next()"
        return none
      else grade c q answer

/-- The time for the current question has run out. -/
def expire : Script QuizSitting Unit := do
  let s ← Script.state
  match s.current? with
  | none => Script.lift (.error .nothingAsked)
  | some q =>
    Script.note .info ("Question '" ++ q.id ++ "' timed out")
    let _ ← submit c .null

/-- Go on to the next question, or finish. -/
def next : Script QuizSitting Unit :=
  c.unlessCompleted "next" () do
    let s ← Script.state
    if !s.showResult then Script.warn "Cannot advance before the question is answered"
    else if s.isLast then c.complete
    else
      Script.setState { s with index := s.index + 1 }
      ask c

/-- Ask for the hint of the current question, which costs a hint. -/
def useHint : Script QuizSitting (Option String) := do
  let s ← Script.state
  match s.current?.bind (·.hint) with
  | none => return none
  | some hint =>
    if hint == "" || s.hintVisible then return none
    else
      let granted ← Script.spendHint
      if granted then
        Script.change fun s => { s with hintVisible := true }
        return some hint
      else return none

/-- A question as it is shown: without its answer. -/
def shown (q : QuizQuestion) : Value :=
  match QuizQuestion.codec.write true q with
  | .map m => .map (Fields.erase m "correctAnswer")
  | v => v

/-- What the player sees. -/
def view (s : QuizSitting) (remaining : Alarm → Option Int) : Fields :=
  [("type", Named.name SectionKind.quiz),
   ("index", .int s.index),
   ("total", .int s.questions.length),
   ("question", match s.current? with
     | some q => shown q
     | none => .null),
   ("showResult", .bool s.showResult),
   ("result", match s.lastResult with
     | some r => r.toValue
     | none => .null),
   ("hint", if s.hintVisible then optionalText (s.current?.bind (·.hint)) else .null),
   ("timeRemaining", optionalInt (remaining .question))]

end QuizSitting

end LearningGame.Play
