import LearningGame.Content.Media

/-!
# Quizzes

A quiz is a list of questions. The correct answer of a question is the index of an option, a list of
such indices, or a text.
-/

namespace LearningGame.Content

open Schema

/-- How a question is to be answered. -/
inductive QuestionKind where
  | singleChoice
  | multipleChoice
  | textInput
  | trueFalse
  deriving DecidableEq

instance : Named QuestionKind where
  all := [.singleChoice, .multipleChoice, .textInput, .trueFalse]
  name
    | .singleChoice => "single-choice"
    | .multipleChoice => "multiple-choice"
    | .textInput => "text-input"
    | .trueFalse => "true-false"

/-- An option of a question. -/
structure QuizOption where
  id : String
  text : String
  image : Option String

/-- How options are written. -/
def QuizOption.codec : Codec QuizOption :=
  RecordOf.build QuizOption.mk
    |>.apply (.required "id" .text (·.id))
    |>.apply (.required "text" .text (·.text))
    |>.apply (.optional "image" .text (·.image))
    |>.codec "QuizOption"

/-- The correct answer of a question. -/
inductive AnswerKey where
  | index (n : Int)
  | indices (ns : List Int)
  | text (s : String)

/-- An answer key as a value. -/
def AnswerKey.toValue : AnswerKey → Value
  | .index n => .int n
  | .indices ns => .list (ns.map .int)
  | .text s => .str s

/-- Read an answer key. A text stays a text even if an integer could be read from it. -/
def AnswerKey.read (v : Value) : Checked AnswerKey :=
  match v with
  | .str s => .valid (.text s)
  | _ =>
    match Codec.integer.read v, (Codec.list .integer).read v with
    | .valid n, _ => .valid (.index n)
    | _, .valid ns => .valid (.indices ns)
    | .invalid a, .invalid b =>
      .invalid ((Checked.under "int" (.invalid a : Checked Int)).issues ++
        (Checked.under "list[int]" (.invalid b : Checked Int)).issues ++ [⟨["str"], .notText⟩])

/-- How answer keys are written. -/
def AnswerKey.codec : Codec AnswerKey where
  read := AnswerKey.read
  write _ k := k.toValue
  same a b := a.toValue.same b.toValue

/-- A question with what is needed to ask and to grade it. -/
structure QuizQuestion where
  id : String
  question : String
  media : Option Media
  kind : QuestionKind
  options : List QuizOption
  answerKey : AnswerKey
  explanation : Option String
  hint : Option String
  points : Int
  timeLimit : Option Int

/-- How questions are written. -/
def QuizQuestion.codec : Codec QuizQuestion :=
  RecordOf.build QuizQuestion.mk
    |>.apply (.required "id" .text (·.id))
    |>.apply (.required "question" .text (·.question))
    |>.apply (.optional "media" Media.codec (·.media))
    |>.apply (.withDefault "questionType" .named .singleChoice (·.kind))
    |>.apply (.withDefault "options" QuizOption.codec.list [] (·.options))
    |>.apply (.required "correctAnswer" AnswerKey.codec (·.answerKey))
    |>.apply (.optional "explanation" .text (·.explanation))
    |>.apply (.optional "hint" .text (·.hint))
    |>.apply (.withDefault "points" .integer 10 (·.points))
    |>.apply (.optional "timeLimit" .integer (·.timeLimit))
    |>.codec "QuizQuestion"

/-- A quiz. -/
structure Quiz where
  questions : List QuizQuestion

/-- The fields of a quiz. -/
def Quiz.fields : RecordOf Quiz Quiz :=
  RecordOf.build Quiz.mk |>.apply (.required "questions" QuizQuestion.codec.list (·.questions))

end LearningGame.Content
