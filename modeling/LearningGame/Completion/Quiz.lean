import LearningGame.Completion.Entries
import LearningGame.Content.Quiz

/-!
# Filling quizzes

Questions get ids, options as maps, a known kind, a correct answer in one of the three forms of an
answer key, and points.
-/

namespace LearningGame.Completion

open Content Schema

/-- Make an option a map with an id and a text. -/
def fillOption (v : Value) (n : Nat) : Fields :=
  let fallback := "opt" ++ toString n
  match v with
  | .map m => fillText (fillId m fallback) "text"
  | v => [("id", fallback), ("text", v.text)]

/-- Make the options of a question maps. -/
def fillOptions (v : Value) : List Fields := v.items.zipIdx.map fun e => fillOption e.1 e.2

/-- The index that a value stands for: an integer or a whole float. -/
def optionIndex? : Value → Option Int
  | .int n => some n
  | .float x =>
    match Number.truncate x with
    | .ok n => if Number.isWhole x then some n else none
    | .error _ => none
  | _ => none

/-- The kind of a question; an unknown one is told from the presence of options. -/
def questionKind (v : Value) (options : List Fields) : QuestionKind :=
  let found : Option QuestionKind := match v with
    | .str s => Named.find? s
    | _ => none
  found.getD (if options.isEmpty then .textInput else .singleChoice)

/-- Fit an answer into the form of an answer key. -/
def fitAnswer (kind : QuestionKind) (answer : Value) : Value :=
  match kind, answer with
  | .textInput, v => .str v.text
  | _, .list items => .list (items.filterMap fun v => (optionIndex? v).map .int)
  | _, .str s => .str s
  | _, v =>
    match optionIndex? v with
    | some n => .int n
    | none => .str v.text

/-- The answer to a yes-or-no question as an index: true is the first option. -/
def truthIndex (answer : Value) : Value :=
  match answer with
  | .bool b => .int (if b then 0 else 1)
  | .str s =>
    if folded s = "true" then .int 0 else if folded s = "false" then .int 1 else .str s
  | v => v

/-- The answer that a question names, before it is fitted. -/
def rawAnswer (kind : QuestionKind) (answer : Value) : Value :=
  match kind, answer with
  | .trueFalse, v => truthIndex v
  | .multipleChoice, .int n => .list [.int n]
  | _, v => v

/-- The answer of a question without one. -/
def defaultAnswer : QuestionKind → Value
  | .textInput => .str ""
  | _ => .int 0

/-- Fill a question. -/
def fillQuestion (points : Int) (q : Fields) (n : Nat) : Filling Fields := do
  let q := fillText (fillId q ("q" ++ toString n)) "question"
  let given := fillOptions (q.get "options")
  let kind := questionKind (q.get "questionType") given
  let options :=
    if kind = .trueFalse ∧ given.isEmpty then fillOptions (.list ["True", "False"]) else given
  let raw := rawAnswer kind (q.get "correctAnswer")
  let answer := fitAnswer kind (if raw.isNull then defaultAnswer kind else raw)
  let q := q.put "questionType" (Named.name kind)
  let q := q.put "options" (mapList options)
  let q := q.put "correctAnswer" answer
  fillWhole q "points" points

/-- Fill a quiz. -/
def fillQuiz (points : Int) (content : Fields) : Filling Fields := do
  let questions ← objects "quiz question" (content.get "questions")
  let filled ← Traced.traverse (fun e => fillQuestion points e.1 e.2) (numbered questions)
  return content.put "questions" (mapList filled)

end LearningGame.Completion
