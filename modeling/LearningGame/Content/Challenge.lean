import LearningGame.Schema.Record

/-!
# Challenges

A challenge is a row of prompts to be answered against the clock or with a budget of mistakes.
-/

namespace LearningGame.Content

open Schema

/-- A short answer: an integer, a float or a text. -/
inductive ShortAnswer where
  | int (n : Int)
  | float (x : Float)
  | text (s : String)

/-- A short answer as a value. -/
def ShortAnswer.toValue : ShortAnswer → Value
  | .int n => .int n
  | .float x => .float x
  | .text s => .str s

/-- Read a short answer. Each kind of scalar stays what it is; truth values become integers. -/
def ShortAnswer.read (v : Value) : Checked ShortAnswer :=
  match v with
  | .str s => .valid (.text s)
  | .float x => .valid (.float x)
  | _ =>
    match Codec.integer.read v with
    | .valid n => .valid (.int n)
    | .invalid a =>
      .invalid ((Checked.under "int" (.invalid a : Checked Int)).issues ++
        [⟨["float"], .notNumber⟩, ⟨["str"], .notText⟩])

/-- How short answers are written. -/
def ShortAnswer.codec : Codec ShortAnswer where
  read := ShortAnswer.read
  write _ a := a.toValue
  same
    | .float x, .float y => Codec.sameFloat x y
    | a, b => a.toValue.same b.toValue

/-- A prompt and its answer. -/
structure ChallengeItem where
  id : String
  prompt : String
  answer : ShortAnswer
  options : Option (List ShortAnswer)
  points : Int
  timeBonus : Option Int

/-- How prompts are written. -/
def ChallengeItem.codec : Codec ChallengeItem :=
  RecordOf.build ChallengeItem.mk
    |>.apply (.required "id" .text (·.id))
    |>.apply (.required "prompt" .text (·.prompt))
    |>.apply (.required "correctAnswer" ShortAnswer.codec (·.answer))
    |>.apply (.optional "options" ShortAnswer.codec.list (·.options))
    |>.apply (.withDefault "points" .integer 10 (·.points))
    |>.apply (.optional "timeBonus" .integer (·.timeBonus))
    |>.codec "ChallengeItem"

/-- A challenge. -/
structure Challenge where
  style : String
  items : List ChallengeItem
  timeLimit : Int
  targetScore : Int
  maxMistakes : Int

/-- The fields of a challenge. -/
def Challenge.fields : RecordOf Challenge Challenge :=
  RecordOf.build Challenge.mk
    |>.apply (.withDefault "challengeType" .text "speed-round" (·.style))
    |>.apply (.required "items" ChallengeItem.codec.list (·.items))
    |>.apply (.withDefault "timeLimit" .integer 60 (·.timeLimit))
    |>.apply (.withDefault "targetScore" .integer 0 (·.targetScore))
    |>.apply (.withDefault "maxMistakes" .integer 0 (·.maxMistakes))

end LearningGame.Content
