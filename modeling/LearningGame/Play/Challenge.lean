import LearningGame.Play.Sitting
import LearningGame.Play.State
import LearningGame.Rules.Grading

/-!
# Playing a challenge

A row of prompts is answered under one countdown and with a budget of mistakes. The challenge keeps
its own score and reports it once, when it is over.
-/

namespace LearningGame.Play

open Content Schema Rules

/-- A challenge in play. -/
structure ChallengeSitting extends Sitting where
  content : Challenge
  index : Nat
  score : Int
  mistakes : Nat
  streak : Nat
  timeRemaining : Int
  feedback : Option String
  /-- Whether the challenge was won, once it is over. -/
  won : Option Bool

instance : Seated ChallengeSitting where
  sitting s := s.toSitting
  seat s t := { s with toSitting := t }

/-- The name of an outcome. -/
def outcomeName (won : Bool) : String := if won then "win" else "lose"

namespace ChallengeSitting

/-- Sit down to a challenge. -/
def create (content : Challenge) (started : Float) : ChallengeSitting :=
  ⟨⟨false, started⟩, content, 0, 0, 0, 0, content.timeLimit, none, none⟩

/-- Whether the challenge is over. -/
def isOver (s : ChallengeSitting) : Bool := s.won.isSome

/-- The prompt to be answered. -/
def current? (s : ChallengeSitting) : Option ChallengeItem := s.content.items[s.index]?

variable (c : Setting)

/-- End the challenge and report its score, once. -/
def finish (reason : String) : Script ChallengeSitting Unit := do
  let s ← Script.state
  if s.isOver then pure ()
  else
    Script.cancel .challenge
    let passed := decide (s.content.targetScore ≤ s.score)
    Script.setState { s with won := some passed }
    let time ← Setting.elapsed
    Script.report c.sectionId
      (.map [("score", .int s.score), ("mistakes", .int s.mistakes), ("timeSpent", .int time)])
      passed s.score time
    Script.note .info
      ("Challenge '" ++ c.sectionId ++ "' ended (" ++ reason ++ "): " ++ outcomeName passed)

/-- Begin to play. -/
def enter : Script ChallengeSitting Unit := do
  let s ← Script.state
  if s.content.items.isEmpty then finish c "items exhausted"
  else if 0 < s.content.timeLimit then Script.arm .challenge s.content.timeLimit
  else pure ()

/-- A second has gone by. -/
def tick (remaining : Int) : Script ChallengeSitting Unit :=
  Script.change fun s => { s with timeRemaining := remaining }

/-- The time has run out. -/
def expire : Script ChallengeSitting Unit := finish c "time up"

/-- Score the answer to a prompt. -/
def credit (item : ChallengeItem) (correct : Bool) : Script ChallengeSitting Unit := do
  let s ← Script.state
  if correct then
    let points ←
      Script.lift (challengePoints item s.streak s.timeRemaining s.content.timeLimit)
    Script.setState
      { s with score := s.score + points, streak := s.streak + 1, feedback := some "correct" }
  else
    Script.setState { s with mistakes := s.mistakes + 1, streak := 0, feedback := some "wrong" }

/-- Go on to the next prompt, or end. -/
def advance : Script ChallengeSitting Unit := do
  let s ← Script.state
  if 0 < s.content.maxMistakes && decide (s.content.maxMistakes ≤ s.mistakes) then
    finish c "mistake budget spent"
  else if s.content.items.length ≤ s.index + 1 then finish c "items exhausted"
  else Script.setState { s with index := s.index + 1 }

/-- Grade the answer to the current prompt. -/
def grade (answer : Value) : Script ChallengeSitting (Option Bool) := do
  let s ← Script.state
  match s.current? with
  | none => Script.lift (.error .nothingAsked)
  | some item =>
    let correct := sameAnswer answer.text item.answer.toValue.text
    credit item correct
    advance c
    return some correct

/-- Whether a value is a blank text. -/
def isBlank : Value → Bool
  | .str s => Text.isBlankText s
  | _ => false

/-- Answer the current prompt; tells whether the answer was correct. A blank answer is none. -/
def answer (value : Value) : Script ChallengeSitting (Option Bool) :=
  c.unlessCompleted "answer" none do
    let s ← Script.state
    if s.isOver || isBlank value then return none else grade c value

/-- Go on after the end. -/
def leave : Script ChallengeSitting Unit := do
  let s ← Script.state
  if s.isOver then c.complete else Script.warn "Challenge is still running"

/-- The prompt that is shown; none when the challenge is over. -/
def shown? (s : ChallengeSitting) : Option ChallengeItem := if s.isOver then none else s.current?

/-- What the player sees. -/
def view (s : ChallengeSitting) : Fields :=
  [("type", Named.name SectionKind.challenge),
   ("challengeType", s.content.style),
   ("index", .int s.index),
   ("total", .int s.content.items.length),
   ("prompt", optionalText (s.shown?.map (·.prompt))),
   ("options", match s.shown?.bind (·.options) with
     | some options => .list (options.map ShortAnswer.toValue)
     | none => .null),
   ("score", .int s.score),
   ("targetScore", .int s.content.targetScore),
   ("mistakes", .int s.mistakes),
   ("maxMistakes", .int s.content.maxMistakes),
   ("streak", .int s.streak),
   ("timeRemaining", .int s.timeRemaining),
   ("feedback", optionalText s.feedback),
   ("result", optionalText (s.won.map outcomeName))]

end ChallengeSitting

end LearningGame.Play
