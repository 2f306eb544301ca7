import LearningGame.Play.Dice
import LearningGame.Play.Phase
import LearningGame.Play.Seat
import LearningGame.Play.Table
import LearningGame.Rules.Rating

/-!
# Sessions

A session is one player's way through a game: the phase, the state of the game, the countdowns, and
the sections that have been played so far, one of which may be current. What is meant for the
playing phase is ignored with a note in any other.
-/

namespace LearningGame.Play

open Content Schema Rules

/-- What a countdown of a session is for. -/
inductive SessionAlarm where
  /-- The time limit of the game. -/
  | game
  /-- The time that is left after the last life is lost. -/
  | lifeLoss
  /-- A countdown of the section in a seat. -/
  | ofSeat (seat : Nat) (alarm : Alarm)

/-- A session. -/
structure Session where
  game : Game
  settings : Settings
  dice : Dice
  clock : Float
  table : Table SessionAlarm
  phase : Phase
  state : GameState
  /-- The sections that have been begun, in that order. -/
  seats : List Seat
  /-- The seat of the current section. -/
  current : Option Nat
  /-- Whether the end of this play has been reported. -/
  reported : Bool
  /-- The states in which plays were reported as ended. -/
  completions : List GameState

instance : Tabled Session SessionAlarm where
  table w := w.table
  setTable w t := { w with table := t }

namespace Session

/-- A session that has not been started. -/
def create (g : Game) (settings : Settings) (dice : Dice) : Session where
  game := g
  settings := settings
  dice := dice
  clock := 0
  table := .empty
  phase := .intro
  state := GameState.initial g
  seats := []
  current := none
  reported := false
  completions := []

/-- The seat of the current section. -/
def currentSeat? (w : Session) : Option Seat := w.current.bind fun i => w.seats[i]?

/-! ### Notes -/

/-- Make a note in the name of sessions. -/
def note (level : Log.Level) (message : String) : Act Session Unit :=
  Table.note level "edugame.session" message

/-- Note that something was ignored. -/
def warn (message : String) : Act Session Unit := note .warning message

/-! ### Phases -/

/-- Do something in the playing phase only. -/
def whilePlaying {α : Type} (operation : String) (refused : α) (x : Act Session α) :
    Act Session α := do
  let w ← get
  if w.phase = .playing then x
  else
    warn ("Ignoring " ++ operation ++ " in phase '" ++ Named.name w.phase ++ "'")
    return refused

/-- Change the phase; tells whether that was possible. -/
def transition (e : PhaseEvent) : Act Session Bool := do
  let w ← get
  match w.phase.after? e with
  | none =>
    warn (w.phase.refusal e)
    return false
  | some p =>
    set { w with phase := p }
    Table.note .debug phaseSource (w.phase.changeNote p e)
    return true

/-! ### The state of the game -/

/-- Change the state of the game. -/
def change (f : GameState → GameState) : Act Session Unit :=
  modify fun w => { w with state := f w.state }

/-- Rate the score. -/
def rateScore : Act Session RatingTier := do
  let w ← get
  Table.take (rateNoted w.game.scoring w.state.score)

/-! ### The end -/

/-- Report the end of this play, once. -/
def reportEnd : Act Session Unit := do
  let w ← get
  if w.reported then pure ()
  else set { w with reported := true, completions := w.completions ++ [w.state] }

/-- End the game: rate it, void all countdowns and go over to the closing screen. -/
def finish : Act Session Unit := do
  change fun s => { s with isComplete := true }
  let tier ← rateScore
  change fun s => { s with rating := some tier }
  modify fun w => { Table.mapRegistry Registry.nextPhase w with current := none }
  let _ ← transition .finish
  let w ← get
  note .info ("Session complete: score " ++ w.state.score.text ++ "/" ++
    Number.intText w.game.scoring.maxScore ++ ", rating '" ++ tier.label ++ "'")
  reportEnd

/-- End the game, if it is being played; tells whether it was. -/
def stop : Act Session Bool :=
  whilePlaying "end" false do
    finish
    return true

end Session

end LearningGame.Play
