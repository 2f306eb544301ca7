import LearningGame.Play.Session.Sections

/-!
# The course of a session

Starting and restarting, moves of the player in a section, and the passing of time.
-/

namespace LearningGame.Play

open Content Schema Rules

namespace Session

/-- The countdown of the whole game. -/
def gameName : String := "game"

/-- Arm the countdown of the game, if its time is limited. -/
def armGame : Act Session Unit := do
  let w ← get
  match w.state.timeRemaining with
  | none => return ()
  | some seconds => if seconds = 0 then return () else Table.arm gameName seconds .ofPlay SessionAlarm.game

/-- Start to play; tells whether that was possible. -/
def start : Act Session Bool := do
  let started ← transition .start
  if started then
    let w ← get
    note .info ("Session started: '" ++ w.game.metadata.title ++ "'")
    armGame
    activate
    return true
  else return false

/-- Drop the play and go back to the introduction. -/
def restart : Act Session Unit := do
  modify (Table.mapRegistry Registry.nextPhase)
  let _ ← transition .restart
  modify fun w =>
    { w with state := GameState.initial w.game, current := none, reported := false }
  note .info "Session restarted"

/-! ### Moves -/

/-- Make a move in the section in a seat, if there is one and it knows the move. -/
def act? (index : Nat) (m : Move) (w : Session) : Option (Act Session Value) := do
  let seat ← w.seats[index]?
  let script ← Player.act? seat.setting m seat.player
  return perform activate index fun _ _ => script

/-- The seconds left to a countdown of a section. -/
def remaining? (w : Session) (setting : Setting) (alarm : Alarm) : Option Int :=
  w.table.registry.remaining? (alarm.fullName setting.sectionId)

/-- What the player sees of the section in a seat. -/
def view (w : Session) (seat : Seat) : Except Fault Fields :=
  seat.player.view seat.setting w.circumstances (w.remaining? seat.setting)

/-! ### Time -/

/-- What the countdowns of a session do. -/
def bells : Table.Bells Session SessionAlarm where
  tick c left :=
    match c.alarm with
    | .game => change fun s => { s with timeRemaining := some left }
    | .lifeLoss => return ()
    | .ofSeat index alarm => perform activate index fun _ => Player.tick alarm left
  expire c :=
    match c.alarm with
    | .game => do
      note .info "Time limit reached"
      let _ ← stop
    | .lifeLoss => do
      let _ ← stop
    | .ofSeat index alarm => perform activate index fun c => Player.expire c alarm

/-- Let a second of play go by. -/
def tick : Act Session Unit := do
  let w ← get
  if w.phase = .playing then
    change fun s => { s with timeElapsed := s.timeElapsed + 1 }
    let _ ← Table.tick bells
  else return ()

/-- Move the clock. -/
def moveClock (seconds : Float) (w : Session) : Session := { w with clock := w.clock + seconds }

end Session

end LearningGame.Play
