import LearningGame.Play.Session.Ledger

/-!
# The sections of a session

One section is current at a time. Completing it leads to the next one in the order of play, or ends
the game. Beginning a section may lead straight on to another, as when there is nothing in it to
play. How long that can go on is bounded by the number of sections, the places in the order and the
answers that make up a streak: a longer chain would come back to where it was, and never end.
-/

namespace LearningGame.Play

open Content Schema Rules

namespace Session

/-! ### The order of play -/

/-- The place of a section in the order of play. -/
def place? (w : Session) (id : String) : Option Nat := w.game.order.findIdx? (· == id)

/-- The first section after a place that has not been completed. -/
def nextAfter (w : Session) (place : Nat) : Option String :=
  (w.game.order.drop (place + 1)).find? fun id => !w.state.hasCompleted id

/-- Whether a place lies after those of all sections that have been completed. -/
def isAhead (w : Session) (place : Nat) : Bool :=
  w.state.completed.all fun id =>
    match w.place? id with
    | some p => p < place
    | none => true

/-! ### Completing and navigating -/

section

variable (activate : Act Session Unit)

/-- Go to a section. -/
def goTo (id : String) : Act Session Unit := do
  change fun s => { s with sectionId := id, itemIndex := 0 }
  activate

/-- Note that the section at a place is completed, and go on from it. -/
def completeAt (id : String) (place : Nat) : Act Session Unit := do
  let w ← get
  if w.isAhead place then change fun s => { s with completed := s.completed ++ [id] }
  else warn ("Section '" ++ id ++ "' completed out of order; not recorded")
  note .info ("Section completed: '" ++ id ++ "'")
  let w ← get
  match w.nextAfter place with
  | none =>
    let _ ← stop
  | some next => goTo activate next

/-- Complete a section; tells whether that was accepted. -/
def completeBy (id : String) : Act Session Bool :=
  whilePlaying "complete_section" false do
    let w ← get
    if w.state.isComplete then
      warn ("Ignoring completion of '" ++ id ++ "': game is complete")
      return false
    else if w.state.hasCompleted id then
      warn ("Section '" ++ id ++ "' already completed")
      return false
    else
      match w.place? id with
      | none =>
        warn ("Section '" ++ id ++ "' is not in the progression order; ending game")
        let _ ← stop
        return true
      | some place =>
        completeAt activate id place
        return true

/-- Go to any section; tells whether there is one of that id. -/
def navigateBy (id : String) : Act Session Bool :=
  whilePlaying "navigate_to_section" false do
    let w ← get
    match w.game.section? id with
    | none =>
      warn ("Cannot navigate to unknown section '" ++ id ++ "'")
      return false
    | some _ =>
      goTo activate id
      return true

/-! ### What sections ask -/

/-- Hear a section unless it has been left. -/
def heard {α : Type} (seat : Seat) (operation : String) (refused : α) (x : Act Session α) :
    Act Session α := do
  let w ← get
  if seat.epochs.current w.table.registry.epochs .ofSection then x
  else
    Table.note .warning countdownSource (staleNote operation)
    return refused

/-- What conditions look at. -/
def circumstances (w : Session) : Circumstances :=
  ⟨w.state.vars, w.state.score, w.state.inventory⟩

/-- Draw a random number. -/
def draw : Act Session Float := do
  let w ← get
  set { w with dice := w.dice.advance }
  return w.dice.top

/-- Answer a request of the section in a seat. -/
def reply (index : Nat) (seat : Seat) : (r : Request) → Act Session r.Reply
  | .report item given isCorrect points time =>
    heard seat "submit_answer" () do
      let _ ← submitAnswer ⟨seat.setting.sectionId, item, given, isCorrect, .int points, .int time⟩
  | .complete =>
    heard seat "complete_section" () do
      let _ ← completeBy activate seat.setting.sectionId
  | .spendHint => heard seat "use_hint" false useHint
  | .navigate id =>
    heard seat "navigate_to_section" () do
      let _ ← navigateBy activate id
  | .updateVariables patch => heard seat "update_variables" () (updateVariables patch)
  | .addItem item => heard seat "add_item" () (addItem item)
  | .removeItem item => heard seat "remove_item" () (removeItem item)
  | .look => do
    let w ← get
    return w.circumstances
  | .arm alarm seconds =>
    Table.arm (alarm.fullName seat.setting.sectionId) seconds .ofSection
      (SessionAlarm.ofSeat index alarm)
  | .cancel alarm => Table.cancel (alarm.fullName seat.setting.sectionId)
  | .draw => draw
  | .now => do
    let w ← get
    return w.clock
  | .note level message => Table.note level seat.setting.source message

/-- Put the player of a seat back. -/
def putPlayer (index : Nat) (player : Player) (w : Session) : Session :=
  { w with seats := w.seats.modify index fun seat => { seat with player } }

/-- Run a script of the section in a seat. -/
def perform {α : Type} (index : Nat) (script : Setting → Player → Script Player α) :
    Act Session α :=
  Act.ofFun fun w =>
    match w.seats[index]? with
    | none => (.error .outOfRange, w)
    | some seat =>
      let (result, player, after) :=
        (script seat.setting seat.player).run (reply activate index seat) seat.player w
      (result, putPlayer index player after)

end

/-! ### Activation -/

/-- Leave the current section. -/
def leaveSection (w : Session) : Session :=
  { Table.mapRegistry Registry.nextSection w with current := none }

/-- Sit down to a section. -/
def sitDown (s : Section) : Act Session Player :=
  Act.ofFun fun w =>
    let (result, dice) :=
      (Player.sitDown (Setting.ofSection w.game w.settings s) s.content w.clock).runIn w.dice
    (result, { w with dice })

/-- Take a new seat at a section, which becomes the current one. -/
def takeSeat (s : Section) : Act Session Nat := do
  let player ← sitDown s
  let w ← get
  let seat : Seat := ⟨Setting.ofSection w.game w.settings s, w.table.registry.epochs, player⟩
  set { w with seats := w.seats ++ [seat], current := some w.seats.length }
  note .debug ("Section active: '" ++ s.id ++ "' (" ++ Named.name s.kind ++ ")")
  return w.seats.length

/-- Begin the section that is to be played; at most so many may be begun one from within the
other. What goes on without end is broken off between two sections: the last one has been left and
no other one is begun. -/
def activateWithin : Nat → Act Session Unit
  | 0 => do
    modify leaveSection
    Act.fault .endless
  | n + 1 => do
    modify leaveSection
    let w ← get
    match w.game.section? w.state.sectionId with
    | none => warn ("Section '" ++ w.state.sectionId ++ "' does not exist")
    | some s =>
      let index ← takeSeat s
      perform (activateWithin n) index Player.enter

/-- A longer chain of activations would come back to a section with the same sections completed, and
with the same answers to be rewarded: those after the third correct one in a row. -/
def longestChain (g : Game) : Nat := (g.order.length + 4) * (g.sections.length + 1) + 1

/-- Begin the section that is to be played. -/
def activate : Act Session Unit := do
  let w ← get
  activateWithin (longestChain w.game)

/-- Complete a section; tells whether that was accepted. -/
def completeSection (id : String) : Act Session Bool := completeBy activate id

/-- Go to any section; tells whether there is one of that id. -/
def navigateTo (id : String) : Act Session Bool := navigateBy activate id

/-! ### Locks -/

/-- Whether the unlock condition of a section holds; this is for show only. -/
def isUnlocked (w : Session) (id : String) : Except Fault Bool :=
  match w.game.section? id with
  | none => .ok false
  | some s =>
    match s.unlockCondition with
    | none => .ok true
    | some k =>
      match k.kind with
      | .score => compareValues w.state.score.toValue .atLeast k.value
      | .completeSection => .ok (w.state.hasCompleted k.target)
      | .variable =>
        let v := w.state.vars.get k.target
        if k.value.isNull then .ok v.truthy else compareValues v .equal k.value

end Session

end LearningGame.Play
