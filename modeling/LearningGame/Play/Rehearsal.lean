import LearningGame.Play.Dice
import LearningGame.Play.Seat
import LearningGame.Play.Table

/-!
# Rehearsals

A section is played on its own, without a session. What it reports is recorded, hints, variables and
inventory are kept up, and the score stays as it is. In a plain rehearsal there are no variables, no
score and no inventory, and only answers, the end and hints are recorded.
-/

namespace LearningGame.Play

open Content Rules

/-- What a section reports. -/
inductive Report where
  | answer (itemId : String) (answer : Value) (isCorrect : Bool) (points timeSpent : Int)
  | complete
  | hint (granted : Bool)
  | navigate (sectionId : String)
  /-- Variables are set. -/
  | update (patch : Fields)
  | add (item : String)
  | remove (item : String)

/-- A section that is played on its own. -/
structure Rehearsal where
  setting : Setting
  player : Player
  table : Table Alarm
  dice : Dice
  clock : Float
  /-- Whether only the core of the reports is taken. -/
  plain : Bool
  hints : Int
  circumstances : Circumstances
  /-- The reports, the latest first. -/
  reports : List Report

instance : Tabled Rehearsal Alarm where
  table w := w.table
  setTable w t := { w with table := t }

namespace Rehearsal

/-- Sit down to rehearse a section, with its own countdowns and the clock at zero. -/
def create (setting : Setting) (content : SectionContent) (dice : Dice) (plain : Bool) (hints : Int)
    (circumstances : Circumstances) : Except Fault Rehearsal :=
  match (Player.sitDown setting content 0).runIn dice with
  | (.ok player, dice) =>
    .ok ⟨setting, player, .empty, dice, 0, plain, hints, circumstances, []⟩
  | (.error f, _) => .error f

/-- Record a report. -/
def record (r : Report) (w : Rehearsal) : Rehearsal := { w with reports := r :: w.reports }

/-- Record a report and change something, unless the rehearsal is plain. -/
def recordUnlessPlain (r : Report) (change : Circumstances → Circumstances) (w : Rehearsal) :
    Rehearsal :=
  if w.plain then w else { w.record r with circumstances := change w.circumstances }

/-- Put an item into an inventory that does not hold it. -/
def addItem (item : String) (c : Circumstances) : Circumstances :=
  if c.inventory.contains item then c else { c with inventory := c.inventory ++ [item] }

/-- Take an item out of an inventory. -/
def removeItem (item : String) (c : Circumstances) : Circumstances :=
  { c with inventory := c.inventory.erase item }

/-- What conditions look at in a plain rehearsal. -/
def nothing : Circumstances := ⟨[], .int 0, []⟩

/-- What conditions look at. -/
def seen (w : Rehearsal) : Circumstances := if w.plain then nothing else w.circumstances

/-- Grant a hint if there is one left. -/
def spendHint : Act Rehearsal Bool := do
  let w ← get
  let granted := decide (0 < w.hints)
  set { w.record (.hint granted) with hints := if granted then w.hints - 1 else w.hints }
  return granted

/-- Answer a request of the section. -/
def answer (c : Setting) : (r : Request) → Act Rehearsal r.Reply
  | .report item given isCorrect points time =>
    modify (record (.answer item given isCorrect points time))
  | .complete => modify (record .complete)
  | .spendHint => spendHint
  | .navigate id => modify (recordUnlessPlain (.navigate id) fun s => s)
  | .updateVariables patch =>
    modify (recordUnlessPlain (.update patch) fun s =>
      { s with vars := s.vars.putAll patch })
  | .addItem item => modify (recordUnlessPlain (.add item) (addItem item))
  | .removeItem item => modify (recordUnlessPlain (.remove item) (removeItem item))
  | .look => do
    let w ← get
    return w.seen
  | .arm alarm seconds =>
    Table.arm (alarm.fullName c.sectionId) seconds .ofSection alarm
  | .cancel alarm => Table.cancel (alarm.fullName c.sectionId)
  | .draw => do
    let w ← get
    set { w with dice := w.dice.advance }
    return w.dice.top
  | .now => do
    let w ← get
    return w.clock
  | .note level message => Table.note level c.source message

/-- Run a script of the section. -/
def perform {α : Type} (script : Player → Script Player α) : Act Rehearsal α :=
  Act.ofFun fun w =>
    let (result, player, after) := (script w.player).run (answer w.setting) w.player w
    (result, { after with player })

/-- Begin to play. -/
def enter : Act Rehearsal Unit := do
  let w ← get
  perform (Player.enter w.setting)

/-- Make a move, if the section knows it. -/
def act? (m : Move) (w : Rehearsal) : Option (Act Rehearsal Value) :=
  (Player.act? w.setting m w.player).map fun script => perform fun _ => script

/-- What the countdowns of the section do. -/
def bells : Table.Bells Rehearsal Alarm where
  tick c left := perform (Player.tick c.alarm left)
  expire c := do
    let w ← get
    perform (Player.expire w.setting c.alarm)

/-- Let a second go by; tells the names of the countdowns that have run out. -/
def tick : Act Rehearsal (List String) := Table.tick bells

/-- The seconds left to a countdown of the section. -/
def remaining? (w : Rehearsal) (alarm : Alarm) : Option Int :=
  w.table.registry.remaining? (alarm.fullName w.setting.sectionId)

/-- What the player sees. -/
def view (w : Rehearsal) : Except Fault Fields :=
  w.player.view w.setting w.seen w.remaining?

end Rehearsal

end LearningGame.Play
