import LearningGame.Loading
import LearningGame.Proofs.Play.Submission
import LearningGame.Proofs.Traced

/-!
# Playing a game

A play is a list of deeds: operations of the session, seconds that go by, moves in any of the
sections that have been begun, and requests of these sections. Whatever is done, and whatever is
broken off on the way, the account is told by the answers and the hints that have been granted.
-/

namespace LearningGame.Play

open Content Schema Rules Act

/-- Something that is done with a session. -/
inductive Deed where
  | start
  | stop
  | restart
  | completeSection (id : String)
  | navigateTo (id : String)
  | submit (x : Submission)
  | useHint
  | updateVariables (patch : Fields)
  | addItem (item : String)
  | removeItem (item : String)
  | tick
  | moveClock (seconds : Float)
  /-- A move of the player in the section in a seat. -/
  | move (seat : Nat) (m : Move)
  /-- A request of the section in a seat. -/
  | request (seat : Nat) (r : Request)

namespace Deed

open Session

/-- The session after a deed; what is broken off leaves the changes made before. -/
def after (w : Session) : Deed → Session
  | .start => (Session.start.runIn w).2
  | .stop => (Session.stop.runIn w).2
  | .restart => (Session.restart.runIn w).2
  | .completeSection id => ((Session.completeSection id).runIn w).2
  | .navigateTo id => ((Session.navigateTo id).runIn w).2
  | .submit x => ((submitAnswer x).runIn w).2
  | .useHint => (Session.useHint.runIn w).2
  | .updateVariables patch => ((Session.updateVariables patch).runIn w).2
  | .addItem item => ((Session.addItem item).runIn w).2
  | .removeItem item => ((Session.removeItem item).runIn w).2
  | .tick => (Session.tick.runIn w).2
  | .moveClock seconds => Session.moveClock seconds w
  | .move seat m =>
    match act? seat m w with
    | none => w
    | some x => (x.runIn w).2
  | .request index r =>
    match w.seats[index]? with
    | none => w
    | some seat => ((reply activate index seat r).runIn w).2

/-- The hints that are granted in a deed. -/
def granted (w : Session) : Deed → Nat
  | .useHint =>
    match (Session.useHint.runIn w).1 with
    | .ok isGranted => if isGranted then 1 else 0
    | .error _ => 0
  | .move index m =>
    match w.seats[index]? with
    | none => 0
    | some seat =>
      match Player.act? seat.setting m seat.player with
      | none => 0
      | some script => script.grants (reply activate index seat) seat.player w
  | .request index r =>
    match w.seats[index]? with
    | none => 0
    | some seat =>
      match ((reply activate index seat r).runIn w).1 with
      | .ok a => r.granted a
      | .error _ => 0
  | _ => 0

end Deed

namespace Session

variable {g : Game} {granted : Nat}

/-! ### Moves, time and restarts -/

lemma keeps_tick : Keeps (InBalance g granted) tick :=
  keeps_tick_of
    (fun index alarm left =>
      keeps_perform keeps_activate index fun _ => Player.hintless_tick alarm left)
    fun index alarm => keeps_perform keeps_activate index fun c => Player.hintless_expire c alarm

/-- What does not look at the account is kept by a deed if it is kept when a section is begun, by
what is done in sections, and by the variables that the deed sets. -/
lemma Detached.after {I : Session → Prop} [hI : Detached I] {d : Deed} {w : Session} (hw : I w)
    (hactivate : Keeps I activate) (hrestart : I w → I (restart.runIn w).2)
    (hset : ∀ patch, d = .updateVariables patch ∨ (∃ i, d = .request i (.updateVariables patch)) →
      Keeps I (updateVariables patch))
    (htick : ∀ index alarm left, Keeps I (perform activate index fun _ => Player.tick alarm left))
    (hexpire : ∀ index alarm, Keeps I (perform activate index fun c => Player.expire c alarm))
    (hmove : ∀ index seat m script, w.seats[index]? = some seat →
      Player.act? seat.setting m seat.player = some script →
        I ((perform activate index fun _ _ => script).runIn w).2) : I (d.after w) := by
  cases d with
  | start => exact keeps_start_of hactivate w hw
  | stop => exact Session.keeps_stop w hw
  | restart => exact hrestart hw
  | completeSection id => exact keeps_completeBy hactivate id w hw
  | navigateTo id => exact keeps_navigateBy hactivate id w hw
  | submit x => exact keeps_submitAnswer x w hw
  | useHint => exact keeps_useHint w hw
  | updateVariables patch => exact hset patch (.inl rfl) w hw
  | addItem item => exact keeps_addItem item w hw
  | removeItem item => exact keeps_removeItem item w hw
  | tick => exact keeps_tick_of htick hexpire w hw
  | moveClock seconds => exact hI.of_same hw rfl rfl rfl
  | move index m =>
    simp only [Deed.after]
    cases hact : act? index m w with
    | none => exact hw
    | some x =>
      obtain ⟨seat, hseat, script, hscript, rfl⟩ := eq_perform_of_act? hact
      exact hmove index seat m script hseat hscript
  | request index r =>
    simp only [Deed.after]
    cases w.seats[index]? with
    | none => exact hw
    | some seat =>
      refine keeps_reply hactivate index seat (fun patch h => ?_) w hw
      subst h
      exact hset patch (.inr ⟨index, rfl⟩)

/-- The session after some deeds, one after the other. -/
def played (w : Session) (deeds : List Deed) : Session := deeds.foldl Deed.after w

/-- A lesson for which a life and some hints are given. -/
def shortLesson : Value :=
  .map
    [("content", .map [("sections", .list [.map [("id", "a"), ("type", "info")]])]),
      ("config", .map [("lives", .int 1), ("maxHints", .int 2)])]

/-- An answer that is not correct. -/
def slip : Submission := ⟨"a", "q", "x", false, .int 0, .int 3⟩

end Session

end LearningGame.Play
