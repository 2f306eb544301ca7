import LearningGame.Play.Session.Course
import LearningGame.Proofs.Play.Ledger
import LearningGame.Proofs.Play.Asking

/-!
# What the operations of a session do to its account and its variables

Only answers, hints and items change the account of a session, only setting them changes its
variables, only beginning a section adds a seat, and the game stays the same. What is said of the
other operations holds for any property of these.
-/

namespace LearningGame.Play

open Content Schema Rules Act

namespace Session

/-- A property that looks at nothing but the game, the account, the variables and the seats of a
session. -/
class Aloof (I : Session → Prop) : Prop where
  of_same : ∀ {w v : Session}, I w → v.game = w.game → v.state.account = w.state.account →
    v.state.vars = w.state.vars → v.seats = w.seats → I v

/-- A property that looks at nothing but the game, the variables and the seats of a session. -/
class Detached (I : Session → Prop) : Prop where
  of_same : ∀ {w v : Session}, I w → v.game = w.game → v.state.vars = w.state.vars →
    v.seats = w.seats → I v

instance {I : Session → Prop} [hI : Detached I] : Aloof I where
  of_same hw hgame _ hvars hseats := hI.of_same hw hgame hvars hseats

/-- The session is one of a game, and its account has a property. -/
def Holds (g : Game) (P : Account → Prop) (w : Session) : Prop := w.game = g ∧ P w.state.account

variable {g : Game} {P : Account → Prop} {I : Session → Prop} {α : Type}

instance : Aloof (Holds g P) where
  of_same hw hgame haccount _ _ := ⟨hgame.trans hw.1, haccount.symm ▸ hw.2⟩

variable [hI : Aloof I]

lemma untabled : Table.Untabled (α := SessionAlarm) I :=
  fun _ _ hw => hI.of_same hw rfl rfl rfl rfl

/-! ### Operations that leave the account alone -/

lemma keeps_note (level : Log.Level) (message : String) : Keeps I (note level message) :=
  Table.keeps_note untabled _ _ _

lemma keeps_warn (message : String) : Keeps I (warn message) := keeps_note _ _

lemma keeps_change {f : GameState → GameState} (haccount : ∀ s, (f s).account = s.account)
    (hvars : ∀ s, (f s).vars = s.vars) : Keeps I (change f) :=
  fun w hw => hI.of_same hw rfl (haccount w.state) (hvars w.state) rfl

lemma keeps_whilePlaying (operation : String) (refused : α) {x : Act Session α}
    (hx : Keeps I x) : Keeps I (whilePlaying operation refused x) := by
  refine keeps_bind keeps_get fun w => ?_
  split_ifs
  · exact hx
  · exact keeps_bind (keeps_warn _) fun _ => keeps_pure _

lemma runIn_whilePlaying {w : Session} (hw : w.phase = .playing) (operation : String) (refused : α)
    (x : Act Session α) : (whilePlaying operation refused x).runIn w = x.runIn w := by
  rw [whilePlaying, runIn_get_bind, if_pos hw]

lemma runIn_whilePlaying_refused {w : Session} (hw : w.phase ≠ .playing) (operation : String)
    (refused : α) (x : Act Session α) :
    ((whilePlaying operation refused x).runIn w).1 = .ok refused ∧
      ((whilePlaying operation refused x).runIn w).2.state = w.state ∧
      ((whilePlaying operation refused x).runIn w).2.game = w.game := by
  rw [whilePlaying, runIn_get_bind, if_neg hw]
  exact ⟨rfl, rfl, rfl⟩

lemma keeps_transition (e : PhaseEvent) : Keeps I (transition e) := by
  refine keeps_get_bind fun w hw => ?_
  cases w.phase.after? e with
  | none => exact keeps_bind (keeps_warn _) (fun _ => keeps_pure _) w hw
  | some p =>
    refine keeps_bind (I := I) ?_ (fun _ => ?_) w hw
    · exact keeps_set (hI.of_same hw rfl rfl rfl rfl)
    · exact keeps_bind (Table.keeps_note untabled _ _ _) fun _ => keeps_pure _

lemma keeps_rateScore : Keeps I rateScore :=
  keeps_bind keeps_get fun _ => Table.keeps_take untabled _

lemma keeps_reportEnd : Keeps I reportEnd := by
  refine keeps_get_bind fun w hw => ?_
  by_cases hreported : w.reported = true
  · rw [if_pos hreported]
    exact hw
  · rw [if_neg hreported]
    exact hI.of_same hw rfl rfl rfl rfl

lemma keeps_finish : Keeps I finish :=
  keeps_bind (keeps_change (fun _ => rfl) fun _ => rfl) fun _ => keeps_bind keeps_rateScore fun _ =>
    keeps_bind (keeps_change (fun _ => rfl) fun _ => rfl) fun _ =>
      keeps_bind (keeps_modify fun _ hw => hI.of_same hw rfl rfl rfl rfl) fun _ =>
        keeps_bind (keeps_transition _) fun _ => keeps_bind keeps_get fun _ =>
          keeps_bind (keeps_note _ _) fun _ => keeps_reportEnd

lemma keeps_stop : Keeps I stop :=
  keeps_whilePlaying _ _ (keeps_bind keeps_finish fun _ => keeps_pure _)

lemma keeps_arm (name : String) (seconds : Int) (scope : Scope) (alarm : SessionAlarm) :
    Keeps I (Table.arm name seconds scope alarm) :=
  Table.keeps_arm untabled _ _ _ _

lemma keeps_scheduleEnd : Keeps I scheduleEnd := by
  refine keeps_bind keeps_get fun w => keeps_bind (keeps_note _ _) fun _ => ?_
  split_ifs
  · exact keeps_bind keeps_stop fun _ => keeps_pure _
  · exact keeps_arm _ _ _ _

/-- Setting variables keeps what their new values keep. -/
lemma keeps_updateVariables {patch : Fields}
    (hpatch : ∀ w : Session, I w →
      I { w with state := { w.state with vars := w.state.vars.putAll patch } }) :
    Keeps I (updateVariables patch) :=
  keeps_whilePlaying _ _ (keeps_modify hpatch)

lemma keeps_draw : Keeps I draw := keeps_get_bind fun _ hw => hI.of_same hw rfl rfl rfl rfl

lemma keeps_leaveSection : Keeps I (modify leaveSection) :=
  keeps_modify fun _ hw => hI.of_same hw rfl rfl rfl rfl

lemma keeps_sitDown (s : Section) : Keeps I (sitDown s) := fun _ hw => hI.of_same hw rfl rfl rfl rfl

lemma keeps_takeSeat (s : Section) : Keeps (Holds g P) (takeSeat s) := by
  refine keeps_bind (keeps_sitDown s) fun player => keeps_get_bind fun w hw => ?_
  refine keeps_bind (I := Holds g P) ?_ (fun _ => ?_) w hw
  · exact keeps_set hw
  · exact keeps_bind (keeps_note _ _) fun _ => keeps_pure _

lemma keeps_armGame : Keeps I armGame := by
  refine keeps_bind keeps_get fun w => ?_
  cases w.state.timeRemaining with
  | none => exact keeps_pure _
  | some seconds =>
    show Keeps I (if _ then _ else _)
    split_ifs
    · exact keeps_pure _
    · exact keeps_arm _ _ _ _

/-! ### Operations that begin sections -/

/-- Going on from a section that is completed. -/
def goOn (activate : Act Session Unit) (id : String) (place : Nat) : Act Session Unit := do
  note .info ("Section completed: '" ++ id ++ "'")
  let w ← get
  match w.nextAfter place with
  | none =>
    let _ ← stop
  | some next => goTo activate next

section

variable {activate : Act Session Unit} (hactivate : Keeps I activate)

include hactivate

lemma keeps_goTo (id : String) : Keeps I (goTo activate id) :=
  keeps_bind (keeps_change (fun _ => rfl) fun _ => rfl) fun _ => hactivate

lemma keeps_goOn (id : String) (place : Nat) : Keeps I (goOn activate id place) := by
  refine keeps_bind (keeps_note _ _) fun _ => keeps_bind keeps_get fun w => ?_
  cases w.nextAfter place with
  | none => exact keeps_bind keeps_stop fun _ => keeps_pure _
  | some next => exact keeps_goTo hactivate next

lemma keeps_completeAt (id : String) (place : Nat) :
    Keeps I (completeAt activate id place) := by
  refine keeps_bind keeps_get fun w => ?_
  split_ifs
  · exact keeps_bind (keeps_change (fun _ => rfl) fun _ => rfl) fun _ =>
      keeps_goOn hactivate id place
  · exact keeps_bind (keeps_warn _) fun _ => keeps_goOn hactivate id place

lemma keeps_completeBy (id : String) : Keeps I (completeBy activate id) := by
  refine keeps_whilePlaying _ _ (keeps_bind keeps_get fun w => ?_)
  split_ifs
  · exact keeps_bind (keeps_warn _) fun _ => keeps_pure _
  · exact keeps_bind (keeps_warn _) fun _ => keeps_pure _
  · cases w.place? id with
    | none =>
      exact keeps_bind (keeps_warn _) fun _ => keeps_bind keeps_stop fun _ => keeps_pure _
    | some place => exact keeps_bind (keeps_completeAt hactivate id place) fun _ => keeps_pure _

lemma keeps_navigateBy (id : String) : Keeps I (navigateBy activate id) := by
  refine keeps_whilePlaying _ _ (keeps_bind keeps_get fun w => ?_)
  cases w.game.section? id with
  | none => exact keeps_bind (keeps_warn _) fun _ => keeps_pure _
  | some s => exact keeps_bind (keeps_goTo hactivate id) fun _ => keeps_pure _

end

lemma keeps_heard (seat : Seat) (operation : String) (refused : α) {x : Act Session α}
    (hx : Keeps I x) : Keeps I (heard seat operation refused x) := by
  refine keeps_bind keeps_get fun w => ?_
  split_ifs
  · exact hx
  · exact keeps_bind (Table.keeps_note untabled _ _ _) fun _ => keeps_pure _

/-- What is kept by answers, hints, variables and items is kept by every reply. -/
lemma keeps_reply_of {activate : Act Session Unit} (hactivate : Keeps I activate)
    (hanswer : ∀ (x : Submission) (base : Int), x.basePoints = .int base → Keeps I (submitAnswer x))
    (hadd : ∀ item, Keeps I (addItem item)) (hremove : ∀ item, Keeps I (removeItem item))
    (index : Nat) (seat : Seat) {r : Request} (hhint : r = .spendHint → Keeps I useHint)
    (hpatch : ∀ patch, r = .updateVariables patch → Keeps I (updateVariables patch)) :
    Keeps I (reply activate index seat r) := by
  cases r with
  | report item given isCorrect points time =>
    exact keeps_heard seat _ _ (keeps_bind (hanswer _ _ rfl) fun _ => keeps_pure _)
  | complete =>
    exact keeps_heard seat _ _ (keeps_bind (keeps_completeBy hactivate _) fun _ => keeps_pure _)
  | spendHint => exact keeps_heard seat _ _ (hhint rfl)
  | navigate id =>
    exact keeps_heard seat _ _ (keeps_bind (keeps_navigateBy hactivate id) fun _ => keeps_pure _)
  | updateVariables patch => exact keeps_heard seat _ _ (hpatch patch rfl)
  | addItem item => exact keeps_heard seat _ _ (hadd item)
  | removeItem item => exact keeps_heard seat _ _ (hremove item)
  | look => exact keeps_bind keeps_get fun _ => keeps_pure _
  | arm alarm seconds => exact keeps_arm _ _ _ _
  | cancel alarm => exact Table.keeps_cancel untabled _
  | draw => exact keeps_draw
  | now => exact keeps_bind keeps_get fun _ => keeps_pure _
  | note level message => exact Table.keeps_note untabled _ _ _

/-! ### What does not look at the account -/

namespace Detached

variable {I : Session → Prop} [hI : Detached I]

/-- Nothing else about the state matters. -/
lemma keeps_change {f : GameState → GameState} (hf : ∀ s, (f s).vars = s.vars) :
    Keeps I (change f) :=
  fun w hw => hI.of_same hw rfl (hf w.state) rfl

lemma keeps_loseLife : Keeps I loseLife := by
  refine keeps_bind keeps_get fun w => ?_
  cases w.state.lives with
  | none => exact keeps_pure _
  | some lives =>
    dsimp only
    split_ifs
    · exact keeps_bind (keeps_change fun _ => rfl) fun _ => keeps_scheduleEnd
    · exact keeps_bind (keeps_change fun _ => rfl) fun _ => keeps_pure _
    · exact keeps_pure _

omit hI in
lemma keeps_lift (r : Except Fault α) : Keeps I (Act.lift r) := fun _ hw => hw

lemma keeps_submitAnswer (x : Submission) : Keeps I (submitAnswer x) := by
  refine keeps_whilePlaying _ _
    (keeps_bind (keeps_bind keeps_get fun w => ?_) fun _ => keeps_pure _)
  refine keeps_bind (keeps_lift _) fun _ => keeps_bind (keeps_change fun _ => rfl) fun _ =>
    keeps_bind (keeps_lift _) fun _ => keeps_bind (keeps_change fun _ => rfl) fun _ =>
      keeps_bind (keeps_note _ _) fun _ => ?_
  split_ifs
  · exact keeps_pure _
  · exact keeps_bind keeps_loseLife fun _ => keeps_pure _

lemma keeps_useHint : Keeps I useHint := by
  refine keeps_whilePlaying _ _ (keeps_bind keeps_get fun w => ?_)
  split_ifs
  · exact keeps_pure _
  · exact keeps_bind (keeps_change fun _ => rfl) fun _ => keeps_pure _

lemma keeps_addItem (item : String) : Keeps I (addItem item) :=
  keeps_whilePlaying _ _ (keeps_change fun s => by split_ifs <;> rfl)

lemma keeps_removeItem (item : String) : Keeps I (removeItem item) :=
  keeps_whilePlaying _ _ (keeps_change fun _ => rfl)

/-- Such a property is kept by every reply, if the new values of variables keep it. -/
lemma keeps_reply {activate : Act Session Unit} (hactivate : Keeps I activate) (index : Nat)
    (seat : Seat) {r : Request}
    (hpatch : ∀ patch, r = .updateVariables patch → Keeps I (updateVariables patch)) :
    Keeps I (reply activate index seat r) :=
  keeps_reply_of hactivate (fun x _ _ => keeps_submitAnswer x) keeps_addItem keeps_removeItem
    index seat (fun _ => keeps_useHint) hpatch

end Detached

/-! ### Starting, time and moves -/

/-- What is kept when a section is begun is kept when the game is started. -/
lemma keeps_start_of (hactivate : Keeps I activate) : Keeps I start := by
  refine keeps_bind (keeps_transition _) fun started => ?_
  split_ifs
  · exact keeps_bind keeps_get fun _ => keeps_bind (keeps_note _ _) fun _ =>
      keeps_bind keeps_armGame fun _ => keeps_bind hactivate fun _ => keeps_pure _
  · exact keeps_pure _

/-- What the countdowns of sections keep is kept as a second goes by. -/
lemma keeps_tick_of
    (htick : ∀ index alarm left, Keeps I (perform activate index fun _ => Player.tick alarm left))
    (hexpire : ∀ index alarm, Keeps I (perform activate index fun c => Player.expire c alarm)) :
    Keeps I tick := by
  have hbellsTick (c : Countdown SessionAlarm) (left : Int) : Keeps I (bells.tick c left) := by
    unfold bells
    dsimp only
    cases c.alarm with
    | game => exact keeps_change (fun _ => rfl) fun _ => rfl
    | lifeLoss => exact keeps_pure _
    | ofSeat index alarm => exact htick index alarm left
  have hbellsExpire (c : Countdown SessionAlarm) : Keeps I (bells.expire c) := by
    unfold bells
    dsimp only
    cases c.alarm with
    | game => exact keeps_bind (keeps_note _ _) fun _ => keeps_bind keeps_stop fun _ => keeps_pure _
    | lifeLoss => exact keeps_bind keeps_stop fun _ => keeps_pure _
    | ofSeat index alarm => exact hexpire index alarm
  refine keeps_bind keeps_get fun w => ?_
  split_ifs
  · exact keeps_bind (keeps_change (fun _ => rfl) fun _ => rfl) fun _ =>
      keeps_bind (Table.keeps_tick untabled hbellsTick hbellsExpire) fun _ => keeps_pure _
  · exact keeps_pure _

/-- The script of a section that has been begun is run on the player in its seat. -/
lemma runIn_perform (activate : Act Session Unit) {index : Nat} {seat : Seat}
    {script : Setting → Player → Script Player α} {w : Session}
    (hseat : w.seats[index]? = some seat) :
    (perform activate index script).runIn w =
      let out := (script seat.setting seat.player).run (reply activate index seat) seat.player w
      (out.1, putPlayer index out.2.1 out.2.2) := by
  rw [perform, runIn_ofFun, hseat]

/-- A move runs a script of the section in the seat. -/
lemma eq_perform_of_act? {index : Nat} {m : Move} {w : Session} {x : Act Session Value}
    (h : act? index m w = some x) :
    ∃ seat, w.seats[index]? = some seat ∧
      ∃ script, Player.act? seat.setting m seat.player = some script ∧
        perform activate index (fun _ _ => script) = x := by
  simpa [act?, Option.bind_eq_some_iff] using h

end Session

end LearningGame.Play
