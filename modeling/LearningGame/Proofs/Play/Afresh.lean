import LearningGame.Proofs.Play.Following
import LearningGame.Proofs.Play.Path

/-!
# Playing afresh

A session that has been restarted cannot be told from one that has just been created. What it still
has from the plays before is a past that is put behind the new session: every deed comes to the same
result in both, and leaves the same to be seen. Only the seats from before the restart would give it
away, so the seats are counted from behind them.
-/

namespace LearningGame.Play

open Act

lemma Session.invariant_numbered : Invariant fun w => w.table.registry.Numbered :=
  invariant_registry (fun _ _ _ _ h => h.arm _ _ _ _) (fun _ h => h.cancel _) (·.nextSection)
    (·.nextPhase) fun hc h => h.step hc

/-! ### What comes of deeds -/

/-- What comes back from a deed. -/
inductive Outcome where
  | nothing
  | told (accepted : Bool)
  | entered (entry : Option AnswerRecord)
  | moved (result : Value)
  | replied (r : Request) (x : r.Reply)

namespace Deed

/-- A deed and what comes back from it. -/
def outcome : Deed → Act Session Outcome
  | .start => do return .told (← Session.start)
  | .stop => do return .told (← Session.stop)
  | .restart => do
    Session.restart
    return .nothing
  | .completeSection id => do return .told (← Session.completeSection id)
  | .navigateTo id => do return .told (← Session.navigateTo id)
  | .submit x => do return .entered (← Session.submitAnswer x)
  | .useHint => do return .told (← Session.useHint)
  | .updateVariables patch => do
    Session.updateVariables patch
    return .nothing
  | .addItem item => do
    Session.addItem item
    return .nothing
  | .removeItem item => do
    Session.removeItem item
    return .nothing
  | .tick => do
    Session.tick
    return .nothing
  | .moveClock seconds => do
    modify (Session.moveClock seconds)
    return .nothing
  | .move index m => do
    let w ← get
    match Session.act? index m w with
    | none => return .nothing
    | some x => return .moved (← x)
  | .request index r => do
    let w ← get
    match w.seats[index]? with
    | none => return .nothing
    | some seat => return .replied r (← Session.reply Session.activate index seat r)

/-- A deed in which the seats are counted from behind some others. -/
def behind (seats : Nat) : Deed → Deed
  | .move index m => .move (seats + index) m
  | .request index r => .request (seats + index) r
  | d => d

/-- The session after a deed is the one that is left when its outcome is known. -/
lemma runIn_outcome (d : Deed) (w : Session) : (d.outcome.runIn w).2 = d.after w := by
  cases d with
  | moveClock => rfl
  | move index m =>
    simp only [outcome, after, runIn_get_bind]
    cases Session.act? index m w with
    | none => rfl
    | some x => exact snd_runIn_bind_pure x _ w
  | request index r =>
    simp only [outcome, after, runIn_get_bind]
    cases w.seats[index]? with
    | none => rfl
    | some seat => exact snd_runIn_bind_pure _ _ w
  | _ => exact snd_runIn_bind_pure _ _ w

end Deed

namespace Session

variable {p : Past} {w : Session}

/-- A deed comes to the same after a past. -/
lemma follows_outcome (d : Deed) :
    Follows p (d.behind p.seats.length).outcome d.outcome w := by
  cases d with
  | start => exact follows_bind follows_start fun _ _ => follows_pure _
  | stop => exact follows_bind follows_stop fun _ _ => follows_pure _
  | restart => exact follows_drop follows_restart Outcome.nothing
  | completeSection id => exact follows_bind (follows_completeSection id) fun _ _ => follows_pure _
  | navigateTo id => exact follows_bind (follows_navigateTo id) fun _ _ => follows_pure _
  | submit x => exact follows_bind (follows_submitAnswer x) fun _ _ => follows_pure _
  | useHint => exact follows_bind follows_useHint fun _ _ => follows_pure _
  | updateVariables patch => exact follows_drop (follows_updateVariables patch) Outcome.nothing
  | addItem item => exact follows_drop (follows_addItem item) Outcome.nothing
  | removeItem item => exact follows_drop (follows_removeItem item) Outcome.nothing
  | tick => exact follows_drop follows_tick Outcome.nothing
  | moveClock seconds => rfl
  | move index m =>
    refine follows_get_bind ?_
    have hact : act? (p.seats.length + index) m (w.withPast p) =
        (do
          let seat ← w.seats[index]?
          let script ← Player.act? seat.setting m seat.player
          return perform activate (p.seats.length + index) fun _ _ => script) := by
      rw [act?, getElem?_seats_withPast]
      cases w.seats[index]? <;> rfl
    rw [hact, act?]
    cases w.seats[index]? with
    | none => exact follows_pure _
    | some seat =>
      simp only [Option.bind_eq_bind, Option.bind_some]
      cases Player.act? seat.setting m seat.player with
      | none => exact follows_pure _
      | some script =>
        exact follows_bind (follows_perform follows_activate index _) fun _ _ => follows_pure _
  | request index r =>
    refine follows_get_bind ?_
    rw [getElem?_seats_withPast]
    cases w.seats[index]? with
    | none => exact follows_pure _
    | some seat =>
      exact follows_bind (follows_reply follows_activate index seat r _) fun _ _ => follows_pure _

lemma after_withPast (d : Deed) (w : Session) :
    (d.behind p.seats.length).after (w.withPast p) = (d.after w).withPast p := by
  rw [← Deed.runIn_outcome, ← Deed.runIn_outcome, follows_outcome d]

lemma played_withPast (deeds : List Deed) (w : Session) :
    (w.withPast p).played (deeds.map (Deed.behind p.seats.length)) =
      (w.played deeds).withPast p := by
  induction deeds generalizing w with
  | nil => rfl
  | cons d rest ih =>
    show ((d.behind p.seats.length).after (w.withPast p)).played _ = _
    rw [after_withPast]
    exact ih (d.after w)

/-! ### Restarts -/

/-- A session that has gone on since some time is like another one that has none of what was there
at that time: the same is to be seen of both, and every deed would come to the same. -/
structure Resumes (since v w : Session) : Prop where
  phase : v.phase = w.phase
  state : v.state = w.state
  completions : v.completions = since.completions ++ w.completions
  current : v.current = w.current.map (since.seats.length + ·)
  view : v.currentSeat?.map v.view = w.currentSeat?.map w.view
  /-- Every section that has been begun since is seen alike, the current one or not. -/
  views : ∀ index : Nat, v.seats[since.seats.length + index]?.map v.view = w.seats[index]?.map w.view
  unlocked : ∀ id, v.isUnlocked id = w.isUnlocked id
  outcome : ∀ d : Deed,
    ((d.behind since.seats.length).outcome.runIn v).1 = (d.outcome.runIn w).1

lemma resumes_withPast (p : Past) (since w : Session) (hseats : since.seats = p.seats)
    (hcompletions : since.completions = p.completions) : Resumes since (w.withPast p) w where
  phase := rfl
  state := rfl
  completions := by rw [hcompletions]; rfl
  current := by rw [hseats]; rfl
  view := by
    rw [currentSeat?_withPast]
    cases w.currentSeat? with
    | none => rfl
    | some seat => exact congrArg some (view_withPast w p seat)
  views index := by
    rw [hseats, getElem?_seats_withPast]
    cases w.seats[index]? with
    | none => rfl
    | some seat => exact congrArg some (view_withPast w p seat)
  unlocked _ := rfl
  outcome d := by rw [hseats, follows_outcome d]

/-- A session that has been restarted is one that has just been created, with a past behind it. -/
lemma exists_past {table : Table SessionAlarm} (hw : w.table.registry.Numbered)
    (htable : table.registry = w.table.registry.nextPhase) :
    ∃ p : Past, p.seats = w.seats ∧ p.completions = w.completions ∧
      w.restarted table =
        ({ create w.game w.settings w.dice with clock := w.clock } : Session).withPast p := by
  obtain ⟨registry, notes⟩ := table
  cases htable
  let p : Past :=
    { epochs := w.table.registry.nextPhase.epochs
      armed := w.table.registry.armed
      lefts := w.table.registry.lefts
      notes
      seats := w.seats
      completions := w.completions
      lt_armed := hw.lefts }
  refine ⟨p, rfl, rfl, ?_⟩
  simp [restarted, create, withPast, Table.withPast, Table.empty, Registry.withPast,
    Registry.empty, Registry.nextPhase, Epochs.withPast, p]

/-- Whatever has been done with a session, and whatever was broken off, after a restart it goes on
as one that has just been created with its dice and its clock: whatever is done then, with the
sections that are begun after the restart, has the same outcome and leaves the same to be seen. -/
theorem resumes_of_restart (g : Game) (settings : Settings) (dice : Dice)
    (history deeds : List Deed) :
    let since := Deed.restart.after ((create g settings dice).played history)
    Resumes since (since.played (deeds.map (Deed.behind since.seats.length)))
      ({ create g settings since.dice with clock := since.clock }.played deeds) := by
  intro since
  have hnumbered := invariant_numbered.played (w := create g settings dice) history
    ⟨by rintro c ⟨⟩, by rintro x ⟨⟩⟩
  obtain ⟨hgame, hsettings⟩ := game_played g settings dice history
  let w := (create g settings dice).played history
  obtain ⟨table, htable, hrun⟩ := restart_spec w
  obtain ⟨p, hseats, hcompletions, hpast⟩ := exists_past hnumbered htable
  have hsince : since = w.restarted table := congrArg Prod.snd hrun
  have hfresh : ({ create g settings since.dice with clock := since.clock } : Session) =
      { create w.game w.settings w.dice with clock := w.clock } := by
    rw [hgame, hsettings, hsince]
    rfl
  have hbefore : since.seats = p.seats := by
    rw [hseats, hsince]
    rfl
  have hreported : since.completions = p.completions := by
    rw [hcompletions, hsince]
    rfl
  have hplayed : since.played (deeds.map (Deed.behind since.seats.length)) =
      (({ create g settings since.dice with clock := since.clock } : Session).played
        deeds).withPast p := by
    rw [hbefore, ← played_withPast, hfresh, ← hpast, ← hsince]
  rw [hplayed]
  exact resumes_withPast p since _ hbefore hreported

end Session

end LearningGame.Play
