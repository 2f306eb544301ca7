import LearningGame.Proofs.Play.Bounded
import LearningGame.Proofs.Play.Onward
import LearningGame.Proofs.Play.Path

/-!
# Sections that are begun one from within the other

What a session does when a section is begun is told by its standing: whether another section is
begun from within it, and with which standing. So a section that is begun goes on without end just
if the chain of standings does.
-/

namespace LearningGame.Play

open Content Schema Rules Act Contract

/-! ### Standings of sessions -/

namespace Session

/-- What it depends on which section a session begins next. -/
def standing (w : Session) : Standing where
  sectionId := w.state.sectionId
  completed := w.state.completed
  streak := min w.state.streak.toNat bonusStreak.toNat
  streak_le := Nat.min_le_right _ _
  inFloats := w.state.score.isFloat
  isComplete := w.state.isComplete

/-- A session of a game that is being played. -/
structure Underway (g : Game) (w : Session) : Prop where
  game : w.game = g
  playing : w.phase = .playing
  streak : 0 ≤ w.state.streak

variable {g : Game} {w v : Session}

/-- A section is taken down as completed as the standing tells. -/
lemma completeAt_spec (hw : Underway g w) (id : String) (place : Nat) :
    ∃ u, Underway g u ∧ u.standing = w.standing.recorded g id place ∧
      ∀ activate, (completeAt activate id place).runIn w = (goOn activate id place).runIn u := by
  obtain ⟨rfl, hplaying, hstreak⟩ := hw
  have hsame : w.isAhead place = w.standing.isAhead w.game place := rfl
  by_cases hahead : w.isAhead place = true
  · refine ⟨{ w with state := { w.state with completed := w.state.completed ++ [id] } },
      ⟨rfl, hplaying, hstreak⟩, ?_, fun activate => ?_⟩
    · rw [Standing.recorded, ← hsame, if_pos hahead]
      rfl
    · rw [completeAt, runIn_get_bind, if_pos hahead]
      rfl
  · let table := noted w.table .warning
      ("Section '" ++ id ++ "' completed out of order; not recorded")
    refine ⟨{ w with table }, ⟨rfl, hplaying, hstreak⟩, ?_, fun activate => ?_⟩
    · rw [Standing.recorded, ← hsame, if_neg hahead]
      rfl
    · rw [completeAt, runIn_get_bind, if_neg hahead]
      rfl

lemma runIn_note_bind {α : Type} (level : Log.Level) (message : String)
    (f : Unit → Act Session α) (w : Session) :
    (note level message >>= f).runIn w =
      (f ()).runIn { w with table := noted w.table level message } := rfl

/-- From a section that is completed one goes on to the first one after it that is not. -/
lemma goOn_spec (hw : Underway g w) (id : String) (place : Nat) :
    let next? := (g.order.drop (place + 1)).find? fun next => !w.standing.completed.contains next
    (next? = none ∧ ∃ v, Underway g v ∧ v.standing = w.standing ∧
        ∀ activate, (goOn activate id place).runIn w = (stop >>= fun _ => pure ()).runIn v) ∨
      ∃ next v, next? = some next ∧ Underway g v ∧
        v.standing = { w.standing with sectionId := next } ∧
        ∀ activate, (goOn activate id place).runIn w = activate.runIn v := by
  obtain ⟨rfl, hplaying, hstreak⟩ := hw
  intro next?
  let noticed : Session :=
    { w with table := noted w.table .info ("Section completed: '" ++ id ++ "'") }
  cases hnext : next? with
  | none =>
    refine .inl ⟨rfl, noticed, ⟨rfl, hplaying, hstreak⟩, rfl, fun activate => ?_⟩
    have hafter : noticed.nextAfter place = none := hnext
    rw [goOn, runIn_note_bind, runIn_get_bind, hafter]
  | some next =>
    let there : Session :=
      { noticed with state := { noticed.state with sectionId := next, itemIndex := 0 } }
    refine .inr ⟨next, there, rfl, ⟨rfl, hplaying, hstreak⟩, rfl, fun activate => ?_⟩
    have hafter : noticed.nextAfter place = some next := hnext
    rw [goOn, runIn_note_bind, runIn_get_bind, hafter]
    rfl

/-- To complete a section leads on as the standing tells, or comes to an end. -/
lemma completeBy_spec (hw : Underway g w) (id : String) :
    (w.standing.complete? g id = none ∧ ∃ (x : Act Session Bool) (v : Session), Ends x ∧
        ∀ activate, (completeBy activate id).runIn w = x.runIn v) ∨
      ∃ next v, w.standing.complete? g id = some next ∧ Underway g v ∧ v.standing = next ∧
        ∀ activate, (completeBy activate id).runIn w =
          (activate >>= fun _ => pure true).runIn v := by
  have hwarned (message : String) : Ends (warn message >>= fun _ => pure false) :=
    ends_bind (ends_note _ _) fun _ => ends_pure false
  have hstopped : Ends (stop >>= fun _ => pure true) := ends_bind ends_stop fun _ => ends_pure true
  simp only [completeBy, runIn_whilePlaying hw.playing, runIn_get_bind, Standing.complete?]
  by_cases hcomplete : w.state.isComplete = true
  · have hover : w.standing.isComplete = true := hcomplete
    refine .inl ⟨by rw [hover, Bool.true_or, if_pos rfl], _, w,
      hwarned ("Ignoring completion of '" ++ id ++ "': game is complete"), fun activate => ?_⟩
    rw [if_pos hcomplete]
  by_cases hhas : w.state.hasCompleted id = true
  · have hover : w.standing.completed.contains id = true := hhas
    refine .inl ⟨by rw [hover, Bool.or_true, if_pos rfl], _, w,
      hwarned ("Section '" ++ id ++ "' already completed"), fun activate => ?_⟩
    rw [if_neg hcomplete, if_pos hhas]
  have hopen : ¬(w.standing.isComplete || w.standing.completed.contains id) = true := by
    rw [Bool.or_eq_true]
    exact not_or.2 ⟨hcomplete, hhas⟩
  rw [if_neg hopen]
  simp only [if_neg hcomplete, if_neg hhas]
  cases hplace : w.place? id with
  | none =>
    have hnone : g.order.findIdx? (· == id) = none := hw.game ▸ hplace
    exact .inl ⟨by rw [hnone]; rfl, _, w, ends_bind (ends_note _ _) fun _ => hstopped,
      fun _ => rfl⟩
  | some place =>
    have hsome : g.order.findIdx? (· == id) = some place := hw.game ▸ hplace
    obtain ⟨u, hu, hstanding, hrun⟩ := completeAt_spec hw id place
    rw [hsome, Option.bind_some, ← hstanding]
    rcases goOn_spec hu id place with
      ⟨hnone, v, -, -, hgoOn⟩ | ⟨next, v, hnext, hv, hstands, hgoOn⟩
    · refine .inl ⟨by rw [hnone]; rfl, (stop >>= fun _ => pure ()) >>= fun _ => pure true, v,
        ends_bind (ends_bind ends_stop fun _ => ends_pure ()) fun _ => ends_pure true,
        fun activate => ?_⟩
      dsimp only
      rw [runIn_bind, hrun activate, hgoOn activate, ← runIn_bind]
    · refine .inr ⟨_, v, by rw [hnext]; rfl, hv, hstands, fun activate => ?_⟩
      dsimp only
      rw [runIn_bind, hrun activate, hgoOn activate, ← runIn_bind]

/-- To navigate leads on as the standing tells. -/
lemma navigateBy_spec (hw : Underway g w) (id : String) :
    (w.standing.navigate? g id = none ∧ ∃ table, table.registry = w.table.registry ∧
        ∀ activate, (navigateBy activate id).runIn w = (.ok false, { w with table })) ∨
      ∃ next v, w.standing.navigate? g id = some next ∧ Underway g v ∧ v.standing = next ∧
        v.table.registry = w.table.registry ∧
        ∀ activate, (navigateBy activate id).runIn w =
          (activate >>= fun _ => pure true).runIn v := by
  obtain ⟨rfl, hplaying, hstreak⟩ := hw
  simp only [navigateBy, runIn_whilePlaying hplaying, runIn_get_bind, Standing.navigate?]
  cases hs : w.game.section? id with
  | none =>
    let table := noted w.table .warning ("Cannot navigate to unknown section '" ++ id ++ "'")
    exact .inl ⟨rfl, table, rfl, fun _ => rfl⟩
  | some s =>
    exact .inr ⟨_, { w with state := { w.state with sectionId := id, itemIndex := 0 } }, rfl,
      ⟨rfl, hplaying, hstreak⟩, rfl, rfl, fun _ => rfl⟩

/-! ### Correct answers -/

/-- What an answer earns depends on the streak only as far as it counts. -/
lemma earned_congr {scoring : Scoring} {isCorrect : Bool} {points : Number} {one other : Int}
    (h : bonusStreak ≤ one ↔ bonusStreak ≤ other) :
    earned scoring isCorrect points one = earned scoring isCorrect points other := by
  simp only [earned, bonusOf, h]

/-- So a correct answer earns what the standing tells. -/
lemma earned_standing (hstreak : 0 ≤ w.state.streak) (scoring : Scoring) (points : Int) :
    earned scoring true (.int points) (w.standing.streak + 1) =
      earned scoring true (.int points) (w.state.streak + 1) := by
  refine earned_congr ?_
  simp only [standing, bonusStreak]
  omega

lemma isFloat_score_standing (w : Session) : w.standing.score.isFloat = w.state.score.isFloat := by
  have hkind (n : Number) :
      (if n.isFloat then Number.float 0 else Number.int 0).isFloat = n.isFloat := by
    cases n <;> rfl
  exact hkind w.state.score

/-- A correct answer earns whole points. -/
lemma earned_int {scoring : Scoring} {points streak : Int} {p : Number}
    (h : earned scoring true (.int points) streak = .ok p) : ∃ n, p = .int n := by
  unfold earned at h
  cases hbonus : bonusOf scoring true (.int points) streak with
  | error e => simp [hbonus, Bind.bind, Except.bind] at h
  | ok bonus =>
    refine ⟨points + bonus, ?_⟩
    simpa [hbonus, Bind.bind, Except.bind, pure, Except.pure, eq_comm] using h

/-- Whether whole points can be added to a score depends on its kind only, which stays the same. -/
lemma add_congr {one other : Number} (h : one.isFloat = other.isFloat) (n : Int) :
    (∃ e, one.add (.int n) = .error e ∧ other.add (.int n) = .error e) ∨
      ∃ a b, one.add (.int n) = .ok a ∧ other.add (.int n) = .ok b ∧ b.isFloat = other.isFloat := by
  cases one with
  | int a =>
    cases other with
    | int b => exact .inr ⟨_, _, rfl, rfl, rfl⟩
    | float b => cases h
  | float a =>
    cases other with
    | int b => cases h
    | float b =>
      cases hfloat : (Number.int n).toFloat with
      | ok c =>
        have hadd (x : Float) : (Number.float x).add (.int n) = .ok (.float (x + c)) := by
          simp only [Number.add, Number.onFloats, hfloat]
          rfl
        exact .inr ⟨_, _, hadd a, hadd b, rfl⟩
      | error e =>
        have hadd (x : Float) : (Number.float x).add (.int n) = .error e := by
          simp only [Number.add, Number.onFloats, hfloat]
          rfl
        exact .inl ⟨e, hadd a, hadd b⟩

/-- A correct answer is entered as the standing tells. -/
lemma submitAnswer_spec (hw : Underway g w) (x : Submission) {points : Int}
    (hcorrect : x.isCorrect = true) (hpoints : x.basePoints = .int points) :
    (w.standing.credit? g points = none ∧
        ∃ e v, e ≠ .endless ∧ (submitAnswer x).runIn w = (.error e, v)) ∨
      ∃ next r v, w.standing.credit? g points = some next ∧ Underway g v ∧ v.standing = next ∧
        v.table.registry = w.table.registry ∧ (submitAnswer x).runIn w = (.ok r, v) := by
  obtain ⟨rfl, hplaying, hstreak⟩ := hw
  have hrun : (submitAnswer x).runIn w = (enterAnswer x >>= fun r => pure (some r)).runIn w := by
    rw [submitAnswer, runIn_whilePlaying hplaying]
  rw [hrun, runIn_bind, enterAnswer, runIn_get_bind, hcorrect, hpoints, Standing.credit?,
    earned_standing hstreak, if_pos rfl, runIn_lift_bind]
  cases hresult : earned w.game.scoring true (.int points) (w.state.streak + 1) with
  | error e =>
    have hbounded := bounded_earned w.game.scoring true (.int points) (w.state.streak + 1)
    exact .inl ⟨rfl, e, w, fun he => hbounded (by rw [hresult, he]), rfl⟩
  | ok p =>
    obtain ⟨n, rfl⟩ := earned_int hresult
    let record : AnswerRecord := ⟨x.sectionId, x.itemId, x.answer, true, x.timeSpent, .int n⟩
    let entered : Session :=
      { w with state := { w.state with answers := w.state.answers ++ [record] } }
    rcases add_congr (isFloat_score_standing w) n with
      ⟨e, hstanding, hscore⟩ | ⟨a, b, hstanding, hscore, hkind⟩
    · refine .inl ⟨?_, e, entered, fun he => Bounded.add _ _ (he ▸ hscore), ?_⟩
      · simp only [Except.bind, hstanding]
      · dsimp only
        rw [change, runIn_modify_bind, runIn_lift_bind]
        simp only [hscore]
        rfl
    · let table := noted w.table .debug ("Answer " ++ x.sectionId ++ "/" ++ x.itemId ++
        ": correct=" ++ Value.text (.bool true) ++ " points=" ++ (Number.int n).text ++
        " streak=" ++ Number.intText (w.state.streak + 1))
      let next : Standing :=
        { w.standing with
          streak := min (w.standing.streak + 1) bonusStreak.toNat
          streak_le := Nat.min_le_right _ _ }
      let after : Session :=
        { entered with
          state := { entered.state with score := b, streak := w.state.streak + 1 }, table }
      refine .inr ⟨next, some record, after, ?_, ⟨rfl, hplaying, ?_⟩, ?_, rfl, ?_⟩
      · simp only [Except.bind, hstanding]
        rfl
      · show 0 ≤ w.state.streak + 1
        omega
      · refine Standing.ext rfl rfl ?_ hkind rfl
        simp only [next, after, standing, bonusStreak]
        omega
      · dsimp only
        rw [change, runIn_modify_bind, runIn_lift_bind]
        simp only [hscore]
        rfl

end Session

end LearningGame.Play
