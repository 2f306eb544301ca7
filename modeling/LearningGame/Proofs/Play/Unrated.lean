import LearningGame.Proofs.Play.Path
import Mathlib.Data.List.Induction

/-!
# Ends that fail

When a game is to end it is marked as complete before its score is rated. A score that cannot be
rated breaks the end off in between: the game goes on, with all countdowns and the current section
as before, but is complete, so no section can be completed any more. Nothing else has this effect.
-/

namespace LearningGame.Play

open Act Contract Rules

namespace Session

variable {w v : Session} {e : Fault}

/-! ### Sound and half-ended sessions -/

/-- A session is not complete before it has ended. -/
def Unended (w : Session) : Prop := w.phase ≠ .outro → w.state.isComplete = false

/-- A session whose end has been broken off, as its score cannot be rated. -/
structure HalfEnded (e : Fault) (w : Session) : Prop where
  playing : w.phase = .playing
  complete : w.state.isComplete = true
  unrated : rate w.game.scoring w.state.score = .error e

namespace Unended

lemma of_same (hw : Unended w) (hphase : v.phase = w.phase)
    (hcomplete : v.state.isComplete = w.state.isComplete) : Unended v := by
  intro hv
  rw [hcomplete]
  exact hw (hphase ▸ hv)

lemma step (h : Step w v) (hw : Unended w) : Unended v := by
  cases h with
  | aside | arm | cancel | grant | complete | sit | stray => exact hw.of_same rfl rfl
  | reckon s _ hs => exact hw.of_same rfl (congrArg Course.isComplete hs)
  | finish tier table => exact fun h => absurd (phase_finished w tier table) h

lemma lapse (h : Lapse w v) (hw : Unended w) : Unended v := by
  cases h with
  | elapse | strike | remain | expire => exact hw.of_same rfl rfl

end Unended

/-- The contract to keep a session from being complete before it has ended, unless the score cannot
be rated. -/
def ending : Contract Session :=
  keeping Unended (fun e w => Unended w ∨ HalfEnded e w) fun _ _ => .inl

lemma covers_ending : Covers ending :=
  .of_steps (fun h hw => hw.step h) (fun _ hw hrate _ _ => .inr ⟨hw, rfl, hrate⟩)
    fun _ _ _ _ hw => .inl (hw.of_same rfl rfl)

lemma performs_ending : Performs ending := by
  refine performs_of covers_ending (fun _ _ _ h hw => (h hw).of_same rfl rfl) fun _ _ _ h hw => ?_
  rcases h hw with hv | hv
  · exact .inl (hv.of_same rfl rfl)
  · exact .inr ⟨hv.playing, hv.complete, hv.unrated⟩

lemma met_tick_ending (w : Session) : ending.Met tick w :=
  met_tick covers_ending performs_ending fun h hw => hw.lapse h

/-! ### Deeds -/

lemma unended_restart (w : Session) : Unended (Deed.restart.after w) := by
  obtain ⟨table, -, hrun⟩ := restart_spec w
  have hafter : Deed.restart.after w = w.restarted table := congrArg Prod.snd hrun
  rw [hafter]
  exact fun _ => rfl

/-- Only a deed that is broken off, as the score cannot be rated, leaves a session half-ended. -/
lemma Unended.after (hw : Unended w) (d : Deed) :
    Unended (d.after w) ∨ ∃ e, d.fault? w = some e ∧ HalfEnded e (d.after w) := by
  by_cases hrestart : d = .restart
  · subst hrestart
    exact .inl (unended_restart w)
  · obtain ⟨u, hu, hallows⟩ := allows_after covers_ending performs_ending met_tick_ending hrestart w
    have hu : Unended u := by
      cases hu with
      | here => exact hw
      | begun table hintro => exact fun _ => hw (by simp [hintro])
    unfold Deed.fault?
    cases hresult : (d.act.runIn w).1 with
    | ok a =>
      rw [hresult] at hallows
      exact .inl (hallows hu)
    | error e =>
      rw [hresult] at hallows
      exact (hallows hu).imp_right fun hv => ⟨e, rfl, hv⟩

/-- The last end that failed in a play: a deed after which there was no restart. -/
def FailedEnd (w : Session) (deeds : List Deed) : Prop :=
  ∃ before d later e, deeds = before ++ d :: later ∧ .restart ∉ later ∧
    d.fault? (w.played before) = some e ∧ HalfEnded e (d.after (w.played before))

/-- A play is complete before it has ended only after an end that failed. -/
lemma Unended.played (hw : Unended w) (deeds : List Deed) :
    Unended (w.played deeds) ∨ w.FailedEnd deeds := by
  induction deeds using List.reverseRecOn with
  | nil => exact .inl hw
  | append_singleton deeds d ih =>
    have hplayed : w.played (deeds ++ [d]) = d.after (w.played deeds) := by simp [Session.played]
    rw [hplayed]
    rcases ih with hv | ⟨before, cause, later, e, rfl, hlater, hcause⟩
    · rcases hv.after d with h | ⟨e, hfault, hhalf⟩
      · exact .inl h
      · exact .inr ⟨deeds, d, [], e, rfl, by simp, hfault, hhalf⟩
    · by_cases hrestart : d = .restart
      · subst hrestart
        exact .inl (unended_restart _)
      · refine .inr ⟨before, cause, later ++ [d], e, by simp, ?_, hcause⟩
        simp [hlater, Ne.symm hrestart]

/-- A game that is stopped goes on if its score cannot be rated. -/
lemma fault?_stop (hw : w.phase = .playing) :
    (∃ e table, rate w.game.scoring w.state.score = .error e ∧
        table.registry = w.table.registry ∧ Deed.stop.fault? w = some e ∧
        Deed.stop.after w = w.unrated table) ∨
      ∃ tier, rate w.game.scoring w.state.score = .ok tier ∧ Deed.stop.fault? w = none := by
  rcases stop_spec hw with ⟨e, table, hrate, htable, hrun⟩ | ⟨tier, table, hrate, -, hrun⟩
  · refine .inl ⟨e, table, hrate, htable, ?_, congrArg Prod.snd hrun⟩
    rw [Deed.fault?, Deed.act, runIn_bind, hrun]
  · refine .inr ⟨tier, hrate, ?_⟩
    rw [Deed.fault?, Deed.act, runIn_bind, hrun]
    rfl

/-- A state is changed by being marked as complete unless it is. -/
lemma unrated_state_eq_iff (w : Session) (table : Table SessionAlarm) :
    (w.unrated table).state = w.state ↔ w.state.isComplete = true := by
  constructor
  · intro h
    exact (congrArg GameState.isComplete h).symm
  · intro h
    show { w.state with isComplete := true } = w.state
    rw [← h]

/-- However a game has been played, stopping it fails just if its score cannot be rated. Then notes
are made and the game is marked as complete, and everything else stays as it was; so the state is
as before only if the game had been complete. And a game that is being played is complete only
after an end that failed, be it a stop or another deed by which the game was to end. -/
theorem unrated_of_played (g : Game) (settings : Settings) (dice : Dice) (deeds : List Deed) :
    let w := (create g settings dice).played deeds
    (∀ e, Deed.stop.fault? w = some e ↔
      w.phase = .playing ∧ rate g.scoring w.state.score = .error e) ∧
    (∀ e, Deed.stop.fault? w = some e →
      (∃ table, table.registry = w.table.registry ∧ Deed.stop.after w = w.unrated table) ∧
        ((Deed.stop.after w).state = w.state ↔ w.state.isComplete = true)) ∧
    (w.phase = .playing → w.state.isComplete = true → (create g settings dice).FailedEnd deeds) := by
  intro w
  have hgame : w.game = g := (game_played g settings dice deeds).1
  have hidle (hw : w.phase ≠ .playing) : Deed.stop.fault? w = none := by
    have hrefused : (stop.runIn w).1 = .ok false := (runIn_whilePlaying_refused hw _ _ _).1
    rw [Deed.fault?, Deed.act, runIn_bind]
    generalize stop.runIn w = out at hrefused
    obtain ⟨_, v⟩ := out
    cases hrefused
    rfl
  refine ⟨fun e => ?_, fun e he => ?_, fun hw hcomplete => ?_⟩
  · by_cases hw : w.phase = .playing
    · rcases fault?_stop hw with ⟨_, _, hrate, -, hfault, -⟩ | ⟨tier, hrate, hfault⟩
      · rw [hfault, ← hgame, hrate]
        simp [hw]
      · rw [hfault, ← hgame, hrate]
        simp
    · simp [hidle hw, hw]
  · by_cases hw : w.phase = .playing
    · rcases fault?_stop hw with ⟨_, table, -, htable, -, hafter⟩ | ⟨tier, -, hfault⟩
      · refine ⟨⟨table, htable, hafter⟩, ?_⟩
        rw [hafter]
        exact unrated_state_eq_iff w table
      · rw [hfault] at he
        cases he
    · rw [hidle hw] at he
      cases he
  · have hcreated : Unended (create g settings dice) := fun _ => rfl
    refine (hcreated.played deeds).resolve_left fun hopen => ?_
    have hopen := hopen (by simp [w] at hw; simp [hw])
    rw [hopen] at hcomplete
    cases hcomplete

/-- A quiz whose question is worth more than can be told in percent. -/
def pricelessQuiz : Value :=
  .map
    [("scoring", .map [("maxScore", .int 1)]),
      ("content", .map [("sections", .list
        [.map [("id", "a"), ("type", "quiz"),
          ("content", .map [("questions", .list [.map
            [("question", "Which?"), ("options", .list ["one", "other"]),
              ("correctAnswer", .int 0), ("points", .int (10 ^ 400))]])])]])])]

/-- The quiz is begun and its question is answered. -/
def pricelessAnswer : List Deed := [.start, .move 0 (.submit "opt0")]

/-- A game whose score cannot be rated is complete after a stop that fails, and goes on. -/
theorem not_unended_of_pricelessQuiz :
    ∃ g, (load pricelessQuiz "quiz").result = .ok g ∧
      let w := (create g .default (.repeating #[])).played pricelessAnswer
      w.phase = .playing ∧ w.state.isComplete = false ∧ (Deed.stop.fault? w).isSome = true ∧
        (Deed.stop.after w).phase = .playing ∧ (Deed.stop.after w).state.isComplete = true := by
  obtain ⟨g, hg, hplay⟩ := Traced.exists_ok_of_any (x := load pricelessQuiz "quiz")
    (p := fun g =>
      let w := (create g .default (.repeating #[])).played pricelessAnswer
      decide (w.phase = .playing ∧ w.state.isComplete = false ∧
        (Deed.stop.fault? w).isSome = true ∧ (Deed.stop.after w).phase = .playing ∧
        (Deed.stop.after w).state.isComplete = true))
    (by decide +kernel)
  exact ⟨g, hg, of_decide_eq_true hplay⟩

/-- The stop fails as the score cannot be rated, and is what makes the game complete. -/
theorem unrated_of_pricelessQuiz :
    ∃ g, (load pricelessQuiz "quiz").result = .ok g ∧
      let w := (create g .default (.repeating #[])).played pricelessAnswer
      ∃ e table, w.phase = .playing ∧ Deed.stop.fault? w = some e ∧
        rate g.scoring w.state.score = .error e ∧ table.registry = w.table.registry ∧
        Deed.stop.after w = w.unrated table ∧ (Deed.stop.after w).state ≠ w.state ∧
        (create g .default (.repeating #[])).FailedEnd (pricelessAnswer ++ [.stop]) := by
  obtain ⟨g, hg, hplay⟩ := Traced.exists_ok_of_any (x := load pricelessQuiz "quiz")
    (p := fun g =>
      let w := (create g .default (.repeating #[])).played pricelessAnswer
      decide (w.state.isComplete = false ∧ (Deed.stop.fault? w).isSome = true ∧
        (Deed.stop.after w).phase = .playing ∧ (Deed.stop.after w).state.isComplete = true))
    (by decide +kernel)
  obtain ⟨hopen, hfails, hphase, hcomplete⟩ := of_decide_eq_true hplay
  obtain ⟨e, hfault⟩ := Option.isSome_iff_exists.1 hfails
  obtain ⟨hiff, hafter, -⟩ := unrated_of_played g .default (.repeating #[]) pricelessAnswer
  obtain ⟨hplaying, hrate⟩ := (hiff e).1 hfault
  obtain ⟨⟨table, htable, hunrated⟩, hstate⟩ := hafter e hfault
  obtain ⟨-, -, hfailed⟩ := unrated_of_played g .default (.repeating #[]) (pricelessAnswer ++ [.stop])
  exact ⟨g, hg, e, table, hplaying, hfault, hrate, htable, hunrated,
    fun h => Bool.false_ne_true (hopen.symm.trans (hstate.1 h)), hfailed hphase hcomplete⟩

end Session

end LearningGame.Play
