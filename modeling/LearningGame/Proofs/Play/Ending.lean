import LearningGame.Proofs.Play.Path

/-!
# The end of a play

A play can come to its end in many ways: the last section is completed, or one that is not in the
order of play, time runs out, or the lives do, or it is stopped. However that comes about, and
whatever goes on afterwards, the play ends once, is rated once and is reported once.
-/

namespace LearningGame.Play

open Content Rules Relation

/-! ### Ends and reports -/

/-- The phase, the state and the reports of the end of one play agree on whether it has ended. -/
structure Settled (scoring : Scoring) (phase : Phase) (s : GameState) (reports : List GameState) :
    Prop where
  outro_iff : phase = .outro ↔ s.isComplete = true
  isComplete_iff : s.isComplete = true ↔ s.rating.isSome = true
  rate_eq : ∀ tier, s.rating = some tier → rate scoring s.score = .ok tier
  /-- The end is reported once. -/
  length_reports : reports.length = if phase = .outro then 1 else 0
  /-- What is reported is the end of this play. -/
  of_mem_reports : ∀ r ∈ reports, r.isComplete = true ∧ r.rating = s.rating ∧ r.score = s.score

namespace Settled

variable {scoring : Scoring} {phase : Phase} {s t : GameState} {reports : List GameState}

/-- As long as a play has not ended, this is all there is to it. -/
lemma iff_of_ne_outro (hphase : phase ≠ .outro) :
    Settled scoring phase s reports ↔
      s.isComplete = false ∧ s.rating = none ∧ reports = [] := by
  constructor
  · intro h
    have hcomplete : s.isComplete = false := by
      rw [← Bool.not_eq_true, ← h.outro_iff]
      exact hphase
    have hlength := h.length_reports
    rw [if_neg hphase] at hlength
    refine ⟨hcomplete, ?_, List.length_eq_zero_iff.1 hlength⟩
    rw [← Option.not_isSome_iff_eq_none, ← h.isComplete_iff, hcomplete]
    exact Bool.false_ne_true
  · rintro ⟨hcomplete, hrating, rfl⟩
    constructor <;> simp [hphase, hcomplete, hrating]

/-- The score may change until the end only. -/
lemma of_same (h : Settled scoring phase s reports) (hcomplete : t.isComplete = s.isComplete)
    (hrating : t.rating = s.rating) (hscore : phase = .outro → t.score = s.score) :
    Settled scoring phase t reports := by
  by_cases hphase : phase = .outro
  · constructor
    · rw [hcomplete]
      exact h.outro_iff
    · rw [hcomplete, hrating]
      exact h.isComplete_iff
    · rw [hrating, hscore hphase]
      exact h.rate_eq
    · exact h.length_reports
    · rw [hrating, hscore hphase]
      exact h.of_mem_reports
  · rw [iff_of_ne_outro hphase] at h ⊢
    rw [hcomplete, hrating]
    exact h

end Settled

/-- How many plays had been reported as ended before the present one, after a deed. -/
def Deed.earlierAfter (w : Session) (earlier : Nat) : Deed → Nat
  | .restart => w.completions.length
  | _ => earlier

lemma Deed.earlierAfter_of_ne {d : Deed} (hd : d ≠ .restart) (w : Session) (earlier : Nat) :
    d.earlierAfter w earlier = earlier := by
  cases d with
  | restart => exact absurd rfl hd
  | _ => rfl

namespace Session

/-- A session of a game in which so many plays had been reported as ended before the present one,
which is settled; its end is yet to be reported unless it has ended. -/
structure InPlay (g : Game) (earlier : Nat) (w : Session) : Prop where
  game_eq : w.game = g
  earlier_le : earlier ≤ w.completions.length
  settled : Settled g.scoring w.phase w.state (w.completions.drop earlier)
  unreported : w.phase ≠ .outro → w.reported = false

variable {g : Game} {earlier : Nat} {w v : Session}

lemma inPlay_of_same (hw : InPlay g earlier w) (hgame : v.game = w.game)
    (hphase : v.phase = w.phase) (hcompletions : v.completions = w.completions)
    (hreported : v.reported = w.reported) (hcomplete : v.state.isComplete = w.state.isComplete)
    (hrating : v.state.rating = w.state.rating)
    (hscore : w.phase = .outro → v.state.score = w.state.score) : InPlay g earlier v where
  game_eq := hgame.trans hw.game_eq
  earlier_le := hcompletions ▸ hw.earlier_le
  settled := by
    rw [hphase, hcompletions]
    exact hw.settled.of_same hcomplete hrating hscore
  unreported := by
    rw [hphase, hreported]
    exact hw.unreported

/-- The game ends once, and this is reported. -/
lemma inPlay_finished (hw : InPlay g earlier w) (hphase : w.phase = .playing) {tier : RatingTier}
    (htier : rate w.game.scoring w.state.score = .ok tier) (table : Table SessionAlarm) :
    InPlay g earlier (w.finished tier table) := by
  have hopen : w.phase ≠ .outro := by simp [hphase]
  obtain ⟨-, -, hreports⟩ := (Settled.iff_of_ne_outro hopen).1 hw.settled
  have hcompletions :
      (w.finished tier table).completions = w.completions ++ [rated w.state tier] := by
    simp [finished, report, hw.unreported hopen]
  refine ⟨by simpa using hw.game_eq, ?_, ?_, fun h => absurd (phase_finished w tier table) h⟩
  · rw [hcompletions, List.length_append]
    exact Nat.le_trans hw.earlier_le (Nat.le_add_right _ _)
  · rw [hcompletions, List.drop_append_of_le_length hw.earlier_le, hreports, phase_finished,
      state_finished]
    obtain rfl : w.game = g := hw.game_eq
    constructor <;> simp [rated, htier]

lemma inPlay_step (h : Step w v) (hw : InPlay g earlier w) : InPlay g earlier v := by
  cases h with
  | reckon s hphase hs =>
    exact inPlay_of_same hw rfl rfl rfl rfl (congrArg Course.isComplete hs)
      (congrArg Course.rating hs) (by simp [hphase])
  | finish tier table hphase htier => exact inPlay_finished hw hphase htier table
  | aside | arm | cancel | grant | complete | sit | stray =>
    exact inPlay_of_same hw rfl rfl rfl rfl rfl rfl fun _ => rfl

lemma inPlay_lapse (h : Lapse w v) (hw : InPlay g earlier w) : InPlay g earlier v := by
  cases h with
  | elapse | strike | remain | expire =>
    exact inPlay_of_same hw rfl rfl rfl rfl rfl rfl fun _ => rfl

lemma inPlay_advances (h : ReflTransGen Advance w v) (hw : InPlay g earlier w) :
    InPlay g earlier v := by
  induction h with
  | refl => exact hw
  | tail _ h ih =>
    cases h with
    | step h => exact inPlay_step h ih
    | lapse h => exact inPlay_lapse h ih
    | play => exact inPlay_of_same ih rfl rfl rfl rfl rfl rfl fun _ => rfl

lemma inPlay_begun (hphase : w.phase = .intro) (table : Table SessionAlarm)
    (hw : InPlay g earlier w) : InPlay g earlier (w.begun table) := by
  have hopen : w.phase ≠ .outro := by simp [hphase]
  refine ⟨hw.game_eq, hw.earlier_le, ?_, fun _ => hw.unreported hopen⟩
  exact (Settled.iff_of_ne_outro (by simp [begun])).2 ((Settled.iff_of_ne_outro hopen).1 hw.settled)

/-- A restart begins another play, whatever has become of the last one. -/
lemma inPlay_restarted (hw : w.game = g) (table : Table SessionAlarm) :
    InPlay g w.completions.length (w.restarted table) := by
  refine ⟨hw, Nat.le_refl _, ?_, fun _ => rfl⟩
  exact (Settled.iff_of_ne_outro (by simp [restarted])).2 ⟨rfl, rfl, List.drop_length⟩

/-- A deed that is not broken off leaves the play settled, be it this one or another one. -/
lemma inPlay_after (d : Deed) (hd : d.fault? w = none) (hw : InPlay g earlier w) :
    InPlay g (d.earlierAfter w earlier) (d.after w) := by
  by_cases hrestart : d = .restart
  · subst hrestart
    obtain ⟨table, -, hrun⟩ := restart_spec w
    have hafter : Deed.restart.after w = w.restarted table := congrArg Prod.snd hrun
    exact hafter ▸ inPlay_restarted hw.game_eq table
  · obtain ⟨u, hu, hadvances⟩ := advances_after hrestart hd
    have hu : InPlay g earlier u := by
      cases hu with
      | here => exact hw
      | begun table hphase => exact inPlay_begun hphase table hw
    rw [Deed.earlierAfter_of_ne hrestart]
    exact inPlay_advances hadvances hu

/-- How many plays had been reported as ended before the present one, after some deeds. -/
def earlierIn (w : Session) (earlier : Nat) : List Deed → Nat
  | [] => earlier
  | d :: rest => earlierIn (d.after w) (d.earlierAfter w earlier) rest

lemma inPlay_played (deeds : List Deed) (hdeeds : w.faults deeds = []) (hw : InPlay g earlier w) :
    InPlay g (w.earlierIn earlier deeds) (w.played deeds) := by
  induction deeds generalizing w earlier with
  | nil => exact hw
  | cons d rest ih =>
    obtain ⟨hd, hrest⟩ := List.append_eq_nil_iff.1 hdeeds
    exact ih hrest (inPlay_after d (Option.toList_eq_nil_iff.1 hd) hw)

/-- The reports of the end of the present play, after some deeds. -/
def reportsIn (w : Session) (deeds : List Deed) : List GameState :=
  (w.played deeds).completions.drop (w.earlierIn 0 deeds)

/-- However a play comes to its end, the phase, the state and the reports agree on that as long as
nothing is broken off: the game is complete, is rated and has been reported once in the closing
phase, and in no other. -/
theorem settled_of_played (g : Game) (settings : Settings) (dice : Dice) (deeds : List Deed)
    (hdeeds : (create g settings dice).faults deeds = []) :
    let w := (create g settings dice).played deeds
    Settled g.scoring w.phase w.state ((create g settings dice).reportsIn deeds) := by
  intro w
  have hcreated : InPlay g 0 (create g settings dice) :=
    ⟨rfl, Nat.zero_le _, (Settled.iff_of_ne_outro (by simp [create])).2 ⟨rfl, rfl, rfl⟩,
      fun _ => rfl⟩
  exact (inPlay_played deeds hdeeds hcreated).settled

/-- A play that ends with its last page and is not ended again, and one that is stopped. -/
def twoPlays : List Deed :=
  [.start, .completeSection "c", .stop, .completeSection "c", .restart, .start, .stop, .tick]

theorem settled_of_twoPlays :
    ∃ g, (load threePages "info").result = .ok g ∧
      (create g .default (.repeating #[])).faults twoPlays = [] ∧
        let w := (create g .default (.repeating #[])).played twoPlays
        w.phase = .outro ∧ w.completions.length = 2 ∧
          Settled g.scoring w.phase w.state
            ((create g .default (.repeating #[])).reportsIn twoPlays) := by
  obtain ⟨g, hg, hplay⟩ := Traced.exists_ok_of_any (x := load threePages "info")
    (p := fun g =>
      ((create g .default (.repeating #[])).faults twoPlays).isEmpty &&
        decide (((create g .default (.repeating #[])).played twoPlays).phase = .outro) &&
          ((create g .default (.repeating #[])).played twoPlays).completions.length == 2)
    (by decide +kernel)
  simp only [Bool.and_eq_true, List.isEmpty_iff, decide_eq_true_eq, beq_iff_eq] at hplay
  obtain ⟨⟨hfaults, hphase⟩, hlength⟩ := hplay
  exact ⟨g, hg, hfaults, hphase, hlength,
    settled_of_played g .default (.repeating #[]) twoPlays hfaults⟩

end Session

end LearningGame.Play
