import LearningGame.Proofs.Play.Session

/-!
# Answers, hints and items in a session

Every answer that is taken adds one record with the points that are due to it, and every hint, item
and request of a section leaves a ledger behind.
-/

namespace LearningGame.Play

open Content Schema Rules Act

namespace Session

variable {g : Game} {granted : Nat}

/-- The account of a session of a game is told by its answers and the hints that have been
granted. -/
abbrev InBalance (g : Game) (granted : Nat) : Session → Prop := Holds g (IsLedger g granted)

/-! ### Answers -/

/-- After a mistake a life is lost, even if the game ends at once. -/
lemma holds_loseLife (w : Session) :
    Holds w.game (· = w.state.account.loseLife) (loseLife.runIn w).2 := by
  unfold loseLife
  rw [runIn_get_bind]
  cases hlives : w.state.lives with
  | none => exact ⟨rfl, by simp [GameState.account, Account.loseLife, hlives]⟩
  | some lives =>
    show Holds _ _ (runIn (if _ then _ else _) w).2
    by_cases hpos : 0 < lives
    · have hlost : Holds w.game (· = w.state.account.loseLife)
          { w with state := { w.state with lives := some (lives - 1) } } :=
        ⟨rfl, by simp [GameState.account, Account.loseLife, hlives, hpos]⟩
      rw [if_pos hpos, change, runIn_modify_bind]
      split_ifs
      · exact keeps_scheduleEnd _ hlost
      · exact hlost
    · rw [if_neg hpos]
      exact ⟨rfl, by simp [GameState.account, Account.loseLife, hlives, hpos]⟩

/-- An answer with whole base points is entered with the points that are due to it, or nothing has
changed if these are none. -/
lemma enterAnswer_spec {w : Session} (hw : InBalance g granted w) (x : Submission) {base : Int}
    (hbase : x.basePoints = .int base) :
    match pointsFor g w.state.answers x.isCorrect base with
    | .error e => (enterAnswer x).runIn w = (.error e, w)
    | .ok points =>
      ∃ score, w.state.score = .int score ∧
        Holds g (· = w.state.account.enter x points (score + points)) ((enterAnswer x).runIn w).2 ∧
        ∀ r, ((enterAnswer x).runIn w).1 = .ok r → r = x.record points := by
  obtain ⟨rfl, hledger⟩ := hw
  obtain ⟨earnedPoints, -, hscore⟩ := hledger.score
  have hstreak : (if x.isCorrect then w.state.streak + 1 else 0) =
      if x.isCorrect then (streakOf w.state.answers : Int) + 1 else 0 := by
    rw [show w.state.streak = streakOf w.state.answers from hledger.streak]
  have hearned := earned_eq_pointsFor w.game w.state.answers x.isCorrect base
  rw [← hstreak, ← hbase] at hearned
  unfold enterAnswer
  rw [runIn_get_bind, runIn_lift_bind, hearned]
  cases hpoints : pointsFor w.game w.state.answers x.isCorrect base with
  | error e => rfl
  | ok points =>
    have hsum : w.state.score.add (.int points) = .ok (.int (earnedPoints.sum + points)) := by
      rw [show w.state.score = .int earnedPoints.sum from hscore]
      rfl
    refine ⟨earnedPoints.sum, hscore, ?_⟩
    show (fun out : Except Fault AnswerRecord × Session =>
      Holds _ _ out.2 ∧ ∀ r, out.1 = .ok r → r = _) (runIn (change _ >>= _) w)
    rw [change, runIn_modify_bind, runIn_lift_bind, hsum]
    show (fun out : Except Fault AnswerRecord × Session =>
      Holds _ _ out.2 ∧ ∀ r, out.1 = .ok r → r = _) (runIn (change _ >>= _) _)
    rw [change, runIn_modify_bind, note, Table.note, runIn_modify_bind]
    cases hcorrect : x.isCorrect with
    | true =>
      refine ⟨⟨rfl, ?_⟩, fun r hr => ?_⟩
      · simp only [Account.enter, hcorrect, if_true, Submission.record]
        rfl
      · rw [Submission.record, hcorrect]
        exact (Except.ok.inj hr).symm
    | false =>
      simp only [if_false, Bool.false_eq_true]
      obtain ⟨hafter, hresult⟩ := runIn_bind_pure loseLife (x.record points) _
      rw [Submission.record, hcorrect] at hafter hresult
      rw [hafter]
      refine ⟨⟨(holds_loseLife _).1, (holds_loseLife _).2.trans ?_⟩, fun r hr => ?_⟩
      · simp only [Account.enter, hcorrect, if_false, Bool.false_eq_true, Submission.record]
        rfl
      · rw [Submission.record, hcorrect]
        exact hresult r hr

/-- What becomes of an answer with whole base points: in any other phase than play it is refused;
in play it is taken with the points that are due to it, if there are any. -/
structure Takes (w : Session) (x : Submission) (base : Int)
    (out : Except Fault (Option AnswerRecord) × Session) : Prop where
  refused : w.phase ≠ .playing → out.1 = .ok none ∧ out.2.state = w.state
  fault : ∀ e, w.phase = .playing →
    pointsFor w.game w.state.answers x.isCorrect base = .error e →
      out.1 = .error e ∧ out.2.state = w.state
  taken : ∀ points, w.phase = .playing →
    pointsFor w.game w.state.answers x.isCorrect base = .ok points →
      out.2.state.answers = w.state.answers ++ [x.record points] ∧
        ∀ r, out.1 = .ok r → r = some (x.record points)

/-- An answer with whole base points leaves a ledger behind. -/
lemma keeps_submitAnswer (x : Submission) {base : Int} (hbase : x.basePoints = .int base) :
    Keeps (InBalance g granted) (submitAnswer x) := by
  refine keeps_whilePlaying _ _ (keeps_bind (fun w hw => ?_) fun _ => keeps_pure _)
  have hentered := enterAnswer_spec hw x hbase
  cases hpoints : pointsFor g w.state.answers x.isCorrect base with
  | error e =>
    rw [hpoints] at hentered
    rw [hentered]
    exact hw
  | ok points =>
    rw [hpoints] at hentered
    obtain ⟨score, hscore, ⟨hgame, hafter⟩, -⟩ := hentered
    refine ⟨hgame, ?_⟩
    rw [hafter]
    exact hw.2.enter x hpoints hscore

/-! ### Hints -/

/-- Asking for a hint never breaks off, and a hint is granted or the account is as it was. -/
lemma useHint_spec {w : Session} (hw : InBalance g granted w) :
    ∃ isGranted v, useHint.runIn w = (.ok isGranted, v) ∧
      InBalance g (granted + if isGranted then 1 else 0) v := by
  by_cases hphase : w.phase = .playing
  · rw [useHint, runIn_whilePlaying hphase, runIn_get_bind]
    by_cases hnone : w.state.hints ≤ 0
    · rw [if_pos hnone]
      exact ⟨false, w, rfl, hw⟩
    · rw [if_neg hnone]
      exact ⟨true, _, rfl, hw.1, hw.2.grant (by show 0 < w.state.hints; omega)⟩
  · rw [useHint, whilePlaying, runIn_get_bind, if_neg hphase]
    exact ⟨false, _, rfl, hw⟩

/-! ### Items -/

lemma keeps_addItem (item : String) : Keeps (InBalance g granted) (addItem item) := by
  refine keeps_whilePlaying _ _ (keeps_modify fun w hw => ⟨hw.1, ?_⟩)
  show IsLedger g granted (GameState.account (if _ then _ else _))
  split_ifs with hthere
  · exact hw.2
  · have hnodup : (w.state.inventory ++ [item]).Nodup := by
      rw [List.contains_eq_mem, decide_eq_true_eq] at hthere
      exact List.nodup_append.2 ⟨hw.2.inventory, List.pairwise_singleton _ _, by
        rintro a ha b hb rfl
        exact hthere (List.mem_singleton.1 hb ▸ ha)⟩
    exact hw.2.withInventory hnodup

lemma keeps_removeItem (item : String) : Keeps (InBalance g granted) (removeItem item) :=
  keeps_whilePlaying _ _ (keeps_modify fun _ hw =>
    ⟨hw.1, hw.2.withInventory (hw.2.inventory.erase item)⟩)

/-! ### Requests of sections -/

section

variable {activate : Act Session Unit} (hactivate : ∀ n, Keeps (InBalance g n) activate)

include hactivate

/-- A request other than for a hint leaves a ledger behind. -/
lemma keeps_reply (index : Nat) (seat : Seat) {r : Request} (hr : r ≠ .spendHint) :
    Keeps (InBalance g granted) (reply activate index seat r) :=
  keeps_reply_of (hactivate granted) (fun x _ => keeps_submitAnswer x) keeps_addItem
    keeps_removeItem index seat (fun h => absurd h hr)
    fun _ _ => keeps_updateVariables fun _ hw => hw

/-- Every reply leaves a ledger behind, with one more hint granted if it grants one. -/
lemma inBalance_reply (index : Nat) (seat : Seat) (r : Request) {w v : Session}
    {a : r.Reply} (hw : InBalance g granted w)
    (hrun : (reply activate index seat r).runIn w = (.ok a, v)) :
    InBalance g (granted + r.granted a) v := by
  by_cases hr : r = .spendHint
  · subst hr
    change (heard seat "use_hint" false useHint).runIn w = (.ok a, v) at hrun
    rw [heard, runIn_get_bind] at hrun
    split_ifs at hrun
    · obtain ⟨isGranted, u, huse, hu⟩ := useHint_spec hw
      rw [huse] at hrun
      cases hrun
      exact hu
    · cases hrun
      exact hw
  · have hkept := keeps_reply hactivate index seat hr w hw
    rw [hrun] at hkept
    cases r <;> first | exact hkept | exact absurd rfl hr

/-- A request that breaks off leaves a ledger behind. -/
lemma inBalance_reply_error (index : Nat) (seat : Seat) (r : Request) {w v : Session} {e : Fault}
    (hw : InBalance g granted w)
    (hrun : (reply activate index seat r).runIn w = (.error e, v)) : InBalance g granted v := by
  by_cases hr : r = .spendHint
  · subst hr
    change (heard seat "use_hint" false useHint).runIn w = (.error e, v) at hrun
    rw [heard, runIn_get_bind] at hrun
    split_ifs at hrun
    · obtain ⟨isGranted, u, huse, hu⟩ := useHint_spec hw
      rw [huse] at hrun
      cases hrun
    · cases hrun
  · have hkept := keeps_reply hactivate index seat hr w hw
    rw [hrun] at hkept
    exact hkept

/-- A script of a section leaves a ledger behind, with the hints granted that it was granted. -/
lemma inBalance_run {α : Type} (index : Nat) (seat : Seat) (x : Script Player α) {w : Session}
    (hw : InBalance g granted w) :
    InBalance g (granted + x.grants (reply activate index seat) seat.player w)
      (x.run (reply activate index seat) seat.player w).2.2 :=
  x.run_keeps_counting (J := fun n => InBalance g n)
    (fun r _ _ _ _ => inBalance_reply_error hactivate index seat r)
    (fun r _ _ _ _ => inBalance_reply hactivate index seat r) seat.player w granted hw

/-- A script that asks for no hint leaves a ledger behind. -/
lemma keeps_perform {α : Type} (index : Nat) {script : Setting → Player → Script Player α}
    (hscript : ∀ c p, (script c p).Hintless) :
    Keeps (InBalance g granted) (perform activate index script) := by
  intro w hw
  cases hseat : w.seats[index]? with
  | none =>
    rw [perform, runIn_ofFun, hseat]
    exact hw
  | some seat =>
    have hrun := inBalance_run hactivate index seat (script seat.setting seat.player) hw
    rw [Script.grants_eq_zero (hscript _ _)] at hrun
    rw [runIn_perform activate hseat]
    exact hrun

end

/-! ### Beginning sections -/

/-- Beginning a section leaves a ledger behind, however many others it leads on to. -/
lemma keeps_activateWithin (depth n : Nat) : Keeps (InBalance g n) (activateWithin depth) := by
  induction depth generalizing n with
  | zero => exact keeps_bind (keeps_modify fun _ hw => hw) fun _ => keeps_fault _
  | succ depth ih =>
    refine keeps_bind (keeps_modify fun _ hw => hw) fun _ => keeps_bind keeps_get fun w => ?_
    cases w.game.section? w.state.sectionId with
    | none => exact keeps_warn _
    | some s =>
      exact keeps_bind (keeps_takeSeat s) fun index =>
        keeps_perform ih index Player.hintless_enter

lemma keeps_activate (n : Nat) : Keeps (InBalance g n) activate :=
  keeps_bind keeps_get fun _ => keeps_activateWithin _ n

end Session

end LearningGame.Play
