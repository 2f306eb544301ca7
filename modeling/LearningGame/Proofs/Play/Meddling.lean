import LearningGame.Proofs.Play.Announcing.Sections
import LearningGame.Proofs.Play.Unheard

/-!
# Moves that meddle with countdowns

A section that has been left can still set and take out countdowns, and they are kept by the id of
the section and not by its seat. So when a section is begun anew, moves in the seat that has been
left meddle with the countdown of the one that is current. Which moves do that, and how, is told by the
state of the section in the seat.
-/

namespace LearningGame.Play

open Content Rules Script

/-! ### What moves ask about countdowns -/

/-- What a move in a quiz asks about the countdown: an answer that is taken stops it, and the next
question starts it. -/
def QuizSitting.timing? (c : Setting) (s : QuizSitting) : Move → Option Request
  | .submit _ =>
    if s.completed || s.current?.isNone || s.showResult then none else some (.cancel .question)
  | .next =>
    if s.completed || !s.showResult then none
    else
      match s.questions[s.index + 1]? with
      | none => none
      | some q => if 0 < limitOf c q then some (.arm .question (limitOf c q)) else none
  | _ => none

/-- The entry that is selected in the other column. -/
def MatchingSitting.opposite? (s : MatchingSitting) : Column → Option String
  | .left => s.selectedRight
  | .right => s.selectedLeft

/-- Whether an attempt finds the last pair, with the time that has been spent to be reported. -/
def MatchingSitting.findsLast (clock : Float) (s : MatchingSitting) (left right : String) : Bool :=
  left == right && (Number.float (clock - s.started)).toNearest.isOk &&
    decide (s.pairs.length ≤ s.matched.length + 1)

/-- What a move in a matching game asks about the countdown: the last pair stops it. -/
def MatchingSitting.timing? (clock : Float) (s : MatchingSitting) : Move → Option Request
  | .select column id =>
    if s.completed || !s.pairs.has id || s.matched.contains id then none
    else
      match s.opposite? column with
      | none => none
      | some other => if s.findsLast clock id other then some (.cancel .matching) else none
  | _ => none

/-- Whether a challenge ends after an answer, with so many mistakes. -/
def ChallengeSitting.endsWith (s : ChallengeSitting) (mistakes : Nat) : Bool :=
  (0 < s.content.maxMistakes && decide (s.content.maxMistakes ≤ mistakes)) ||
    decide (s.content.items.length ≤ s.index + 1)

/-- What a move in a challenge asks about the countdown: the last answer, and the last mistake that
is allowed, stop it. -/
def ChallengeSitting.timing? (s : ChallengeSitting) : Move → Option Request
  | .answer value =>
    if s.completed || s.isOver || isBlank value then none
    else
      match s.current? with
      | none => none
      | some item =>
        let correct := sameAnswer value.text item.answer.toValue.text
        if correct &&
            !(challengePoints item s.streak s.timeRemaining s.content.timeLimit).isOk then none
        else if s.endsWith (if correct then s.mistakes else s.mistakes + 1) then
          some (.cancel .challenge)
        else none
  | _ => none

/-- What a move asks about countdowns, if it does. -/
def Player.timing? (c : Setting) (clock : Float) (m : Move) : Player → Option Request
  | .quiz s => s.timing? c m
  | .matching s => s.timing? clock m
  | .challenge s => s.timing? m
  | _ => none

/-- The countdown that a request stops. -/
def Request.stopped? : Request → Option Alarm
  | .cancel alarm => some alarm
  | _ => none

lemma Request.stopped?_eq_some {r : Request} {alarm : Alarm} :
    r.stopped? = some alarm ↔ r = .cancel alarm := by
  cases r <;> simp [stopped?]

/-! ### What comes of it -/

section

variable {σ τ α β : Type} {o : Outlook} {sectionId : String} {index : Nat}
  {r : Registry SessionAlarm}

/-- The countdowns after a request that may have been made. -/
def Request.handle? (sectionId : String) (index : Nat) (r : Registry SessionAlarm) :
    Option Request → Registry SessionAlarm
  | none => r
  | some q => q.handle sectionId index r

/-- A script that is not heard makes this of the countdowns. -/
def Script.Makes (o : Outlook) (sectionId : String) (index : Nat) (r after : Registry SessionAlarm)
    (x : Script σ α) (s : σ) : Prop :=
  x.Unheard o (Request.handle sectionId index) (fun _ _ t => t = after) s r

lemma Script.makes_of_untimed {x : Script σ α} (hx : x.Untimed) (s : σ) :
    x.Makes o sectionId index r r s := by
  refine unheard_of_asks ?_ fun _ _ => rfl
  induction x with
  | done a => trivial
  | fail e => trivial
  | get next ih => exact fun s => ih s (hx s)
  | put t next ih => exact ih hx
  | ask q next ih =>
    have hq : q.Untimed := hx.1
    exact ⟨q.handle_of_untimed sectionId index, fun a => ih a (hx.2 a)⟩

lemma Script.makes_state_bind {f : σ → Script σ α} {after : Registry SessionAlarm} {s : σ} :
    (state >>= f).Makes o sectionId index r after s ↔ (f s).Makes o sectionId index r after s :=
  Iff.rfl

/-- A request, and then nothing more about countdowns. -/
lemma Script.makes_ask_bind {q : Request} {f : q.Reply → α} {g : α → Script σ β}
    (hg : ∀ a, (g a).Untimed) (s : σ) :
    ((ask q fun x => .done (f x)) >>= g).Makes o sectionId index r (q.handle sectionId index r) s :=
  fun a _ => makes_of_untimed (hg (f a)) s

lemma Setting.makes_unlessCompleted [Seated σ] (c : Setting) {action : String} {refused : α}
    {x : Script σ α} {after : Registry SessionAlarm} {s : σ}
    (hdone : (Seated.sitting s).completed = true → after = r)
    (hopen : (Seated.sitting s).completed = false → x.Makes o sectionId index r after s) :
    (c.unlessCompleted action refused x).Makes o sectionId index r after s := by
  refine makes_state_bind.2 ?_
  split_ifs with h
  · rw [hdone h]
    exact makes_of_untimed (asks_request_bind fun _ => asks_pure _) s
  · exact hopen (Bool.not_eq_true _ ▸ h)

/-- What goes on without asking about countdowns leaves them as they are. -/
lemma Script.Makes.bind {x : Script σ α} {f : α → Script σ β} {after : Registry SessionAlarm}
    {s : σ} (hx : x.Makes o sectionId index r after s) (hf : ∀ a, (f a).Untimed) :
    (x >>= f).Makes o sectionId index r after s := by
  refine unheard_bind.2 (Unheard.mono hx fun result s t ht => ?_)
  subst ht
  cases result with
  | ok a => exact makes_of_untimed (hf a) s
  | error e => rfl

/-- The time that has been spent is told by the clock, unless it is no number. -/
lemma Setting.makes_answer_bind [Seated σ] {itemId : String} {given : Value} {isCorrect : Bool}
    {points : Int} {f : Unit → Script σ α} {after : Registry SessionAlarm} {s : σ}
    (herror : ∀ e, (Number.float (o.clock - (Seated.sitting s).started)).toNearest = .error e →
      after = r)
    (hok : ∀ n, (Number.float (o.clock - (Seated.sitting s).started)).toNearest = .ok n →
      (f ()).Makes o sectionId index r after s) :
    (answer itemId given isCorrect points >>= f).Makes o sectionId index r after s := by
  intro clock hclock
  cases hclock
  show Script.Makes o sectionId index r after
    (((Script.lift (Number.float (o.clock - (Seated.sitting s).started)).toNearest >>= fun time =>
      pure (max 0 time)) >>= fun time => Script.report itemId given isCorrect points time) >>= f) s
  cases htime : (Number.float (o.clock - (Seated.sitting s).started)).toNearest with
  | error e => exact (herror e htime).symm
  | ok n => exact fun _ _ => hok n htime

lemma Script.Makes.map {x : Script σ α} {after : Registry SessionAlarm} {s : σ}
    (hx : x.Makes o sectionId index r after s) (f : α → β) :
    (f <$> x).Makes o sectionId index r after s :=
  unheard_bind.2 (Unheard.mono hx fun a _ _ h => by cases a <;> exact h)

lemma Script.Makes.embed {x : Script σ α} {after : Registry SessionAlarm} {s : σ}
    (hx : x.Makes o sectionId index r after s) (into : σ → τ) (t : τ) :
    (x.embed into s).Makes o sectionId index r after t := by
  unfold Script.Makes at hx ⊢
  induction x generalizing r s t with
  | done a => exact hx
  | fail e => exact hx
  | get next ih => exact ih s hx t
  | put u next ih => exact ih hx (into u)
  | ask q next ih => exact fun a ha => ih a (hx a ha) t

end

section

variable (o : Outlook) (sectionId : String) (index : Nat) (r : Registry SessionAlarm) (c : Setting)

/-! ### Quizzes -/

namespace QuizSitting

/-- The countdown is stopped when an answer is taken. -/
lemma makes_submit (s : QuizSitting) (answer : Value) :
    (submit c answer).Makes o sectionId index r
      (Request.handle? sectionId index r (s.timing? c (.submit answer))) s := by
  refine c.makes_unlessCompleted (fun hdone => ?_) fun hopen => makes_state_bind.2 ?_
  · have hdone : s.completed = true := hdone
    simp [timing?, hdone, Request.handle?]
  have hopen : s.completed = false := hopen
  cases hq : s.current? with
  | none =>
    have htiming : s.timing? c (.submit answer) = none := by simp [timing?, hq]
    rw [htiming]
    exact makes_of_untimed (asks_pure _) s
  | some q =>
    show Script.Makes o sectionId index r _ (if s.showResult = true then _ else _) s
    by_cases hshown : s.showResult = true
    · have htiming : s.timing? c (.submit answer) = none := by simp [timing?, hshown]
      rw [htiming, if_pos hshown]
      exact makes_of_untimed (asks_request_bind fun _ => asks_pure _) s
    · have htiming : s.timing? c (.submit answer) = some (.cancel .question) := by
        simp [timing?, hopen, hq, hshown]
      rw [htiming, if_neg hshown]
      exact makes_ask_bind (fun _ => asks_bind (Setting.asks_answer _ _ _ _) fun _ =>
        asks_bind (asks_change _) fun _ => asks_pure _) s

/-- The last of what asking a question does: its countdown is started, if it has one. -/
def armCurrent (c : Setting) (s : QuizSitting) : Script QuizSitting Unit :=
  match s.current? with
  | some q => if 0 < limitOf c q then Script.arm .question (limitOf c q) else pure ()
  | none => pure ()

/-- The countdown of the next question is started with it. -/
lemma makes_next (s : QuizSitting) :
    (next c).Makes o sectionId index r
      (Request.handle? sectionId index r (s.timing? c .next)) s := by
  refine c.makes_unlessCompleted (fun hdone => ?_) fun hopen => makes_state_bind.2 ?_
  · have hdone : s.completed = true := hdone
    simp [timing?, hdone, Request.handle?]
  have hopen : s.completed = false := hopen
  split_ifs with hshown hlast
  · have htiming : s.timing? c .next = none := by simp [timing?, hshown]
    rw [htiming]
    exact makes_of_untimed (asks_warn _) s
  · have hnext : s.questions[s.index + 1]? = none := by simpa [isLast] using hlast
    have htiming : s.timing? c .next = none := by simp [timing?, hnext]
    rw [htiming]
    exact makes_of_untimed c.asks_complete s
  · simp only [Bool.not_eq_true, Bool.not_eq_false'] at hshown
    refine fun clock _ => ?_
    let t : QuizSitting :=
      { s with
        index := s.index + 1, showResult := false, lastResult := none, hintVisible := false
        started := clock }
    have hcurrent : t.current? = s.questions[s.index + 1]? := rfl
    show Script.Makes o sectionId index r _ (armCurrent c t) t
    rw [armCurrent, hcurrent]
    cases hnext : s.questions[s.index + 1]? with
    | none =>
      have htiming : s.timing? c .next = none := by simp [timing?, hnext]
      rw [htiming]
      exact makes_of_untimed (asks_pure _) _
    | some q =>
      dsimp only
      split_ifs with hlimit
      · have htiming : s.timing? c .next = some (.arm .question (limitOf c q)) := by
          simp [timing?, hopen, hshown, hnext, hlimit]
        rw [htiming]
        exact fun _ _ => rfl
      · have htiming : s.timing? c .next = none := by simp [timing?, hnext, hlimit]
        rw [htiming]
        exact makes_of_untimed (asks_pure _) _

end QuizSitting

/-! ### Matching games -/

namespace MatchingSitting

lemma findsLast_comm (clock : Float) (s : MatchingSitting) (left right : String) :
    s.findsLast clock left right = s.findsLast clock right left := by
  rw [findsLast, findsLast, BEq.comm]

/-- The countdown is stopped when the last pair is found. -/
lemma makes_attempt (s : MatchingSitting) (left right : String) :
    (attempt c left right).Makes o sectionId index r
      (Request.handle? sectionId index r
        (if s.findsLast o.clock left right then some (.cancel .matching) else none)) s := by
  by_cases hpair : (left == right) = true
  · refine Setting.makes_answer_bind (fun e he => ?_) fun n hn => ?_
    · have htime : (Number.float (o.clock - s.started)).toNearest = .error e := he
      simp [findsLast, htime, Except.isOk, Except.toBool, Request.handle?]
    · have htime : (Number.float (o.clock - s.started)).toNearest = .ok n := hn
      rw [if_pos hpair]
      show Script.Makes o sectionId index r _
        (if s.pairs.length ≤ (s.matched ++ [left]).length then _ else _) _
      rw [List.length_append, List.length_singleton]
      by_cases hlast : s.pairs.length ≤ s.matched.length + 1
      · have hfinds : s.findsLast o.clock left right = true := by
          simp [findsLast, hpair, htime, Except.isOk, Except.toBool, hlast]
        rw [if_pos hfinds, if_pos hlast]
        exact makes_ask_bind (fun _ => c.asks_complete) _
      · have hfinds : ¬s.findsLast o.clock left right = true := by simp [findsLast, hlast]
        rw [if_neg hfinds, if_neg hlast]
        exact makes_of_untimed (asks_pure _) _
  · have hfinds : ¬s.findsLast o.clock left right = true := by simp [findsLast, hpair]
    rw [if_neg hfinds]
    refine makes_of_untimed (asks_bind (asks_change _) fun _ =>
      asks_bind (Setting.asks_answer _ _ _ _) fun _ => ?_) s
    rw [if_neg hpair]
    exact asks_change _

lemma makes_resolve_of_none {s : MatchingSitting}
    (h : s.selectedLeft = none ∨ s.selectedRight = none) :
    (resolve c).Makes o sectionId index r r s := by
  refine makes_state_bind.2 ?_
  rcases h with h | h
  · rw [h]
    exact makes_of_untimed (asks_pure _) s
  · rw [h]
    cases s.selectedLeft <;> exact makes_of_untimed (asks_pure _) s

/-- The countdown is stopped when the entries that are selected are the last pair. -/
lemma makes_resolve_of_some {s : MatchingSitting} {left right : String}
    (hleft : s.selectedLeft = some left) (hright : s.selectedRight = some right) :
    (resolve c).Makes o sectionId index r
      (Request.handle? sectionId index r
        (if s.findsLast o.clock left right then some (.cancel .matching) else none)) s := by
  refine makes_state_bind.2 ?_
  rw [hleft, hright]
  exact makes_attempt o sectionId index r c s left right

/-- The countdown is stopped when the last pair is selected. -/
lemma makes_select (s : MatchingSitting) (column : Column) (id : String) :
    (select c column id).Makes o sectionId index r
      (Request.handle? sectionId index r (s.timing? o.clock (.select column id))) s := by
  refine c.makes_unlessCompleted (fun hdone => ?_) fun hopen => makes_state_bind.2 ?_
  · have hdone : s.completed = true := hdone
    simp [timing?, hdone, Request.handle?]
  have hopen : s.completed = false := hopen
  split_ifs with hunknown hfound
  · have htiming : s.timing? o.clock (.select column id) = none := by simp [timing?, hunknown]
    rw [htiming]
    exact makes_of_untimed (asks_warn _) s
  · have htiming : s.timing? o.clock (.select column id) = none := by
      rw [timing?, if_pos (by rw [hfound, Bool.or_true])]
    rw [htiming]
    exact makes_of_untimed (asks_pure _) s
  have hselects : ¬(s.completed || !s.pairs.has id || s.matched.contains id) = true := by
    simp only [hopen, hunknown, hfound]
    decide
  rw [timing?, if_neg hselects]
  cases column with
  | left =>
    let t : MatchingSitting := { s with wrongPair := none, selectedLeft := some id }
    show Script.Makes o sectionId index r _ (resolve c) t
    rw [opposite?]
    cases hright : s.selectedRight with
    | none => exact makes_resolve_of_none o sectionId index r c (s := t) (.inr hright)
    | some other => exact makes_resolve_of_some o sectionId index r c (s := t) rfl hright
  | right =>
    let t : MatchingSitting := { s with wrongPair := none, selectedRight := some id }
    show Script.Makes o sectionId index r _ (resolve c) t
    rw [opposite?]
    cases hleft : s.selectedLeft with
    | none => exact makes_resolve_of_none o sectionId index r c (s := t) (.inl hleft)
    | some other =>
      dsimp only
      rw [findsLast_comm]
      exact makes_resolve_of_some o sectionId index r c (s := t) hleft rfl

end MatchingSitting

/-! ### Challenges -/

namespace ChallengeSitting

/-- The countdown is stopped when the challenge ends. -/
lemma makes_finish {s : ChallengeSitting} (hopen : s.isOver = false) (reason : String) :
    (finish c reason).Makes o sectionId index r (r.cancel (Alarm.fullName sectionId .challenge))
      s := by
  refine makes_state_bind.2 ?_
  rw [if_neg (by simp [hopen])]
  exact makes_ask_bind (fun _ => asks_bind (asks_setState _) fun _ =>
    asks_bind Setting.asks_elapsed fun _ => asks_request_bind fun _ => asks_request _) s

/-- The countdown is stopped by the last answer and by the last mistake that is allowed. -/
lemma makes_advance {s : ChallengeSitting} (hopen : s.isOver = false) :
    (advance c).Makes o sectionId index r (Request.handle? sectionId index r
      (if s.endsWith s.mistakes then some (.cancel .challenge) else none)) s := by
  refine makes_state_bind.2 ?_
  by_cases hbudget :
      (0 < s.content.maxMistakes && decide (s.content.maxMistakes ≤ s.mistakes)) = true
  · rw [if_pos hbudget, if_pos (by simp only [endsWith, hbudget, Bool.true_or])]
    exact makes_finish o sectionId index r c hopen _
  rw [if_neg hbudget]
  by_cases hlast : s.content.items.length ≤ s.index + 1
  · rw [if_pos hlast, if_pos (by simp only [endsWith, hlast, decide_true, Bool.or_true])]
    exact makes_finish o sectionId index r c hopen _
  · rw [if_neg hlast, if_neg (by simp only [endsWith, hbudget, hlast]; decide)]
    exact makes_of_untimed (asks_setState _) s

/-- Neither does anything else in an answer touch the countdown. -/
lemma makes_answer (s : ChallengeSitting) (value : Value) :
    (answer c value).Makes o sectionId index r
      (Request.handle? sectionId index r (s.timing? (.answer value))) s := by
  refine c.makes_unlessCompleted (fun hdone => ?_) fun hopen => makes_state_bind.2 ?_
  · have hdone : s.completed = true := hdone
    simp [timing?, hdone, Request.handle?]
  have hopen : s.completed = false := hopen
  split_ifs with hignored
  · have htiming : s.timing? (.answer value) = none := by
      rw [timing?, if_pos (by rw [Bool.or_assoc, hignored, Bool.or_true])]
    rw [htiming]
    exact makes_of_untimed (asks_pure _) s
  have hanswered : ¬(s.completed || s.isOver || isBlank value) = true := by
    rw [Bool.or_assoc, hopen, Bool.false_or]
    exact hignored
  have hrunning : s.isOver = false := by
    simp only [Bool.or_eq_true, not_or, Bool.not_eq_true] at hignored
    exact hignored.1
  rw [timing?, if_neg hanswered]
  refine makes_state_bind.2 ?_
  cases s.current? with
  | none => rfl
  | some item =>
    dsimp only
    generalize sameAnswer value.text item.answer.toValue.text = correct
    cases correct with
    | false =>
      let after : ChallengeSitting :=
        { s with mistakes := s.mistakes + 1, streak := 0, feedback := some "wrong" }
      have hadvance : (advance c).Makes o sectionId index r _ after :=
        makes_advance o sectionId index r c hrunning
      exact hadvance.bind fun _ => asks_pure _
    | true =>
      show Script.Makes o sectionId index r _
        ((Script.lift (challengePoints item s.streak s.timeRemaining s.content.timeLimit) >>=
          fun points => Script.setState
            { s with score := s.score + points, streak := s.streak + 1,
                     feedback := some "correct" }) >>= fun _ => _) s
      cases challengePoints item s.streak s.timeRemaining s.content.timeLimit with
      | error e => rfl
      | ok points =>
        let after : ChallengeSitting :=
          { s with score := s.score + points, streak := s.streak + 1, feedback := some "correct" }
        have hadvance : (advance c).Makes o sectionId index r _ after :=
          makes_advance o sectionId index r c hrunning
        exact hadvance.bind fun _ => asks_pure _

end ChallengeSitting

/-! ### Moves -/

namespace Player

lemma makes_inQuiz {m : Move} {x : Script QuizSitting Value} (h : inQuiz c m = some x)
    (s : QuizSitting) :
    x.Makes o sectionId index r (Request.handle? sectionId index r (s.timing? c m)) s := by
  unfold inQuiz at h
  split at h <;> cases h
  · exact (QuizSitting.makes_submit o sectionId index r c s _).map _
  · exact (QuizSitting.makes_next o sectionId index r c s).map _
  · exact makes_of_untimed (asks_map _ (QuizSitting.asks_useHint Request.untimed_spendHint)) s

lemma makes_inMatching {m : Move} {x : Script MatchingSitting Value} (h : inMatching c m = some x)
    (s : MatchingSitting) :
    x.Makes o sectionId index r (Request.handle? sectionId index r (s.timing? o.clock m)) s := by
  unfold inMatching at h
  split at h <;> cases h
  exact (MatchingSitting.makes_select o sectionId index r c s _ _).map _

lemma makes_inChallenge {m : Move} {x : Script ChallengeSitting Value}
    (h : inChallenge c m = some x) (s : ChallengeSitting) :
    x.Makes o sectionId index r (Request.handle? sectionId index r (s.timing? m)) s := by
  unfold inChallenge at h
  split at h <;> cases h
  · exact (ChallengeSitting.makes_answer o sectionId index r c s _).map _
  · exact makes_of_untimed (asks_map _ (ChallengeSitting.asks_leave c)) s

/-- What a move makes of the countdowns if it is not heard. -/
lemma makes_act? {m : Move} {p : Player} {x : Script Player Value} (h : p.act? c m = some x) :
    x.Makes o sectionId index r (Request.handle? sectionId index r (p.timing? c o.clock m)) p := by
  cases p <;> obtain ⟨y, hy, rfl⟩ := Option.map_eq_some_iff.1 h
  case quiz s => exact (makes_inQuiz o sectionId index r c hy s).embed _ _
  case matching s => exact (makes_inMatching o sectionId index r c hy s).embed _ _
  case challenge s => exact (makes_inChallenge o sectionId index r c hy s).embed _ _
  case flashcards s =>
    exact (makes_of_untimed (asks_inFlashcards c Request.untimed_spendHint hy) s).embed _ _
  case sorting s => exact (makes_of_untimed (asks_inSorting c hy) s).embed _ _
  case narrative s =>
    have hy := minds_inNarrative c (.of_all Request.untimed_updateVariables) hy
    exact (makes_of_untimed (asks_of_minds (fun _ => trivial) hy) s).embed _ _
  case simulation s => exact (makes_of_untimed (asks_inSimulation c hy) s).embed _ _
  case exploration s => exact (makes_of_untimed (asks_inExploration c hy) s).embed _ _
  case reading content s => exact (makes_of_untimed (asks_inReading c hy) s).embed _ _

/-- A move that a section does not know asks nothing. -/
lemma timing?_of_act?_eq_none {m : Move} {p : Player} (h : p.act? c m = none) (clock : Float) :
    p.timing? c clock m = none := by
  cases p with
  | quiz s => cases m <;> first | rfl | cases h
  | matching s => cases m <;> first | rfl | cases h
  | challenge s => cases m <;> first | rfl | cases h
  | _ => rfl

end Player

end

namespace Session

open Act

/-- The countdowns after a move in a section that has been left. -/
lemma registry_move {w : Session} {index : Nat} {seat : Seat} (hseat : w.seats[index]? = some seat)
    (hleft : seat.epochs.sections < w.epochs.sections) (m : Move) :
    ((Deed.move index m).after w).table.registry =
      Request.handle? seat.setting.sectionId index w.table.registry
        (seat.player.timing? seat.setting w.clock m) := by
  simp only [Deed.after, act?, hseat]
  cases hscript : Player.act? seat.setting m seat.player with
  | none =>
    rw [Player.timing?_of_act?_eq_none seat.setting hscript]
    simp only [Option.bind_eq_bind, Option.bind_some, hscript, Option.bind_none]
    rfl
  | some script =>
    simp only [Option.bind_eq_bind, Option.bind_some, hscript, Option.pure_def,
      runIn_perform activate hseat]
    exact run_unheard hleft (Player.makes_act? w.outlook seat.setting.sectionId index
      w.table.registry seat.setting hscript)

/-- The countdowns stay as they are when a request sets none and takes out none that is there. -/
lemma handle?_eq_self_iff {sectionId : String} {index : Nat} {r : Registry SessionAlarm}
    {q : Option Request} :
    Request.handle? sectionId index r q = r ↔
      (∀ alarm seconds, q ≠ some (.arm alarm seconds)) ∧
        ∀ alarm, q = some (.cancel alarm) → r.find? (alarm.fullName sectionId) = none := by
  rcases q with _ | q
  · simp [Request.handle?]
  cases q with
  | arm alarm seconds =>
    have hmore : r.arm (alarm.fullName sectionId) seconds .ofSection (.ofSeat index alarm) ≠ r :=
      fun h => absurd (congrArg Registry.armed h) (Nat.succ_ne_self _)
    simpa [Request.handle?, Request.handle] using hmore
  | cancel alarm =>
    have hcancel : r.cancel (alarm.fullName sectionId) = r ↔
        r.find? (alarm.fullName sectionId) = none := by
      cases hfind : r.find? (alarm.fullName sectionId) with
      | none => simp [Registry.cancel_of_find?_eq_none hfind]
      | some c => simp [Registry.cancel_ne_of_find?_eq_some hfind]
    simpa [Request.handle?, Request.handle] using hcancel
  | _ => simp [Request.handle?, Request.handle]

/-- In every session that can come about, a move in a section that is not current does to the
countdowns what its section asks, and nothing else. So they stay as they are if and only if the move
does not start the countdown of a question, and does not stop one that is running under the id of
the section. -/
theorem registry_of_played (g : Game) (settings : Settings) (dice : Dice) (deeds : List Deed)
    (index : Nat) (seat : Seat) (m : Move) :
    let w := (create g settings dice).played deeds
    let r := w.table.registry
    let timing := seat.player.timing? seat.setting w.clock m
    w.seats[index]? = some seat → w.current ≠ some index →
      ((Deed.move index m).after w).table.registry =
          Request.handle? seat.setting.sectionId index r timing ∧
        (((Deed.move index m).after w).table.registry = r ↔
          (∀ alarm seconds, timing ≠ some (.arm alarm seconds)) ∧
            ∀ alarm, timing = some (.cancel alarm) →
              r.find? (alarm.fullName seat.setting.sectionId) = none) := by
  intro w r timing hseat hcurrent
  have hleft := (wellSeated_played g settings dice deeds).others index seat hseat hcurrent
  have hmove := registry_move hseat hleft m
  refine ⟨hmove, ?_⟩
  rw [hmove]
  exact handle?_eq_self_iff

/-- A quiz whose questions are to be answered in time. -/
def timedQuiz : Value :=
  .map
    [("config", .map [("questionTimeLimit", .int 30)]),
      ("content", .map [("sections", .list
        [.map [("id", "a"), ("type", "quiz"),
          ("content", .map [("questions", .list [.map
            [("question", "Which?"), ("options", .list ["one", "other"]),
              ("correctAnswer", .int 0)]])])]])])]

/-- The quiz is begun and then begun anew. -/
def begunAnew : List Deed := [.start, .navigateTo "a"]

/-- An answer in the quiz that has been left stops the countdown of the one that is current. -/
theorem not_registry_of_timedQuiz :
    ∃ g, (load timedQuiz "quiz").result = .ok g ∧
      let w := (create g .default (.repeating #[])).played begunAnew
      w.current = some 1 ∧ w.table.registry.remaining? "a:question" = some 30 ∧
        ((Deed.move 0 (.submit "one")).after w).current = some 1 ∧
        ((Deed.move 0 (.submit "one")).after w).table.registry.remaining? "a:question" = none := by
  obtain ⟨g, hg, hplay⟩ := Traced.exists_ok_of_any (x := load timedQuiz "quiz")
    (p := fun g =>
      let w := (create g .default (.repeating #[])).played begunAnew
      decide (w.current = some 1 ∧ w.table.registry.remaining? "a:question" = some 30 ∧
        ((Deed.move 0 (.submit "one")).after w).current = some 1 ∧
        ((Deed.move 0 (.submit "one")).after w).table.registry.remaining? "a:question" = none))
    (by decide +kernel)
  exact ⟨g, hg, of_decide_eq_true hplay⟩

/-- The same answer stops a countdown, and to ask for a hint touches none. -/
theorem registry_of_begunAnew :
    ∃ g, (load timedQuiz "quiz").result = .ok g ∧
      let w := (create g .default (.repeating #[])).played begunAnew
      ∃ seat, w.seats[0]? = some seat ∧ w.current ≠ some 0 ∧
        ((Deed.move 0 (.submit "one")).after w).table.registry =
          w.table.registry.cancel "a:question" ∧
        ((Deed.move 0 .useHint).after w).table.registry = w.table.registry := by
  obtain ⟨g, hg, hplay⟩ := Traced.exists_ok_of_any (x := load timedQuiz "quiz")
    (p := fun g =>
      let w := (create g .default (.repeating #[])).played begunAnew
      decide (w.current ≠ some 0) && w.seats[0]?.any fun (seat : Seat) =>
        seat.setting.sectionId == "a" &&
          decide ((seat.player.timing? seat.setting w.clock (.submit "one")).bind
            Request.stopped? = some .question) &&
          (seat.player.timing? seat.setting w.clock .useHint).isNone) (by decide +kernel)
  simp only [Bool.and_eq_true, decide_eq_true_eq, Option.any_eq_true, beq_iff_eq,
    Option.isNone_iff_eq_none] at hplay
  obtain ⟨hleft, seat, hseat, ⟨hid, hanswer⟩, hhint⟩ := hplay
  refine ⟨g, hg, seat, hseat, hleft, ?_, ?_⟩
  · obtain ⟨hmove, -⟩ := registry_of_played g .default (.repeating #[]) begunAnew 0 seat
      (.submit "one") hseat hleft
    obtain ⟨r, htiming, hstopped⟩ := Option.bind_eq_some_iff.1 hanswer
    rw [Request.stopped?_eq_some.1 hstopped] at htiming
    rw [hmove, htiming]
    show Registry.cancel _ (seat.setting.sectionId ++ ":" ++ "question") = _
    rw [hid]
    rfl
  · obtain ⟨-, hsame⟩ := registry_of_played g .default (.repeating #[]) begunAnew 0 seat .useHint
      hseat hleft
    exact hsame.2 (by simp [hhint])

end Session

end LearningGame.Play
