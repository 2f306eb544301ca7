import LearningGame.Proofs.Play.Dice
import LearningGame.Proofs.Play.Rehearsing

/-!
# Rehearsing a quiz

The player, the countdown of the question and the steps from question to question take turns in any
order. One relation says all that a cue can do to a quiz; what holds throughout is read off it. The
questions are answered in the order in which they are asked, each once: by the player, or with
nothing by the last second of its countdown.
-/

namespace LearningGame.Play.QuizSitting

open Content Rules Script Rehearsal

variable {c : Setting} {questions : List QuizQuestion} {T : Float → Prop} {s : QuizSitting}
  {p q : Stage QuizSitting} {cue : Cue}

/-! ### What is asked and what is answered -/

/-- The seconds for the current question, if they are limited. -/
def limit? (c : Setting) (s : QuizSitting) : Option Int :=
  (s.current?.map (limitOf c)).filter (0 < ·)

lemma limit?_eq_some_iff {n : Int} :
    limit? c s = some n ↔ ∃ q, s.current? = some q ∧ limitOf c q = n ∧ 0 < n := by
  simp only [limit?, Option.filter_eq_some_iff, Option.map_eq_some_iff, decide_eq_true_eq]
  exact ⟨fun ⟨⟨q, hq, hn⟩, h⟩ => ⟨q, hq, hn, h⟩, fun ⟨q, hq, hn, h⟩ => ⟨⟨q, hq, hn⟩, h⟩⟩

/-- How many questions have been answered. -/
def answeredCount (s : QuizSitting) : Nat := if s.showResult then s.index + 1 else s.index

/-- The report of an answer to a question. -/
def answerTo (q : QuizQuestion) (given : Value) (time : Int) : Report :=
  .answer q.id given (isCorrect q given) (if isCorrect q given then q.points else 0) time

/-- A report is that of an answer to a question. -/
def IsAnswerTo (q : QuizQuestion) (r : Report) : Prop := ∃ given time, r = answerTo q given time

/-- The stage at which the current question has come up. -/
def asked (c : Setting) (p : Stage QuizSitting) : Stage QuizSitting :=
  ({ p.1 with
      started := p.2.clock, showResult := false, lastResult := none, hintVisible := false },
    { p.2 with running := (limit? c p.1).map (.question, ·) })

/-- The stage at which a question has been answered. -/
def answered (c : Setting) (p : Stage QuizSitting) (q : QuizQuestion) (given : Value) (time : Int) :
    Stage QuizSitting :=
  ({ p.1 with showResult := true, lastResult := some (resultOf c q given) },
    { p.2 with reports := answerTo q given time :: p.2.reports, running := none })

/-! ### Scripts -/

lemma yields_ask {Q : Unit → Stage QuizSitting → Prop} (hrunning : p.2.running = none)
    (h : Q () (asked c p)) : (ask c).Yields c Q p := by
  refine yields_change_bind (yields_bind (yields_startClock (yields_state_bind ?_)))
  have hidle : ({ p.2 with running := none } : Surroundings) = p.2 := by rw [← hrunning]
  unfold asked limit? at h
  split
  case h_1 q hcurrent =>
    have hq : p.1.current? = some q := hcurrent
    by_cases hlimit : 0 < limitOf c q
    · simp only [hq, Option.map_some, Option.filter_some, hlimit, decide_true, if_true] at h ⊢
      exact yields_arm hrunning h
    · simp only [hq, Option.map_some, Option.filter_some, hlimit, decide_false, if_false,
        Bool.false_eq_true, Option.map_none, hidle] at h ⊢
      exact yields_pure h
  case h_2 hcurrent =>
    have hq : p.1.current? = none := hcurrent
    simp only [hq, Option.map_none, Option.filter_none, hidle] at h
    exact yields_pure h

/-- Answering is refused unless the current question waits for an answer. -/
lemma yields_submit {given : Value} {Q : Option QuizResult → Stage QuizSitting → Prop}
    (hfinite : (p.2.clock - p.1.started).isFinite = true)
    (hrunning : ∀ a left, p.2.running = some (a, left) → a = .question)
    (hasking : p.1.completed = false → ∃ q, p.1.current? = some q)
    (hrefused : p.1.completed = true ∨ p.1.showResult = true → Q none p)
    (hanswered : ∀ q time, p.1.completed = false → p.1.showResult = false →
      p.1.current? = some q → Q (some (resultOf c q given)) (answered c p q given time)) :
    (submit c given).Yields c Q p := by
  refine yields_unlessCompleted (fun hdone => hrefused (.inl hdone)) fun hopen =>
    yields_state_bind ?_
  obtain ⟨q, hq⟩ := hasking hopen
  simp only [hq]
  cases hshow : p.1.showResult with
  | true =>
    rw [if_pos rfl]
    exact yields_note_bind (yields_pure (hrefused (.inr hshow)))
  | false =>
    rw [if_neg Bool.false_ne_true]
    refine yields_bind (yields_cancel hrunning (yields_bind (yields_answer hfinite fun time => ?_)))
    exact yields_change_bind (yields_pure (hanswered q time hopen hshow hq))

/-- Play goes on only when the result is shown: to the next question, or to the end. -/
lemma yields_next {Q : Unit → Stage QuizSitting → Prop} (hrunning : p.1.showResult = true →
      p.2.running = none)
    (hrefused : p.1.completed = true ∨ p.1.showResult = false → Q () p)
    (hnext : p.1.completed = false → p.1.showResult = true → p.1.isLast = false →
      Q () (asked c ({ p.1 with index := p.1.index + 1 }, p.2)))
    (hfinish : p.1.completed = false → p.1.showResult = true → p.1.isLast = true →
      Q () ({ p.1 with completed := true }, { p.2 with reports := .complete :: p.2.reports })) :
    (next c).Yields c Q p := by
  refine yields_unlessCompleted (fun hdone => hrefused (.inl hdone)) fun hopen =>
    yields_state_bind ?_
  cases hshow : p.1.showResult with
  | false => exact yields_note (hrefused (.inr hshow))
  | true =>
    cases hlast : p.1.isLast with
    | true => exact yields_complete hopen (hfinish hopen hshow hlast)
    | false => exact yields_setState_bind (yields_ask (hrunning hshow) (hnext hopen hshow hlast))

/-- A hint is spent only if the hint is not shown. -/
lemma yields_useHint {Q : Option String → Stage QuizSitting → Prop} (hrefused : Q none p)
    (hspent : ∀ granted hint, p.1.hintVisible = false → Q hint
      ({ p.1 with hintVisible := granted }, { p.2 with reports := .hint granted :: p.2.reports })) :
    useHint.Yields c Q p :=
  yields_revealHint (fun s => s.current?.bind (·.hint)) (·.hintVisible)
    (fun granted s => { s with hintVisible := granted }) (fun h => by rw [← h]) hrefused hspent

/-! ### Turns -/

/-- A cue answers the current question: the player gives an answer, or the time has run out. -/
inductive Gives (p : Stage QuizSitting) : Cue → Value → Prop
  | submit (given : Value) : Gives p (.move (.submit given)) given
  | timeout {left : Int} (hrunning : p.2.running = some (.question, left)) (hleft : left ≤ 1) :
    Gives p .second .null

/-- A cue comes to nothing. -/
def Ignores (p : Stage QuizSitting) : Cue → Prop
  | .move (.submit _) => p.1.completed = true ∨ p.1.showResult = true
  | .move .next => p.1.completed = true ∨ p.1.showResult = false
  | .move _ => True
  | .second => p.2.running = none
  | .clock _ => False

/-- All that a cue can do. -/
inductive Turn (c : Setting) (p : Stage QuizSitting) : Cue → Stage QuizSitting → Prop
  | answer {cue : Cue} {q : QuizQuestion} {given : Value} (time : Int)
      (hopen : p.1.completed = false) (hasked : p.1.showResult = false)
      (hq : p.1.current? = some q) (hgives : Gives p cue given) :
    Turn c p cue (answered c p q given time)
  | next (hopen : p.1.completed = false) (hshown : p.1.showResult = true)
      (hlast : p.1.isLast = false) :
    Turn c p (.move .next) (asked c ({ p.1 with index := p.1.index + 1 }, p.2))
  | finish (hopen : p.1.completed = false) (hshown : p.1.showResult = true)
      (hlast : p.1.isLast = true) :
    Turn c p (.move .next)
      ({ p.1 with completed := true }, { p.2 with reports := .complete :: p.2.reports })
  | hint (granted : Bool) (hhidden : p.1.hintVisible = false) :
    Turn c p (.move .useHint)
      ({ p.1 with hintVisible := granted }, { p.2 with reports := .hint granted :: p.2.reports })
  | wait {left : Int} (hrunning : p.2.running = some (.question, left)) (hleft : 1 < left) :
    Turn c p .second (p.1, { p.2 with running := some (.question, left - 1) })
  | clock (time : Float) : Turn c p (.clock time) (p.1, { p.2 with clock := time })
  | ignore {cue : Cue} (h : Ignores p cue) : Turn c p cue p

/-- What holds at all stages of a quiz. -/
structure Sound (c : Setting) (questions : List QuizQuestion) (T : Float → Prop)
    (p : Stage QuizSitting) : Prop where
  clock : T p.2.clock
  started : T p.1.started
  presented : p.1.questions = questions
  counted : p.1.answeredCount ≤ p.1.questions.length
  asking : p.1.completed = false → ∃ q, p.1.current? = some q
  /-- Only the countdown of the question can be running. -/
  running : ∀ a left, p.2.running = some (a, left) → a = .question
  armed : p.2.running.isSome = true ↔
    p.1.completed = false ∧ p.1.showResult = false ∧ (limit? c p.1).isSome = true
  answered : List.Forall₂ IsAnswerTo (p.1.questions.take p.1.answeredCount) (answers p.2.reports)
  ended : ends p.2.reports = if p.1.completed then 1 else 0

/-- Where a question has come up after the ones before it have been answered, all holds. -/
lemma sound_asked (hclock : T p.2.clock) (hpresented : p.1.questions = questions)
    (hopen : p.1.completed = false) (hasking : ∃ q, p.1.current? = some q)
    (hanswered : List.Forall₂ IsAnswerTo (p.1.questions.take p.1.index) (answers p.2.reports))
    (hended : ends p.2.reports = 0) : Sound c questions T (asked c p) where
  clock := hclock
  started := hclock
  presented := hpresented
  counted := by
    obtain ⟨q, hq⟩ := hasking
    exact Nat.le_of_lt (List.getElem?_eq_some_iff.1 hq).1
  asking _ := hasking
  running a left h := by
    obtain ⟨n, -, hn⟩ := Option.map_eq_some_iff.1 h
    cases hn
    rfl
  armed := by
    rw [show (asked c p).2.running = (limit? c p.1).map (.question, ·) from rfl, Option.isSome_map]
    exact ⟨fun h => ⟨hopen, rfl, h⟩, fun h => h.2.2⟩
  answered := hanswered
  ended := by
    rw [show (asked c p).1.completed = false from hopen]
    exact hended

/-- What holds at all stages is kept. -/
lemma Turn.sound (h : Turn c p cue q) (hp : Sound c questions T p) (hcue : cue.Within T) :
    Sound c questions T q := by
  cases h with
  | @answer _ question given time hopen hasked hq hgives =>
    have hanswered := hp.answered
    rw [answeredCount, hasked, if_neg Bool.false_ne_true] at hanswered
    refine { hp with counted := ?_, running := nofun, armed := ?_, answered := ?_ }
    · exact (List.getElem?_eq_some_iff.1 hq).1
    · exact ⟨nofun, fun h => absurd h.2.1 (by simp [QuizSitting.answered])⟩
    · show List.Forall₂ IsAnswerTo (p.1.questions.take (p.1.index + 1))
        (Rehearsal.answers (answerTo question given time :: p.2.reports))
      rw [answerTo, answers_cons_answer]
      exact forall₂_answers_concat hanswered hq ⟨given, time, rfl⟩
  | next hopen hshown hlast =>
    have hanswered := hp.answered
    rw [answeredCount, hshown, if_pos rfl] at hanswered
    have hended := hp.ended
    rw [hopen] at hended
    refine sound_asked hp.clock hp.presented hopen ⟨_, List.getElem?_eq_getElem ?_⟩ hanswered hended
    simpa [isLast] using hlast
  | finish hopen hshown hlast =>
    have hended := hp.ended
    rw [hopen] at hended
    refine { hp with asking := nofun, armed := ?_, ended := ?_ }
    · rw [hp.armed, hshown]
      simp
    · simpa using hended
  | hint granted hhidden => exact { hp with }
  | wait hrunning hleft =>
    refine { hp with running := fun a left h => ?_, armed := ?_ }
    · cases h
      rfl
    · rw [← hp.armed, hrunning]
      rfl
  | clock time => exact { hp with clock := hcue }
  | ignore h => exact hp

/-! ### Cues -/

section

variable {w : Rehearsal} (hT : Steady T) (hw : w.Stands .quiz c p) (hp : Sound c questions T p)

include hT hw hp

/-- At a sound stage every move can be made. -/
lemma exists_turn_move (m : Move) :
    ∃ q v, (follow (.move m)).runIn w = (.ok (), v) ∧ v.Stands .quiz c q ∧
      Turn c p (.move m) q := by
  have hfinite : (p.2.clock - p.1.started).isFinite = true := hT.finite _ _ hp.started hp.clock
  have hidle (hshown : p.1.showResult = true) : p.2.running = none := by
    have harmed := hp.armed
    rw [hshown] at harmed
    simpa using harmed
  cases m with
  | submit given =>
    refine follow_move hw (y := _ <$> submit c given) rfl (yields_map ?_)
    refine yields_submit hfinite hp.running hp.asking (fun h => .ignore h) ?_
    exact fun q time hopen hasked hq => .answer time hopen hasked hq (.submit given)
  | next =>
    refine follow_move hw (y := _ <$> next c) rfl (yields_map ?_)
    exact yields_next hidle (fun h => .ignore h) .next .finish
  | useHint =>
    refine follow_move hw (y := _ <$> useHint) rfl (yields_map ?_)
    exact yields_useHint (.ignore trivial) fun granted _ hhidden => .hint granted hhidden
  | _ => exact ⟨p, w, follow_unknown hw rfl, hw, .ignore trivial⟩

/-- At a sound stage a second can go by. -/
lemma exists_turn_second :
    ∃ q v, (follow .second).runIn w = (.ok (), v) ∧ v.Stands .quiz c q ∧ Turn c p .second q := by
  have hfinite : (p.2.clock - p.1.started).isFinite = true := hT.finite _ _ hp.started hp.clock
  cases hrunning : p.2.running with
  | none => exact ⟨p, w, follow_second_of_idle hw hrunning, hw, .ignore hrunning⟩
  | some countdown =>
    obtain ⟨alarm, left⟩ := countdown
    obtain rfl := hp.running alarm left hrunning
    obtain ⟨hopen, hasked, -⟩ := hp.armed.1 (by rw [hrunning]; rfl)
    refine follow_second hw hrunning rfl (y := expire c) rfl (.wait hrunning) fun hlast => ?_
    obtain ⟨q, hq⟩ := hp.asking hopen
    refine yields_state_bind ?_
    simp only [hq]
    refine yields_note_bind (yields_bind ?_)
    -- The countdown has been taken out before it goes off, so this is not a sound stage itself.
    refine yields_submit (p := (p.1, { p.2 with running := none })) hfinite nofun hp.asking ?_ ?_
    · rintro (hdone | hshown)
      · exact absurd hdone (by simp [hopen])
      · exact absurd hshown (by simp [hasked])
    · intro q time hopen hasked hq
      exact yields_pure (.answer time hopen hasked hq (.timeout hrunning hlast))

end

/-- A quiz goes on from one sound stage to the next. -/
lemma proceeds (hT : Steady T) :
    Proceeds .quiz c (Cue.Within T) (Sound c questions T) (Turn c) where
  follow {w p cue} hw hp hcue := by
    cases cue with
    | clock time =>
      obtain ⟨v, hrun, hv⟩ := follow_clock hw time
      exact ⟨_, v, hrun, hv, .clock time⟩
    | second => exact exists_turn_second hT hw hp
    | move m => exact exists_turn_move hT hw hp m
  sound hp hturn hcue := hturn.sound hp hcue

/-! ### From one stage to another -/

/-- The current question has come up just now. -/
def IsFresh (c : Setting) (p : Stage QuizSitting) : Prop :=
  p.1.showResult = false ∧ p.2.running = (limit? c p.1).map (.question, ·)

lemma Turn.index_le (h : Turn c p cue q) : p.1.index ≤ q.1.index := by
  cases h with
  | next => exact Nat.le_succ _
  | _ => exact Nat.le_refl _

/-- The player goes on from the result of the current question. -/
def GoesOn (s : QuizSitting) (cue : Cue) : Prop :=
  cue = .move .next ∧ s.completed = false ∧ s.showResult = true

lemma Ignores.not_goesOn (h : Ignores p cue) : ¬GoesOn p.1 cue := by
  rintro ⟨rfl, hopen, hshown⟩
  rcases h with hdone | hasked
  · simp [hopen] at hdone
  · simp [hshown] at hasked

/-- The end is reported by going on from the last question, and by nothing else. -/
lemma Turn.ends_ne_iff (h : Turn c p cue q) : ends q.2.reports ≠ ends p.2.reports ↔
    GoesOn p.1 cue ∧ p.1.isLast = true := by
  cases h with
  | answer time hopen hasked hq hgives => simp [answered, answerTo, GoesOn, hasked]
  | next hopen hshown hlast => simp [asked, hlast]
  | finish hopen hshown hlast => simp [GoesOn, hopen, hshown, hlast]
  | hint granted hhidden => simp [GoesOn]
  | wait hrunning hleft => simp [GoesOn]
  | clock time => simp [GoesOn]
  | ignore hignores => exact iff_of_false (fun h => h rfl) fun h => hignores.not_goesOn h.1

/-- An answer is reported where a cue answers the question that waits for one, and nowhere else. -/
lemma Turn.answers_ne_iff (h : Turn c p cue q) :
    answers q.2.reports ≠ answers p.2.reports ↔
      p.1.completed = false ∧ p.1.showResult = false ∧ ∃ given, Gives p cue given := by
  cases h with
  | answer time hopen hasked hq hgives =>
    refine iff_of_true ?_ ⟨hopen, hasked, _, hgives⟩
    simp [answered, answerTo]
  | next hopen hshown hlast => simp [asked, hshown]
  | finish hopen hshown hlast => simp [hshown]
  | hint granted hhidden =>
    refine iff_of_false (fun h => h rfl) fun ⟨_, _, given, hgives⟩ => ?_
    cases hgives
  | wait hrunning hleft =>
    refine iff_of_false (fun h => h rfl) fun ⟨_, _, given, hgives⟩ => ?_
    cases hgives with
    | timeout hlast hleft' =>
      rw [hrunning] at hlast
      cases hlast
      omega
  | clock time =>
    refine iff_of_false (fun h => h rfl) fun ⟨_, _, given, hgives⟩ => ?_
    cases hgives
  | ignore hignores =>
    refine iff_of_false (fun h => h rfl) fun ⟨hopen, hasked, given, hgives⟩ => ?_
    cases hgives with
    | submit =>
      rcases hignores with hdone | hshown
      · simp [hopen] at hdone
      · simp [hasked] at hshown
    | timeout hrunning hleft =>
      rw [show p.2.running = none from hignores] at hrunning
      cases hrunning

/-- Sitting down to a quiz, its questions are put into some order and the first of them is next. -/
lemma exists_create (c : Setting) (z : Quiz) (started : Float) (dice : Dice) :
    ∃ questions, questions.Perm z.questions ∧
      (c.config.shuffleContent = false → questions = z.questions) ∧
      (StateT.run (create c z started) dice).1 =
        ⟨⟨false, started⟩, questions, 0, false, none, false⟩ := by
  unfold create
  split_ifs with hshuffle
  · exact ⟨_, Dice.perm_shuffle _ dice, fun h => absurd hshuffle (by simp [h]), rfl⟩
  · exact ⟨_, .refl _, fun _ => rfl, rfl⟩

/-- A quiz begins with its first question, or ends at once if there is none. -/
lemma yields_enter (hT : Steady T) {throws : Nat → Float} : (enter c).Yields c
    (fun _ p => Sound c questions T p ∧ IsFresh c p ∧ (ends p.2.reports = 1 ↔ questions = []))
    (⟨⟨false, 0⟩, questions, 0, false, none, false⟩, ⟨0, [], none, throws⟩) := by
  refine yields_state_bind ?_
  cases questions with
  | nil =>
    simp only [List.isEmpty_nil, if_true]
    refine yields_note_bind (yields_complete rfl ⟨?_, ⟨rfl, rfl⟩, by simp [ends]⟩)
    exact {
      clock := hT.zero
      started := hT.zero
      presented := rfl
      counted := Nat.le_refl 0
      asking := by simp
      running := by simp
      armed := by simp
      answered := .nil
      ended := rfl }
  | cons q rest =>
    simp only [List.isEmpty_cons, Bool.false_eq_true, if_false]
    refine yields_ask rfl ⟨?_, ⟨rfl, rfl⟩, by simp [asked, ends]⟩
    exact sound_asked hT.zero rfl rfl ⟨q, rfl⟩ .nil rfl

/-! ### The conduct of a quiz -/

/-- What can be seen of a quiz that is played. -/
structure Standing (c : Setting) (questions : List QuizQuestion) (w : Rehearsal)
    (s : QuizSitting) : Prop where
  player : w.player = .quiz s
  presented : s.questions = questions
  counted : s.answeredCount ≤ questions.length
  /-- The first questions have been answered, each once and one after the other. -/
  answered : List.Forall₂ IsAnswerTo (questions.take s.answeredCount) (answers w.reports)
  /-- The countdown is running just while an answer is waited for and the time for it is limited. -/
  armed : (w.remaining? .question).isSome = true ↔
    s.completed = false ∧ s.showResult = false ∧ ∃ q, s.current? = some q ∧ 0 < limitOf c q
  ended : ends w.reports = if s.completed then 1 else 0

/-- The current question has come up by the last of some cues, or play has begun with it. -/
def ComesUp (w : Rehearsal) (cues : List Cue) : Prop :=
  cues = [] ∨ ∃ earlier cue r s, cues = earlier ++ [cue] ∧ (w.rehearsed earlier).player = .quiz r ∧
    (w.rehearsed cues).player = .quiz s ∧ r.index ≠ s.index

/-- How a quiz is conducted, its questions being asked in some order, while cues of some sort are
followed. -/
structure Conduct (c : Setting) (questions : List QuizQuestion) (T : Float → Prop)
    (w : Rehearsal) : Prop where
  begins : (Rehearsal.enter.runIn w).1 = .ok ()
  follows : ∀ {cues cue}, (∀ cue ∈ cues, cue.Within T) → cue.Within T →
    ((follow cue).runIn (w.rehearsed cues)).1 = .ok ()
  standing : ∀ {cues}, (∀ cue ∈ cues, cue.Within T) →
    ∃ s, Standing c questions (w.rehearsed cues) s
  /-- A question that waits for an answer gets one from the player or by its last second. -/
  answers_by : ∀ {cues cue s}, (∀ cue ∈ cues, cue.Within T) → cue.Within T →
    (w.rehearsed cues).player = .quiz s →
    (answers (w.rehearsed (cues ++ [cue])).reports ≠ answers (w.rehearsed cues).reports ↔
      s.completed = false ∧ s.showResult = false ∧ ((∃ given, cue = .move (.submit given)) ∨
        cue = .second ∧ ∃ left, (w.rehearsed cues).remaining? .question = some left ∧ left ≤ 1))
  /-- Play goes on to the next question from the result of one that is not the last. -/
  goes_on_by : ∀ {cues cue s}, (∀ cue ∈ cues, cue.Within T) → cue.Within T →
    (w.rehearsed cues).player = .quiz s →
    ∃ t, (w.rehearsed (cues ++ [cue])).player = .quiz t ∧
      ((GoesOn s cue ∧ s.isLast = false) ∧ t.index = s.index + 1 ∧ t.showResult = false ∨
        ¬(GoesOn s cue ∧ s.isLast = false) ∧ t.index = s.index)
  ends_at_once : ends (w.rehearsed []).reports = 1 ↔ questions = []
  /-- The end is reported by going on from the result of the last question, and by nothing else. -/
  ends_by_next : ∀ {cues cue s}, (∀ cue ∈ cues, cue.Within T) → cue.Within T →
    (w.rehearsed cues).player = .quiz s →
    (ends (w.rehearsed (cues ++ [cue])).reports ≠ ends (w.rehearsed cues).reports ↔
      GoesOn s cue ∧ s.isLast = true)
  /-- While a question stays, no more than one hint is spent. -/
  hints : ∀ {before since r s}, (∀ cue ∈ before ++ since, cue.Within T) →
    (w.rehearsed before).player = .quiz r → (w.rehearsed (before ++ since)).player = .quiz s →
    s.index = r.index →
    hintsSpent (w.rehearsed (before ++ since)).reports ≤ hintsSpent (w.rehearsed before).reports + 1
  /-- A question that has not been answered by the last of its seconds is then answered with
  nothing, and not before. -/
  times_out : ∀ {before since r s q}, (∀ cue ∈ before ++ since, cue.Within T) → ComesUp w before →
    (w.rehearsed before).player = .quiz r → (w.rehearsed (before ++ since)).player = .quiz s →
    s.index = r.index → s.showResult = false → s.current? = some q → 0 < limitOf c q →
    (seconds since : Int) < limitOf c q ∧
    (w.rehearsed (before ++ since)).remaining? .question = some (limitOf c q - seconds since) ∧
    ∃ t, (w.rehearsed (before ++ since ++ [.second])).player = .quiz t ∧ t.index = s.index ∧
      if (seconds since : Int) + 1 = limitOf c q then
        t.showResult = true ∧ ∃ time, answers (w.rehearsed (before ++ since ++ [.second])).reports =
          answers (w.rehearsed (before ++ since)).reports ++ [.answer q.id .null false 0 time]
      else t.showResult = false

/-- At a sound stage of a rehearsal a quiz stands as it should. -/
lemma Sound.standing {w : Rehearsal} (hp : Sound c questions T p) (hw : w.Stands .quiz c p) :
    Standing c questions w p.1 where
  player := hw.player
  presented := hp.presented
  counted := hp.presented ▸ hp.counted
  answered := by
    rw [hw.reports, ← hp.presented]
    exact hp.answered
  armed := by
    rw [hw.remaining? hp.running, Option.isSome_map, hp.armed, Option.isSome_iff_exists]
    simp [limit?_eq_some_iff]
  ended := by
    rw [hw.reports]
    exact hp.ended

section

variable {w : Rehearsal} (hT : Steady T) (hw : (w.rehearsed []).Stands .quiz c p)
  (hp : Sound c questions T p)

include hT hw hp

end

end LearningGame.Play.QuizSitting
