import LearningGame.Proofs.Play.Rehearsing
import LearningGame.Proofs.Rules.Points

/-!
# Facing a challenge

A challenge is over as soon as all prompts have been answered, the budget of mistakes has been spent
or the time has run out. Until then every answer that is not blank is one to the next prompt. So all
that is to be known of a challenge can be told from what has happened until it was over.
-/

namespace LearningGame.Play.ChallengeSitting

open Content Schema Rules Script Rehearsal
open Number (IsSmall)

variable {c : Setting} {z : Challenge} {T : Float → Prop} {s t : ChallengeSitting}
  {x : Surroundings} {p q : Stage ChallengeSitting} {cues : List Cue} {cue : Cue}
  {item : ChallengeItem} {v : Value}

/-! ### Marks -/

/-- An answer to a prompt, and the time that was left when it was given. -/
structure Mark where
  item : ChallengeItem
  given : Value
  left : Int

/-- Whether the answer is the expected one. -/
def Mark.isCorrect (m : Mark) : Bool := sameAnswer m.given.text m.item.answer.toValue.text

/-- What the answer is worth after some correct ones in a row. -/
def Mark.worth (limit : Int) (streak : Nat) (m : Mark) : Int :=
  match challengePoints m.item streak m.left limit with
  | .ok n => n
  | .error _ => 0

/-- How many answers in a row are correct after some marks, and after some correct ones before. -/
def streakAfter (streak : Nat) : List Mark → Nat
  | [] => streak
  | m :: rest => streakAfter (if m.isCorrect then streak + 1 else 0) rest

/-- What the correct ones among some answers are worth together, after some correct ones before. -/
def total (limit : Int) (streak : Nat) : List Mark → Int
  | [] => 0
  | m :: rest =>
    if m.isCorrect then m.worth limit streak + total limit (streak + 1) rest
    else total limit 0 rest

/-- The number of wrong answers. -/
def wrong (marks : List Mark) : Nat := marks.countP fun m => !m.isCorrect

lemma streakAfter_concat (streak : Nat) (marks : List Mark) (m : Mark) :
    streakAfter streak (marks ++ [m]) =
      if m.isCorrect then streakAfter streak marks + 1 else 0 := by
  induction marks generalizing streak with
  | nil => rw [List.nil_append, streakAfter, streakAfter, streakAfter]
  | cons first rest ih => rw [List.cons_append, streakAfter, streakAfter, ih]

lemma total_concat (limit : Int) (streak : Nat) (marks : List Mark) (m : Mark) :
    total limit streak (marks ++ [m]) =
      total limit streak marks +
        if m.isCorrect then m.worth limit (streakAfter streak marks) else 0 := by
  induction marks generalizing streak with
  | nil =>
    rw [List.nil_append, total, total, total, total]
    split_ifs
    · rw [Int.add_zero, Int.zero_add]
      rfl
    · rfl
  | cons first rest ih =>
    rw [List.cons_append, total, total, streakAfter, ih, ih]
    split_ifs <;> simp [Int.add_assoc]

lemma wrong_concat (marks : List Mark) (m : Mark) :
    wrong (marks ++ [m]) = wrong marks + if m.isCorrect then 0 else 1 := by
  rw [wrong, List.countP_append, List.countP_singleton]
  cases m.isCorrect <;> rfl

/-! ### What has happened -/

/-- The time that is left after some cues. It stays as it is if there is no limit. -/
def timeLeft (z : Challenge) (cues : List Cue) : Int :=
  if 0 < z.timeLimit then z.timeLimit - seconds cues else z.timeLimit

/-- The answer that is given by a cue after some others, unless it is blank, with the time that is
left. -/
def given? (z : Challenge) (before : List Cue) : Cue → Option (Value × Int)
  | .move (.answer v) => if isBlank v then none else some (v, timeLeft z before)
  | _ => none

/-- The answers that are given by some cues after some others. -/
def givenAfter (z : Challenge) (before : List Cue) : List Cue → List (Value × Int)
  | [] => []
  | cue :: rest => (given? z before cue).toList ++ givenAfter z (before ++ [cue]) rest

/-- The first answer is one to the first prompt, the second one to the second, and so on. -/
def marks (z : Challenge) (cues : List Cue) : List Mark :=
  List.zipWith (fun item g => ⟨item, g.1, g.2⟩) z.items (givenAfter z [] cues)

/-- After some cues all prompts have been answered, of which there may be none, the budget of
mistakes has been spent, or the time has run out. -/
def IsSpent (z : Challenge) (cues : List Cue) : Prop :=
  z.items.length ≤ (marks z cues).length ∨
    (0 < z.maxMistakes ∧ z.maxMistakes ≤ wrong (marks z cues)) ∨
    (0 < z.timeLimit ∧ z.timeLimit ≤ seconds cues)

instance (z : Challenge) (cues : List Cue) : Decidable (IsSpent z cues) :=
  inferInstanceAs (Decidable (_ ∨ _ ∨ _))

/-- The cues that count: those until the challenge is over. -/
def counted (z : Challenge) (cues : List Cue) : List Cue :=
  cues.foldl (fun played cue => if IsSpent z played then played else played ++ [cue]) []

lemma counted_concat (z : Challenge) (cues : List Cue) (cue : Cue) :
    counted z (cues ++ [cue]) =
      if IsSpent z (counted z cues) then counted z cues else counted z cues ++ [cue] := by
  rw [counted, List.foldl_append]
  rfl

/-- As long as the challenge is not over, all cues count. -/
lemma counted_eq_self (h : ¬IsSpent z (counted z cues)) : counted z cues = cues := by
  induction cues using List.reverseRecOn with
  | nil => rfl
  | append_singleton cues cue ih =>
    rw [counted_concat] at h ⊢
    split_ifs at h ⊢ with hspent
    · exact absurd hspent h
    · rw [ih hspent]

lemma counted_prefix (z : Challenge) (cues : List Cue) : counted z cues <+: cues := by
  induction cues using List.reverseRecOn with
  | nil => exact List.nil_prefix
  | append_singleton cues cue ih =>
    rw [counted_concat]
    split_ifs with hspent
    · exact ih.trans (List.prefix_append _ _)
    · rw [counted_eq_self hspent]

/-- It is over as soon as something is spent. -/
lemma isSpent_counted_iff :
    IsSpent z (counted z cues) ↔ ∃ played, played <+: cues ∧ IsSpent z played := by
  refine ⟨fun h => ⟨_, counted_prefix z cues, h⟩, ?_⟩
  rintro ⟨played, hplayed, hspent⟩
  induction cues using List.reverseRecOn with
  | nil =>
    rw [List.prefix_nil.1 hplayed] at hspent
    exact hspent
  | append_singleton cues cue ih =>
    rw [counted_concat]
    split_ifs with hbefore
    · exact hbefore
    · rcases List.prefix_concat_iff.1 hplayed with rfl | hplayed
      · rwa [counted_eq_self hbefore]
      · exact absurd (ih hplayed) hbefore

lemma givenAfter_concat (z : Challenge) (before cues : List Cue) (cue : Cue) :
    givenAfter z before (cues ++ [cue]) =
      givenAfter z before cues ++ (given? z (before ++ cues) cue).toList := by
  induction cues generalizing before with
  | nil => simp [givenAfter]
  | cons first rest ih => simp [givenAfter, ih]

lemma zipWith_concat {α β γ : Type} {f : α → β → γ} {as : List α} {bs : List β} {a : α}
    (ha : as[bs.length]? = some a) (b : β) :
    List.zipWith f as (bs ++ [b]) = List.zipWith f as bs ++ [f a b] := by
  induction bs generalizing as with
  | nil =>
    cases as with
    | nil => cases ha
    | cons first rest =>
      obtain rfl := Option.some.inj ha
      simp
  | cons second others ih =>
    cases as with
    | nil => cases ha
    | cons first rest => exact congrArg (f first second :: ·) (ih ha)

lemma marks_concat_of_none (h : given? z cues cue = none) :
    marks z (cues ++ [cue]) = marks z cues := by
  rw [marks, givenAfter_concat, List.nil_append, h, Option.toList_none, List.append_nil, marks]

lemma marks_concat_answer (hblank : isBlank v = false)
    (hitem : z.items[(marks z cues).length]? = some item) :
    marks z (cues ++ [.move (.answer v)]) = marks z cues ++ [⟨item, v, timeLeft z cues⟩] := by
  have hlength : (marks z cues).length = (givenAfter z [] cues).length := by
    have hlt := (List.getElem?_eq_some_iff.1 hitem).1
    rw [marks, List.length_zipWith] at hlt ⊢
    omega
  rw [marks, givenAfter_concat, List.nil_append, given?, hblank]
  exact zipWith_concat (hlength ▸ hitem) _

/-- Count the answer to a prompt. -/
def credited (s : ChallengeSitting) (m : Mark) : ChallengeSitting :=
  if m.isCorrect then
    { s with
      score := s.score + m.worth s.content.timeLimit s.streak
      streak := s.streak + 1
      feedback := some "correct" }
  else { s with mistakes := s.mistakes + 1, streak := 0, feedback := some "wrong" }

/-- There is no prompt to go on to, or no budget for it. -/
def IsDone (s : ChallengeSitting) : Prop :=
  (0 < s.content.maxMistakes ∧ s.content.maxMistakes ≤ s.mistakes) ∨
    s.content.items.length ≤ s.index + 1

/-- The score is as high as it should be. -/
def hasPassed (s : ChallengeSitting) : Bool := decide (s.content.targetScore ≤ s.score)

/-- The report of the outcome. -/
def outcomeReport (c : Setting) (s : ChallengeSitting) (time : Int) (passed : Bool) : Report :=
  .answer c.sectionId
    (.map [("score", .int s.score), ("mistakes", .int s.mistakes), ("timeSpent", .int time)])
    passed s.score time

/-- The challenge is over, and that has been reported. -/
def finished (c : Setting) (p : Stage ChallengeSitting) (time : Int) : Stage ChallengeSitting :=
  ({ p.1 with won := some p.1.hasPassed },
    { p.2 with running := none, reports := outcomeReport c p.1 time p.1.hasPassed :: p.2.reports })

/-- The mark of an answer that is given now. -/
def mark (s : ChallengeSitting) (item : ChallengeItem) (v : Value) : Mark :=
  ⟨item, v, s.timeRemaining⟩

/-- A cue comes to nothing. -/
def Ignores (p : Stage ChallengeSitting) : Cue → Prop
  | .move (.answer v) => p.1.won ≠ none ∨ isBlank v = true
  | .move .goOn => p.1.won = none ∨ p.1.completed = true
  | .second => p.2.running = none
  | .clock _ => False
  | _ => True

/-- All that a cue can do. -/
inductive Turn (c : Setting) (p : Stage ChallengeSitting) : Cue → Stage ChallengeSitting → Prop
  | next {v : Value} {item : ChallengeItem} (hopen : p.1.won = none) (hblank : isBlank v = false)
      (hitem : p.1.current? = some item) (hmore : ¬(p.1.credited (p.1.mark item v)).IsDone) :
    Turn c p (.move (.answer v))
      ({ p.1.credited (p.1.mark item v) with index := p.1.index + 1 }, p.2)
  | last {v : Value} {item : ChallengeItem} (time : Int) (hopen : p.1.won = none)
      (hblank : isBlank v = false) (hitem : p.1.current? = some item)
      (hlast : (p.1.credited (p.1.mark item v)).IsDone) :
    Turn c p (.move (.answer v)) (finished c (p.1.credited (p.1.mark item v), p.2) time)
  | wait {left : Int} (hopen : p.1.won = none) (hrunning : p.2.running = some (.challenge, left))
      (hmore : 1 < left) :
    Turn c p .second ({ p.1 with timeRemaining := left - 1 },
      { p.2 with running := some (.challenge, left - 1) })
  | timeout {left : Int} (time : Int) (hopen : p.1.won = none)
      (hrunning : p.2.running = some (.challenge, left)) (hlast : left ≤ 1) :
    Turn c p .second (finished c ({ p.1 with timeRemaining := left - 1 }, p.2) time)
  | leave (hover : p.1.won ≠ none) (hopen : p.1.completed = false) :
    Turn c p (.move .goOn)
      ({ p.1 with completed := true }, { p.2 with reports := .complete :: p.2.reports })
  | clock (time : Float) : Turn c p (.clock time) (p.1, { p.2 with clock := time })
  | ignore {cue : Cue} (h : Ignores p cue) : Turn c p cue p

/-- The points of all answers to a challenge can be worked out. -/
structure IsPriced (z : Challenge) : Prop where
  limit : IsSmall z.timeLimit
  points : ∀ item ∈ z.items, IsSmall item.points

lemma IsPriced.challengePoints_eq (hz : IsPriced z) {m : Mark} (hm : m.item ∈ z.items)
    (streak : Nat) : challengePoints m.item streak m.left z.timeLimit =
      .ok (m.worth z.timeLimit streak) := by
  obtain ⟨n, hn⟩ := exists_challengePoints (hz.points m.item hm) hz.limit streak m.left
  rw [Mark.worth, hn]

lemma isOver_iff : s.isOver = true ↔ s.won ≠ none := Option.isSome_iff_ne_none

lemma yields_finish {reason : String} {Q : Unit → Stage ChallengeSitting → Prop}
    (hopen : p.1.won = none) (hrunning : ∀ a left, p.2.running = some (a, left) → a = .challenge)
    (hfinite : (p.2.clock - p.1.started).isFinite = true) (h : ∀ time, Q () (finished c p time)) :
    (finish c reason).Yields c Q p := by
  refine yields_state_bind ?_
  rw [if_neg fun hover => isOver_iff.1 hover hopen]
  refine yields_bind (yields_cancel hrunning (yields_setState_bind ?_))
  refine yields_bind (yields_elapsed hfinite fun time => ?_)
  exact yields_bind (yields_report (yields_note (h time)))

/-- A correct answer is credited with what it is worth. -/
lemma yields_credit (hz : IsPriced s.content) (hitem : item ∈ s.content.items)
    {Q : Unit → Stage ChallengeSitting → Prop} (h : Q () (s.credited (s.mark item v), x)) :
    (credit item (s.mark item v).isCorrect).Yields c Q (s, x) := by
  refine yields_state_bind ?_
  unfold credited at h
  split_ifs at h ⊢ with hcorrect
  · exact yields_lift_bind (hz.challengePoints_eq (m := s.mark item v) hitem s.streak)
      (yields_setState h)
  · exact yields_setState h

/-- After an answer the next prompt is asked if there is one, and a budget for it. -/
lemma yields_advance {Q : Unit → Stage ChallengeSitting → Prop} (hopen : p.1.won = none)
    (hrunning : ∀ a left, p.2.running = some (a, left) → a = .challenge)
    (hfinite : (p.2.clock - p.1.started).isFinite = true)
    (hnext : ¬p.1.IsDone → Q () ({ p.1 with index := p.1.index + 1 }, p.2))
    (hlast : p.1.IsDone → ∀ time, Q () (finished c p time)) : (advance c).Yields c Q p := by
  refine yields_state_bind ?_
  simp only [Bool.and_eq_true, decide_eq_true_eq]
  split_ifs with hspent hanswered
  · exact yields_finish hopen hrunning hfinite (hlast (.inl hspent))
  · exact yields_finish hopen hrunning hfinite (hlast (.inr hanswered))
  · exact yields_setState (hnext fun hdone => hdone.elim hspent hanswered)

/-- Only the score, the mistakes and the streak depend on the answer. -/
lemma credited_eq (s : ChallengeSitting) (m : Mark) : ∃ score mistakes streak feedback,
    s.credited m = { s with score, mistakes, streak, feedback } := by
  unfold credited
  split_ifs
  · exact ⟨_, _, _, _, rfl⟩
  · exact ⟨_, _, _, _, rfl⟩

@[simp] lemma completed_credited (s : ChallengeSitting) (m : Mark) :
    (s.credited m).completed = s.completed := by
  obtain ⟨score, mistakes, streak, feedback, heq⟩ := credited_eq s m
  rw [heq]

/-- An answer to the prompt that is asked grades it, and tells whether it was the expected one. -/
lemma yields_grade (hz : IsPriced p.1.content) (hopen : p.1.won = none)
    (hblank : isBlank v = false) (hindex : p.1.index < p.1.content.items.length)
    (hrunning : ∀ a left, p.2.running = some (a, left) → a = .challenge)
    (hfinite : (p.2.clock - p.1.started).isFinite = true) :
    (grade c v).Yields c (fun r q => Turn c p (.move (.answer v)) q ∧
      r = p.1.current?.map fun item => (p.1.mark item v).isCorrect) p := by
  obtain ⟨item, hitem⟩ : ∃ item, p.1.current? = some item := ⟨_, List.getElem?_eq_getElem hindex⟩
  have hmem : item ∈ p.1.content.items := List.mem_of_getElem? hitem
  have hnext := Turn.next (c := c) hopen hblank hitem
  have hlast (time : Int) := Turn.last (c := c) time hopen hblank hitem
  have hcredit {Q : Unit → Stage ChallengeSitting → Prop}
      (h : Q () (p.1.credited (p.1.mark item v), p.2)) :
      (credit item (p.1.mark item v).isCorrect).Yields c Q p := yields_credit hz hmem h
  obtain ⟨score, mistakes, streak, feedback, heq⟩ := credited_eq p.1 (p.1.mark item v)
  have hcorrect : (p.1.mark item v).isCorrect = sameAnswer v.text item.answer.toValue.text := rfl
  generalize p.1.credited (p.1.mark item v) = s at hnext hlast hcredit heq
  subst heq
  refine yields_state_bind ?_
  simp only [hitem, ← hcorrect, Option.map_some]
  refine yields_bind (hcredit (yields_bind ?_))
  exact yields_advance hopen hrunning hfinite (fun hmore => yields_pure ⟨hnext hmore, rfl⟩)
    fun hdone time => yields_pure ⟨hlast time hdone, rfl⟩

/-- An answer that counts tells whether it was the expected one. -/
lemma yields_answer (hz : IsPriced p.1.content)
    (hasking : p.1.won = none → p.1.index < p.1.content.items.length)
    (hended : p.1.completed = true → p.1.won ≠ none)
    (hrunning : ∀ a left, p.2.running = some (a, left) → a = .challenge)
    (hfinite : (p.2.clock - p.1.started).isFinite = true) :
    (answer c v).Yields c (fun r q => Turn c p (.move (.answer v)) q ∧
      (p.1.won = none → isBlank v = false →
        r = p.1.current?.map fun item => (p.1.mark item v).isCorrect)) p := by
  refine yields_unlessCompleted
    (fun hdone => ⟨.ignore (.inl (hended hdone)), fun hopen => absurd hopen (hended hdone)⟩)
    fun _ => yields_state_bind ?_
  split_ifs with hignored
  · rw [Bool.or_eq_true, isOver_iff] at hignored
    refine yields_pure ⟨.ignore hignored, fun hopen hblank => ?_⟩
    rcases hignored with hover | hblank'
    · exact absurd hopen hover
    · rw [hblank] at hblank'
      cases hblank'
  · rw [Bool.or_eq_true, isOver_iff, not_or, not_not, Bool.not_eq_true] at hignored
    obtain ⟨hopen, hblank⟩ := hignored
    refine (yields_grade hz hopen hblank (hasking hopen) hrunning hfinite).mono ?_
    exact fun r q h => ⟨h.1, fun _ _ => h.2⟩

lemma yields_leave : (leave c).Yields c (fun _ => Turn c p (.move .goOn)) p := by
  refine yields_state_bind ?_
  split_ifs with hover
  · rw [isOver_iff] at hover
    cases hdone : p.1.completed with
    | false => exact yields_complete hdone (.leave hover hdone)
    | true => exact yields_complete_again hdone (.ignore (.inr hdone))
  · rw [isOver_iff, not_not] at hover
    exact yields_note (.ignore (.inl hover))

/-! ### What holds throughout -/

/-- What holds at all stages of a challenge. -/
structure Sound (z : Challenge) (T : Float → Prop) (p : Stage ChallengeSitting) : Prop where
  clock : T p.2.clock
  started : T p.1.started
  presented : p.1.content = z
  /-- As long as the challenge goes on, its countdown does. -/
  running : p.2.running =
    if p.1.won = none ∧ 0 < z.timeLimit then some (.challenge, p.1.timeRemaining) else none
  asking : p.1.won = none → p.1.index < z.items.length
  ended : p.1.completed = true → p.1.won ≠ none
  reported : ends p.2.reports = p.1.completed.toNat

namespace Sound

variable (hp : Sound z T p)

include hp

lemma alarm_eq (a : Alarm) (left : Int) (h : p.2.running = some (a, left)) : a = .challenge := by
  rw [hp.running] at h
  split_ifs at h
  cases h
  rfl

lemma of_running {left : Int} (h : p.2.running = some (.challenge, left)) :
    p.1.won = none ∧ 0 < z.timeLimit ∧ p.1.timeRemaining = left := by
  rw [hp.running] at h
  split_ifs at h with hopen
  cases h
  exact ⟨hopen.1, hopen.2, rfl⟩

/-- Counting an answer changes nothing but the score, the mistakes and the streak. -/
lemma credited (m : Mark) : Sound z T (p.1.credited m, p.2) := by
  obtain ⟨score, mistakes, streak, feedback, heq⟩ := credited_eq p.1 m
  rw [heq]
  exact { hp with }

lemma finished (time : Int) : Sound z T (finished c p time) := {
  hp with
  running := (if_neg fun h => nomatch h.1).symm
  asking := nofun
  ended := fun _ => nofun
  reported := hp.reported }

lemma turn (h : Turn c p cue q) (hcue : cue.Within T) : Sound z T q := by
  cases h with
  | @next v item hopen hblank hitem hmore =>
    have hcredited := hp.credited (p.1.mark item v)
    obtain ⟨score, mistakes, streak, feedback, heq⟩ := credited_eq p.1 (p.1.mark item v)
    rw [heq] at hcredited hmore ⊢
    refine { hcredited with asking := fun _ => ?_ }
    have hrest := Nat.lt_of_not_le fun hlast => hmore (.inr hlast)
    rwa [← hp.presented]
  | @last v item time =>
    have hcredited := hp.credited (p.1.mark item v)
    obtain ⟨score, mistakes, streak, feedback, heq⟩ := credited_eq p.1 (p.1.mark item v)
    rw [heq] at hcredited ⊢
    exact hcredited.finished time
  | wait hopen hrunning hmore =>
    obtain ⟨-, hlimit, -⟩ := hp.of_running hrunning
    exact { hp with running := (if_pos ⟨hopen, hlimit⟩).symm }
  | timeout time => exact { hp.finished time with running := (if_neg fun h => nomatch h.1).symm }
  | leave hover hopen =>
    refine { hp with ended := fun _ => hover, reported := ?_ }
    rw [ends_cons_complete, hp.reported, hopen]
    rfl
  | clock time => exact { hp with clock := hcue }
  | ignore => exact hp

end Sound

/-- A second is taken off the time that is left, and the last one ends the challenge. -/
lemma exists_turn_second {w : Rehearsal} (hT : Steady T) (hw : w.Stands .challenge c p)
    (hp : Sound z T p) : ∃ q v, (follow .second).runIn w = (.ok (), v) ∧ v.Stands .challenge c q ∧
      Turn c p .second q := by
  cases hrunning : p.2.running with
  | none => exact ⟨p, w, follow_second_of_idle hw hrunning, hw, .ignore hrunning⟩
  | some running =>
    obtain ⟨alarm, left⟩ := running
    obtain rfl := hp.alarm_eq alarm left hrunning
    obtain ⟨hopen, -, -⟩ := hp.of_running hrunning
    refine follow_second_noting (t := { p.1 with timeRemaining := left - 1 }) hw hrunning
      (fun v => ?_) (y := expire c) rfl (.wait hopen hrunning) fun hlast => ?_
    · exact run_embed ..
    · exact yields_finish hopen nofun (hT.finite _ _ hp.started hp.clock) fun time =>
        .timeout time hopen hrunning hlast

/-- A challenge goes on from one sound stage to the next. -/
lemma proceeds (hT : Steady T) (hz : IsPriced z) :
    Proceeds .challenge c (Cue.Within T) (Sound z T) (Turn c) where
  follow {w p cue} hw hp hcue := by
    have hfinite : (p.2.clock - p.1.started).isFinite = true := hT.finite _ _ hp.started hp.clock
    cases cue with
    | clock time =>
      obtain ⟨v, hrun, hv⟩ := follow_clock hw time
      exact ⟨_, v, hrun, hv, .clock time⟩
    | second => exact exists_turn_second hT hw hp
    | move m =>
      cases m with
      | answer v =>
        refine follow_move hw (y := _ <$> answer c v) rfl (yields_map ?_)
        exact (yields_answer (hp.presented ▸ hz) (hp.presented ▸ hp.asking) hp.ended hp.alarm_eq
          hfinite).mono fun _ _ => And.left
      | goOn => exact follow_move hw (y := _ <$> leave c) rfl (yields_map yields_leave)
      | _ => exact ⟨p, w, follow_unknown hw rfl, hw, .ignore trivial⟩
  sound hp hturn hcue := hp.turn hturn hcue

/-! ### What can be told from the cues that count -/

/-- What has been reached is what the answers among some cues are worth. -/
structure Reckons (z : Challenge) (played : List Cue) (s : ChallengeSitting) : Prop where
  score : s.score = total z.timeLimit 0 (marks z played)
  mistakes : s.mistakes = wrong (marks z played)
  streak : s.streak = streakAfter 0 (marks z played)
  time : s.timeRemaining = timeLeft z played

/-- A challenge stands as is told from the cues that count. -/
structure Tallied (c : Setting) (z : Challenge) (cues : List Cue) (p : Stage ChallengeSitting) :
    Prop extends Reckons z (counted z cues) p.1 where
  index : p.1.won = none → p.1.index = (marks z (counted z cues)).length
  won : p.1.won = if IsSpent z (counted z cues) then some p.1.hasPassed else none
  answered : ∃ time, answers p.2.reports = p.1.won.toList.map (outcomeReport c p.1 time)

/-- A cue gives no answer, and takes no time that counts. -/
structure IsQuiet (z : Challenge) (cue : Cue) : Prop where
  none : ∀ before, given? z before cue = none
  still : 0 < z.timeLimit → seconds [cue] = 0

namespace IsQuiet

variable (h : IsQuiet z cue) (played : List Cue)

include h

lemma marks_concat : marks z (played ++ [cue]) = marks z played := marks_concat_of_none (h.none _)

lemma isSpent_concat_iff : IsSpent z (played ++ [cue]) ↔ IsSpent z played := by
  unfold IsSpent
  rw [h.marks_concat]
  refine or_congr_right (or_congr_right (and_congr_right fun hlimit => ?_))
  rw [seconds_concat, h.still hlimit, Nat.add_zero]

lemma timeLeft_concat : timeLeft z (played ++ [cue]) = timeLeft z played := by
  unfold timeLeft
  split_ifs with hlimit
  · rw [seconds_concat, h.still hlimit, Nat.add_zero]
  · rfl

end IsQuiet

namespace Tallied

variable (h : Tallied c z cues p)

include h

lemma not_isSpent (hopen : p.1.won = none) : ¬IsSpent z (counted z cues) := fun hspent => by
  rw [h.won, if_pos hspent] at hopen
  cases hopen

lemma answers_eq_nil (hopen : p.1.won = none) : answers p.2.reports = [] := by
  obtain ⟨time, hanswers⟩ := h.answered
  rw [hanswers, hopen]
  rfl

lemma counted_open (hopen : p.1.won = none) :
    counted z (cues ++ [cue]) = counted z cues ++ [cue] := by
  rw [counted_concat, if_neg (h.not_isSpent hopen)]

/-- What comes after the end does not count. -/
lemma of_over (hover : p.1.won ≠ none) : Tallied c z (cues ++ [cue]) p := by
  have hcounted : counted z (cues ++ [cue]) = counted z cues := by
    rw [counted_concat, if_pos]
    by_contra hnot
    exact hover (by rw [h.won, if_neg hnot])
  obtain ⟨hreckons, hindex, hwon, hanswered⟩ := h
  rw [← hcounted] at hreckons hindex hwon
  exact ⟨hreckons, hindex, hwon, hanswered⟩

/-- The challenge goes on as long as it is not over. -/
lemma goes_on {x : Surroundings} (hopen : p.1.won = none)
    (hreckons : Reckons z (counted z cues ++ [cue]) t)
    (hindex : t.index = (marks z (counted z cues ++ [cue])).length) (hwon : t.won = none)
    (hnot : ¬IsSpent z (counted z cues ++ [cue])) (hreports : x.reports = p.2.reports) :
    Tallied c z (cues ++ [cue]) (t, x) := by
  rw [← h.counted_open hopen] at hreckons hindex hnot
  refine ⟨hreckons, fun _ => hindex, ?_, 0, ?_⟩
  · rw [if_neg hnot]
    exact hwon
  · rw [hreports, h.answers_eq_nil hopen, hwon]
    rfl

/-- The end is reported when it has come. -/
lemma ends {x : Surroundings} (hopen : p.1.won = none)
    (hreckons : Reckons z (counted z cues ++ [cue]) t)
    (hspent : IsSpent z (counted z cues ++ [cue])) (hreports : x.reports = p.2.reports)
    (time : Int) : Tallied c z (cues ++ [cue]) (finished c (t, x) time) := by
  rw [← h.counted_open hopen] at hreckons hspent
  refine ⟨⟨hreckons.score, hreckons.mistakes, hreckons.streak, hreckons.time⟩, nofun, ?_, time, ?_⟩
  · rw [if_pos hspent]
    rfl
  · show answers (outcomeReport c t time t.hasPassed :: x.reports) = _
    rw [outcomeReport, answers_cons_answer, hreports, h.answers_eq_nil hopen]
    rfl

/-- A quiet cue does not matter. -/
lemma of_quiet (hquiet : IsQuiet z cue) : Tallied c z (cues ++ [cue]) p := by
  by_cases hopen : p.1.won = none
  · have hreckons : Reckons z (counted z cues ++ [cue]) p.1 := by
      constructor
      · rw [hquiet.marks_concat, h.score]
      · rw [hquiet.marks_concat, h.mistakes]
      · rw [hquiet.marks_concat, h.streak]
      · rw [hquiet.timeLeft_concat, h.time]
    have hindex : p.1.index = (marks z (counted z cues ++ [cue])).length := by
      rw [hquiet.marks_concat, h.index hopen]
    have hnot : ¬IsSpent z (counted z cues ++ [cue]) := by
      rw [hquiet.isSpent_concat_iff]
      exact h.not_isSpent hopen
    exact h.goes_on hopen hreckons hindex hopen hnot rfl
  · exact h.of_over hopen

end Tallied

lemma score_credited (s : ChallengeSitting) (m : Mark) : (s.credited m).score =
    s.score + if m.isCorrect then m.worth s.content.timeLimit s.streak else 0 := by
  unfold credited
  split_ifs
  · rfl
  · exact (Int.add_zero _).symm

lemma mistakes_credited (s : ChallengeSitting) (m : Mark) :
    (s.credited m).mistakes = s.mistakes + if m.isCorrect then 0 else 1 := by
  unfold credited
  split_ifs <;> rfl

lemma streak_credited (s : ChallengeSitting) (m : Mark) :
    (s.credited m).streak = if m.isCorrect then s.streak + 1 else 0 := by
  unfold credited
  split_ifs <;> rfl

section

variable (hp : Sound z T p) (h : Tallied c z cues p) (hopen : p.1.won = none)

include hp h hopen

/-- An answer to the prompt that is asked makes one more mark, and it is the last one if there is no
prompt or no budget left. -/
lemma reckons_credited (hblank : isBlank v = false) (hitem : p.1.current? = some item) :
    Reckons z (counted z cues ++ [.move (.answer v)]) (p.1.credited (p.1.mark item v)) ∧
      p.1.index + 1 = (marks z (counted z cues ++ [.move (.answer v)])).length ∧
      ((p.1.credited (p.1.mark item v)).IsDone ↔
        IsSpent z (counted z cues ++ [.move (.answer v)])) := by
  have hindex := h.index hopen
  have hmarks : marks z (counted z cues ++ [.move (.answer v)]) =
      marks z (counted z cues) ++ [p.1.mark item v] := by
    rw [current?, hp.presented, hindex] at hitem
    rw [marks_concat_answer hblank hitem, mark, h.time]
  have hseconds : seconds (counted z cues ++ [.move (.answer v)]) = seconds (counted z cues) := by
    rw [seconds_concat]
    rfl
  have hlength : p.1.index + 1 = (marks z (counted z cues ++ [.move (.answer v)])).length := by
    rw [hmarks, List.length_append, hindex]
    rfl
  have hscore := score_credited p.1 (p.1.mark item v)
  have hmistakes := mistakes_credited p.1 (p.1.mark item v)
  have hstreak := streak_credited p.1 (p.1.mark item v)
  rw [h.score, h.streak, hp.presented, ← total_concat, ← hmarks] at hscore
  rw [h.mistakes, ← wrong_concat, ← hmarks] at hmistakes
  rw [h.streak, ← streakAfter_concat, ← hmarks] at hstreak
  have hwaits : ¬(0 < z.timeLimit ∧ z.timeLimit ≤ seconds (counted z cues)) := fun hlate =>
    h.not_isSpent hopen (.inr (.inr hlate))
  obtain ⟨score, mistakes, streak, feedback, heq⟩ := credited_eq p.1 (p.1.mark item v)
  rw [heq] at hscore hmistakes hstreak ⊢
  refine ⟨⟨hscore, hmistakes, hstreak, ?_⟩, hlength, ?_⟩
  · rw [timeLeft, hseconds]
    exact h.time
  · show (0 < p.1.content.maxMistakes ∧ p.1.content.maxMistakes ≤ mistakes) ∨
      p.1.content.items.length ≤ p.1.index + 1 ↔ _
    rw [IsSpent, hseconds, or_iff_left hwaits, ← hlength, ← hmistakes, hp.presented, or_comm]

/-- A second takes time, and it is the last one if there is none left. -/
lemma reckons_second {left : Int} (hrunning : p.2.running = some (.challenge, left)) :
    Reckons z (counted z cues ++ [.second]) { p.1 with timeRemaining := left - 1 } ∧
      p.1.index = (marks z (counted z cues ++ [.second])).length ∧
      (left ≤ 1 ↔ IsSpent z (counted z cues ++ [.second])) := by
  obtain ⟨-, hlimit, hleft⟩ := hp.of_running hrunning
  have hmarks : marks z (counted z cues ++ [.second]) = marks z (counted z cues) :=
    marks_concat_of_none rfl
  have hseconds : seconds (counted z cues ++ [.second]) = seconds (counted z cues) + 1 :=
    seconds_concat ..
  have htime := h.time
  rw [hleft, timeLeft, if_pos hlimit] at htime
  refine ⟨⟨?_, ?_, ?_, ?_⟩, ?_, ?_⟩
  · rw [hmarks]
    exact h.score
  · rw [hmarks]
    exact h.mistakes
  · rw [hmarks]
    exact h.streak
  · show left - 1 = _
    rw [timeLeft, if_pos hlimit, hseconds]
    omega
  · rw [hmarks]
    exact h.index hopen
  · have hnot := h.not_isSpent hopen
    rw [IsSpent, not_or, not_or] at hnot
    rw [IsSpent, hmarks, or_iff_right hnot.1, or_iff_right hnot.2.1, and_iff_right hlimit, hseconds]
    omega

end

/-- What is ignored as long as the challenge goes on is quiet. -/
lemma Ignores.isQuiet (h : Ignores p cue) (hp : Sound z T p) (hopen : p.1.won = none) :
    IsQuiet z cue := by
  cases cue with
  | clock => exact h.elim
  | second =>
    refine ⟨fun _ => rfl, fun hlimit => ?_⟩
    have hrunning := hp.running
    rw [if_pos ⟨hopen, hlimit⟩, show p.2.running = none from h] at hrunning
    cases hrunning
  | move m =>
    refine ⟨fun before => ?_, fun _ => rfl⟩
    cases m with
    | answer v => rw [given?, h.resolve_left fun hover => hover hopen, if_pos rfl]
    | _ => rfl

/-- The tally of the cues that count is kept by all that a cue can do. -/
lemma Tallied.turn (h : Tallied c z cues p) (hp : Sound z T p) (hturn : Turn c p cue q) :
    Tallied c z (cues ++ [cue]) q := by
  cases hturn with
  | @next v item hopen hblank hitem hmore =>
    obtain ⟨hreckons, hindex, hdone⟩ := reckons_credited hp h hopen hblank hitem
    obtain ⟨score, mistakes, streak, feedback, heq⟩ := credited_eq p.1 (p.1.mark item v)
    rw [heq] at hreckons hdone hmore ⊢
    refine h.goes_on hopen ?_ hindex hopen (mt hdone.2 hmore) rfl
    exact ⟨hreckons.score, hreckons.mistakes, hreckons.streak, hreckons.time⟩
  | last time hopen hblank hitem hlast =>
    obtain ⟨hreckons, -, hdone⟩ := reckons_credited hp h hopen hblank hitem
    exact h.ends hopen hreckons (hdone.1 hlast) rfl time
  | wait hopen hrunning hmore =>
    obtain ⟨hreckons, hindex, hlate⟩ := reckons_second hp h hopen hrunning
    exact h.goes_on hopen hreckons hindex hopen (fun hspent => by have := hlate.2 hspent; omega) rfl
  | timeout time hopen hrunning hlast =>
    obtain ⟨hreckons, -, hlate⟩ := reckons_second hp h hopen hrunning
    exact h.ends hopen hreckons (hlate.1 hlast) rfl time
  | leave hover hopen =>
    have hsame : Tallied c z (cues ++ [.move .goOn]) p := h.of_over hover
    obtain ⟨hreckons, hindex, hwon, hanswered⟩ := hsame
    exact ⟨⟨hreckons.score, hreckons.mistakes, hreckons.streak, hreckons.time⟩, hindex, hwon,
      hanswered⟩
  | clock time =>
    have hquiet : IsQuiet z (.clock time) := ⟨fun _ => rfl, fun _ => rfl⟩
    exact { h.of_quiet hquiet with }
  | ignore hignores =>
    by_cases hopen : p.1.won = none
    · exact h.of_quiet (hignores.isQuiet hp hopen)
    · exact h.of_over hopen

/-! ### From one stage to another -/

namespace Turn

variable (h : Turn c p cue q)

include h

/-- After the end nothing changes but whether the section is finished. -/
lemma of_over (hover : p.1.won ≠ none) : q.1 = { p.1 with completed := q.1.completed } ∧
    answers q.2.reports = answers p.2.reports := by
  cases h with
  | next hopen => exact absurd hopen hover
  | last time hopen => exact absurd hopen hover
  | wait hopen => exact absurd hopen hover
  | timeout time hopen => exact absurd hopen hover
  | leave | clock | ignore => exact ⟨rfl, rfl⟩

/-- The section is finished by going on after the end. -/
lemma completed_iff : q.1.completed = true ↔
    p.1.completed = true ∨ (cue = .move .goOn ∧ p.1.won ≠ none) := by
  cases h with
  | next | last | wait | timeout | clock => simp [finished]
  | leave hover => exact iff_of_true rfl (.inr ⟨rfl, hover⟩)
  | ignore hignores =>
    refine ⟨.inl, ?_⟩
    rintro (hdone | ⟨rfl, hover⟩)
    · exact hdone
    · exact hignores.resolve_left hover

end Turn

section

variable {w : Rehearsal} (hT : Steady T) (hz : IsPriced z)
  (hw : (w.rehearsed []).Stands .challenge c p) (hp : Sound z T p) (hstart : Tallied c z [] p)

include hT hz hw hp hstart

end

/-- A challenge begins with the first prompt, and is over at once if there is none. -/
lemma yields_enter {Q : Unit → Stage ChallengeSitting → Prop} (hopen : p.1.won = none)
    (hrunning : p.2.running = none) (hfinite : (p.2.clock - p.1.started).isFinite = true)
    (hnone : p.1.content.items = [] → ∀ time, Q () (finished c p time))
    (hsome : p.1.content.items ≠ [] → Q () (p.1, { p.2 with
      running := if 0 < p.1.content.timeLimit then some (.challenge, p.1.content.timeLimit)
        else none })) :
    (enter c).Yields c Q p := by
  have hidle (a : Alarm) (left : Int) (h : p.2.running = some (a, left)) : a = .challenge := by
    rw [hrunning] at h
    cases h
  refine yields_state_bind ?_
  split_ifs with hempty hlimit
  · exact yields_finish hopen hidle hfinite (hnone (List.isEmpty_iff.1 hempty))
  · have hne := hsome fun h => hempty (List.isEmpty_iff.2 h)
    rw [if_pos hlimit] at hne
    exact yields_arm hrunning hne
  · have hne := hsome fun h => hempty (List.isEmpty_iff.2 h)
    rw [if_neg hlimit, ← hrunning] at hne
    exact yields_pure hne

lemma marks_nil (z : Challenge) : marks z [] = [] := List.zipWith_nil_right

lemma isSpent_nil_iff : IsSpent z [] ↔ z.items = [] := by
  rw [IsSpent, marks_nil, List.length_nil, Nat.le_zero, List.length_eq_zero_iff, or_iff_left]
  rintro (⟨hpos, hle⟩ | ⟨hpos, hle⟩)
  · exact absurd (Int.lt_of_lt_of_le hpos hle) (Int.lt_irrefl 0)
  · exact absurd (Int.lt_of_lt_of_le hpos hle) (Int.lt_irrefl 0)

lemma reckons_create (z : Challenge) (started : Float) : Reckons z [] (create z started) := by
  constructor
  · rw [marks_nil, total]
    rfl
  · rw [marks_nil]
    rfl
  · rw [marks_nil, streakAfter]
    rfl
  · show z.timeLimit = timeLeft z []
    unfold timeLeft
    split_ifs
    · exact (Int.sub_zero _).symm
    · rfl

/-- A challenge can be begun, with nothing to be told yet. -/
lemma exists_begun_create (hkind : c.kind = .challenge) (hT : Steady T) (dice : Dice)
    (plain : Bool) (hints : Int) (circumstances : Circumstances) :
    ∃ w, Rehearsal.create c (.challenge z) dice plain hints circumstances = .ok w ∧
      (Rehearsal.enter.runIn w).1 = .ok () ∧
      ∃ p, (w.rehearsed []).Stands .challenge c p ∧ Sound z T p ∧ Tallied c z [] p := by
  have hsit : (Player.sitDown c (.challenge z) 0).runIn dice =
      (.ok (.challenge (create z 0)), dice) := by
    unfold Player.sitDown
    rw [hkind]
    rfl
  have hreckons := reckons_create z 0
  refine exists_begun (y := enter c) (Q := fun p => Sound z T p ∧ Tallied c z [] p) hsit rfl
    (yields_enter rfl rfl (hT.finite _ _ hT.zero hT.zero) (fun hnone time => ?_) fun hsome => ?_)
    plain hints circumstances
  · constructor
    · exact {
        clock := hT.zero
        started := hT.zero
        presented := rfl
        running := (if_neg fun h => nomatch h.1).symm
        asking := nofun
        ended := nofun
        reported := rfl }
    · have hspent : IsSpent z (counted z []) := isSpent_nil_iff.2 hnone
      refine ⟨⟨hreckons.score, hreckons.mistakes, hreckons.streak, hreckons.time⟩, nofun, ?_,
        time, rfl⟩
      rw [if_pos hspent]
      rfl
  · constructor
    · exact {
        clock := hT.zero
        started := hT.zero
        presented := rfl
        running := if_congr (and_iff_right rfl).symm rfl rfl
        asking := fun _ => List.length_pos_iff.2 hsome
        ended := nofun
        reported := rfl }
    · have hnot : ¬IsSpent z (counted z []) := fun hspent => hsome (isSpent_nil_iff.1 hspent)
      refine ⟨hreckons, fun _ => ?_, ?_, 0, rfl⟩
      · exact (congrArg List.length (marks_nil z)).symm
      · rw [if_neg hnot]
        rfl

/-! ### The conduct of a challenge -/

/-- What can be seen of a challenge in which some cues have been followed. -/
structure Standing (c : Setting) (z : Challenge) (w : Rehearsal) (cues : List Cue)
    (s : ChallengeSitting) : Prop extends Reckons z (counted z cues) s where
  player : w.player = .challenge s
  /-- It is over once all prompts have been answered, the budget of mistakes has been spent or the
  time has run out. -/
  over_iff : s.won ≠ none ↔ ∃ played, played <+: cues ∧ IsSpent z played
  /-- It has been passed then if the score is as high as it should be. -/
  passed : ∀ passed, s.won = some passed → (passed = true ↔ z.targetScore ≤ s.score)
  /-- Until then there is a prompt, and a budget for it. -/
  asking : s.won = none → s.index = (marks z cues).length ∧ s.index < z.items.length ∧
    (0 < z.maxMistakes → s.mistakes < z.maxMistakes)
  /-- The outcome has been reported once it is over, and nothing has been before that. -/
  answered : ∃ time, answers w.reports = s.won.toList.map (outcomeReport c s time)
  ended : ends w.reports = s.completed.toNat

/-- How a challenge is conducted while cues of some sort are followed. -/
structure Conduct (c : Setting) (z : Challenge) (T : Float → Prop) (w : Rehearsal) : Prop where
  begins : (Rehearsal.enter.runIn w).1 = .ok ()
  follows : ∀ {cues cue}, (∀ cue ∈ cues, cue.Within T) → cue.Within T →
    ((follow cue).runIn (w.rehearsed cues)).1 = .ok ()
  standing : ∀ {cues}, (∀ cue ∈ cues, cue.Within T) →
    ∃ s, Standing c z (w.rehearsed cues) cues s
  /-- What an answer is worth can be worked out. -/
  priced : ∀ {cues m} (streak : Nat), m ∈ marks z cues →
    challengePoints m.item streak m.left z.timeLimit = .ok (m.worth z.timeLimit streak)
  /-- After the end nothing changes but whether the section is finished. -/
  rests : ∀ {before since s t}, (∀ cue ∈ before ++ since, cue.Within T) →
    (w.rehearsed before).player = .challenge s →
    (w.rehearsed (before ++ since)).player = .challenge t → s.won ≠ none →
    t = { s with completed := t.completed } ∧
      answers (w.rehearsed (before ++ since)).reports = answers (w.rehearsed before).reports
  /-- The section is finished by going on after the end. -/
  completes : ∀ {cues cue s t}, (∀ cue ∈ cues, cue.Within T) → cue.Within T →
    (w.rehearsed cues).player = .challenge s →
    (w.rehearsed (cues ++ [cue])).player = .challenge t →
    (t.completed = true ↔ s.completed = true ∨ (cue = .move .goOn ∧ s.won ≠ none))

/-- What is told from the cues that count can be seen. -/
lemma Tallied.standing {w : Rehearsal} (h : Tallied c z cues p) (hp : Sound z T p)
    (hw : w.Stands .challenge c p) : Standing c z w cues p.1 := by
  have hover : p.1.won ≠ none ↔ IsSpent z (counted z cues) := by
    rw [h.won]
    split_ifs with hspent <;> simp [hspent]
  refine { h with
    player := hw.player, over_iff := hover.trans isSpent_counted_iff, passed := ?_, asking := ?_,
    answered := hw.reports ▸ h.answered, ended := hw.reports ▸ hp.reported }
  · intro passed hpassed
    rw [h.won] at hpassed
    split_ifs at hpassed
    obtain rfl := Option.some.inj hpassed
    rw [hasPassed, hp.presented, decide_eq_true_iff]
  · intro hopen
    have hnot := h.not_isSpent hopen
    refine ⟨?_, hp.asking hopen, fun hbudget => ?_⟩
    · rw [h.index hopen, counted_eq_self hnot]
    · rw [IsSpent, not_or, not_or, not_and, ← h.mistakes] at hnot
      exact Int.lt_of_not_ge (hnot.2.1 hbudget)

/-- The setting of a challenge. -/
def contest : Setting :=
  ⟨"c1", .challenge,
    ⟨"challenge", [], 0, 0, true, true, true, 3, 0, false, "immediate", true⟩, 10, 5⟩

end LearningGame.Play.ChallengeSitting
