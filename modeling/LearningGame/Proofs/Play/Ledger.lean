import LearningGame.Proofs.Play.Act
import LearningGame.Play.Session.Ledger
import Mathlib.Algebra.Ring.Int.Defs

/-!
# The ledger of a session

What the answers that have been taken and the hints that have been granted say about the score, the
streak, the lives, the hints that are left and the inventory, and that every answer and every hint
keeps to it.
-/

namespace LearningGame.Play

open Content Schema Rules Act

/-! ### Accounts -/

/-- The part of a state that answers, hints and items change. -/
structure Account where
  score : Number
  streak : Int
  lives : Option Int
  hints : Int
  answers : List AnswerRecord
  inventory : List String

/-- The account of a state. -/
def GameState.account (s : GameState) : Account :=
  ⟨s.score, s.streak, s.lives, s.hints, s.answers, s.inventory⟩

/-- The length of the longest row of correct answers at the end. -/
def streakOf (answers : List AnswerRecord) : Nat :=
  (answers.reverse.takeWhile (·.isCorrect)).length

/-- The number of answers that are not correct. -/
def mistakesOf (answers : List AnswerRecord) : Nat := answers.countP (!·.isCorrect)

/-- The lives that are left after some answers, none if lives are not counted. -/
def livesAfter (g : Game) (answers : List AnswerRecord) : Option Int :=
  if g.config.lives ≤ 0 then none else some (max 0 (g.config.lives - mistakesOf answers))

/-! ### Points -/

/-- Whether an answer after others is at least the third correct one in a row, where that earns
points on top. -/
def EarnsBonus (g : Game) (answers : List AnswerRecord) (isCorrect : Bool) : Prop :=
  isCorrect = true ∧ 3 ≤ streakOf answers + 1 ∧ (Number.int 1).less g.scoring.streakMultiplier = true

instance (g : Game) (answers : List AnswerRecord) (isCorrect : Bool) :
    Decidable (EarnsBonus g answers isCorrect) :=
  inferInstanceAs (Decidable (_ ∧ _ ∧ _))

/-- The points on top: the base points times what the multiplier has above one, rounded down. -/
def bonusFor (g : Game) (base : Int) : Except Fault Int := do
  let rate ← g.scoring.streakMultiplier.sub (.int 1)
  let product ← (Number.int base).mul rate
  product.toFloor

/-- The points that are taken away for an answer. -/
def penaltyFor (g : Game) (isCorrect : Bool) : Int :=
  if isCorrect = false ∧ 0 < g.scoring.penaltyPerWrong then g.scoring.penaltyPerWrong else 0

/-- The points of an answer after others: the base points, with those on top exactly if the answer
earns them, less the penalty. -/
def pointsFor (g : Game) (answers : List AnswerRecord) (isCorrect : Bool) (base : Int) :
    Except Fault Int :=
  (if EarnsBonus g answers isCorrect then bonusFor g base else .ok 0).map fun bonus =>
    base + bonus - penaltyFor g isCorrect

/-- An answer that is taken with some points. -/
def Submission.record (x : Submission) (points : Int) : AnswerRecord :=
  ⟨x.sectionId, x.itemId, x.answer, x.isCorrect, x.timeSpent, .int points⟩

/-- An answer after others has the points that are due to it for some base points. -/
def IsDue (g : Game) (before : List AnswerRecord) (e : AnswerRecord) : Prop :=
  ∃ base points, pointsFor g before e.isCorrect base = .ok points ∧ e.points = .int points

/-! ### Ledgers -/

/-- An account that is told by its answers and the number of hints that have been granted. -/
structure IsLedger (g : Game) (granted : Nat) (a : Account) : Prop where
  score : ∃ points : List Int, a.answers.map (·.points) = points.map .int ∧ a.score = .int points.sum
  due : ∀ before e after, a.answers = before ++ e :: after → IsDue g before e
  streak : a.streak = streakOf a.answers
  lives : a.lives = livesAfter g a.answers
  hints : a.hints = (GameState.initial g).hints - granted
  hints_least : min 0 (GameState.initial g).hints ≤ a.hints
  inventory : a.inventory.Nodup

lemma streakOf_append (answers : List AnswerRecord) (e : AnswerRecord) :
    streakOf (answers ++ [e]) = if e.isCorrect then streakOf answers + 1 else 0 := by
  unfold streakOf
  rw [List.reverse_append, List.reverse_singleton, List.singleton_append, List.takeWhile_cons]
  split_ifs <;> simp

lemma mistakesOf_append (answers : List AnswerRecord) (e : AnswerRecord) :
    mistakesOf (answers ++ [e]) = mistakesOf answers + if e.isCorrect then 0 else 1 := by
  unfold mistakesOf
  rw [List.countP_append]
  cases h : e.isCorrect <;> simp [h]

/-- A mistake costs a life as long as there is one. -/
lemma livesAfter_append (g : Game) (answers : List AnswerRecord) (e : AnswerRecord) :
    livesAfter g (answers ++ [e]) =
      if e.isCorrect then livesAfter g answers
      else (livesAfter g answers).map fun n => if 0 < n then n - 1 else n := by
  unfold livesAfter
  rw [mistakesOf_append]
  by_cases hl : g.config.lives ≤ 0
  · simp [hl]
  · cases e.isCorrect
    · simp only [hl, if_false, Bool.false_eq_true, Option.map_some, Option.some.injEq]
      split_ifs <;> omega
    · simp

/-- An account after a mistake. -/
def Account.loseLife (a : Account) : Account :=
  { a with lives := a.lives.map fun n => if 0 < n then n - 1 else n }

/-- An account with one more answer, which earns some points and makes for a score. -/
def Account.enter (a : Account) (x : Submission) (points score : Int) : Account :=
  let entered :=
    { a with
      answers := a.answers ++ [x.record points]
      score := .int score
      streak := if x.isCorrect then a.streak + 1 else 0 }
  if x.isCorrect then entered else entered.loseLife

namespace Account

variable (a : Account) (x : Submission) (points score : Int)

@[simp] lemma enter_answers : (a.enter x points score).answers = a.answers ++ [x.record points] := by
  unfold enter
  split_ifs <;> rfl

@[simp] lemma enter_score : (a.enter x points score).score = .int score := by
  unfold enter
  split_ifs <;> rfl

@[simp] lemma enter_streak :
    (a.enter x points score).streak = if x.isCorrect then a.streak + 1 else 0 := by
  unfold enter
  split_ifs <;> rfl

@[simp] lemma enter_lives :
    (a.enter x points score).lives =
      if x.isCorrect then a.lives else a.lives.map fun n => if 0 < n then n - 1 else n := by
  unfold enter
  split_ifs <;> rfl

@[simp] lemma enter_hints : (a.enter x points score).hints = a.hints := by
  unfold enter
  split_ifs <;> rfl

@[simp] lemma enter_inventory : (a.enter x points score).inventory = a.inventory := by
  unfold enter
  split_ifs <;> rfl

end Account

section Accounts

variable {g : Game} {granted : Nat} {a : Account}

lemma IsLedger.enter (h : IsLedger g granted a) (x : Submission) {base points score : Int}
    (hpoints : pointsFor g a.answers x.isCorrect base = .ok points) (hscore : a.score = .int score) :
    IsLedger g granted (a.enter x points (score + points)) where
  score := by
    obtain ⟨earned, hearned, hsum⟩ := h.score
    rw [hscore, Number.int.injEq] at hsum
    exact ⟨earned ++ [points], by simp [hearned, Submission.record], by simp [hsum]⟩
  due := by
    intro before e after hanswers
    rw [Account.enter_answers] at hanswers
    -- The last answer is the new one, any other was there before.
    rcases List.eq_nil_or_concat after with rfl | ⟨rest, last, rfl⟩
    · obtain ⟨rfl, he⟩ := List.append_inj' hanswers rfl
      rw [List.singleton_inj] at he
      exact he ▸ ⟨base, points, hpoints, rfl⟩
    · rw [List.concat_eq_append, ← List.cons_append, ← List.append_assoc] at hanswers
      exact h.due before e rest (List.append_inj' hanswers rfl).1
  streak := by
    rw [Account.enter_streak, Account.enter_answers, streakOf_append, h.streak]
    show _ = ((if x.isCorrect then streakOf a.answers + 1 else 0 : Nat) : Int)
    split_ifs <;> simp
  lives := by
    rw [Account.enter_lives, Account.enter_answers, livesAfter_append, h.lives]
    rfl
  hints := by rw [Account.enter_hints, h.hints]
  hints_least := by
    rw [Account.enter_hints]
    exact h.hints_least
  inventory := by
    rw [Account.enter_inventory]
    exact h.inventory

lemma IsLedger.grant (h : IsLedger g granted a) (hpos : 0 < a.hints) :
    IsLedger g (granted + 1) { a with hints := a.hints - 1 } where
  score := h.score
  streak := h.streak
  lives := h.lives
  due := h.due
  hints := by
    show a.hints - 1 = _
    rw [h.hints]
    push_cast
    omega
  hints_least := by
    show _ ≤ a.hints - 1
    omega
  inventory := h.inventory

lemma IsLedger.withInventory (h : IsLedger g granted a) {inventory : List String}
    (hn : inventory.Nodup) : IsLedger g granted { a with inventory } :=
  { h with inventory := hn }

end Accounts

/-- The points that an answer earns are those for an answer after the ones that have been taken. -/
lemma earned_eq_pointsFor (g : Game) (answers : List AnswerRecord) (isCorrect : Bool) (base : Int) :
    earned g.scoring isCorrect (.int base) (if isCorrect then streakOf answers + 1 else 0) =
      (pointsFor g answers isCorrect base).map .int := by
  have hbonus : bonusOf g.scoring isCorrect (.int base)
      (if isCorrect then streakOf answers + 1 else 0) =
        if EarnsBonus g answers isCorrect then bonusFor g base else .ok 0 := by
    unfold bonusOf EarnsBonus bonusStreak bonusFor
    cases isCorrect with
    | false => simp
    | true =>
      have hstreak : (3 : Int) ≤ (streakOf answers : Int) + 1 ↔ 3 ≤ streakOf answers + 1 := by omega
      simp [hstreak]
  unfold earned pointsFor penaltyFor
  rw [hbonus]
  cases (if EarnsBonus g answers isCorrect then bonusFor g base else .ok 0) with
  | error e => rfl
  | ok bonus =>
    cases isCorrect <;> by_cases hp : 0 < g.scoring.penaltyPerWrong <;>
      simp [Bind.bind, Except.bind, pure, Except.pure, Except.map, hp]

end LearningGame.Play
