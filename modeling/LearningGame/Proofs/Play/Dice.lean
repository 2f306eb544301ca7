import LearningGame.Play.Dice
import Mathlib.Data.List.Perm.Basic
import Mathlib.Tactic.Common

/-!
# Random order

A list that is put into random order has the same elements as before. One of several things can be
chosen by a random number that stands for an index below their number.
-/

namespace LearningGame.Play.Dice

variable {α : Type}

/-- Numbers that stand for an index below every bound up to some. -/
def IsFair (most : Nat) (throws : Nat → Float) : Prop :=
  ∀ k n, 0 < n → n ≤ most → index (throws k) n < n

lemma perm_swap (xs : List α) (i j : Nat) : (swap xs i j).Perm xs := by
  unfold swap
  split
  case h_1 a b ha hb =>
    obtain ⟨hi, rfl⟩ := List.getElem?_eq_some_iff.1 ha
    obtain ⟨hj, rfl⟩ := List.getElem?_eq_some_iff.1 hb
    exact List.set_set_perm hi hj
  case h_2 => exact .refl xs

lemma perm_shuffleBelow (n : Nat) (xs : List α) (dice : Dice) :
    (StateT.run (shuffleBelow n xs) dice).1.Perm xs := by
  induction n, xs using shuffleBelow.induct generalizing dice with
  | case1 => exact .refl _
  | case2 => exact .refl _
  | case3 n xs ih => exact (ih _ _).trans (perm_swap ..)

lemma perm_shuffle (xs : List α) (dice : Dice) :
    (StateT.run (shuffle xs) dice).1.Perm xs := perm_shuffleBelow xs.length xs dice

end LearningGame.Play.Dice
