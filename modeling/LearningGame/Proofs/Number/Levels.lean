import LearningGame.Proofs.Number.Units
import Mathlib.Data.Prod.Lex
import Mathlib.Order.Compare

/-!
# Levels of floats

Floats that are numbers, infinite ones among them, are ordered like their levels: first negative
infinity, then the finite ones by what they are worth, then positive infinity. So on such floats the
comparisons are those of a linear order, in which the two zeros are equal.
-/

namespace LearningGame.Number

open Float.Model Float.Model.UnpackedFloat

/-- The place of a float in the order of floats. -/
def level (x : Float) : ℤ ×ₗ ℤ :=
  match x.toModel.unpack with
  | .infinity s => toLex (s.apply 1, 0)
  | _ => toLex (0, floatUnits x)

lemma level_of_isFinite {x : Float} (h : x.isFinite = true) : level x = toLex (0, floatUnits x) := by
  rcases exists_stored h with ⟨s, hx⟩ | ⟨s, m, e, hm, hx, -⟩ <;> simp only [level, hx]

lemma level_of_infinity {x : Float} {s : Sign} (h : x.toModel.unpack = .infinity s) :
    level x = toLex (s.apply 1, 0) := by simp only [level, h]

/-- A float that is a number is finite or infinite. -/
lemma isFinite_or_infinity {x : Float} (h : x.isNaN = false) :
    x.isFinite = true ∨ ∃ s, x.toModel.unpack = .infinity s := by
  cases hx : x.toModel.unpack with
  | infinity s => exact .inr ⟨s, rfl⟩
  | notANumber =>
    rw [(float_isNaN_iff x).mpr hx] at h
    cases h
  | zero s | finite s =>
    left
    show x.toModel.unpack.isFinite = true
    rw [hx]
    rfl

/-- What is finite lies between the infinities. -/
lemma compare_infinity {x : Float} (h : x.isFinite = true) :
    ∀ s, x.toModel.unpack.compare (.infinity s) =
        some (match s with | .negative => .gt | .positive => .lt) ∧
      (UnpackedFloat.infinity s).compare x.toModel.unpack =
        some (match s with | .negative => .lt | .positive => .gt) := by
  intro s
  rcases exists_stored h with ⟨t, hx⟩ | ⟨t, m, e, hm, hx, -⟩ <;> rw [hx] <;> cases s <;> cases t <;>
    exact ⟨rfl, rfl⟩

/-- The levels of the finite floats are ordered by what these are worth. -/
lemma cmp_level_of_isFinite {x y : Float} (hx : x.isFinite = true) (hy : y.isFinite = true) :
    cmp (level x) (level y) = compare (floatUnits x) (floatUnits y) := by
  have hmono : StrictMono fun n : ℤ => toLex ((0 : ℤ), n) :=
    fun _ _ h => Prod.Lex.toLex_lt_toLex.2 (.inr ⟨rfl, h⟩)
  rw [level_of_isFinite hx, level_of_isFinite hy, hmono.cmp_map_eq, cmp_eq_compare]

/-- Floats that are numbers are compared by their levels. -/
lemma compare_eq_cmp_level {x y : Float} (hx : x.isNaN = false) (hy : y.isNaN = false) :
    x.toModel.unpack.compare y.toModel.unpack = some (cmp (level x) (level y)) := by
  -- the first parts decide wherever one of the two is infinite and the other one is not
  have hmono {a b m n : ℤ} (h : a < b) : toLex (a, m) < toLex (b, n) :=
    Prod.Lex.toLex_lt_toLex.2 (.inl h)
  rcases isFinite_or_infinity hx with hx | ⟨s, hx⟩ <;>
    rcases isFinite_or_infinity hy with hy | ⟨t, hy⟩
  · rw [compare_unpack hx hy, cmp_level_of_isFinite hx hy]
  · rw [hy, (compare_infinity hx t).1, level_of_isFinite hx, level_of_infinity hy]
    refine congrArg some ?_
    cases t with
    | negative => exact ((cmp_eq_gt_iff _ _).2 (hmono (by decide))).symm
    | positive => exact ((cmp_eq_lt_iff _ _).2 (hmono (by decide))).symm
  · rw [hx, (compare_infinity hy s).2, level_of_isFinite hy, level_of_infinity hx]
    refine congrArg some ?_
    cases s with
    | negative => exact ((cmp_eq_lt_iff _ _).2 (hmono (by decide))).symm
    | positive => exact ((cmp_eq_gt_iff _ _).2 (hmono (by decide))).symm
  · rw [hx, hy, level_of_infinity hx, level_of_infinity hy]
    cases s <;> cases t <;> rfl

lemma float_lt_iff_level {x y : Float} (hx : x.isNaN = false) (hy : y.isNaN = false) :
    x < y ↔ level x < level y := by
  rw [float_lt_iff, compare_eq_cmp_level hx hy, Option.some.injEq, cmp_eq_lt_iff]

lemma float_beq_iff_level {x y : Float} (hx : x.isNaN = false) (hy : y.isNaN = false) :
    (x == y) = true ↔ level x = level y := by
  rw [float_beq_iff, compare_eq_cmp_level hx hy, Option.some.injEq, cmp_eq_eq_iff]

lemma float_le_iff (x y : Float) : x ≤ y ↔ x.toModel.unpack.le y.toModel.unpack = true := by
  show decide (x.toModel ≤ y.toModel) = true ↔ _
  rw [decide_eq_true_iff]
  rfl

lemma float_le_iff_level {x y : Float} (hx : x.isNaN = false) (hy : y.isNaN = false) :
    x ≤ y ↔ level x ≤ level y := by
  rw [float_le_iff, UnpackedFloat.le, compare_eq_cmp_level hx hy, Option.any_some, ← not_lt,
    ← cmp_eq_gt_iff]
  cases cmp (level x) (level y) <;> decide

/-- Nothing is compared to what is not a number. -/
lemma not_float_le_of_isNaN {x y : Float} (h : y.isNaN = true) : ¬x ≤ y := by
  rw [float_le_iff, (float_isNaN_iff y).mp h, UnpackedFloat.le]
  cases x.toModel.unpack <;> exact Bool.false_ne_true

end LearningGame.Number
