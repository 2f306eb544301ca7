import LearningGame.Number.Basic
import Mathlib.Tactic.Common

/-!
# Finite floats

A float is finite exactly if its bits have a mantissa and an exponent, and every float that is a
number equals itself.
-/

namespace LearningGame

open Float.Model

lemma unpacked_compare_self {f : UnpackedFloat} (h : f ≠ .notANumber) :
    f.compare f = some .eq := by
  cases f with
  | infinity s => cases s <;> rfl
  | notANumber => exact absurd rfl h
  | zero s => rfl
  | finite s m e hm =>
    have hparts : (compare e e).then (compare m m) = .eq := by
      rw [Std.ReflOrd.compare_self, Std.ReflOrd.compare_self]
      rfl
    cases s with
    | positive => exact congrArg some hparts
    | negative => exact congrArg (fun o => some o.swap) hparts

lemma float_beq_iff (x y : Float) :
    (x == y) = true ↔ x.toModel.unpack.compare y.toModel.unpack = some .eq := by
  show (x.toModel.unpack.compare y.toModel.unpack == some .eq) = true ↔ _
  rw [beq_iff_eq]

lemma float_lt_iff (x y : Float) :
    x < y ↔ x.toModel.unpack.compare y.toModel.unpack = some .lt := by
  have h : x < y ↔ x.toModel.unpack.lt y.toModel.unpack = true := by
    show decide (x.toModel < y.toModel) = true ↔ _
    rw [decide_eq_true_iff]
    rfl
  rw [h, UnpackedFloat.lt, beq_iff_eq]

lemma float_isNaN_iff (x : Float) : x.isNaN = true ↔ x.toModel.unpack = .notANumber := by
  show x.toModel.unpack.isNaN = true ↔ _
  cases x.toModel.unpack with
  | notANumber => exact iff_of_true rfl rfl
  | _ => exact iff_of_false Bool.false_ne_true nofun

lemma float_beq_self {x : Float} (h : x.isNaN = false) : (x == x) = true := by
  rw [float_beq_iff]
  refine unpacked_compare_self fun hx => ?_
  rw [(float_isNaN_iff x).mpr hx] at h
  cases h

lemma float_lt_irrefl (x : Float) : ¬x < x := by
  rw [float_lt_iff]
  by_cases hx : x.toModel.unpack = .notANumber
  · rw [hx]
    decide
  · rw [unpacked_compare_self hx]
    decide

lemma isNaN_of_isFinite {x : Float} (h : x.isFinite = true) : x.isNaN = false := by
  change x.toModel.unpack.isFinite = true at h
  show x.toModel.unpack.isNaN = false
  cases hx : x.toModel.unpack with
  | notANumber =>
    rw [hx] at h
    exact absurd h Bool.false_ne_true
  | _ => rfl

/-- What is not finite is not zero. -/
lemma beq_zero_of_not_isFinite {x : Float} (h : x.isFinite = false) : (x == 0) = false := by
  change x.toModel.unpack.isFinite = false at h
  rw [← Bool.not_eq_true, float_beq_iff]
  have hz : (0 : Float).toModel.unpack = .zero .positive := rfl
  rw [hz]
  cases hx : x.toModel.unpack with
  | infinity s => cases s <;> decide
  | notANumber => decide
  | zero s =>
    rw [hx] at h
    exact absurd h.symm Bool.false_ne_true
  | finite s m e hm =>
    rw [hx] at h
    exact absurd h.symm Bool.false_ne_true

/-! ### Bits -/

namespace Number

-- The powers are those of the definition of `parts`.
attribute [local instance (2000)] instPowNat

lemma unpackExponent_toNat (b : BitVec 64) :
    (@UnpackedFloat.unpackExponent Format.binary64 b).toNat =
      b.toNat / 2 ^ (52 : Nat) % 2 ^ (11 : Nat) := by
  simp [UnpackedFloat.unpackExponent, Nat.shiftRight_eq_div_pow]

/-- Bits are those of a finite float unless their exponent has ones only. -/
lemma isFinite_unpack_iff (b : BitVec 64) :
    (UnpackedFloat.unpack Format.binary64 b).isFinite = true ↔
      @UnpackedFloat.unpackExponent Format.binary64 b ≠ -1#_ := by
  show UnpackedFloat.isFinite (if @UnpackedFloat.unpackExponent Format.binary64 b = -1#_ then
    (if @UnpackedFloat.unpackMantissa Format.binary64 b = 0#_ then _ else _) else
    (if @UnpackedFloat.unpackExponent Format.binary64 b = 0#_ then
      (dite (@UnpackedFloat.unpackMantissa Format.binary64 b = 0#_) _ _) else _)) = true ↔ _
  by_cases hones : @UnpackedFloat.unpackExponent Format.binary64 b = -1#_
  · refine iff_of_false ?_ (not_not_intro hones)
    rw [if_pos hones]
    by_cases hmantissa : @UnpackedFloat.unpackMantissa Format.binary64 b = 0#_
    · rw [if_pos hmantissa]
      exact Bool.false_ne_true
    · rw [if_neg hmantissa]
      exact Bool.false_ne_true
  · refine iff_of_true ?_ hones
    rw [if_neg hones]
    by_cases hzeros : @UnpackedFloat.unpackExponent Format.binary64 b = 0#_
    · rw [if_pos hzeros]
      by_cases hmantissa : @UnpackedFloat.unpackMantissa Format.binary64 b = 0#_
      · rw [dif_pos hmantissa]
        rfl
      · rw [dif_neg hmantissa]
        rfl
    · rw [if_neg hzeros]
      rfl

/-- A float taken apart has a mantissa and an exponent unless its exponent has ones only. -/
lemma exists_parts_iff (x : Float) :
    (∃ negative m e, parts x = .finite negative m e) ↔
      x.toBits.toNat / 2 ^ (52 : Nat) % 2 ^ (11 : Nat) ≠ 2047 := by
  unfold parts
  dsimp only
  split_ifs <;> simp_all

/-- The parts of a float tell whether it is finite. -/
lemma isFinite_iff_parts (x : Float) :
    x.isFinite = true ↔ ∃ negative m e, parts x = .finite negative m e := by
  show (UnpackedFloat.unpack Format.binary64 x.toModel.toBits.toBitVec).isFinite = true ↔ _
  have hbits : x.toBits.toNat = x.toModel.toBits.toBitVec.toNat := rfl
  rw [isFinite_unpack_iff, exists_parts_iff, hbits, ← unpackExponent_toNat, Ne, Ne,
    ← BitVec.toNat_inj]
  rfl

/-- By whatever rule, a float can be rounded exactly if it is finite. -/
lemma wholePart_eq_ok_iff (rule : Bool → Nat → Nat → Int) (x : Float) :
    (∃ n, wholePart rule x = .ok n) ↔ x.isFinite = true := by
  rw [isFinite_iff_parts]
  unfold wholePart
  cases parts x <;> simp

lemma truncate_eq_ok_iff (x : Float) : (∃ n, truncate x = .ok n) ↔ x.isFinite = true :=
  wholePart_eq_ok_iff _ x

lemma round_eq_ok_iff (x : Float) : (∃ n, round x = .ok n) ↔ x.isFinite = true :=
  wholePart_eq_ok_iff _ x

end Number

end LearningGame
