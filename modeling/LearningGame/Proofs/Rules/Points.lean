import LearningGame.Proofs.Number.Rounding
import LearningGame.Rules.Grading

/-!
# Points that are worked out with floats

Neither half of a small limit nor a fifth of some points is too large for a float, so that the
points of a correct answer in a challenge can always be worked out. The credit for some items out of
all is a share that is rounded, is multiplied by the points and by the number of items, is rounded
each time, and of which the whole part is taken in the end. So it is what the correct items earn, or
one point less than that, which is never so if the share is a binary fraction.
-/

namespace LearningGame

namespace Rules

open Content Number Float.Model

/-! ### Bonuses -/

lemma isNormal_streakRate : IsNormal streakRate .positive (7205759403792794 * 2 ^ (-55 : ℤ)) :=
  ⟨_, _, by decide, rfl, by decide, rfl⟩

/-- A fifth of a small integer is finite. -/
lemma exists_streakBonus {points : Int} (h : IsSmall points) (streak : Int) :
    ∃ n, streakBonus points streak = .ok n := by
  have hfinite : ∃ x, (Number.int points).toFloat = .ok x ∧ (x * streakRate).isFinite = true := by
    by_cases hzero : points = 0
    · subst hzero
      exact ⟨_, rfl, rfl⟩
    · obtain ⟨x, hx, hnormal⟩ := exists_toFloat h hzero
      have hlow : (1 : ℚ) ≤ points.natAbs := by exact_mod_cast Int.natAbs_pos.2 hzero
      have hhigh : (points.natAbs : ℚ) ≤ 2 ^ 53 := by exact_mod_cast h.le
      have hmoderate : IsModerate (points.natAbs * (7205759403792794 * 2 ^ (-55 : ℤ))) := by
        rw [mul_comm]
        exact isModerate_mul (by norm_num) (by norm_num) hlow hhigh
      obtain ⟨u, hu, -⟩ := hnormal.mul isNormal_streakRate hmoderate
      exact ⟨x, hx, hu.isFinite⟩
  obtain ⟨x, hx, hfinite⟩ := hfinite
  obtain ⟨n, hn⟩ := (wholePart_eq_ok_iff _ _).2 hfinite
  unfold streakBonus
  split_ifs
  · refine ⟨n, ?_⟩
    rw [hx]
    show (Number.floor (x * streakRate)).mapError NoWholePart.toFault = .ok n
    rw [Number.floor, hn]
    rfl
  · exact ⟨0, rfl⟩

/-- Half of a small integer is not too large for a float. -/
lemma exists_half {n : Int} (h : IsSmall n) : ∃ x, quotient n 2 = .ok x := by
  by_cases hzero : n = 0
  · subst hzero
    exact ⟨_, rfl⟩
  · obtain ⟨x, u, hx, -⟩ :=
      exists_quotient (b := 2) h (by unfold IsSmall; decide) hzero two_ne_zero
    exact ⟨x, hx⟩

lemma exists_earlyBonus (bonus : Option Int) (remaining : Int) {limit : Int} (h : IsSmall limit) :
    ∃ n, earlyBonus bonus remaining limit = .ok n := by
  obtain ⟨half, hhalf⟩ := exists_half h
  unfold earlyBonus
  cases bonus with
  | none => exact ⟨0, rfl⟩
  | some b =>
    dsimp only
    split_ifs
    · exact ⟨0, rfl⟩
    · refine ⟨if (Number.float half).less (.int remaining) then b else 0, ?_⟩
      rw [isEarly, hhalf]
      rfl

/-- With small integers the points of a correct answer can be worked out. -/
lemma exists_challengePoints {item : ChallengeItem} {limit : Int} (hpoints : IsSmall item.points)
    (hlimit : IsSmall limit) (streak remaining : Int) :
    ∃ n, challengePoints item streak remaining limit = .ok n := by
  obtain ⟨early, hearly⟩ := exists_earlyBonus item.timeBonus remaining hlimit
  obtain ⟨bonus, hbonus⟩ := exists_streakBonus hpoints streak
  refine ⟨item.points + early + bonus, ?_⟩
  rw [challengePoints, hearly, hbonus]
  rfl

/-! ### Partial credit -/

/-- The share of some things in all of them is a binary fraction. -/
def IsBinaryShare (some all : Nat) : Prop := ∃ k, all ∣ some * 2 ^ k

/-- A binary share has no more bits than the things have of which it is the share. -/
lemma IsBinaryShare.exists_eq {m n : Nat} (h : IsBinaryShare m n) (hn : 0 < n) :
    ∃ a : Nat, ∃ k : ℤ, a ≤ m ∧ (m / n : ℚ) = a * 2 ^ k := by
  obtain ⟨k, hdvd⟩ := h
  obtain ⟨g, a, b, hg, hcoprime, rfl, rfl⟩ := Nat.exists_coprime' (Nat.gcd_pos_of_pos_right m hn)
  have hb : b ∣ 2 ^ k := by
    rw [Nat.mul_right_comm] at hdvd
    exact hcoprime.symm.dvd_of_dvd_mul_left (Nat.dvd_of_mul_dvd_mul_right hg hdvd)
  obtain ⟨j, -, rfl⟩ := (Nat.dvd_prime_pow Nat.prime_two).1 hb
  refine ⟨a, -(j : ℤ), Nat.le_mul_of_pos_right a hg, ?_⟩
  have hcast : (g : ℚ) ≠ 0 := Nat.cast_ne_zero.2 hg.ne'
  rw [Nat.cast_mul, Nat.cast_mul, mul_div_mul_right _ _ hcast, zpow_neg, div_eq_mul_inv]
  simp

section

variable {correct items points : Nat} {w x u : ℚ} (hshare : IsRounded (correct / items) w)
  (hearned : IsRounded (w * points) x) (hcredit : IsRounded (x * items) u) (hitems : 0 < items)
  (hproduct : correct * points < 2 ^ 51)

include hshare hearned hcredit hitems hproduct

/-- Three roundings of a small number of points are less than one point off. -/
lemma abs_credit_sub_lt : |u - correct * points| < 1 := by
  have hpos : (0 : ℚ) < items := Nat.cast_pos.2 hitems
  have hpoints : (0 : ℚ) ≤ points := Nat.cast_nonneg _
  have hsmall : (correct : ℚ) * points < 2 ^ 51 := by exact_mod_cast hproduct
  have hnonneg : (0 : ℚ) ≤ correct * points := by positivity
  -- Each rounding changes the number by a factor between `1 - 2 ^ -53` and `1 + 2 ^ -53`, and the
  -- product of three such factors is within `2 ^ -51` of one.
  have hall (k : ℚ) : correct / items * k * points * k * items * k = correct * points * k ^ 3 := by
    field_simp
  have hupper : u ≤ correct * points * (1 + 1 / 2 ^ 53) ^ 3 := by
    rw [← hall]
    refine hcredit.bounds.2.trans ?_
    gcongr
    refine hearned.bounds.2.trans ?_
    gcongr
    exact hshare.bounds.2
  have hlower : correct * points * (1 - 1 / 2 ^ 53) ^ 3 ≤ u := by
    rw [← hall]
    refine le_trans ?_ hcredit.bounds.1
    have hfactor : (0 : ℚ) ≤ 1 - 1 / 2 ^ 53 := by norm_num
    gcongr
    refine le_trans ?_ hearned.bounds.1
    gcongr
    exact hshare.bounds.1
  rw [abs_lt]
  constructor
  · have hloss : (1 : ℚ) - 1 / 2 ^ 51 ≤ (1 - 1 / 2 ^ 53) ^ 3 := by norm_num
    have hrest := (mul_le_mul_of_nonneg_left hloss hnonneg).trans hlower
    norm_num at hrest hsmall
    linarith
  · have hgain : (1 + 1 / 2 ^ 53 : ℚ) ^ 3 ≤ 1 + 1 / 2 ^ 51 := by norm_num
    have hrest := hupper.trans (mul_le_mul_of_nonneg_left hgain hnonneg)
    norm_num at hrest hsmall
    linarith

/-- Nothing is lost from a binary share. -/
lemma credit_eq_of_isBinaryShare (hcorrect : correct < 2 ^ 53)
    (hbinary : IsBinaryShare correct items) : u = correct * points := by
  have hcast : (items : ℚ) ≠ 0 := Nat.cast_ne_zero.2 hitems.ne'
  obtain ⟨a, k, hle, heq⟩ := hbinary.exists_eq hitems
  -- No product has more bits than `correct * points`, so that no rounding changes anything.
  have hw : w = a * 2 ^ k := (hshare.exact (by omega) heq).trans heq
  have hearnedEq : w * points = (a * points : Nat) * 2 ^ k := by
    rw [hw, Nat.cast_mul]
    ring
  have hx : x = w * points := by
    refine hearned.exact ?_ hearnedEq
    calc a * points ≤ correct * points := Nat.mul_le_mul_right _ hle
      _ < 2 ^ (53 : Nat) := by omega
  have hcreditEq : x * items = (correct * points : Nat) := by
    rw [hx, hw, ← heq, Nat.cast_mul]
    field_simp
  have hu : u = x * items :=
    hcredit.exact (n := correct * points) (e := 0) (by omega) (by simp [hcreditEq])
  rw [hu, hcreditEq, Nat.cast_mul]

end

/-- A share that is not zero is that of one thing at least. -/
lemma share_bounds {m n : Nat} {w : ℚ} (h : IsRounded (m / n) w) (hpos : 0 < w) (hn : 0 < n)
    (hle : m ≤ n) (hsmall : n < 2 ^ (53 : Nat)) : 1 / 2 ^ 54 ≤ w ∧ w ≤ 2 := by
  have hcast : (0 : ℚ) < n := Nat.cast_pos.2 hn
  have hcast' : (n : ℚ) ≤ 2 ^ 53 := by exact_mod_cast hsmall.le
  have hm : (1 : ℚ) ≤ m := by exact_mod_cast (div_pos_iff_of_pos_right hcast).1 (h.pos hpos)
  have hshare : (1 : ℚ) / 2 ^ 53 ≤ m / n := by gcongr
  have hshare' : (m : ℚ) / n ≤ 1 := by
    rw [div_le_one hcast]
    exact_mod_cast hle
  obtain ⟨hlow, hhigh⟩ := h.bounds
  norm_num at hlow hhigh hshare ⊢
  constructor <;> linarith

/-- The credit is the whole part of the share multiplied by the points and by the number of items,
rounded three times. -/
lemma partialCredit_spec {correct items points : Nat} (hitems : 0 < items) (hle : correct ≤ items)
    (hsmall : items < 2 ^ 53) (hpoints : points < 2 ^ 53) :
    ∃ w x u : ℚ, partialCredit correct items points = .ok ⌊u⌋ ∧ 0 ≤ u ∧
      IsRounded (correct / items) w ∧ IsRounded (w * points) x ∧ IsRounded (x * items) u := by
  have hone : (1 : ℚ) ≤ items := by exact_mod_cast hitems
  have hcast : (items : ℚ) ≤ 2 ^ 53 := by exact_mod_cast hsmall.le
  have hcast' : (points : ℚ) ≤ 2 ^ 53 := by exact_mod_cast hpoints.le
  obtain ⟨a, w, ha, hw, hshare⟩ :=
    exists_natCast_quotient (m := correct) (by omega) (by omega) hitems
  obtain ⟨b, hb, hbworth⟩ := exists_natCast_toFloat (n := points) (by omega)
  obtain ⟨d, hd, hdworth⟩ := exists_natCast_toFloat (n := items) (by omega)
  have hmoderate (hpos : 0 < w) (hpos' : 0 < (points : ℚ)) : IsModerate (w * points) := by
    obtain ⟨hlow, hhigh⟩ := share_bounds hshare hpos hitems hle hsmall
    refine isModerate_mul (le_trans (by norm_num) hlow) (hhigh.trans (by norm_num)) ?_ hcast'
    exact_mod_cast hpos'
  obtain ⟨x, hx, hearned⟩ := hw.mul hbworth hmoderate
  have hmoderate' (hpos : 0 < x) (_ : 0 < (items : ℚ)) : IsModerate (x * items) := by
    have hwp := hearned.pos hpos
    obtain ⟨hlow, hhigh⟩ := share_bounds hshare (pos_of_mul_pos_left hwp (by positivity)) hitems
      hle hsmall
    have hp : (1 : ℚ) ≤ points := by exact_mod_cast pos_of_mul_pos_right hwp (by linarith)
    have hlow' : (1 : ℚ) / 2 ^ 54 * 1 ≤ w * points := by gcongr
    have hhigh' : w * points ≤ 2 * 2 ^ 53 := by gcongr
    obtain ⟨hxlow, hxhigh⟩ := hearned.bounds
    refine isModerate_mul ?_ ?_ hone hcast <;> norm_num at * <;> linarith
  obtain ⟨u, hu, hcredit⟩ := hx.mul hdworth hmoderate'
  refine ⟨w, x, u, ?_, hu.nonneg, hshare, hearned, hcredit⟩
  rw [partialCredit, if_neg (by omega), ha, hb, hd]
  exact hu.toFloor

lemma floor_of_abs_sub_lt {u : ℚ} {k : ℤ} (h : |u - k| < 1) : ⌊u⌋ = k ∨ ⌊u⌋ = k - 1 := by
  obtain ⟨hlow, hhigh⟩ := abs_lt.1 h
  have hge : k - 1 ≤ ⌊u⌋ := by
    rw [Int.le_floor, Int.cast_sub, Int.cast_one]
    linarith
  have hlt : ⌊u⌋ < k + 1 := by
    rw [Int.floor_lt, Int.cast_add, Int.cast_one]
    linarith
  omega

/-- The credit is what the correct items earn, or one point less, which it is not for a binary
share. -/
lemma exists_partialCredit {correct items : Nat} {points : Int} (hitems : 0 < items)
    (hle : correct ≤ items) (hsmall : items < 2 ^ 53) (hpoints : 0 ≤ points)
    (hless : points < 2 ^ 53) (hproduct : correct * points < 2 ^ 51) :
    ∃ n, partialCredit correct items points = .ok n ∧ 0 ≤ n ∧
      (n = correct * points ∨ n = correct * points - 1) ∧
      (IsBinaryShare correct items → n = correct * points) := by
  obtain ⟨points, rfl⟩ := Int.eq_ofNat_of_zero_le hpoints
  have hproduct : correct * points < 2 ^ 51 := by exact_mod_cast hproduct
  obtain ⟨w, x, u, hfloor, hnonneg, hshare, hearned, hcredit⟩ :=
    partialCredit_spec hitems hle hsmall (by omega : points < 2 ^ 53)
  refine ⟨⌊u⌋, hfloor, Int.floor_nonneg.2 hnonneg, ?_, fun hbinary => ?_⟩
  · refine floor_of_abs_sub_lt (k := correct * points) ?_
    exact_mod_cast abs_credit_sub_lt hshare hearned hcredit hitems hproduct
  · rw [credit_eq_of_isBinaryShare hshare hearned hcredit hitems hproduct (by omega) hbinary]
    exact_mod_cast Int.floor_natCast (R := ℚ) (correct * points)

end Rules

end LearningGame
