import LearningGame.Fault
import LearningGame.Proofs.Number.Stored

/-!
# Rounding to the nearest float

A magnitude that is neither very large nor very small is rounded to a float that has all bits of its
mantissa in use. What is lost is half a unit of the last bit at most, and nothing is lost where a
mantissa has bits enough. This is so for integers and quotients that become floats, and for products
of floats.
-/

namespace LearningGame.Number

open Float.Model Float.Model.UnpackedFloat

attribute [local instance (2000)] instPowNat

/-! ### Powers of two -/

lemma two_zpow_le_iff {a b : ℤ} : (2 : ℚ) ^ a ≤ 2 ^ b ↔ a ≤ b :=
  zpow_le_zpow_iff_right₀ one_lt_two

lemma two_zpow_lt_iff {a b : ℤ} : (2 : ℚ) ^ a < 2 ^ b ↔ a < b :=
  zpow_lt_zpow_iff_right₀ one_lt_two

lemma two_zpow_pos (e : ℤ) : (0 : ℚ) < 2 ^ e := zpow_pos two_pos e

lemma two_zpow_add (a b : ℤ) : (2 : ℚ) ^ (a + b) = 2 ^ a * 2 ^ b := zpow_add₀ two_ne_zero a b

lemma two_zpow_toNat {e : ℤ} (he : 0 ≤ e) : (2 : ℚ) ^ e = (2 ^ e.toNat : Nat) := by
  obtain ⟨n, rfl⟩ := Int.eq_ofNat_of_zero_le he
  simp

/-- The power of two above all mantissas carries into the exponent. -/
lemma carry_eq (e : ℤ) :
    ((2 ^ (52 : Nat) : Nat) : ℚ) * 2 ^ (e + 1) = (2 ^ (53 : Nat) : Nat) * 2 ^ e := by
  rw [two_zpow_add]
  norm_num
  ring

lemma log2_bounds {n : Nat} (hn : 0 < n) :
    (2 : ℚ) ^ (n.log2 : ℤ) ≤ n ∧ (n : ℚ) < 2 ^ ((n.log2 : ℤ) + 1) := by
  have hlow : 2 ^ n.log2 ≤ n := Nat.log2_self_le (Nat.ne_of_gt hn)
  have hhigh : n < 2 ^ (n.log2 + 1) := Nat.lt_log2_self
  constructor
  · exact_mod_cast hlow
  · exact_mod_cast hhigh

/-- A power of two as a fraction is worth that power. -/
lemma powerOfTwo_spec (e : ℤ) : 0 < (powerOfTwo e).2 ∧
    ((powerOfTwo e).1 : ℚ) = 2 ^ e * (powerOfTwo e).2 := by
  unfold powerOfTwo
  split_ifs with he
  · exact ⟨Nat.one_pos, by rw [two_zpow_toNat he, Nat.cast_one, mul_one]⟩
  · refine ⟨Nat.two_pow_pos _, ?_⟩
    rw [← two_zpow_toNat (by omega), ← two_zpow_add, Int.add_right_neg, zpow_zero, Nat.cast_one]

/-! ### What is lost by rounding -/

/-- A magnitude is rounded to another one: half a unit of the last bit is lost at most, and nothing
if there are bits enough. -/
structure IsRounded (v u : ℚ) : Prop where
  near : |u - v| ≤ v / 2 ^ 53
  exact : ∀ {n : Nat} {e : ℤ}, n < 2 ^ (53 : Nat) → v = n * 2 ^ e → u = v

/-- The nearest mantissa loses half a unit at most. -/
lemma isRounded_of_near {v : ℚ} {r : Nat} {e : ℤ} (hlow : 2 ^ (52 + e) ≤ v)
    (hnear : |(r : ℚ) - v / 2 ^ e| ≤ 1 / 2) : IsRounded v (r * 2 ^ e) where
  near := by
    have hpos := two_zpow_pos e
    have hsplit : (r : ℚ) * 2 ^ e - v = (r - v / 2 ^ e) * 2 ^ e := by field_simp
    rw [two_zpow_add] at hlow
    rw [hsplit, abs_mul, abs_of_pos hpos]
    calc |(r : ℚ) - v / 2 ^ e| * 2 ^ e ≤ 1 / 2 * 2 ^ e := by gcongr
      _ = 2 ^ (52 : ℤ) * 2 ^ e / 2 ^ 53 := by norm_num; ring
      _ ≤ v / 2 ^ 53 := by gcongr
  exact {n f} hn hv := by
    have hle : e ≤ f := by
      -- below, the magnitude would have more bits than a mantissa
      by_contra hlt
      have hbits : (2 : ℚ) ^ (53 + f) ≤ n * 2 ^ f :=
        hv ▸ (two_zpow_le_iff.2 (by omega)).trans hlow
      rw [two_zpow_add, mul_le_mul_iff_left₀ (two_zpow_pos f)] at hbits
      exact Nat.not_le_of_lt hn (by exact_mod_cast hbits)
    have hquotient : v / 2 ^ e = (n * 2 ^ (f - e).toNat : Nat) := by
      rw [hv, Nat.cast_mul, ← two_zpow_toNat (by omega), mul_div_assoc, ← zpow_sub₀ two_ne_zero]
    rw [hquotient, abs_le] at hnear
    have hsame : r = n * 2 ^ (f - e).toNat := by
      have hlower : (n * 2 ^ (f - e).toNat : Nat) < (r : ℚ) + 1 := by linarith
      have hupper : (r : ℚ) < (n * 2 ^ (f - e).toNat : Nat) + 1 := by linarith
      norm_cast at hlower hupper
      omega
    rw [hsame, ← hquotient, div_mul_cancel₀ _ (two_zpow_pos e).ne']

lemma IsRounded.bounds {v u : ℚ} (h : IsRounded v u) :
    v * (1 - 1 / 2 ^ 53) ≤ u ∧ u ≤ v * (1 + 1 / 2 ^ 53) := by
  have hnear := abs_le.1 h.near
  constructor <;> linarith

lemma IsRounded.pos {v u : ℚ} (h : IsRounded v u) (hu : 0 < u) : 0 < v :=
  pos_of_mul_pos_left (hu.trans_le h.bounds.2) (by norm_num)

/-- The nearest natural number to a fraction. -/
lemma roundDiv_near (num : Nat) {den : Nat} (hden : 0 < den) :
    |(roundDiv num den : ℚ) - num / den| ≤ 1 / 2 := by
  have hcast : (0 : ℚ) < den := Nat.cast_pos.2 hden
  have hnum : (num : ℚ) = den * (num / den : Nat) + (num % den : Nat) := by
    exact_mod_cast (Nat.div_add_mod num den).symm
  have hlt := Nat.mod_lt num hden
  have hquotient : (num : ℚ) / den = (num / den : Nat) + (num % den : Nat) / den := by
    rw [hnum]
    field_simp
  have hbelow (h : 2 * (num % den) ≤ den) : ((num % den : Nat) : ℚ) / den ≤ 1 / 2 := by
    rw [div_le_div_iff₀ hcast two_pos]
    exact_mod_cast (by omega : num % den * 2 ≤ 1 * den)
  have habove (h : den ≤ 2 * (num % den)) : 1 / 2 ≤ ((num % den : Nat) : ℚ) / den := by
    rw [div_le_div_iff₀ two_pos hcast]
    exact_mod_cast (by omega : 1 * den ≤ num % den * 2)
  have hnonneg : (0 : ℚ) ≤ (num % den : Nat) / den := by positivity
  have hone : ((num % den : Nat) : ℚ) / den ≤ 1 := by
    rw [div_le_one hcast]
    exact_mod_cast hlt.le
  rw [hquotient, abs_le]
  unfold roundDiv
  dsimp only
  split_ifs with h₁ h₂ h₃ <;> push_cast
  · have := hbelow (by omega)
    constructor <;> linarith
  · have := habove (by omega)
    constructor <;> linarith
  · have := hbelow (by omega)
    constructor <;> linarith
  · have := habove (by omega)
    constructor <;> linarith

/-! ### Floats with all bits in use -/

/-- A float has a sign and a magnitude, with all bits of its mantissa in use. -/
def IsNormal (x : Float) (s : Sign) (v : ℚ) : Prop :=
  ∃ m e hm, x.toModel.unpack = .finite s m e hm ∧ 2 ^ (52 : Nat) ≤ m ∧ v = m * 2 ^ e

/-- A magnitude that is far from the ends of the range of floats. -/
def IsModerate (v : ℚ) : Prop := 2 ^ (-200 : ℤ) ≤ v ∧ v ≤ 2 ^ (200 : ℤ)

lemma isModerate_mul {v w : ℚ} (hlow : 1 / 2 ^ 60 ≤ v) (hhigh : v ≤ 2 ^ 60) (hlow' : 1 ≤ w)
    (hhigh' : w ≤ 2 ^ 53) : IsModerate (v * w) := by
  have hpos : 0 ≤ v := le_trans (by norm_num) hlow
  constructor
  · calc (2 : ℚ) ^ (-200 : ℤ) ≤ 1 / 2 ^ 60 * 1 := by norm_num
      _ ≤ v * w := by gcongr
  · calc v * w ≤ 2 ^ 60 * 2 ^ 53 := by gcongr
      _ ≤ 2 ^ (200 : ℤ) := by norm_num

lemma IsNormal.isFinite {x : Float} {s : Sign} {v : ℚ} (h : IsNormal x s v) :
    x.isFinite = true := by
  obtain ⟨m, e, hm, hx, -⟩ := h
  show x.toModel.unpack.isFinite = true
  rw [hx]
  rfl

/-- A magnitude with many bits is rounded to one that is stored with all bits in use. -/
lemma exists_rounded {s : Sign} {m : Nat} {e : ℤ} (hm : 2 ^ (53 : Nat) ≤ m) (he : -1074 ≤ e)
    (h : IsModerate (m * 2 ^ e)) : ∃ r g, ∃ hr : 0 < r,
      roundWithAccuracy Format.binary64 s m e .exact = .finite s r g hr ∧ IsStored r g ∧
      2 ^ (52 : Nat) ≤ r ∧ IsRounded (m * 2 ^ e) (r * 2 ^ g) := by
  have hpos : 0 < m := by omega
  have hbits : 53 ≤ m.log2 := (Nat.le_log2 (by omega)).2 hm
  obtain ⟨hlow, hhigh⟩ := log2_bounds hpos
  have hleast : -200 < (m.log2 : ℤ) + 1 + e := by
    rw [← two_zpow_lt_iff, two_zpow_add]
    exact h.1.trans_lt (mul_lt_mul_of_pos_right hhigh (two_zpow_pos e))
  have hmost : (m.log2 : ℤ) + e ≤ 200 := by
    rw [← two_zpow_le_iff, two_zpow_add]
    exact (mul_le_mul_of_nonneg_right hlow (two_zpow_pos e).le).trans h.2
  have hstored : storedExponent m e = m.log2 + e - 52 := by
    unfold storedExponent
    omega
  obtain ⟨r, -, hnear, hrlow, hrhigh, hcases⟩ :=
    roundWithAccuracy_of_lt (s := s) hpos he (by omega)
  rw [hstored] at hnear hcases
  have hrounded : IsRounded (m * 2 ^ e) (r * 2 ^ ((m.log2 : ℤ) + e - 52)) := by
    refine isRounded_of_near ?_ ?_
    · rw [show 52 + ((m.log2 : ℤ) + e - 52) = m.log2 + e by ring, two_zpow_add]
      exact mul_le_mul_of_nonneg_right hlow (two_zpow_pos e).le
    · have hshift : (m : ℚ) * 2 ^ e / 2 ^ ((m.log2 : ℤ) + e - 52) =
          m / 2 ^ ((m.log2 : ℤ) + e - 52 - e).toNat := by
        rw [mul_div_assoc, ← zpow_sub₀ two_ne_zero, ← zpow_natCast, Int.toNat_of_nonneg (by omega),
          div_eq_mul_inv, ← zpow_neg]
        congr 2
        ring
      rw [hshift]
      exact hnear
  rcases hcases with ⟨hr, hrlt, hround⟩ | ⟨rfl, hr, hround⟩
  · exact ⟨r, _, hr, hround, ⟨hrlt, by omega, by omega, .inl hrlow⟩, hrlow, hrounded⟩
  · refine ⟨_, _, hr, hround, ⟨by omega, by omega, by omega, .inl le_rfl⟩, le_rfl, ?_⟩
    rwa [carry_eq]

lemma unpack_mul (x y : Float) : (x * y).toModel.unpack = UnpackedFloat.unpack Format.binary64
    (UnpackedFloat.pack Format.binary64
      (UnpackedFloat.mul Format.binary64 x.toModel.unpack y.toModel.unpack)) := rfl

/-- The product of two floats is their product, rounded. -/
lemma IsNormal.mul {x y : Float} {s t : Sign} {v w : ℚ} (hx : IsNormal x s v) (hy : IsNormal y t w)
    (h : IsModerate (v * w)) : ∃ u, IsNormal (x * y) (s * t) u ∧ IsRounded (v * w) u := by
  obtain ⟨m, e, hm, hx, hmfull, rfl⟩ := hx
  obtain ⟨n, f, hn, hy, hnfull, rfl⟩ := hy
  have hproduct : (m : ℚ) * 2 ^ e * (n * 2 ^ f) = (m * n : Nat) * 2 ^ (e + f) := by
    rw [two_zpow_add, Nat.cast_mul]
    ring
  rw [hproduct] at h ⊢
  have hlt : m * n < 2 ^ (53 : Nat) * 2 ^ (53 : Nat) :=
    Nat.mul_lt_mul'' (isStored_of_unpack hx).lt (isStored_of_unpack hy).lt
  have hmany : 2 ^ (53 : Nat) ≤ m * n :=
    calc 2 ^ (53 : Nat) ≤ 2 ^ (52 : Nat) * 2 ^ (52 : Nat) := by decide
      _ ≤ m * n := Nat.mul_le_mul hmfull hnfull
  have hleast : -200 < 106 + (e + f) := by
    rw [← two_zpow_lt_iff, two_zpow_add]
    refine h.1.trans_lt (mul_lt_mul_of_pos_right ?_ (two_zpow_pos _))
    exact_mod_cast hlt
  obtain ⟨r, g, hr, hround, hstored, hfull, hrounded⟩ :=
    exists_rounded (s := s * t) hmany (by omega) h
  refine ⟨_, ⟨r, g, hr, ?_, hfull, rfl⟩, hrounded⟩
  have hmul : UnpackedFloat.mul Format.binary64 x.toModel.unpack y.toModel.unpack =
      .finite (s * t) r g hr := by
    rw [hx, hy, ← hround]
    rfl
  rw [unpack_mul, hmul, unpack_pack hstored]

/-- What is not above a positive float is what its magnitude is rounded down to. -/
lemma IsNormal.toFloor {x : Float} {v : ℚ} (h : IsNormal x .positive v) :
    (Number.float x).toFloor = .ok ⌊v⌋ := by
  obtain ⟨m, e, hm, hx, -, rfl⟩ := h
  obtain ⟨hdown, hup⟩ := powerOfTwo_spec e
  have hfloor : ⌊(m : ℚ) * 2 ^ e⌋ =
      Int.fdiv (m * (powerOfTwo e).1 : Nat) (powerOfTwo e).2 := by
    have hcast : ((powerOfTwo e).2 : ℚ) ≠ 0 := Nat.cast_ne_zero.2 (Nat.ne_of_gt hdown)
    have hvalue : (m : ℚ) * 2 ^ e =
        ((m * (powerOfTwo e).1 : Nat) : ℤ) / ((powerOfTwo e).2 : Nat) := by
      rw [Int.cast_natCast, Nat.cast_mul, hup, ← mul_assoc, mul_div_cancel_right₀ _ hcast]
    rw [hvalue, Rat.floor_intCast_div_natCast, Int.fdiv_eq_ediv_of_nonneg _ (Int.natCast_nonneg _)]
  rw [hfloor, Number.toFloor, floor, wholePart, parts_eq, hx]
  rfl

/-! ### Fractions as floats -/

/-- At its exponent a fraction has a mantissa of 53 bits. -/
lemma mantissaExponent_spec {num den : Nat} (hnum : 0 < num) (hden : 0 < den)
    (h : IsModerate (num / den)) :
    (2 : ℚ) ^ (52 + mantissaExponent num den) ≤ num / den ∧
      (num / den : ℚ) < 2 ^ (53 + mantissaExponent num den) := by
  have hpos : (0 : ℚ) < den := Nat.cast_pos.2 hden
  obtain ⟨hlow, hhigh⟩ := log2_bounds hnum
  obtain ⟨hlow', hhigh'⟩ := log2_bounds hden
  generalize hk : (num.log2 : ℤ) - den.log2 = k
  have hbelow : (num / den : ℚ) < 2 ^ (k + 1) := by
    rw [div_lt_iff₀ hpos]
    calc (num : ℚ) < 2 ^ ((num.log2 : ℤ) + 1) := hhigh
      _ = 2 ^ (k + 1) * 2 ^ (den.log2 : ℤ) := by
        rw [← two_zpow_add]
        congr 1
        omega
      _ ≤ 2 ^ (k + 1) * den := mul_le_mul_of_nonneg_left hlow' (two_zpow_pos _).le
  have habove : (2 : ℚ) ^ (k - 1) < num / den := by
    rw [lt_div_iff₀ hpos]
    calc (2 : ℚ) ^ (k - 1) * den < 2 ^ (k - 1) * 2 ^ ((den.log2 : ℤ) + 1) :=
          mul_lt_mul_of_pos_left hhigh' (two_zpow_pos _)
      _ = 2 ^ (num.log2 : ℤ) := by
        rw [← two_zpow_add]
        congr 1
        omega
      _ ≤ num := hlow
  have hleast : -200 < k + 1 := two_zpow_lt_iff.1 (h.1.trans_lt hbelow)
  obtain ⟨hdown, hup⟩ := powerOfTwo_spec k
  have hless : num * (powerOfTwo k).2 < den * (powerOfTwo k).1 ↔ (num / den : ℚ) < 2 ^ k := by
    rw [div_lt_iff₀ hpos, ← Nat.cast_lt (α := ℚ), Nat.cast_mul, Nat.cast_mul, hup, ← mul_assoc,
      mul_lt_mul_iff_left₀ (Nat.cast_pos.2 hdown), mul_comm (den : ℚ)]
  unfold mantissaExponent
  rw [hk]
  simp only [hless]
  split_ifs with hcase hsmall hsmall
  · omega
  · rw [show 52 + (k - 53) = k - 1 by ring, show 53 + (k - 53) = k by ring]
    exact ⟨habove.le, hcase⟩
  · omega
  · rw [show 52 + (k - 52) = k by ring, show 53 + (k - 52) = k + 1 by ring]
    exact ⟨not_lt.1 hcase, hbelow⟩

/-- Bits of a finite float stand for it. -/
lemma unpack_ofBits {b : UInt64} {s : Sign} {m : Nat} {e : Int} {hm : 0 < m}
    (h : UnpackedFloat.unpack Format.binary64 b.toBitVec = .finite s m e hm) :
    (Float.ofBits b).toModel.unpack = .finite s m e hm := by
  show UnpackedFloat.unpack Format.binary64 (UnpackedFloat.pack Format.binary64
    (UnpackedFloat.unpack Format.binary64 b.toBitVec)) = _
  rw [h, unpack_pack (isStored_of_unpack h)]

/-- The sign of what is negative or not. -/
def signOf (negative : Bool) : Sign := if negative then .negative else .positive

/-- The float of a magnitude whose mantissa has all bits in use. -/
lemma isNormal_ofMagnitude (negative : Bool) {scale m : Nat} (hscale : scale < 2046)
    (hlow : 2 ^ (52 : Nat) ≤ m) (hhigh : m < 2 ^ (53 : Nat)) :
    IsNormal (ofMagnitude negative (scale * 2 ^ (52 : Nat) + m)) (signOf negative)
      (m * 2 ^ ((scale : ℤ) - 1074)) := by
  let b : UInt64 := UInt64.ofNat
    ((if negative then 2 ^ (63 : Nat) else 0) + (scale * 2 ^ (52 : Nat) + m))
  have hb : b.toBitVec.toNat =
      (if negative then 2 ^ (63 : Nat) else 0) + (scale * 2 ^ (52 : Nat) + m) := by
    show BitVec.toNat (BitVec.ofNat 64 _) = _
    rw [BitVec.toNat_ofNat, Nat.mod_eq_of_lt]
    split_ifs <;> omega
  have hparts : b.toBitVec.toNat / 2 ^ (52 : Nat) % 2 ^ (11 : Nat) = scale + 1 ∧
      b.toBitVec.toNat % 2 ^ (52 : Nat) + 2 ^ (52 : Nat) = m := by
    rw [hb]
    split_ifs <;> omega
  have hsign : Sign.ofBitVec (@unpackSign Format.binary64 b.toBitVec) = signOf negative := by
    have hnegative := unpackSign_eq_negative b.toBitVec
    rw [hb] at hnegative
    cases negative with
    | false =>
      rw [if_neg Bool.false_ne_true, decide_eq_false (by omega)] at hnegative
      cases hs : Sign.ofBitVec (@unpackSign Format.binary64 b.toBitVec) with
      | negative => exact absurd (hs ▸ hnegative) (by decide)
      | positive => rfl
    | true =>
      rw [if_pos rfl, decide_eq_true (by omega)] at hnegative
      exact beq_iff_eq.1 hnegative
  rcases unpack_cases b.toBitVec with ⟨h, -⟩ | ⟨h, -⟩ | ⟨h, -⟩ | ⟨h, -⟩ | ⟨-, -, hpos, h⟩
  · omega
  · omega
  · omega
  · omega
  · have hm : 0 < m := by omega
    refine ⟨m, _, hm, (unpack_ofBits h).trans ?_, hlow, rfl⟩
    rw [← hsign]
    congr 1 <;> omega

/-- A moderate fraction becomes the float that it is rounded to. -/
lemma exists_ofFraction (negative : Bool) {num den : Nat} (hnum : 0 < num) (hden : 0 < den)
    (h : IsModerate (num / den)) : ∃ x u, ofFraction? negative num den = some x ∧
      IsNormal x (signOf negative) u ∧ IsRounded (num / den) u := by
  obtain ⟨hlow, hhigh⟩ := mantissaExponent_spec hnum hden h
  have hleast : -200 < 53 + mantissaExponent num den := two_zpow_lt_iff.1 (h.1.trans_lt hhigh)
  have hmost : 52 + mantissaExponent num den ≤ 200 := two_zpow_le_iff.1 (hlow.trans h.2)
  obtain ⟨hdown, hup⟩ := powerOfTwo_spec (mantissaExponent num den)
  generalize he : mantissaExponent num den = e at hlow hhigh hleast hmost hdown hup
  generalize hr : roundDiv (num * (powerOfTwo e).2) (den * (powerOfTwo e).1) = r
  have hpos : (0 : ℚ) < 2 ^ e := two_zpow_pos e
  have hnear : |(r : ℚ) - num / den / 2 ^ e| ≤ 1 / 2 := by
    have hup' : 0 < (powerOfTwo e).1 := by
      rw [← Nat.cast_pos (α := ℚ), hup]
      exact mul_pos hpos (Nat.cast_pos.2 hdown)
    have hquotient : ((num * (powerOfTwo e).2 : Nat) : ℚ) / (den * (powerOfTwo e).1 : Nat) =
        num / den / 2 ^ e := by
      have hcast : ((powerOfTwo e).2 : ℚ) ≠ 0 := Nat.cast_ne_zero.2 (Nat.ne_of_gt hdown)
      rw [Nat.cast_mul, Nat.cast_mul, hup, ← mul_assoc, mul_div_mul_right _ _ hcast, div_div]
    rw [← hquotient, ← hr]
    exact roundDiv_near _ (Nat.mul_pos hden hup')
  have hrounded : IsRounded (num / den) (r * 2 ^ e) := isRounded_of_near hlow hnear
  have hrbounds : 2 ^ (52 : Nat) ≤ r ∧ r ≤ 2 ^ (53 : Nat) := by
    rw [two_zpow_add, ← le_div_iff₀ hpos] at hlow
    rw [two_zpow_add, ← div_lt_iff₀ hpos] at hhigh
    rw [abs_le] at hnear
    norm_num at hlow hhigh
    constructor
    · have hless : ((2 ^ (52 : Nat) : Nat) : ℚ) < r + 1 := by push_cast; linarith
      exact Nat.le_of_lt_succ (by exact_mod_cast hless)
    · have hless : (r : ℚ) < (2 ^ (53 : Nat) : Nat) + 1 := by push_cast; linarith
      exact Nat.le_of_lt_succ (by exact_mod_cast hless)
  obtain ⟨scale, hscale⟩ : ∃ scale : Nat, e = (scale : ℤ) - 1074 := ⟨(e + 1074).toNat, by omega⟩
  have hbits : nearestBits num den = scale * 2 ^ (52 : Nat) + r := by
    have hnat : (e + 1074).toNat = scale := by omega
    unfold nearestBits
    rw [if_neg (Nat.ne_of_gt hnum), he]
    simp only [hr, hnat]
  have hlt : scale * 2 ^ (52 : Nat) + r < infinityBits := by
    unfold infinityBits
    omega
  rw [ofFraction?, hbits]
  simp only [if_pos hlt]
  subst hscale
  rcases Nat.lt_or_ge r (2 ^ (53 : Nat)) with hrlt | hrge
  · exact ⟨_, _, rfl, isNormal_ofMagnitude negative (by omega) hrbounds.1 hrlt, hrounded⟩
  · obtain rfl : r = 2 ^ (53 : Nat) := by omega
    have hcarry : scale * 2 ^ (52 : Nat) + 2 ^ (53 : Nat) =
        (scale + 1) * 2 ^ (52 : Nat) + 2 ^ (52 : Nat) := by omega
    have hexponent : ((scale + 1 : Nat) : ℤ) - 1074 = (scale : ℤ) - 1074 + 1 := by omega
    have hnormal := isNormal_ofMagnitude negative (show scale + 1 < 2046 by omega) le_rfl
      (show 2 ^ (52 : Nat) < 2 ^ (53 : Nat) by decide)
    rw [hexponent, carry_eq] at hnormal
    rw [hcarry]
    exact ⟨_, _, rfl, hnormal, hrounded⟩

/-! ### Small integers -/

/-- An integer that fits in the mantissa of a float. -/
def IsSmall (n : Int) : Prop := n.natAbs < 2 ^ (53 : Nat)

lemma isModerate_of_small {a b : Int} (ha : IsSmall a) (hb : IsSmall b) (hane : a ≠ 0)
    (hbne : b ≠ 0) : IsModerate ((a.natAbs : ℚ) / b.natAbs) := by
  have hapos : (1 : ℚ) ≤ a.natAbs := by exact_mod_cast Int.natAbs_pos.2 hane
  have hbpos : (1 : ℚ) ≤ b.natAbs := by exact_mod_cast Int.natAbs_pos.2 hbne
  have hale : (a.natAbs : ℚ) ≤ 2 ^ (53 : ℤ) := by exact_mod_cast ha.le
  have hble : (b.natAbs : ℚ) ≤ 2 ^ (53 : ℤ) := by exact_mod_cast hb.le
  constructor
  · calc (2 : ℚ) ^ (-200 : ℤ) ≤ 1 / 2 ^ (53 : ℤ) := by norm_num
      _ ≤ a.natAbs / b.natAbs := by gcongr
  · calc (a.natAbs : ℚ) / b.natAbs ≤ 2 ^ (53 : ℤ) / 1 := by gcongr
      _ ≤ 2 ^ (200 : ℤ) := by norm_num

/-- A quotient of small integers becomes the float that it is rounded to. -/
lemma exists_quotient {a b : Int} (ha : IsSmall a) (hb : IsSmall b) (hane : a ≠ 0) (hbne : b ≠ 0) :
    ∃ x u, quotient a b = .ok x ∧ IsNormal x (signOf ((a < 0) != (b < 0))) u ∧
      IsRounded (a.natAbs / b.natAbs) u := by
  obtain ⟨x, u, hx, hnormal, hrounded⟩ := exists_ofFraction ((a < 0) != (b < 0))
    (Int.natAbs_pos.2 hane) (Int.natAbs_pos.2 hbne) (isModerate_of_small ha hb hane hbne)
  refine ⟨x, u, ?_, hnormal, hrounded⟩
  rw [quotient, quotient?, if_neg hane, hx]

/-- A small integer becomes a float as it is. -/
lemma exists_toFloat {n : Int} (h : IsSmall n) (hne : n ≠ 0) :
    ∃ x, (Number.int n).toFloat = .ok x ∧ IsNormal x (signOf (n < 0)) n.natAbs := by
  have hmoderate : IsModerate ((n.natAbs : ℚ) / (1 : Nat)) :=
    isModerate_of_small (b := 1) h (by unfold IsSmall; decide) hne one_ne_zero
  obtain ⟨x, u, hx, hnormal, hrounded⟩ :=
    exists_ofFraction (n < 0) (Int.natAbs_pos.2 hne) Nat.one_pos hmoderate
  have hsame : u = n.natAbs :=
    (hrounded.exact (n := n.natAbs) (e := 0) h (by simp)).trans (by simp)
  refine ⟨x, ?_, hsame ▸ hnormal⟩
  rw [Number.toFloat, toFloat?, ofInt?, hx]

/-! ### What floats are worth -/

/-- A float is zero, or has a positive sign and a magnitude. -/
def IsWorth (x : Float) (v : ℚ) : Prop :=
  x.toModel.unpack = .zero .positive ∧ v = 0 ∨ IsNormal x .positive v

lemma isRounded_zero : IsRounded 0 0 := ⟨by norm_num, fun _ _ => rfl⟩

lemma IsNormal.pos {x : Float} {s : Sign} {v : ℚ} (h : IsNormal x s v) : 0 < v := by
  obtain ⟨m, e, hm, -, -, rfl⟩ := h
  exact mul_pos (Nat.cast_pos.2 hm) (two_zpow_pos e)

lemma IsWorth.nonneg {x : Float} {v : ℚ} (h : IsWorth x v) : 0 ≤ v := by
  rcases h with ⟨-, rfl⟩ | h
  · exact le_rfl
  · exact h.pos.le

lemma IsWorth.mul {x y : Float} {v w : ℚ} (hx : IsWorth x v) (hy : IsWorth y w)
    (h : 0 < v → 0 < w → IsModerate (v * w)) :
    ∃ u, IsWorth (x * y) u ∧ IsRounded (v * w) u := by
  have hzero (hmul : UnpackedFloat.mul Format.binary64 x.toModel.unpack y.toModel.unpack =
      .zero .positive) : IsWorth (x * y) 0 := .inl ⟨by rw [unpack_mul, hmul]; rfl, rfl⟩
  rcases hx with ⟨hx, rfl⟩ | hx
  · rw [zero_mul]
    refine ⟨0, hzero ?_, isRounded_zero⟩
    rcases hy with ⟨hy, -⟩ | ⟨n, f, hn, hy, -⟩ <;> rw [hx, hy] <;> rfl
  rcases hy with ⟨hy, rfl⟩ | hy
  · rw [mul_zero]
    refine ⟨0, hzero ?_, isRounded_zero⟩
    obtain ⟨m, e, hm, hx, -⟩ := hx
    rw [hx, hy]
    rfl
  · obtain ⟨u, hu, hrounded⟩ := hx.mul hy (h hx.pos hy.pos)
    exact ⟨u, .inr hu, hrounded⟩

lemma IsWorth.toFloor {x : Float} {v : ℚ} (h : IsWorth x v) :
    (Number.float x).toFloor = .ok ⌊v⌋ := by
  rcases h with ⟨hx, rfl⟩ | h
  · rw [Number.toFloor, floor, wholePart, parts_eq, hx, Int.floor_zero]
    rfl
  · exact h.toFloor

lemma exists_natCast_toFloat {n : Nat} (h : n < 2 ^ (53 : Nat)) :
    ∃ x, (Number.int n).toFloat = .ok x ∧ IsWorth x n := by
  rcases Nat.eq_zero_or_pos n with rfl | hpos
  · exact ⟨_, rfl, .inl ⟨rfl, Nat.cast_zero⟩⟩
  · obtain ⟨x, hx, hnormal⟩ := exists_toFloat (n := n) h (by omega)
    rw [decide_eq_false (by omega)] at hnormal
    exact ⟨x, hx, .inr hnormal⟩

lemma exists_natCast_quotient {m n : Nat} (hm : m < 2 ^ (53 : Nat)) (hn : n < 2 ^ (53 : Nat))
    (hpos : 0 < n) :
    ∃ x u, quotient m n = .ok x ∧ IsWorth x u ∧ IsRounded (m / n) u := by
  rcases Nat.eq_zero_or_pos m with rfl | hmpos
  · refine ⟨ofMagnitude false 0, 0, ?_, .inl ⟨rfl, rfl⟩, by simpa using isRounded_zero⟩
    rw [quotient, quotient?, if_pos Nat.cast_zero, if_neg (by omega)]
  · obtain ⟨x, u, hx, hnormal, hrounded⟩ :=
      exists_quotient (a := m) (b := n) hm hn (by omega) (by omega)
    rw [decide_eq_false (by omega), decide_eq_false (by omega)] at hnormal
    exact ⟨x, u, hx, .inr hnormal, hrounded⟩

end LearningGame.Number
