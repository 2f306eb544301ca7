import LearningGame.Proofs.Number.Float
import Mathlib

/-!
# Stored floats

A finite float that is not zero is stored with a mantissa and an exponent, and is unpacked as it was
packed. A magnitude that is less than a stored one is rounded to one that is not greater.
-/

namespace LearningGame.Number

open Float.Model Float.Model.UnpackedFloat

attribute [local instance (2000)] instPowNat

/-- Mantissas and exponents of floats as they are stored: with all bits of the mantissa in use, or
at the least exponent. -/
structure IsStored (m : Nat) (e : Int) : Prop where
  lt : m < 2 ^ (53 : Nat)
  least : -1074 ≤ e
  most : e ≤ 971
  full : 2 ^ (52 : Nat) ≤ m ∨ e = -1074

/-- A magnitude as a number of the least units of floats, which are the powers of two to `-1074`. -/
def magnitude (m : Nat) (e : Int) : Nat := m * 2 ^ (e + 1074).toNat

lemma magnitude_pos {m : Nat} {e : Int} (hm : 0 < m) : 0 < magnitude m e :=
  Nat.mul_pos hm (Nat.two_pow_pos _)

/-- A mantissa may be shifted if the exponent makes up for it. -/
lemma magnitude_shift {m : Nat} {e : Int} (k : Nat) (he : -1074 ≤ e) :
    magnitude (m * 2 ^ k) e = magnitude m (e + k) := by
  have hk : (e + k + 1074).toNat = k + (e + 1074).toNat := by omega
  rw [magnitude, magnitude, hk, Nat.pow_add, Nat.mul_assoc]

lemma magnitude_lower {n : Nat} {e f : Int} (he : -1074 ≤ e) (h : e ≤ f) :
    magnitude (n * 2 ^ (f - e).toNat) e = magnitude n f := by
  rw [magnitude_shift _ he]
  congr 1
  omega

lemma magnitude_le_iff {m n : Nat} {e : Int} : magnitude m e ≤ magnitude n e ↔ m ≤ n :=
  Nat.mul_le_mul_right_iff (Nat.two_pow_pos _)

lemma magnitude_lt_iff {m n : Nat} {e : Int} : magnitude m e < magnitude n e ↔ m < n :=
  Nat.mul_lt_mul_right (Nat.two_pow_pos _)

/-- Of two magnitudes that are stored the one with the greater exponent is greater. -/
lemma IsStored.magnitude_lt {m n : Nat} {e f : Int} (hm : IsStored m e) (hn : IsStored n f)
    (h : e < f) : magnitude m e < magnitude n f := by
  have hfull : 2 ^ (52 : Nat) ≤ n := hn.full.resolve_right (by have := hm.least; omega)
  obtain ⟨k, rfl⟩ : ∃ k : Nat, f = e + k := ⟨(f - e).toNat, by omega⟩
  rw [← magnitude_shift k hm.least, magnitude_lt_iff]
  have hk : 2 ^ (1 : Nat) ≤ 2 ^ k := Nat.pow_le_pow_right Nat.two_pos (by omega)
  calc m < 2 ^ (53 : Nat) := hm.lt
    _ = 2 ^ (52 : Nat) * 2 ^ (1 : Nat) := rfl
    _ ≤ n * 2 ^ k := Nat.mul_le_mul hfull hk

/-- Magnitudes that are stored are ordered by their exponents, and by their mantissas at the same
exponent. -/
lemma IsStored.compare {m n : Nat} {e f : Int} (hm : IsStored m e) (hn : IsStored n f) :
    (compare e f).then (compare m n) = compare (magnitude m e) (magnitude n f) := by
  rcases Int.lt_trichotomy e f with h | rfl | h
  · rw [Int.compare_eq_lt.2 h, Nat.compare_eq_lt.2 (hm.magnitude_lt hn h)]
    rfl
  · rw [Std.ReflOrd.compare_self]
    rcases Nat.lt_trichotomy m n with h | rfl | h
    · rw [Nat.compare_eq_lt.2 h, Nat.compare_eq_lt.2 (magnitude_lt_iff.2 h)]
      rfl
    · rw [Std.ReflOrd.compare_self, Std.ReflOrd.compare_self]
      rfl
    · rw [Nat.compare_eq_gt.2 h, Nat.compare_eq_gt.2 (magnitude_lt_iff.2 h)]
      rfl
  · rw [Int.compare_eq_gt.2 h, Nat.compare_eq_gt.2 (hn.magnitude_lt hm h)]
    rfl

/-! ### Unpacked floats -/

lemma unpackMantissa_toNat (b : BitVec 64) :
    (@unpackMantissa Format.binary64 b).toNat = b.toNat % 2 ^ (52 : Nat) := by
  simp [unpackMantissa]

lemma unpackSign_eq_negative (b : BitVec 64) :
    (Sign.ofBitVec (@unpackSign Format.binary64 b) == .negative) =
      decide (2 ^ (63 : Nat) ≤ b.toNat) := by
  have hsign : (@unpackSign Format.binary64 b).toNat = b.toNat / 2 ^ (63 : Nat) := by
    have hlt := b.isLt
    simp [unpackSign, Nat.shiftRight_eq_div_pow]
    omega
  have hzero : @unpackSign Format.binary64 b = 0#1 ↔ b.toNat / 2 ^ (63 : Nat) = 0 := by
    rw [← hsign, ← BitVec.toNat_inj]
    rfl
  unfold Sign.ofBitVec
  by_cases h : 2 ^ (63 : Nat) ≤ b.toNat
  · rw [if_neg (by rw [hzero]; omega), decide_eq_true h]
    rfl
  · rw [if_pos (by rw [hzero]; omega), decide_eq_false h]
    rfl

/-- The bits of a float tell what it is unpacked to. -/
lemma unpack_cases (b : BitVec 64) :
    let s := Sign.ofBitVec (@unpackSign Format.binary64 b)
    let scale := b.toNat / 2 ^ (52 : Nat) % 2 ^ (11 : Nat)
    let fraction := b.toNat % 2 ^ (52 : Nat)
    (scale = 2047 ∧ fraction = 0 ∧ UnpackedFloat.unpack Format.binary64 b = .infinity s) ∨
    (scale = 2047 ∧ fraction ≠ 0 ∧ UnpackedFloat.unpack Format.binary64 b = .notANumber) ∨
    (scale = 0 ∧ fraction = 0 ∧ UnpackedFloat.unpack Format.binary64 b = .zero s) ∨
    (scale = 0 ∧ ∃ h : 0 < fraction,
      UnpackedFloat.unpack Format.binary64 b = .finite s fraction (-1074) h) ∨
    (scale ≠ 2047 ∧ scale ≠ 0 ∧ ∃ h : 0 < fraction + 2 ^ (52 : Nat),
      UnpackedFloat.unpack Format.binary64 b =
        .finite s (fraction + 2 ^ (52 : Nat)) (scale - 1075) h) := by
  intro s scale fraction
  have hscale : (@unpackExponent Format.binary64 b).toNat = scale := unpackExponent_toNat b
  have hfraction : (@unpackMantissa Format.binary64 b).toNat = fraction := unpackMantissa_toNat b
  have hones : @unpackExponent Format.binary64 b = -1#_ ↔ scale = 2047 := by
    rw [← BitVec.toNat_inj, hscale]
    rfl
  have hnone : @unpackExponent Format.binary64 b = 0#_ ↔ scale = 0 := by
    rw [← BitVec.toNat_inj, hscale]
    rfl
  have hempty : @unpackMantissa Format.binary64 b = 0#_ ↔ fraction = 0 := by
    rw [← BitVec.toNat_inj, hfraction]
    rfl
  unfold UnpackedFloat.unpack
  dsimp only
  split_ifs with h₁ h₂ h₂ h₃
  · exact .inl ⟨hones.1 h₁, hempty.1 h₂, rfl⟩
  · exact .inr (.inl ⟨hones.1 h₁, fun h => h₂ (hempty.2 h), rfl⟩)
  · exact .inr (.inr (.inl ⟨hnone.1 h₂, hempty.1 h₃, rfl⟩))
  · have hpos : 0 < fraction := Nat.pos_of_ne_zero fun h => h₃ (hempty.2 h)
    refine .inr (.inr (.inr (.inl ⟨hnone.1 h₂, hpos, ?_⟩)))
    have hexponent : ((@unpackExponent Format.binary64 b).toNat : Int) -
        (Format.binary64.exponentBias + Format.binary64.mantissaBitsWithoutImplicit : Int) + 1 =
        -1074 := by
      rw [hscale, hnone.1 h₂]
      rfl
    simp only [hexponent, hfraction]
    rfl
  · refine .inr (.inr (.inr (.inr ⟨fun h => h₁ (hones.2 h), fun h => h₂ (hnone.2 h),
      Nat.add_pos_right _ (Nat.two_pow_pos _), ?_⟩)))
    have hmantissa : (1#1 ++ @unpackMantissa Format.binary64 b).toNat =
        fraction + 2 ^ (52 : Nat) := by
      rw [BitVec.toNat_append, ← Nat.shiftLeft_add_eq_or_of_lt (BitVec.isLt _), hfraction,
        Nat.add_comm]
      rfl
    have hexponent : ((@unpackExponent Format.binary64 b).toNat : Int) -
        (Format.binary64.exponentBias + Format.binary64.mantissaBitsWithoutImplicit : Int) =
        scale - 1075 := by
      rw [hscale]
      rfl
    simp only [hexponent, hmantissa]
    rfl

/-- The parts of an unpacked float. -/
def partsOf : UnpackedFloat → Parts
  | .notANumber => .nan
  | .infinity s => .infinite (s == .negative)
  | .zero s => .finite (s == .negative) 0 (-1074)
  | .finite s m e _ => .finite (s == .negative) m e

/-- A float is taken apart as it is unpacked. -/
lemma parts_eq (x : Float) : parts x = partsOf x.toModel.unpack := by
  have hbits : x.toBits.toNat = x.toModel.toBits.toBitVec.toNat := rfl
  show parts x = partsOf (UnpackedFloat.unpack Format.binary64 x.toModel.toBits.toBitVec)
  unfold parts
  rw [hbits]
  have hsign := unpackSign_eq_negative x.toModel.toBits.toBitVec
  rcases unpack_cases x.toModel.toBits.toBitVec with ⟨h₁, h₂, h⟩ | ⟨h₁, h₂, h⟩ | ⟨h₁, h₂, h⟩ |
    ⟨h₁, h₂, h⟩ | ⟨h₁, h₂, h₃, h⟩ <;>
  simp only [h, h₁, h₂, partsOf, hsign] <;> simp

lemma isStored_of_unpack {b : BitVec 64} {s : Sign} {m : Nat} {e : Int} {hm : 0 < m}
    (h : UnpackedFloat.unpack Format.binary64 b = .finite s m e hm) : IsStored m e := by
  rcases unpack_cases b with ⟨-, -, h'⟩ | ⟨-, -, h'⟩ | ⟨-, -, h'⟩ | ⟨-, hm', h'⟩ |
    ⟨hne, hpos, hm', h'⟩
  all_goals
    rw [h'] at h
    cases h
  · exact ⟨by omega, by omega, by omega, .inr rfl⟩
  · exact ⟨by omega, by omega, by omega, .inl (by omega)⟩

/-- What is packed is told by its sign, its exponent and its mantissa. -/
lemma unpack_packComponents_cases (s : Sign) {scale fraction : Nat}
    (hscale : scale < 2 ^ (11 : Nat)) (hfraction : fraction < 2 ^ (52 : Nat)) :
    let b := packComponents Format.binary64 s (BitVec.ofNat 11 scale) (BitVec.ofNat 52 fraction)
    (scale = 0 → ∀ h : 0 < fraction,
      UnpackedFloat.unpack Format.binary64 b = .finite s fraction (-1074) h) ∧
    (scale ≠ 0 → scale ≠ 2047 → ∀ h : 0 < fraction + 2 ^ (52 : Nat),
      UnpackedFloat.unpack Format.binary64 b =
        .finite s (fraction + 2 ^ (52 : Nat)) (scale - 1075) h) := by
  intro b
  have h₁ : b.toNat / 2 ^ (52 : Nat) % 2 ^ (11 : Nat) = scale := by
    rw [← unpackExponent_toNat, unpackExponent_packComponents]
    exact Nat.mod_eq_of_lt hscale
  have h₂ : b.toNat % 2 ^ (52 : Nat) = fraction := by
    rw [← unpackMantissa_toNat, unpackMantissa_packComponents]
    exact Nat.mod_eq_of_lt hfraction
  have hcases := unpack_cases b
  dsimp only at hcases
  rw [h₁, h₂, unpackSign_packComponents, Sign.ofBitVec_toBitVec] at hcases
  refine ⟨fun hnone hpos => ?_, fun hsome hfinite hpos => ?_⟩
  · rcases hcases with ⟨h, -⟩ | ⟨h, -⟩ | ⟨-, h, -⟩ | ⟨-, _, h⟩ | ⟨-, h, -⟩
    · omega
    · omega
    · omega
    · exact h
    · omega
  · rcases hcases with ⟨h, -⟩ | ⟨h, -⟩ | ⟨h, -⟩ | ⟨h, -⟩ | ⟨-, -, _, h⟩
    iterate 2 exact absurd h hfinite
    iterate 2 exact absurd h hsome
    exact h

/-- What is stored is unpacked as it was packed. -/
lemma unpack_pack {m : Nat} {e : Int} (h : IsStored m e) (s : Sign) (hm : 0 < m) :
    UnpackedFloat.unpack Format.binary64 (UnpackedFloat.pack Format.binary64 (.finite s m e hm)) =
      .finite s m e hm := by
  obtain ⟨hlt, hleast, hmost, hfull⟩ := h
  have hbiased : (e + Format.binary64.exponentBias +
      Format.binary64.mantissaBitsWithoutImplicit).toNat = (e + 1075).toNat := by
    show (e + (1023 : Nat) + (52 : Nat)).toNat = _
    omega
  have hfinite : ¬2 ^ Format.binary64.exponentBits ≤ (e + 1075).toNat + 1 := by
    show ¬2048 ≤ (e + 1075).toNat + 1
    omega
  unfold UnpackedFloat.pack
  simp only [hbiased, if_neg hfinite]
  by_cases hnormal : 2 ^ (52 : Nat) ≤ m
  · have hlog : m.log2 + 1 = Format.binary64.mantissaBits := by
      rw [(Nat.log2_eq_iff (by omega)).2 ⟨hnormal, hlt⟩]
      rfl
    have hmantissa : BitVec.ofNat 52 m = BitVec.ofNat 52 (m - 2 ^ (52 : Nat)) := by
      rw [← BitVec.toNat_inj, BitVec.toNat_ofNat, BitVec.toNat_ofNat]
      omega
    rw [if_pos hlog]
    show UnpackedFloat.unpack _ (packComponents Format.binary64 s (BitVec.ofNat 11 (e + 1075).toNat)
      (BitVec.ofNat 52 m)) = _
    rw [hmantissa, (unpack_packComponents_cases s (by omega) (by omega)).2 (by omega) (by omega)
      (by omega), UnpackedFloat.finite.injEq]
    exact ⟨rfl, by omega, by omega⟩
  · have hlog : ¬m.log2 + 1 = Format.binary64.mantissaBits := by
      have hless : m.log2 < 52 := (Nat.log2_lt (by omega)).2 (by omega)
      show ¬m.log2 + 1 = 53
      omega
    obtain rfl : e = -1074 := hfull.resolve_left hnormal
    rw [if_neg hlog]
    exact (unpack_packComponents_cases s (Nat.two_pow_pos 11) (by omega)).1 rfl hm

/-! ### Rounding -/

lemma mantissa_shiftRight (em : ExtendedMantissa) (k : Nat) :
    (em >>> k).mantissa = em.mantissa / 2 ^ k := by
  show (k.repeat ExtendedMantissa.shiftRightOne em).mantissa = _
  induction k with
  | zero => exact (Nat.div_one _).symm
  | succ k ih =>
    rw [Nat.pow_succ, ← Nat.div_div_eq_div_mul, ← ih]
    rfl

/-- A mantissa is rounded to itself or to the next one. -/
lemma roundedMantissa_bounds (em : ExtendedMantissa) :
    em.mantissa ≤ em.roundedMantissa ∧ em.roundedMantissa ≤ em.mantissa + 1 := by
  obtain ⟨m, round, sticky⟩ := em
  cases round <;> cases sticky <;>
    simp only [ExtendedMantissa.roundedMantissa, ExtendedMantissa.accuracy,
      Accuracy.roundToNearestEven] <;> omega

/-- What a mantissa was before it was shifted, in its own units: the two bits tell whether nothing,
less than a half, a half, or more than that has been lost. -/
def IsShifted (x : ℚ) : ExtendedMantissa → Prop
  | ⟨m, false, false⟩ => x = m
  | ⟨m, false, true⟩ => m < x ∧ x < m + 1 / 2
  | ⟨m, true, false⟩ => x = m + 1 / 2
  | ⟨m, true, true⟩ => m + 1 / 2 < x ∧ x < m + 1

lemma IsShifted.shiftRightOne {x : ℚ} {em : ExtendedMantissa} (h : IsShifted x em) :
    IsShifted (x / 2) em.shiftRightOne := by
  obtain ⟨m, round, sticky⟩ := em
  have hm : (m : ℚ) = 2 * (m / 2 : Nat) + (m % 2 : Nat) := by
    exact_mod_cast (Nat.div_add_mod m 2).symm
  have hround : (m % 2 != 0) = decide (m % 2 = 1) := by
    rcases Nat.mod_two_eq_zero_or_one m with hbit | hbit <;> rw [hbit] <;> rfl
  rw [ExtendedMantissa.shiftRightOne, hround]
  rcases Nat.mod_two_eq_zero_or_one m with hbit | hbit <;> cases round <;> cases sticky <;>
    simp [IsShifted, hm, hbit] at h ⊢
  all_goals first | linarith | constructor <;> linarith

lemma isShifted_shiftRight (m k : Nat) :
    IsShifted (m / 2 ^ k : ℚ) (ExtendedMantissa.mk m false false >>> k) := by
  show IsShifted _ (k.repeat ExtendedMantissa.shiftRightOne ⟨m, false, false⟩)
  induction k with
  | zero => simp [Nat.repeat, IsShifted]
  | succ k ih =>
    rw [pow_succ, ← div_div]
    exact ih.shiftRightOne

/-- A mantissa is rounded to the nearest one. -/
lemma IsShifted.near {x : ℚ} {em : ExtendedMantissa} (h : IsShifted x em) :
    |(em.roundedMantissa : ℚ) - x| ≤ 1 / 2 := by
  obtain ⟨m, round, sticky⟩ := em
  rw [abs_le]
  cases round <;> cases sticky <;> rcases Nat.mod_two_eq_zero_or_one m with hbit | hbit <;>
    simp only [IsShifted, ExtendedMantissa.roundedMantissa, ExtendedMantissa.accuracy,
      Accuracy.roundToNearestEven, hbit] at h ⊢ <;> push_cast <;> constructor <;> linarith

/-- The exponent at which a magnitude is stored. -/
def storedExponent (m : Nat) (e : Int) : Int := max (m.log2 + e - 52) (-1074)

lemma targetExponent_eq (m : Nat) (e : Int) :
    Format.binary64.targetExponent (totalExponent m e) = storedExponent m e := by
  show max ((m.log2 : Int) + 1 + e - (53 : Nat)) (3 - 2 ^ (10 : Nat) - (53 : Nat)) = _
  unfold storedExponent
  omega

lemma shiftToTargetExponent_of_le {m : Nat} {e : Int} (h : storedExponent m e ≤ e) :
    shiftToTargetExponent Format.binary64 m e .exact = (⟨m, false, false⟩, e) := by
  have hnone : (storedExponent m e - e).toNat = 0 := by omega
  rw [shiftToTargetExponent, targetExponent_eq, shiftToExponent, hnone]
  simp only [ExtendedMantissa.ofMantissaAndAccuracy]
  exact Prod.ext rfl (Int.add_zero e)

/-- A mantissa with all bits in use is stored at the exponent that it has. -/
lemma storedExponent_eq {m : Nat} {e : Int} (hlow : 2 ^ (52 : Nat) ≤ m)
    (hhigh : m < 2 ^ (53 : Nat)) (he : -1074 ≤ e) : storedExponent m e = e := by
  have hlog : m.log2 = 52 := (Nat.log2_eq_iff (by omega)).2 ⟨hlow, hhigh⟩
  unfold storedExponent
  omega

lemma log2_mul_two_pow {m : Nat} (hm : 0 < m) (k : Nat) : (m * 2 ^ k).log2 = m.log2 + k := by
  have hpos : m * 2 ^ k ≠ 0 := Nat.ne_of_gt (Nat.mul_pos hm (Nat.two_pow_pos k))
  obtain ⟨hlow, hhigh⟩ := (Nat.log2_eq_iff (Nat.ne_of_gt hm)).1 rfl
  refine (Nat.log2_eq_iff hpos).2 ⟨?_, ?_⟩
  · rw [Nat.pow_add]
    exact Nat.mul_le_mul_right _ hlow
  · rw [Nat.add_right_comm, Nat.pow_add]
    exact Nat.mul_lt_mul_of_pos_right hhigh (Nat.two_pow_pos k)

/-- A magnitude that is less than a stored one is not stored at a greater exponent. -/
lemma IsStored.storedExponent_le {m n : Nat} {e f : Int} (hn : IsStored n f) (hm : 0 < m)
    (he : -1074 ≤ e) (h : magnitude m e < magnitude n f) : storedExponent m e ≤ f := by
  have hleast := hn.least
  have hlow : 2 ^ m.log2 ≤ m := Nat.log2_self_le (Nat.ne_of_gt hm)
  have hpow : 2 ^ (m.log2 + (e + 1074).toNat) < 2 ^ (53 + (f + 1074).toNat) := by
    rw [Nat.pow_add, Nat.pow_add]
    calc 2 ^ m.log2 * 2 ^ (e + 1074).toNat ≤ magnitude m e := Nat.mul_le_mul_right _ hlow
      _ < magnitude n f := h
      _ ≤ 2 ^ (53 : Nat) * 2 ^ (f + 1074).toNat := Nat.mul_le_mul_right _ (Nat.le_of_lt hn.lt)
  have hexponent := (Nat.pow_lt_pow_iff_right (by omega)).1 hpow
  unfold storedExponent
  omega

/-- What can be stored without loss is not changed by rounding. -/
lemma roundWithAccuracy_of_le {s : Sign} {m : Nat} {e : Int} (hm : 0 < m)
    (h : storedExponent m e ≤ e) :
    roundWithAccuracy Format.binary64 s m e .exact = .finite s m e hm := by
  have hround : (⟨m, false, false⟩ : ExtendedMantissa).roundedMantissa = m := rfl
  rw [roundWithAccuracy, shiftToTargetExponent_of_le h]
  simp only [hround, shiftToTargetExponent_of_le h, Nat.ne_of_gt hm, dite_false]

/-- The power of two above all mantissas carries into the exponent. -/
lemma shiftToTargetExponent_carry {e : Int} (he : -1074 ≤ e) :
    shiftToTargetExponent Format.binary64 (2 ^ (53 : Nat)) e .exact =
      (⟨2 ^ (52 : Nat), false, false⟩, e + 1) := by
  have hstored : storedExponent (2 ^ (53 : Nat)) e = e + 1 := by
    rw [storedExponent, Nat.log2_two_pow]
    omega
  have hone : (e + 1 - e).toNat = 1 := by omega
  rw [shiftToTargetExponent, targetExponent_eq, hstored, shiftToExponent, hone]
  rfl

/-- A mantissa that has been rounded may be the next power of two, which carries into the
exponent. -/
lemma roundWithAccuracy_of_lt {s : Sign} {m : Nat} {e : Int} (hm : 0 < m) (he : -1074 ≤ e)
    (h : e < storedExponent m e) :
    ∃ r, r ≤ m / 2 ^ (storedExponent m e - e).toNat + 1 ∧
      |(r : ℚ) - m / 2 ^ (storedExponent m e - e).toNat| ≤ 1 / 2 ∧
      2 ^ (52 : Nat) ≤ r ∧ r ≤ 2 ^ (53 : Nat) ∧
      ((∃ hr : 0 < r, r < 2 ^ (53 : Nat) ∧
          roundWithAccuracy Format.binary64 s m e .exact = .finite s r (storedExponent m e) hr) ∨
        r = 2 ^ (53 : Nat) ∧ ∃ hr : 0 < 2 ^ (52 : Nat),
          roundWithAccuracy Format.binary64 s m e .exact =
            .finite s (2 ^ (52 : Nat)) (storedExponent m e + 1) hr) := by
  generalize ht : storedExponent m e = t at h ⊢
  generalize hk : (t - e).toNat = k
  let em : ExtendedMantissa := ExtendedMantissa.mk m false false >>> k
  have hem : em.mantissa = m / 2 ^ k := mantissa_shiftRight _ k
  have hfirst : shiftToTargetExponent Format.binary64 m e .exact = (em, t) := by
    rw [shiftToTargetExponent, targetExponent_eq, ht, shiftToExponent, hk]
    exact Prod.ext rfl (by show e + (k : Int) = t; omega)
  have hbounds := roundedMantissa_bounds em
  rw [hem] at hbounds
  have hlog : m.log2 = 52 + k := by
    unfold storedExponent at ht
    omega
  obtain ⟨hlow, hhigh⟩ := (Nat.log2_eq_iff (Nat.ne_of_gt hm)).1 hlog
  have hquotient : 2 ^ (52 : Nat) ≤ m / 2 ^ k ∧ m / 2 ^ k < 2 ^ (53 : Nat) := by
    rw [Nat.le_div_iff_mul_le (Nat.two_pow_pos k), Nat.div_lt_iff_lt_mul (Nat.two_pow_pos k),
      ← Nat.pow_add, ← Nat.pow_add]
    exact ⟨hlow, by rwa [Nat.add_right_comm] at hhigh⟩
  have hnear := (isShifted_shiftRight m k).near
  change |(em.roundedMantissa : ℚ) - _| ≤ _ at hnear
  generalize hr : em.roundedMantissa = r at hbounds hnear
  refine ⟨r, hbounds.2, hnear, by omega, by omega, ?_⟩
  rw [roundWithAccuracy, hfirst]
  simp only [hr]
  by_cases hcarry : r < 2 ^ (53 : Nat)
  · have hstored : storedExponent r t ≤ t :=
      Int.le_of_eq (storedExponent_eq (by omega) hcarry (by omega))
    refine .inl ⟨by omega, hcarry, ?_⟩
    simp only [shiftToTargetExponent_of_le hstored]
    rw [dif_neg (by omega)]
  · obtain rfl : r = 2 ^ (53 : Nat) := by omega
    have hleast : -1074 ≤ t := by omega
    refine .inr ⟨rfl, by omega, ?_⟩
    simp only [shiftToTargetExponent_carry hleast]
    rw [dif_neg (by omega)]

section

variable {s : Sign} {m n : Nat} {e f : Int} (hm : 0 < m) (he : -1074 ≤ e) (hn : IsStored n f)
  (h : magnitude m e < magnitude n f)

include hm he hn h

/-- At an exponent that is high enough nothing is lost: the mantissa is filled up with zeros. -/
lemma exists_round_of_le (hle : storedExponent m e ≤ e) :
    ∃ m' e', ∃ hm' : 0 < m', UnpackedFloat.round Format.binary64 s m e = .finite s m' e' hm' ∧
      IsStored m' e' ∧ magnitude m' e' ≤ magnitude n f := by
  have hbelow := hn.storedExponent_le hm he h
  have hmost := hn.most
  rw [UnpackedFloat.round, targetExponent_eq]
  generalize ht : storedExponent m e = t at hle hbelow
  unfold storedExponent at ht
  obtain ⟨k, rfl⟩ : ∃ k : Nat, e = t + k := ⟨(e - t).toNat, by omega⟩
  have hk : (t + (k : Int) - t).toNat = k := by omega
  have hback : t + (k : Int) - (k : Nat) = t := by omega
  have hleast : -1074 ≤ t := by omega
  have hpos : 0 < m * 2 ^ k := Nat.mul_pos hm (Nat.two_pow_pos k)
  have hlog := log2_mul_two_pow hm k
  refine ⟨m * 2 ^ k, t, hpos, ?_, ⟨?_, hleast, by omega, ?_⟩, ?_⟩
  · simp only [decreaseExponent, hk, Nat.shiftLeft_eq, hback]
    refine roundWithAccuracy_of_le hpos ?_
    unfold storedExponent
    omega
  · refine (Nat.log2_lt (Nat.ne_of_gt hpos)).1 ?_
    omega
  · rw [← Nat.le_log2 (Nat.ne_of_gt hpos)]
    omega
  · rw [magnitude_shift k hleast]
    exact Nat.le_of_lt h

/-- At a lower exponent the last bits are lost, of which there are none in the stored magnitude. -/
lemma exists_round_of_lt (hlt : e < storedExponent m e) :
    ∃ m' e', ∃ hm' : 0 < m', UnpackedFloat.round Format.binary64 s m e = .finite s m' e' hm' ∧
      IsStored m' e' ∧ magnitude m' e' ≤ magnitude n f := by
  have hle := hn.storedExponent_le hm he h
  have hmost := hn.most
  obtain ⟨r, hquotient, -, hlow, hhigh, hcases⟩ := roundWithAccuracy_of_lt (s := s) hm he hlt
  rw [UnpackedFloat.round, targetExponent_eq]
  generalize storedExponent m e = t at hlt hle hquotient hcases
  have hleast : -1074 ≤ t := by omega
  have hless : r ≤ n * 2 ^ (f - t).toNat := by
    rw [← magnitude_lower hleast hle, ← magnitude_lower he (Int.le_of_lt hlt), magnitude_lt_iff,
      ← Nat.div_lt_iff_lt_mul (Nat.two_pow_pos _)] at h
    omega
  have hbelow : magnitude r t ≤ magnitude n f := by
    rw [← magnitude_lower hleast hle, magnitude_le_iff]
    exact hless
  have hk : (e - t).toNat = 0 := by omega
  simp only [decreaseExponent, hk, Nat.shiftLeft_zero, Int.natCast_zero, Int.sub_zero]
  rcases hcases with ⟨hr, hstored, hround⟩ | ⟨rfl, hr, hround⟩
  · exact ⟨r, t, hr, hround, ⟨hstored, hleast, by omega, .inl hlow⟩, hbelow⟩
  · have hne : f ≠ t := by
      rintro rfl
      have hstored := hn.lt
      rw [Int.sub_self] at hless
      simp only [Int.toNat_zero, Nat.pow_zero, Nat.mul_one] at hless
      omega
    have hcarry : magnitude (2 ^ (52 : Nat)) (t + 1) = magnitude (2 ^ (53 : Nat)) t :=
      (magnitude_shift 1 hleast).symm
    refine ⟨2 ^ (52 : Nat), t + 1, hr, hround, ?_, hcarry ▸ hbelow⟩
    exact ⟨by omega, by omega, by omega, .inl (Nat.le_refl _)⟩

/-- A magnitude that is less than a stored one is not rounded to a greater one. -/
lemma exists_round :
    ∃ m' e', ∃ hm' : 0 < m', UnpackedFloat.round Format.binary64 s m e = .finite s m' e' hm' ∧
      IsStored m' e' ∧ magnitude m' e' ≤ magnitude n f := by
  rcases Int.lt_or_le e (storedExponent m e) with hlt | hle
  · exact exists_round_of_lt hm he hn h hlt
  · exact exists_round_of_le hm he hn h hle

end

end LearningGame.Number
