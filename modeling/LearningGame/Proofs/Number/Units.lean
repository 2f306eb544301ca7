import LearningGame.Proofs.Number.Stored

/-!
# What numbers are worth

A finite number is worth a whole number of the least units of floats. That is what finite numbers
are ordered by, be they integers or floats, and when no more than there is is taken away from a
float, what is left lies between nothing and what there was. Of any two numbers, infinite ones among
them, one is at most the other.
-/

namespace LearningGame.Number

open Float.Model Float.Model.UnpackedFloat

attribute [local instance (2000)] instPowNat

/-! ### Units -/

lemma compare_natCast (m n : Nat) : compare (m : Int) n = compare m n := by
  rcases Nat.lt_trichotomy m n with h | rfl | h
  · rw [Nat.compare_eq_lt.2 h, Int.compare_eq_lt.2 (Int.ofNat_lt.2 h)]
  · rw [Std.ReflOrd.compare_self, Std.ReflOrd.compare_self]
  · rw [Nat.compare_eq_gt.2 h, Int.compare_eq_gt.2 (Int.ofNat_lt.2 h)]

lemma compare_neg (a b : Int) : compare (-a) (-b) = (compare a b).swap := by
  rcases Int.lt_trichotomy a b with h | rfl | h
  · rw [Int.compare_eq_lt.2 h, Int.compare_eq_gt.2 (Int.neg_lt_neg h)]
    rfl
  · rw [Std.ReflOrd.compare_self, Std.ReflOrd.compare_self]
    rfl
  · rw [Int.compare_eq_gt.2 h, Int.compare_eq_lt.2 (Int.neg_lt_neg h)]
    rfl

/-- What an unpacked float is worth in the least units; nothing if it is not finite. -/
def unpackedUnits : UnpackedFloat → Int
  | .finite s m e _ => s.apply (magnitude m e)
  | _ => 0

/-- What a float is worth in the least units. -/
def floatUnits (x : Float) : Int := unpackedUnits x.toModel.unpack

/-- A finite float is zero or stored. -/
lemma exists_stored {x : Float} (h : x.isFinite = true) :
    (∃ s, x.toModel.unpack = .zero s) ∨
      ∃ s m e hm, x.toModel.unpack = .finite s m e hm ∧ IsStored m e := by
  change x.toModel.unpack.isFinite = true at h
  cases hx : x.toModel.unpack with
  | zero s => exact .inl ⟨s, rfl⟩
  | finite s m e hm => exact .inr ⟨s, m, e, hm, rfl, isStored_of_unpack hx⟩
  | infinity | notANumber => simp [hx, UnpackedFloat.isFinite] at h

/-- Finite floats are ordered by what they are worth. -/
lemma compare_unpack {x y : Float} (hx : x.isFinite = true) (hy : y.isFinite = true) :
    x.toModel.unpack.compare y.toModel.unpack = some (compare (floatUnits x) (floatUnits y)) := by
  unfold floatUnits
  rcases exists_stored hx with ⟨s, h⟩ | ⟨s, m, e, hm, h, hstored⟩ <;>
    rcases exists_stored hy with ⟨t, h'⟩ | ⟨t, n, f, hn, h', hstored'⟩ <;> rw [h, h']
  · rfl
  · have hpos : (0 : Int) < magnitude n f := Int.natCast_pos.2 (magnitude_pos hn)
    cases t with
    | negative => exact congrArg some (Int.compare_eq_gt.2 (Int.neg_neg_of_pos hpos)).symm
    | positive => exact congrArg some (Int.compare_eq_lt.2 hpos).symm
  · have hpos : (0 : Int) < magnitude m e := Int.natCast_pos.2 (magnitude_pos hm)
    cases s with
    | negative => exact congrArg some (Int.compare_eq_lt.2 (Int.neg_neg_of_pos hpos)).symm
    | positive => exact congrArg some (Int.compare_eq_gt.2 hpos).symm
  · have hm' : (0 : Int) < magnitude m e := Int.natCast_pos.2 (magnitude_pos hm)
    have hn' : (0 : Int) < magnitude n f := Int.natCast_pos.2 (magnitude_pos hn)
    have hparts := hstored.compare hstored'
    cases s <;> cases t <;> simp only [unpackedUnits, Sign.apply, compare_neg, compare_natCast]
    · exact congrArg (fun o => some o.swap) hparts
    · exact congrArg some (Int.compare_eq_lt.2 (by omega)).symm
    · exact congrArg some (Int.compare_eq_gt.2 (by omega)).symm
    · exact congrArg some hparts

/-- A number that is not infinite, nor no number at all. -/
def IsFinite : Number → Prop
  | .int _ => True
  | .float x => x.isFinite = true

/-- What a number is worth in the least units of floats. -/
def units : Number → Int
  | .int n => n * (2 ^ (1074 : Nat) : Nat)
  | .float x => floatUnits x

lemma compare_mul_right (a b : Int) {c : Int} (hc : 0 < c) :
    compare (a * c) (b * c) = compare a b := by
  rcases Int.lt_trichotomy a b with h | rfl | h
  · rw [Int.compare_eq_lt.2 h, Int.compare_eq_lt.2 (Int.mul_lt_mul_of_pos_right h hc)]
  · rw [Std.ReflOrd.compare_self, Std.ReflOrd.compare_self]
  · rw [Int.compare_eq_gt.2 h, Int.compare_eq_gt.2 (Int.mul_lt_mul_of_pos_right h hc)]

/-- What a power of two is as a fraction, in units of another power of two. -/
lemma exists_scale {e : Int} {n : Nat} (he : -(n : Int) ≤ e) : ∃ c : Nat, 0 < c ∧
    (powerOfTwo e).2 * c = 2 ^ n ∧ (powerOfTwo e).1 * c = 2 ^ (e + n).toNat := by
  unfold powerOfTwo
  by_cases hpos : 0 ≤ e
  · have hexponent : (e + n).toNat = e.toNat + n := by omega
    rw [if_pos hpos, hexponent, Nat.pow_add]
    exact ⟨_, Nat.two_pow_pos n, Nat.one_mul _, rfl⟩
  · have hexponent : n = (-e).toNat + (e + n).toNat := by omega
    rw [if_neg hpos]
    refine ⟨_, Nat.two_pow_pos (e + n).toNat, ?_, Nat.one_mul _⟩
    rw [← Nat.pow_add, ← hexponent]

lemma signed_eq_apply (s : Sign) (n : Nat) : signed (s == .negative) n = s.apply n := by
  cases s <;> rfl

lemma apply_mul (s : Sign) (a c : Int) : s.apply a * c = s.apply (a * c) := by
  cases s with
  | negative => exact Int.neg_mul a c
  | positive => rfl

/-- A finite float and an integer are compared by what they are worth. -/
lemma compareInt_eq (n : Int) {x : Float} (hx : x.isFinite = true) :
    compareInt n x = some (compare (n * (2 ^ (1074 : Nat) : Nat)) (floatUnits x)) := by
  have hfinite {s : Sign} {m : Nat} {e : Int} (he : -1074 ≤ e)
      (hparts : parts x = .finite (s == .negative) m e)
      (hunits : floatUnits x = s.apply (magnitude m e)) :
      compareInt n x = some (compare (n * (2 ^ (1074 : Nat) : Nat)) (floatUnits x)) := by
    obtain ⟨c, hc, hdown, hup⟩ := exists_scale (n := 1074) he
    have hmagnitude : (magnitude m e : Int) = (m * (powerOfTwo e).1 : Nat) * (c : Int) := by
      rw [← Int.natCast_mul, Nat.mul_assoc, hup]
      rfl
    unfold compareInt
    rw [hparts, hunits, ← hdown, Int.natCast_mul, ← Int.mul_assoc, hmagnitude, ← apply_mul,
      compare_mul_right _ _ (Int.natCast_pos.2 hc), ← signed_eq_apply]
  rcases exists_stored hx with ⟨s, h⟩ | ⟨s, m, e, hm, h, hstored⟩
  · refine hfinite (s := s) (m := 0) (Int.le_refl _) (by rw [parts_eq, h]; rfl) ?_
    rw [floatUnits, h, magnitude, Nat.zero_mul]
    cases s <;> rfl
  · exact hfinite hstored.least (by rw [parts_eq, h]; rfl) (by rw [floatUnits, h]; rfl)

/-- Finite numbers are compared by what they are worth. -/
lemma compare?_eq {a b : Number} (ha : a.IsFinite) (hb : b.IsFinite) :
    a.compare? b = some (compare a.units b.units) := by
  cases a with
  | int m =>
    cases b with
    | int n =>
      have hpos : (0 : Int) < (2 ^ (1074 : Nat) : Nat) := Int.natCast_pos.2 (Nat.two_pow_pos 1074)
      exact congrArg some (compare_mul_right m n hpos).symm
    | float y => exact compareInt_eq m hb
  | float x =>
    cases b with
    | int n =>
      show (compareInt n x).map Ordering.swap = _
      rw [compareInt_eq n ha, Option.map_some]
      exact congrArg some Std.OrientedOrd.eq_swap.symm
    | float y =>
      have hcompare := compare_unpack ha hb
      have hswap := compare_unpack hb ha
      simp only [compare?, float_lt_iff, float_beq_iff, hcompare, hswap, units, Option.some.injEq]
      rcases Int.lt_trichotomy (floatUnits x) (floatUnits y) with h | h | h
      · rw [Int.compare_eq_lt.2 h]
        rfl
      · rw [h, Std.ReflOrd.compare_self]
        rfl
      · rw [Int.compare_eq_gt.2 h, Int.compare_eq_lt.2 h]
        rfl

variable {a b c : Number}

lemma less_iff (ha : a.IsFinite) (hb : b.IsFinite) : a.less b = true ↔ a.units < b.units := by
  rw [less, compare?_eq ha hb, beq_iff_eq, Option.some.injEq, Int.compare_eq_lt]

lemma atMost_iff (ha : a.IsFinite) (hb : b.IsFinite) : a.atMost b = true ↔ a.units ≤ b.units := by
  rw [atMost, Bool.or_eq_true, less_iff ha hb, same, compare?_eq ha hb, beq_iff_eq,
    Option.some.injEq, Int.compare_eq_eq]
  omega

lemma float_less_iff (x y : Float) : (float x).less (float y) = true ↔
    x.toModel.unpack.compare y.toModel.unpack = some .lt := by
  rw [← float_lt_iff, less, beq_iff_eq]
  unfold compare?
  dsimp only
  split_ifs with h <;> simp [h]

/-- Nothing is less than negative infinity or than what is no number, nor is anything greater than
positive infinity. -/
lemma compare_ne_lt (f : UnpackedFloat) : f.compare (.infinity .negative) ≠ some .lt ∧
    f.compare .notANumber ≠ some .lt ∧
    (UnpackedFloat.infinity .positive).compare f ≠ some .lt := by
  cases f with
  | infinity s => cases s <;> decide
  | finite s => cases s <;> exact ⟨nofun, nofun, nofun⟩
  | zero | notANumber => exact ⟨nofun, nofun, nofun⟩

/-- What is greater than one number and less than another is finite. -/
lemma isFinite_of_less (hab : a.less b = true) (hbc : b.less c = true) : b.IsFinite := by
  cases b with
  | int n => trivial
  | float x =>
    have hbelow : x.toModel.unpack ≠ .infinity .negative ∧ x.toModel.unpack ≠ .notANumber := by
      cases a with
      | int n =>
        rw [less, beq_iff_eq] at hab
        change compareInt n x = some .lt at hab
        rw [compareInt, parts_eq] at hab
        constructor <;> intro hx <;> rw [hx] at hab <;> exact nomatch hab
      | float y =>
        rw [float_less_iff] at hab
        exact ⟨fun hx => (compare_ne_lt _).1 (hx ▸ hab), fun hx => (compare_ne_lt _).2.1 (hx ▸ hab)⟩
    have habove : x.toModel.unpack ≠ .infinity .positive := by
      intro hx
      cases c with
      | int n =>
        rw [less, beq_iff_eq] at hbc
        change (compareInt n x).map Ordering.swap = some .lt at hbc
        rw [compareInt, parts_eq, hx] at hbc
        exact nomatch hbc
      | float y =>
        rw [float_less_iff, hx] at hbc
        exact (compare_ne_lt _).2.2 hbc
    show x.toModel.unpack.isFinite = true
    cases hx : x.toModel.unpack with
    | infinity s =>
      cases s with
      | negative => exact absurd hx hbelow.1
      | positive => exact absurd hx habove
    | notANumber => exact absurd hx hbelow.2
    | zero | finite => rfl

/-! ### What is no number -/

/-- What is no number. -/
def IsNaN : Number → Prop
  | .int _ => False
  | .float x => x.isNaN = true

lemma unpack_ne_of_not_isNaN {x : Float} (h : ¬(float x).IsNaN) :
    x.toModel.unpack ≠ .notANumber := fun hx => h ((float_isNaN_iff x).2 hx)

/-- Unpacked floats that are numbers have an order, the same from both sides. -/
lemma exists_compare {f g : UnpackedFloat} (hf : f ≠ .notANumber) (hg : g ≠ .notANumber) :
    ∃ o, f.compare g = some o ∧ g.compare f = some o.swap := by
  cases f with
  | notANumber => exact absurd rfl hf
  | infinity s =>
    cases g with
    | notANumber => exact absurd rfl hg
    | infinity t => cases s <;> cases t <;> exact ⟨_, rfl, rfl⟩
    | zero | finite => cases s <;> exact ⟨_, rfl, rfl⟩
  | zero s =>
    cases g with
    | notANumber => exact absurd rfl hg
    | infinity t => cases t <;> exact ⟨_, rfl, rfl⟩
    | zero => exact ⟨_, rfl, rfl⟩
    | finite t => cases t <;> exact ⟨_, rfl, rfl⟩
  | finite s m e hm =>
    cases g with
    | notANumber => exact absurd rfl hg
    | infinity t => cases s <;> cases t <;> exact ⟨_, rfl, rfl⟩
    | zero => cases s <;> exact ⟨_, rfl, rfl⟩
    | finite t n f hn =>
      have hswap : (compare f e).then (compare n m) =
          ((compare e f).then (compare m n)).swap := by
        rw [Ordering.swap_then, ← Std.OrientedOrd.eq_swap, ← Std.OrientedOrd.eq_swap]
      cases s <;> cases t
      · exact ⟨_, rfl, congrArg (fun o : Ordering => some o.swap) hswap⟩
      · exact ⟨_, rfl, rfl⟩
      · exact ⟨_, rfl, rfl⟩
      · exact ⟨_, rfl, congrArg some hswap⟩

lemma exists_compareInt (n : Int) {x : Float} (h : ¬(float x).IsNaN) :
    ∃ o, compareInt n x = some o := by
  have hx := unpack_ne_of_not_isNaN h
  unfold compareInt
  rw [parts_eq]
  cases hparts : x.toModel.unpack with
  | notANumber => exact absurd hparts hx
  | _ => exact ⟨_, rfl⟩

/-- Of two numbers the first is less, or the second is at most the first. -/
lemma less_eq_false_iff {a b : Number} (ha : ¬a.IsNaN) (hb : ¬b.IsNaN) :
    a.less b = false ↔ b.atMost a = true := by
  have hswap : ∃ o, a.compare? b = some o ∧ b.compare? a = some o.swap := by
    cases a with
    | int m =>
      cases b with
      | int n => exact ⟨_, rfl, congrArg some Std.OrientedOrd.eq_swap⟩
      | float y =>
        obtain ⟨o, ho⟩ := exists_compareInt m hb
        exact ⟨o, ho, congrArg (Option.map Ordering.swap) ho⟩
    | float x =>
      cases b with
      | int n =>
        obtain ⟨o, ho⟩ := exists_compareInt n ha
        refine ⟨o.swap, congrArg (Option.map Ordering.swap) ho, ?_⟩
        rw [Ordering.swap_swap]
        exact ho
      | float y =>
        obtain ⟨o, ho, ho'⟩ :=
          exists_compare (unpack_ne_of_not_isNaN ha) (unpack_ne_of_not_isNaN hb)
        simp only [compare?, float_lt_iff, float_beq_iff, ho, ho']
        cases o <;> exact ⟨_, rfl, rfl⟩
  obtain ⟨o, ho, ho'⟩ := hswap
  rw [atMost, less, less, same, ho, ho']
  cases o <;> decide

/-- What is no number is in no order. -/
lemma compare?_of_isNaN {a b : Number} (h : a.IsNaN ∨ b.IsNaN) : a.compare? b = none := by
  have hnone (f : UnpackedFloat) : f.compare .notANumber = none := by cases f <;> rfl
  have hint (n : Int) {x : Float} (hx : x.toModel.unpack = .notANumber) : compareInt n x = none := by
    unfold compareInt
    rw [parts_eq, hx]
    rfl
  cases a with
  | int m =>
    cases b with
    | int n => exact (h.elim id id).elim
    | float y => exact hint m ((float_isNaN_iff y).1 (h.resolve_left id))
  | float x =>
    cases b with
    | int n =>
      exact congrArg (Option.map Ordering.swap) (hint n ((float_isNaN_iff x).1 (h.resolve_right id)))
    | float y =>
      have hcompare : x.toModel.unpack.compare y.toModel.unpack = none ∧
          y.toModel.unpack.compare x.toModel.unpack = none := by
        rcases h with h | h
        · rw [(float_isNaN_iff x).1 h]
          exact ⟨rfl, hnone _⟩
        · rw [(float_isNaN_iff y).1 h]
          exact ⟨hnone _, rfl⟩
      simp [compare?, float_lt_iff, float_beq_iff, hcompare]

lemma not_isNaN_of_atMost {a b : Number} (h : a.atMost b = true) : ¬a.IsNaN ∧ ¬b.IsNaN := by
  rw [← not_or]
  intro hnan
  rw [atMost, less, same, compare?_of_isNaN hnan] at h
  exact absurd h (by decide)

/-! ### Differences -/

lemma unpack_sub (x y : Float) : (x - y).toModel.unpack = UnpackedFloat.unpack Format.binary64
    (UnpackedFloat.pack Format.binary64
      (UnpackedFloat.sub Format.binary64 x.toModel.unpack y.toModel.unpack)) := rfl

lemma floatUnits_of_finite {x : Float} {s : Sign} {m : Nat} {e : Int} {hm : 0 < m}
    (h : x.toModel.unpack = .finite s m e hm) :
    x.isFinite = true ∧ floatUnits x = s.apply (magnitude m e) := by
  refine ⟨?_, by rw [floatUnits, h]; rfl⟩
  show x.toModel.unpack.isFinite = true
  rw [h]
  rfl

lemma floatUnits_of_zero {x : Float} {s : Sign} (h : x.toModel.unpack = .zero s) :
    x.isFinite = true ∧ floatUnits x = 0 := by
  refine ⟨?_, by rw [floatUnits, h]; rfl⟩
  show x.toModel.unpack.isFinite = true
  rw [h]
  rfl

/-- The difference of magnitudes. -/
lemma exists_sub {m n : Nat} {e f : Int} (hm : 0 < m) (hn : 0 < n) (hstored : IsStored m e)
    (hstored' : IsStored n f) (h : magnitude n f ≤ magnitude m e) :
    UnpackedFloat.sub Format.binary64 (.finite .positive m e hm) (.finite .positive n f hn) =
      .zero .positive ∨
    ∃ r g, ∃ hr : 0 < r,
      UnpackedFloat.sub Format.binary64 (.finite .positive m e hm) (.finite .positive n f hn) =
        .finite .positive r g hr ∧ IsStored r g ∧ magnitude r g ≤ magnitude m e := by
  have he := hstored.least
  have hf := hstored'.least
  generalize hk : min e f = k
  have hkleast : -1074 ≤ k := by omega
  have hleft : magnitude (m * 2 ^ (e - k).toNat) k = magnitude m e :=
    magnitude_lower hkleast (by omega)
  have hright : magnitude (n * 2 ^ (f - k).toNat) k = magnitude n f :=
    magnitude_lower hkleast (by omega)
  rw [UnpackedFloat.sub]
  simp only [hk, decreaseExponent, Nat.shiftLeft_eq, Sign.apply]
  generalize m * 2 ^ (e - k).toNat = a at hleft
  generalize hb : n * 2 ^ (f - k).toNat = b at hright
  rw [← hleft, ← hright, magnitude_le_iff] at h
  have hbpos : 0 < b := hb ▸ Nat.mul_pos hn (Nat.two_pow_pos _)
  rcases Nat.eq_or_lt_of_le h with rfl | hlt
  · refine .inl ?_
    rw [Int.sub_self]
    rfl
  · have hpos : 0 < a - b := by omega
    have hless : magnitude (a - b) k < magnitude m e := by
      rw [← hleft, magnitude_lt_iff]
      omega
    obtain ⟨r, g, hr, hround, hrstored, hbelow⟩ :=
      exists_round (s := .positive) hpos hkleast hstored hless
    refine .inr ⟨r, g, hr, ?_, hrstored, hbelow⟩
    have hsign : compare ((a : Int) - b) 0 = .gt := Int.compare_eq_gt.2 (by omega)
    have hnat : ((a : Int) - b).toNat = a - b := by omega
    rw [UnpackedFloat.normalize, hsign]
    simp only [hnat]
    exact hround

lemma unpack_pack_zero (s : Sign) :
    UnpackedFloat.unpack Format.binary64 (UnpackedFloat.pack Format.binary64 (.zero s)) =
      .zero s := by
  cases s <;> rfl

/-- A finite float that is not worth less than nothing is zero, or stored with a positive sign. -/
lemma exists_stored_of_nonneg {x : Float} (hx : x.isFinite = true) (hpos : 0 ≤ floatUnits x) :
    (∃ s, x.toModel.unpack = .zero s ∧ floatUnits x = 0) ∨
      ∃ m e hm, x.toModel.unpack = .finite .positive m e hm ∧ IsStored m e ∧
        floatUnits x = magnitude m e := by
  rcases exists_stored hx with ⟨s, h⟩ | ⟨s, m, e, hm, h, hstored⟩
  · exact .inl ⟨s, h, (floatUnits_of_zero h).2⟩
  · have hunits := (floatUnits_of_finite h).2
    have hmagnitude : (0 : Int) < magnitude m e := Int.natCast_pos.2 (magnitude_pos hm)
    cases s with
    | negative =>
      rw [hunits, Sign.apply] at hpos
      omega
    | positive => exact .inr ⟨m, e, hm, h, hstored, hunits⟩

/-- What is left when no more than there is is taken away is finite, and lies between nothing and
what there was. -/
lemma sub_bounds {x y : Float} (hx : x.isFinite = true) (hy : y.isFinite = true)
    (hpos : 0 ≤ floatUnits y) (hle : floatUnits y ≤ floatUnits x) :
    (x - y).isFinite = true ∧ 0 ≤ floatUnits (x - y) ∧ floatUnits (x - y) ≤ floatUnits x := by
  have hpos' : 0 ≤ floatUnits x := Int.le_trans hpos hle
  have hzero {s : Sign} (h : UnpackedFloat.sub Format.binary64 x.toModel.unpack y.toModel.unpack =
      .zero s) :
      (x - y).isFinite = true ∧ 0 ≤ floatUnits (x - y) ∧ floatUnits (x - y) ≤ floatUnits x := by
    obtain ⟨hfinite, hunits⟩ := floatUnits_of_zero (x := x - y) (s := s)
      (by rw [unpack_sub, h, unpack_pack_zero])
    exact ⟨hfinite, by omega, by omega⟩
  have hstored {r : Nat} {g : Int} {hr : 0 < r} (hrstored : IsStored r g)
      (hle : (magnitude r g : Int) ≤ floatUnits x)
      (h : UnpackedFloat.sub Format.binary64 x.toModel.unpack y.toModel.unpack =
        .finite .positive r g hr) :
      (x - y).isFinite = true ∧ 0 ≤ floatUnits (x - y) ∧ floatUnits (x - y) ≤ floatUnits x := by
    obtain ⟨hfinite, hunits⟩ := floatUnits_of_finite (x := x - y) (s := .positive)
      (by rw [unpack_sub, h, unpack_pack hrstored])
    rw [Sign.apply] at hunits
    exact ⟨hfinite, by omega, by omega⟩
  rcases exists_stored_of_nonneg hx hpos' with ⟨s, h, hunits⟩ | ⟨m, e, hm, h, hm', hunits⟩ <;>
    rcases exists_stored_of_nonneg hy hpos with ⟨t, h', hunits'⟩ | ⟨n, f, hn, h', hn', hunits'⟩
  · obtain ⟨u, hu⟩ : ∃ u, UnpackedFloat.sub Format.binary64 (.zero s) (.zero t) = .zero u := by
      rw [UnpackedFloat.sub]
      split_ifs <;> exact ⟨_, rfl⟩
    exact hzero (by rw [h, h', hu])
  · have hmagnitude := magnitude_pos (e := f) hn
    omega
  · exact hstored hm' (Int.le_of_eq hunits.symm) (by rw [h, h']; rfl)
  · rcases exists_sub hm hn hm' hn' (by omega) with hsub | ⟨r, g, hr, hsub, hrstored, hbelow⟩
    · exact hzero (by rw [h, h', hsub])
    · exact hstored hrstored (by omega) (by rw [h, h', hsub])

end LearningGame.Number
