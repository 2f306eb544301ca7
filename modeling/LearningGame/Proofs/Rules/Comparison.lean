import LearningGame.Proofs.Number.Levels
import LearningGame.Rules.Comparison

/-!
# How comparisons agree with each other

Floats that are numbers are compared by the order of their levels, so that the six comparisons of
two of them are six ways to look at one order. Texts have no order, and their equality is that of
texts. Either way the comparisons of two values, and of the same values the other way round, do not
contradict each other.
-/

namespace LearningGame.Rules

open Content Number Schema

/-! ### Comparisons of an order -/

/-- Whether a comparison holds of two things that are in a given order. -/
def admits : Comparison → Ordering → Bool
  | .equal, o => o == .eq
  | .notEqual, o => o != .eq
  | .greater, o => o == .gt
  | .less, o => o == .lt
  | .atLeast, o => o != .lt
  | .atMost, o => o != .gt

/-- Floats that are numbers are compared by their levels. -/
lemma compareFloats_eq_admits (c : Comparison) {x y : Float} (hx : x.isNaN = false)
    (hy : y.isNaN = false) : compareFloats c x y = admits c (cmp (level x) (level y)) := by
  have heq : (x == y) = (cmp (level x) (level y) == .eq) := by
    rw [Bool.eq_iff_iff, float_beq_iff_level hx hy, beq_iff_eq, cmp_eq_eq_iff]
  have hne : (cmp (level x) (level y) != .lt) = true ↔ level y ≤ level x := by
    rw [bne_iff_ne, Ne, cmp_eq_lt_iff, not_lt]
  have hne' : (cmp (level x) (level y) != .gt) = true ↔ level x ≤ level y := by
    rw [bne_iff_ne, Ne, cmp_eq_gt_iff, not_lt]
  cases c with
  | equal => exact heq
  | notEqual => exact congrArg not heq
  | greater =>
    simp only [compareFloats, admits, float_lt_iff_level hy hx, beq_eq_decide, cmp_eq_gt_iff]
  | less =>
    simp only [compareFloats, admits, float_lt_iff_level hx hy, beq_eq_decide, cmp_eq_lt_iff]
  | atLeast =>
    rw [compareFloats, admits, Bool.eq_iff_iff, hne, decide_eq_true_iff, float_le_iff_level hy hx]
  | atMost =>
    rw [compareFloats, admits, Bool.eq_iff_iff, hne', decide_eq_true_iff, float_le_iff_level hx hy]

/-! ### Agreement -/

/-- The comparisons of two things agree: `holds` says which of them hold of the two, `flipped` which
hold of the two the other way round, and `numeric` whether both count as numbers. -/
structure Agree (numeric : Prop) (holds flipped : Comparison → Bool) : Prop where
  atLeast_iff : holds .atLeast = true ↔ holds .greater = true ∨ numeric ∧ holds .equal = true
  atMost_iff : holds .atMost = true ↔ holds .less = true ∨ numeric ∧ holds .equal = true
  less_eq : holds .less = flipped .greater
  greater_eq : holds .greater = flipped .less
  equal_eq : holds .equal = flipped .equal
  notEqual_eq : holds .notEqual = flipped .notEqual
  notEqual_iff : holds .notEqual = true ↔ holds .equal = false
  not_less_and_equal : ¬(holds .less = true ∧ holds .equal = true)
  not_equal_and_greater : ¬(holds .equal = true ∧ holds .greater = true)
  not_less_and_greater : ¬(holds .less = true ∧ holds .greater = true)
  exists_of_numeric :
    numeric → holds .less = true ∨ holds .equal = true ∨ holds .greater = true
  unordered : ¬numeric →
    holds .less = false ∧ holds .greater = false ∧ holds .atLeast = false ∧ holds .atMost = false

/-- The comparisons of an order agree with those of the order the other way round. -/
lemma agree_admits {numeric : Prop} (h : numeric) (o : Ordering) :
    Agree numeric (admits · o) (admits · o.swap) := by
  cases o <;> constructor <;> simp [admits, h, bne]

/-- The comparisons of texts agree, although texts have no order. -/
lemma agree_compareTexts {numeric : Prop} (h : ¬numeric) (a b : String) :
    Agree numeric (compareTexts · a b) (compareTexts · b a) := by
  constructor <;> simp [compareTexts, h, Bool.beq_comm (a := a)]

/-! ### Comparisons of values -/

/-- Comparing by name is comparing. -/
lemma compareByName_name (left right : Value) (c : Comparison) :
    compareByName left (Named.name c) right = compareValues left c right := by
  cases c <;> rfl

/-- Whether a comparison holds of two values that count as the given floats, if as any. -/
def verdict (left right : Value) : Option Float → Option Float → Comparison → Bool
  | some x, some y, c => compareFloats c x y
  | _, _, c => compareTexts c (comparableText left) (comparableText right)

/-- The verdicts on values that count as numbers, or as none at all, agree. -/
lemma agree_verdict (left right : Value) {x y : Option Float}
    (hx : ∀ a, x = some a → a.isNaN = false) (hy : ∀ b, y = some b → b.isNaN = false) :
    Agree (x.isSome = true ∧ y.isSome = true) (verdict left right x y)
      (verdict right left y x) := by
  cases x with
  | none => cases y <;> exact agree_compareTexts (by simp) _ _
  | some a =>
    cases y with
    | none => exact agree_compareTexts (by simp) _ _
    | some b =>
      have ha := hx a rfl
      have hb := hy b rfl
      have hflipped : verdict right left (some b) (some a) =
          (admits · (cmp (level a) (level b)).swap) := by
        funext c
        rw [cmp_swap]
        exact compareFloats_eq_admits c hb ha
      have hholds : verdict left right (some a) (some b) =
          (admits · (cmp (level a) (level b))) :=
        funext fun c => compareFloats_eq_admits c ha hb
      rw [hholds, hflipped]
      exact agree_admits ⟨rfl, rfl⟩ _

section

variable {left right : Value} {x y : Option Float}

/-- A value that is not missing is compared by the verdict. -/
lemma compareValues_eq (hleft : left.isNull = false) (hx : floatOf? left = .ok x)
    (hy : floatOf? right = .ok y) (c : Comparison) :
    compareValues left c right = .ok (verdict left right x y c) := by
  have hpresent : compareValues left c right = comparePresent c left right := by
    cases left with
    | null => cases hleft
    | _ => rfl
  rw [hpresent, comparePresent, hx, hy]
  cases x <;> cases y <;> rfl

/-- Of two values that are not missing, and that count as numbers or as none at all, every
comparison can be made, and the comparisons agree. -/
theorem compareByName_agree (hleft : left.isNull = false) (hright : right.isNull = false)
    (hx : floatOf? left = .ok x) (hy : floatOf? right = .ok y)
    (hxn : ∀ a, x = some a → a.isNaN = false) (hyn : ∀ b, y = some b → b.isNaN = false) :
    ∃ holds flipped,
      (∀ c, compareByName left (Named.name c) right = .ok (holds c) ∧
        compareValues left c right = .ok (holds c)) ∧
      (∀ c, compareByName right (Named.name c) left = .ok (flipped c) ∧
        compareValues right c left = .ok (flipped c)) ∧
      Agree (x.isSome = true ∧ y.isSome = true) holds flipped := by
  refine ⟨verdict left right x y, verdict right left y x, fun c => ?_, fun c => ?_,
    agree_verdict left right hxn hyn⟩
  · rw [compareByName_name, and_self]
    exact compareValues_eq hleft hx hy c
  · rw [compareByName_name, and_self]
    exact compareValues_eq hright hy hx c

end

/-- A price in a text with blanks around it is more than what is true, which counts as one. -/
theorem compareByName_agree_of_price :
    ∃ holds flipped,
      (∀ c, compareByName (.str " 4.5 ") (Named.name c) (.bool true) = .ok (holds c) ∧
        compareValues (.str " 4.5 ") c (.bool true) = .ok (holds c)) ∧
      (∀ c, compareByName (.bool true) (Named.name c) (.str " 4.5 ") = .ok (flipped c) ∧
        compareValues (.bool true) c (.str " 4.5 ") = .ok (flipped c)) ∧
      Agree ((some (4.5 : Float)).isSome = true ∧ (some (1 : Float)).isSome = true)
        holds flipped ∧
      holds .greater = true := by
  have hleft : (Value.str " 4.5 ").isNull = false := rfl
  have hright : (Value.bool true).isNull = false := rfl
  have hx : floatOf? (.str " 4.5 ") = .ok (some 4.5) := rfl
  have hy : floatOf? (.bool true) = .ok (some 1) := rfl
  obtain ⟨holds, flipped, hholds, hflipped, hagree⟩ :=
    compareByName_agree hleft hright hx hy
      (fun a h => by cases h; decide) (fun b h => by cases h; decide)
  have hgreater : compareValues (.str " 4.5 ") .greater (.bool true) = .ok true := rfl
  exact ⟨holds, flipped, hholds, hflipped, hagree,
    Except.ok.inj ((hholds .greater).2.symm.trans hgreater)⟩

/-- Words have no order. -/
example : compareValues (.str "b") .greater (.str "a") = .ok false := rfl

end LearningGame.Rules
