import LearningGame.Proofs.Number.Levels
import LearningGame.Rules.Rating

/-!
# Which tier a score reaches

The tiers are put in order by the levels of their thresholds, and those of one level stay in the
order in which they are declared. So the first one that a percentage reaches is the first declared
one of the highest level that is reached.
-/

namespace LearningGame.Rules

open Content Number

/-! ### The order of the tiers -/

section Order

variable {tiers : List RatingTier}

/-- Whether a tier stands no lower than another one. -/
def standsAbove (t u : RatingTier) : Bool := decide (level u.minPercentage ≤ level t.minPercentage)

/-- Whether the threshold of a tier is of a level. -/
def isAt (l : ℤ ×ₗ ℤ) (t : RatingTier) : Bool := decide (level t.minPercentage = l)

/-- Thresholds that are numbers are ranked by their levels. -/
lemma ranked_eq (hnumbers : ∀ t ∈ tiers, t.minPercentage.isNaN = false) :
    ranked tiers = tiers.mergeSort standsAbove := by
  have hall : (tiers.all fun t => !t.minPercentage.isNaN) = true :=
    List.all_eq_true.2 fun t ht => by rw [hnumbers t ht, Bool.not_false]
  have hsame : ∀ t ∈ tiers, ∀ u ∈ tiers,
      decide (u.minPercentage ≤ t.minPercentage) = standsAbove (id t) (id u) :=
    fun t ht u hu => decide_eq_decide.2 (float_le_iff_level (hnumbers u hu) (hnumbers t ht))
  have hmap := List.map_mergeSort hsame
  rw [List.map_id, List.map_id] at hmap
  rw [ranked, if_pos hall, hmap]

lemma standsAbove_trans (t u v : RatingTier) (htu : standsAbove t u = true)
    (huv : standsAbove u v = true) : standsAbove t v = true :=
  decide_eq_true ((of_decide_eq_true huv).trans (of_decide_eq_true htu))

lemma standsAbove_total (t u : RatingTier) : (standsAbove t u || standsAbove u t) = true := by
  rw [Bool.or_eq_true]
  exact (le_total (level u.minPercentage) (level t.minPercentage)).imp decide_eq_true decide_eq_true

lemma mem_ranked (hnumbers : ∀ t ∈ tiers, t.minPercentage.isNaN = false) {t : RatingTier} :
    t ∈ ranked tiers ↔ t ∈ tiers := by
  rw [ranked_eq hnumbers]
  exact (List.mergeSort_perm _ _).mem_iff

lemma pairwise_ranked (hnumbers : ∀ t ∈ tiers, t.minPercentage.isNaN = false) :
    (ranked tiers).Pairwise fun t u => level u.minPercentage ≤ level t.minPercentage := by
  rw [ranked_eq hnumbers]
  exact (List.pairwise_mergeSort standsAbove_trans standsAbove_total _).imp of_decide_eq_true

/-- The tiers of one level stay in their order. -/
lemma filter_ranked (hnumbers : ∀ t ∈ tiers, t.minPercentage.isNaN = false) (l : ℤ ×ₗ ℤ) :
    (ranked tiers).filter (isAt l) = tiers.filter (isAt l) := by
  rw [ranked_eq hnumbers]
  have hequal : (tiers.filter (isAt l)).Pairwise fun t u => standsAbove t u = true := by
    refine List.pairwise_of_forall_mem_list fun t ht u hu => decide_eq_true ?_
    rw [of_decide_eq_true (List.mem_filter.1 ht).2, of_decide_eq_true (List.mem_filter.1 hu).2]
  have hsublist : (tiers.filter (isAt l)).Sublist ((tiers.mergeSort standsAbove).filter (isAt l)) := by
    have h := (List.sublist_mergeSort standsAbove_trans standsAbove_total hequal
      List.filter_sublist).filter (isAt l)
    rwa [List.filter_filter, funext fun t => Bool.and_self (isAt l t)] at h
  have hperm := (List.mergeSort_perm tiers standsAbove).filter (isAt l)
  exact (hsublist.eq_of_length hperm.length_eq.symm).symm

end Order

/-! ### The tier that is reached -/

variable {tiers : List RatingTier} {t : RatingTier} {p : Float}

lemma highest?_eq_none_iff (hnumbers : ∀ t ∈ tiers, t.minPercentage.isNaN = false) :
    highest? tiers p = none ↔ ∀ t ∈ tiers, ¬t.minPercentage ≤ p := by
  simp only [highest?, List.find?_eq_none, mem_ranked hnumbers, decide_eq_true_eq]

/-- What reaches no number is reached by none. -/
lemma isNaN_eq_false_of_le {x : Float} (h : x ≤ p) : p.isNaN = false :=
  Bool.eq_false_of_not_eq_true fun hnan => not_float_le_of_isNaN hnan h

/-- A tier that is reached is the first one of its level, and no tier between it and the percentage
is declared. -/
lemma of_highest?_eq_some (hnumbers : ∀ t ∈ tiers, t.minPercentage.isNaN = false)
    (h : highest? tiers p = some t) :
    t.minPercentage ≤ p ∧
      (∀ u ∈ tiers, ¬(t.minPercentage < u.minPercentage ∧ u.minPercentage ≤ p)) ∧
      ∃ before after, tiers = before ++ t :: after ∧
        ∀ u ∈ before, (u.minPercentage == t.minPercentage) = false := by
  obtain ⟨hreached, higher, lower, hranked, hhigher⟩ := List.find?_eq_some_iff_append.1 h
  have hreached : t.minPercentage ≤ p := of_decide_eq_true hreached
  have hhigher : ∀ u ∈ higher, ¬u.minPercentage ≤ p := by simpa using hhigher
  have ht : t ∈ tiers := (mem_ranked hnumbers).1 (hranked ▸ List.mem_append_cons_self)
  have hp := isNaN_eq_false_of_le hreached
  refine ⟨hreached, ?_, ?_⟩
  · rintro u hu ⟨habove, hle⟩
    have hmem : u ∈ higher ++ t :: lower := hranked ▸ (mem_ranked hnumbers).2 hu
    have hordered := pairwise_ranked hnumbers
    rw [hranked, List.pairwise_append, List.pairwise_cons] at hordered
    rw [float_lt_iff_level (hnumbers t ht) (hnumbers u hu)] at habove
    rcases List.mem_append.1 hmem with hu' | hu'
    · exact hhigher u hu' hle
    · rcases List.mem_cons.1 hu' with rfl | hu'
      · exact lt_irrefl _ habove
      · exact not_le_of_gt habove (hordered.2.1.1 u hu')
  · -- none of the higher ones is of this level, or it would be reached as well
    have hnone : higher.filter (isAt (level t.minPercentage)) = [] := by
      refine List.filter_eq_nil_iff.2 fun u hu hlevel => hhigher u hu ?_
      have hu' : u ∈ tiers := (mem_ranked hnumbers).1 (hranked ▸ List.mem_append_left _ hu)
      rw [float_le_iff_level (hnumbers u hu') hp, of_decide_eq_true hlevel]
      exact (float_le_iff_level (hnumbers t ht) hp).1 hreached
    have hfirst := filter_ranked hnumbers (level t.minPercentage)
    rw [hranked, List.filter_append, hnone, List.nil_append,
      List.filter_cons_of_pos (show isAt _ t = true from decide_eq_true rfl), eq_comm,
      List.filter_eq_cons_iff] at hfirst
    obtain ⟨before, after, htiers, hbefore, -, -⟩ := hfirst
    refine ⟨before, after, htiers, fun u hu => ?_⟩
    have hu' : u ∈ tiers := htiers ▸ List.mem_append_left _ hu
    rw [← Bool.not_eq_true, float_beq_iff_level (hnumbers u hu') (hnumbers t ht)]
    exact fun hlevel => hbefore u hu (decide_eq_true hlevel)

/-! ### The rating -/

section Rating

variable {scoring : Scoring} {score : Number}

lemma rate_of_nonpos (h : scoring.maxScore ≤ 0) : rate scoring score = .ok fallbackTier := by
  have hrateable : ¬isRateable scoring = true := by
    rw [isRateable, decide_eq_true_eq]
    exact Int.not_lt.2 h
  rw [rate, if_neg hrateable]

lemma rate_of_pos (h : 0 < scoring.maxScore) (hp : percentage score scoring.maxScore = .ok p) :
    rate scoring score = .ok ((highest? scoring.ratings p).getD fallbackTier) := by
  rw [rate, if_pos (show isRateable scoring = true from decide_eq_true h), hp]
  rfl

/-- A score whose percentage can be computed is rated by the first declared tier of the highest
threshold that it reaches, and by the fallback if it reaches none or cannot be rated. -/
theorem rateNoted_spec (hp : percentage score scoring.maxScore = .ok p)
    (hnumbers : ∀ t ∈ scoring.ratings, t.minPercentage.isNaN = false) :
    ((scoring.maxScore ≤ 0 ∨ ∀ t ∈ scoring.ratings, ¬t.minPercentage ≤ p) →
        (rateNoted scoring score).result = .ok fallbackTier) ∧
      (0 < scoring.maxScore → (∃ t ∈ scoring.ratings, t.minPercentage ≤ p) →
        ∃ t before after, (rateNoted scoring score).result = .ok t ∧
          scoring.ratings = before ++ t :: after ∧ t.minPercentage ≤ p ∧
          (∀ u ∈ scoring.ratings, ¬(t.minPercentage < u.minPercentage ∧ u.minPercentage ≤ p)) ∧
          ∀ u ∈ before, (u.minPercentage == t.minPercentage) = false) := by
  rw [result_rateNoted]
  constructor
  · rintro (hmax | hnone)
    · exact rate_of_nonpos hmax
    · rcases Int.lt_or_le 0 scoring.maxScore with hmax | hmax
      · rw [rate_of_pos hmax hp, (highest?_eq_none_iff hnumbers).2 hnone]
        rfl
      · exact rate_of_nonpos hmax
  · rintro hmax ⟨u, hu, hle⟩
    rw [rate_of_pos hmax hp]
    cases hhighest : highest? scoring.ratings p with
    | none => exact absurd hle ((highest?_eq_none_iff hnumbers).1 hhighest u hu)
    | some t =>
      obtain ⟨hreached, hbetween, before, after, htiers, hbefore⟩ :=
        of_highest?_eq_some hnumbers hhighest
      exact ⟨t, before, after, rfl, htiers, hreached, hbetween, hbefore⟩

/-- A scoring of which two tiers in the middle are equal. -/
def tiedScoring : Scoring :=
  ⟨4, 1, 0, false, .int 1,
    [⟨-5, "Start", "", 0⟩, ⟨50, "Good", "", 2⟩, ⟨90, "Great", "", 3⟩, ⟨50, "Fair", "", 1⟩]⟩

/-- At three of four points, the first one of the two equal tiers is reached. -/
theorem rateNoted_spec_of_tie : ∃ t before after,
    (rateNoted tiedScoring (.int 3)).result = .ok t ∧
      tiedScoring.ratings = before ++ t :: after ∧ t.minPercentage ≤ 75 ∧
      (∀ u ∈ tiedScoring.ratings, ¬(t.minPercentage < u.minPercentage ∧ u.minPercentage ≤ 75)) ∧
      ∀ u ∈ before, (u.minPercentage == t.minPercentage) = false := by
  have hp : percentage (.int 3) 4 = .ok 75 := rfl
  have hnumbers : ∀ t ∈ tiedScoring.ratings, t.minPercentage.isNaN = false := by decide
  refine (rateNoted_spec hp hnumbers).2 (by decide) ⟨⟨50, "Good", "", 2⟩, ?_, ?_⟩
  · exact .tail _ (.head _)
  · decide

end Rating

end LearningGame.Rules
