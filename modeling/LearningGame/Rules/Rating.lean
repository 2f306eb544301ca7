import LearningGame.Content.Frame
import LearningGame.Log
import LearningGame.Rules.Ranking
import LearningGame.Number.Arithmetic

/-!
# Rating

The final score is rated by the highest tier that it reaches.
-/

namespace LearningGame.Rules

open Content

/-- The tier of a score that reaches none. -/
def fallbackTier : RatingTier := ⟨0, "Keep Trying", "Practice makes perfect!", 0⟩

/-- The score in percent of the maximum; nothing if the maximum is not positive. -/
def percentage (score : Number) (maxScore : Int) : Except Fault Float :=
  if maxScore ≤ 0 then .ok 0
  else do
    let share ← score.divInt maxScore
    return share * 100

/-- The tiers from the highest to the lowest, of equal ones the first one first. Where a threshold is
not a number, the order is that of the comparisons made. -/
def ranked (tiers : List RatingTier) : List RatingTier :=
  if tiers.all fun t => !t.minPercentage.isNaN then
    tiers.mergeSort fun a b => b.minPercentage ≤ a.minPercentage
  else Ranking.rank (fun a b => a.minPercentage < b.minPercentage) tiers

/-- The highest tier that a percentage reaches. -/
def highest? (tiers : List RatingTier) (percentage : Float) : Option RatingTier :=
  (ranked tiers).find? fun t => t.minPercentage ≤ percentage

/-- Whether scores can be rated at all. -/
def isRateable (scoring : Scoring) : Bool := 0 < scoring.maxScore

/-- The tier that a score reaches. -/
def rate (scoring : Scoring) (score : Number) : Except Fault RatingTier :=
  if isRateable scoring then do
    let p ← percentage score scoring.maxScore
    return (highest? scoring.ratings p).getD fallbackTier
  else .ok fallbackTier

/-- What is noted when scores cannot be rated. -/
def ratingWarning : String := "maxScore is not positive; using fallback rating"

/-- Who makes the notes on ratings. -/
def ratingSource : String := "edugame.rating"

/-- Rate a score, with a note if scores cannot be rated. -/
def rateNoted (scoring : Scoring) (score : Number) : Traced Fault RatingTier := do
  if isRateable scoring then pure ()
  else Traced.note .warning ratingSource ratingWarning
  Traced.lift (rate scoring score)

/-- The note does not change the rating. -/
theorem result_rateNoted (scoring : Scoring) (score : Number) :
    (rateNoted scoring score).result = rate scoring score := by
  unfold rateNoted
  split <;> rfl

end LearningGame.Rules
