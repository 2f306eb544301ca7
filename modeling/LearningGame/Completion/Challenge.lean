import LearningGame.Completion.Entries

/-!
# Filling challenges

Prompts get an answer and points, and the challenge its limits.
-/

namespace LearningGame.Completion

/-- Fill a prompt. -/
def fillPrompt (points : Int) (item : Fields) (n : Nat) : Filling Fields := do
  let item := fillText (fillId item ("c" ++ toString n)) "prompt"
  let item := if (item.get "correctAnswer").isNull then item.put "correctAnswer" "" else item
  fillWhole item "points" points

/-- Fill a challenge. -/
def fillChallenge (points : Int) (content : Fields) : Filling Fields := do
  let items ← objects "challenge item" (content.get "items")
  let items ← Traced.traverse (fun e => fillPrompt points e.1 e.2) (numbered items)
  let content := content.put "challengeType" ((content.get "challengeType").orElse "speed-round")
  let content := content.put "items" (mapList items)
  let content ← fillWhole content "timeLimit" 60
  let content ← fillWhole content "targetScore" 0
  fillWhole content "maxMistakes" 0

end LearningGame.Completion
