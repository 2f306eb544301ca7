import LearningGame.Proofs.Completion.Again.Narrative
import LearningGame.Proofs.Completion.Again.Exploration
import LearningGame.Proofs.Completion.Again.Quiz
import LearningGame.Proofs.Completion.Faults

/-!
# What contents are filled with

For each kind of content an equation or an equivalence that tells all of what filling makes of it:
which lists it fills entry by entry, and what it puts in beside them.
-/

namespace LearningGame.Completion

open Content Schema

/-- The maps in the list at a key. -/
def mapsAt (m : Fields) (key : String) : List Fields := (m.get key).items.filterMap Value.fields?

@[simp] lemma objects_get (what : String) (m : Fields) (key : String) :
    (objects what (m.get key)).result = .ok (mapsAt m key) := objects_eq_ok what _

lemma mapsAt_put_of_ne {m : Fields} {key a : String} (h : a ≠ key) (v : Value) :
    mapsAt (m.put a v) key = mapsAt m key := by simp [mapsAt, h]

lemma mapsAt_of_find? {m : Fields} {key : String} {ms : List Fields}
    (h : m.find? key = some (mapList ms)) : mapsAt m key = ms := by
  rw [mapsAt, Fields.get_of_find? h]
  simp [mapList, Value.items, List.filterMap_map, Function.comp_def, Value.fields?]

/-- Entries of a list, each filled with its number. -/
def FilledAll (f : Fields → Nat → Filling Fields) (given filled : List Fields) : Prop :=
  List.Forall₂ (fun e m => (f e.1 e.2).result = .ok m) (numbered given) filled

lemma traverse_eq_ok_iff (f : Fields → Nat → Filling Fields) (given filled : List Fields) :
    (Traced.traverse (fun e => f e.1 e.2) (numbered given)).result = .ok filled ↔
      FilledAll f given filled :=
  Traced.traverse_eq_ok _ _ _

lemma filledAll_map (f : Fields → Nat → Fields) (given : List Fields) :
    FilledAll (fun m n => pure (f m n)) given ((numbered given).map fun e => f e.1 e.2) := by
  rw [FilledAll, List.forall₂_map_right_iff, List.forall₂_same]
  exact fun _ _ => rfl

section Contents

variable (points : Int) (content filled : Fields)

/-! ### Quizzes and cards -/

lemma fillQuiz_iff :
    (fillQuiz points content).result = .ok filled ↔
      ∃ ms, FilledAll (fillQuestion points) (mapsAt content "questions") ms ∧
        content.put "questions" (mapList ms) = filled := by
  rw [fillQuiz_eq_ok]
  simp only [objects_get, traverse_eq_ok_iff, Except.ok.injEq]
  simp

lemma fillFlashcards_eq :
    (fillFlashcards content).result = .ok ((content.put "cards"
      (mapList ((numbered (mapsAt content "cards")).map fun e => fillCard e.1 e.2))).put "testMode"
        (if (content.get "testMode").isOneOf (Named.names TestMode) then content.get "testMode"
          else .str (Named.name TestMode.flipReveal))) := by
  simp [fillFlashcards, Except.bind]

lemma fillMatching_eq :
    (fillMatching content).result = .ok ((content.put "pairs"
      (mapList ((numbered (mapsAt content "pairs")).map fun e => fillPair e.1 e.2))).put
        "matchStyle" ((content.get "matchStyle").orElse "tap-tap")) := by
  simp [fillMatching, Except.bind]

/-- The categories of a sorting game once they are filled. -/
def filledCategories (content : Fields) : List Fields :=
  (numbered (mapsAt content "categories")).map fun e => fillCategory e.1 e.2

lemma fillSorting_eq :
    (fillSorting content).result = .ok (((content.put "items"
      (mapList ((numbered (mapsAt content "items")).map fun e =>
        fillItem (filledCategories content) e.1 e.2))).put "categories"
          (mapList (filledCategories content))).put "instructions"
            ((content.get "instructions").orElse "")) := by
  simp [fillSorting, filledCategories, Except.bind]

/-! ### Narratives -/

/-- The choices of a scene that lead somewhere, each filled with its number. -/
def FilledChoices (scene : String) (given filled : List Fields) : Prop :=
  ∃ os, List.Forall₂ (fun e o => (fillChoice? scene e.1 e.2).result = .ok o) (numbered given) os ∧
    os.filterMap id = filled

/-- What is put into a scene before its ending is looked at. -/
def sceneWith (scene : Fields) (n : Nat) (choices : List Fields) : Fields :=
  (fillSomeText ((fillId scene ("scene" ++ toString n)).put "choices" (mapList choices)) "text").put
    "actions" (mapList ((mapsAt scene "actions").map fun a => fillSomeText a "type"))

lemma fillScene_iff (scene m : Fields) (n : Nat) :
    (fillScene scene n).result = .ok m ↔
      ∃ choices,
        FilledChoices (idOf scene ("scene" ++ toString n)) (mapsAt scene "choices") choices ∧
        (fillEnding (idOf scene ("scene" ++ toString n)) (sceneWith scene n choices)).result =
          .ok m := by
  have hid : textAt (fillId scene ("scene" ++ toString n)) "id" =
      idOf scene ("scene" ++ toString n) := textAt_of_find? (by simp)
  have hchoices : mapsAt (fillId scene ("scene" ++ toString n)) "choices" =
      mapsAt scene "choices" := mapsAt_put_of_ne (by decide) _
  have hactions (choices : List Fields) :
      mapsAt (fillSomeText ((fillId scene ("scene" ++ toString n)).put "choices"
        (mapList choices)) "text") "actions" = mapsAt scene "actions" := by
    simp [fillSomeText, fillId, mapsAt]
  unfold fillScene
  simp only [Traced.bind_eq_ok, objects_get, Except.ok.injEq, exists_eq_left', hid, hchoices,
    hactions, Traced.filterMap_eq_ok]
  exact Iff.rfl

lemma fillNarrative_iff :
    (fillNarrative content).result = .ok filled ↔
      ∃ ms, FilledAll fillScene (mapsAt content "scenes") ms ∧
        (content.put "scenes" (mapList ms)).put "startScene"
          (startAmong (ms.map fun s => textAt s "id") (content.get "startScene")) = filled := by
  rw [fillNarrative_eq_ok]
  simp only [objects_get, traverse_eq_ok_iff, Except.ok.injEq]
  simp

/-! ### Simulations -/

lemma fillEvent_eq (event : Fields) (n : Nat) :
    (fillEvent event n).result = .ok ((fillId event ("event" ++ toString n)).put "choices"
      (mapList (mapsAt event "choices"))) := by
  have hchoices : mapsAt (fillId event ("event" ++ toString n)) "choices" =
      mapsAt event "choices" := mapsAt_put_of_ne (by decide) _
  rw [← hchoices]
  simp [fillEvent, Except.bind]

/-- The events of a simulation once they are filled. -/
def filledEvents (content : Fields) : List Fields :=
  (numbered (mapsAt content "events")).map fun e =>
    (fillId e.1 ("event" ++ toString e.2)).put "choices" (mapList (mapsAt e.1 "choices"))

/-- What is put into a simulation before its length. -/
def simulationWith (content initial : Fields) : Fields :=
  ((((content.put "initialState" (.map initial)).put "resources"
    (mapList (fillIds "res" (mapsAt content "resources")))).put "actions"
      (mapList (fillIds "action" (mapsAt content "actions")))).put "events"
        (mapList (filledEvents content))).put "objectives"
          (mapList ((numbered (mapsAt content "objectives")).map fun e => fillObjective e.1 e.2))

lemma fillSimulation_iff :
    (fillSimulation content).result = .ok filled ↔
      ∃ initial turns, fillInitialState (fillIds "res" (mapsAt content "resources"))
          (content.get "initialState") = .ok initial ∧
        wholeOr (content.get "maxTurns") 10 = .ok turns ∧
        (simulationWith content initial).put "maxTurns" (.int turns) = filled := by
  have hevents : (Traced.traverse (fun e => fillEvent e.1 e.2)
      (numbered (mapsAt content "events"))).result = .ok (filledEvents content) := by
    rw [Traced.traverse_eq_ok, filledEvents, List.forall₂_map_right_iff, List.forall₂_same]
    exact fun e _ => fillEvent_eq e.1 e.2
  have hturns (initial : Fields) :
      (simulationWith content initial).get "maxTurns" = content.get "maxTurns" := by
    simp [simulationWith]
  unfold fillSimulation
  simp only [Traced.bind_eq_ok, objects_get, Except.ok.injEq, exists_eq_left', hevents,
    Traced.result_lift]
  refine exists_congr fun initial => ?_
  rw [exists_and_left]
  refine and_congr_right fun _ => (fillWhole_eq_ok (simulationWith content initial) _ _ _).trans ?_
  rw [hturns]

/-! ### Explorations -/

lemma fillLocation_iff (location m : Fields) (n : Nat) :
    (fillLocation location n).result = .ok m ↔
      ∃ visited, (fillVisit (fillId location ("loc" ++ toString n))).result = .ok visited ∧
        (visited.put "position" (.map (position (visited.get "position")))).put "visible"
          (.bool (visibility (visited.get "visible"))) = m := by
  unfold fillLocation
  simp [Traced.bind_eq_ok, -Traced.result_bind]

lemma fillExploration_iff :
    (fillExploration content).result = .ok filled ↔
      ∃ locations items, FilledAll fillLocation (mapsAt content "locations") locations ∧
        FilledAll fillCollectible (mapsAt content "collectibles") items ∧
        ((content.put "locations" (mapList locations)).put "collectibles" (mapList items)).put
          "startLocation" (startAmong (locations.map fun l => textAt l "id")
            (content.get "startLocation")) = filled := by
  unfold fillExploration
  simp only [Traced.bind_eq_ok, objects_get, Except.ok.injEq, exists_eq_left', traverse_eq_ok_iff]
  simp

/-! ### Challenges -/

lemma fillChallenge_iff :
    (fillChallenge points content).result = .ok filled ↔
      ∃ items limit target mistakes, FilledAll (fillPrompt points) (mapsAt content "items") items ∧
        wholeOr (content.get "timeLimit") 60 = .ok limit ∧
        wholeOr (content.get "targetScore") 0 = .ok target ∧
        wholeOr (content.get "maxMistakes") 0 = .ok mistakes ∧
        ((((content.put "challengeType" ((content.get "challengeType").orElse "speed-round")).put
          "items" (mapList items)).put "timeLimit" (.int limit)).put "targetScore"
            (.int target)).put "maxMistakes" (.int mistakes) = filled := by
  unfold fillChallenge
  simp only [Traced.bind_eq_ok, objects_get, Except.ok.injEq, exists_eq_left', traverse_eq_ok_iff,
    fillWhole_eq_ok, exists_exists_and_eq_and]
  simp only [Fields.get_put, String.reduceEq, if_false, exists_and_left]

end Contents

end LearningGame.Completion
