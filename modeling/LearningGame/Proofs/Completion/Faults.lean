import LearningGame.Proofs.Completion.Section
import LearningGame.Proofs.Number.Float

/-!
# Faults of filling

Filling breaks off in three cases only: at a float that is not finite where a whole number is asked
for, at an initial state that gives no entries, and at amounts in it that give none.
-/

namespace LearningGame

/-! ### Values -/

/-- A float that is not finite. -/
def Value.IsNotFinite (v : Value) : Prop := ∃ x, v = .float x ∧ x.isFinite = false

/-- A sequence of two, the first of which can be a key. -/
def Value.IsPair (v : Value) : Prop := ∃ k x, v.elements = .ok [k, x] ∧ k.toKey?.isSome = true

/-- A value that gives entries: a map, a sequence of pairs, or what counts as false. -/
def Value.GivesEntries (v : Value) : Prop :=
  v.truthy = false ∨ (∃ m, v = .map m) ∨
    ∃ items, v.elements = .ok items ∧ ∀ w ∈ items, w.IsPair

namespace Value

@[simp] lemma not_isNotFinite_null : ¬IsNotFinite .null := by simp [IsNotFinite]

@[simp] lemma not_isNotFinite_int (n : Int) : ¬IsNotFinite (.int n) := by simp [IsNotFinite]

lemma exists_toPair_iff (v : Value) : (∃ e, v.toPair = .ok e) ↔ v.IsPair := by
  unfold toPair IsPair
  split
  · simp_all
  · rename_i k x h
    cases hk : k.toKey? <;> simp [h, toKey, hk, Except.map]
  · rename_i items hne h
    simp only [h, reduceCtorEq, exists_false, Except.ok.injEq, false_iff, not_exists, not_and]
    rintro k x rfl
    exact (hne k x rfl).elim

lemma exists_putPairs_iff (m : Fields) (items : List Value) :
    (∃ n, putPairs m items = .ok n) ↔ ∀ w ∈ items, w.IsPair := by
  induction items generalizing m with
  | nil => simp [putPairs]
  | cons v items ih =>
    rw [putPairs, List.forall_mem_cons, ← exists_toPair_iff]
    cases h : v.toPair with
    | error e => simp
    | ok e => simpa using ih (m.put e.1 e.2)

end Value

namespace Completion

open Content Schema

/-! ### Entries -/

lemma exists_wholeOr_iff (v : Value) (default : Int) :
    (∃ n, wholeOr v default = .ok n) ↔ ¬v.IsNotFinite := by
  cases v with
  | float x =>
    have := Number.truncate_eq_ok_iff x
    simp only [wholeOr, Number.toInt, Except.mapError_eq_ok, this, Value.IsNotFinite]
    simp
  | _ => simp [wholeOr, Value.IsNotFinite]

lemma exists_toFields_iff (v : Value) :
    (∃ m, v.toFields = .ok m) ↔
      (∃ m, v = .map m) ∨ ∃ items, v.elements = .ok items ∧ ∀ w ∈ items, w.IsPair := by
  unfold Value.toFields
  split
  · simp
  · rename_i hne
    have hmap : ¬∃ m, v = .map m := fun ⟨m, hm⟩ => hne m hm
    cases v.elements with
    | error e => simp [hmap]
    | ok items => simpa [hmap] using Value.exists_putPairs_iff [] items

lemma exists_entriesOf_iff (v : Value) : (∃ m, entriesOf v = .ok m) ↔ v.GivesEntries := by
  unfold entriesOf Value.GivesEntries
  cases ht : v.truthy with
  | false => simp
  | true => simpa using exists_toFields_iff v

@[simp] lemma breaks_fillWhole (m : Fields) (key : String) (default : Int) :
    (fillWhole m key default).Breaks ↔ (m.get key).IsNotFinite := by
  rw [fillWhole, Traced.breaks_bind, Traced.breaks_lift, exists_wholeOr_iff]
  simp

@[simp] lemma not_breaks_warn (message : String) : ¬(warn message).Breaks :=
  Traced.not_breaks_note _ _ _

@[simp] lemma not_breaks_objects (what : String) (v : Value) : ¬(objects what v).Breaks := by
  rw [objects, Traced.breaks_filterMap]
  rintro ⟨w, -, hw⟩
  cases w <;> simp [object?, Traced.breaks_bind] at hw

/-- The maps of a list. -/
lemma objects_eq_ok (what : String) (v : Value) :
    (objects what v).result = .ok (v.items.filterMap Value.fields?) := by
  rw [objects, Traced.filterMap_eq_ok]
  refine ⟨v.items.map Value.fields?, ?_, by simp [List.filterMap_map]⟩
  rw [List.forall₂_map_right_iff]
  refine List.forall₂_same.mpr fun w _ => ?_
  cases w <;> simp [object?, Value.fields?, Except.bind]

lemma exists_zipIdx_iff {α : Type} (items : List α) (n : Nat) (p : α → Prop) :
    (∃ e ∈ items.zipIdx n, p e.1) ↔ ∃ a ∈ items, p a := by
  conv_rhs => rw [← List.zipIdx_map_fst n items]
  simp only [List.mem_map, exists_exists_and_eq_and]

/-! ### Contents -/

/-- Whether one of the maps in a list has a float that is not finite at a key. -/
def HasNotFinite (content : Fields) (list key : String) : Prop :=
  ∃ m, .map m ∈ (content.get list).items ∧ (Fields.get m key).IsNotFinite

/-- Filling the maps of a list one by one breaks off where one of them does. -/
lemma breaks_traverse_objects (what : String) (content : Fields) (list key : String)
    (f : Fields → Nat → Filling Fields) (hf : ∀ m n, (f m n).Breaks ↔ (m.get key).IsNotFinite)
    {items : List Fields} (hitems : (objects what (content.get list)).result = .ok items) :
    (Traced.traverse (fun e => f e.1 e.2) (numbered items)).Breaks ↔
      HasNotFinite content list key := by
  rw [objects_eq_ok] at hitems
  cases hitems
  rw [Traced.breaks_traverse]
  simp only [hf]
  rw [numbered, exists_zipIdx_iff _ _ fun m => (Fields.get m key).IsNotFinite]
  simp only [HasNotFinite, List.mem_filterMap]
  constructor
  · rintro ⟨m, ⟨v, hv, hm⟩, h⟩
    cases v <;> cases hm
    exact ⟨m, hv, h⟩
  · rintro ⟨m, hm, h⟩
    exact ⟨m, ⟨_, hm, rfl⟩, h⟩

lemma breaks_fillQuestion (points : Int) (q : Fields) (n : Nat) :
    (fillQuestion points q n).Breaks ↔ (q.get "points").IsNotFinite := by
  simp [fillQuestion, fillText, fillId]

lemma breaks_fillQuiz (points : Int) (content : Fields) :
    (fillQuiz points content).Breaks ↔ HasNotFinite content "questions" "points" := by
  rw [fillQuiz, Traced.breaks_bind, objects_eq_ok]
  simp only [not_breaks_objects, false_or, Except.ok.injEq, exists_eq_left', Traced.breaks_bind,
    Traced.not_breaks_pure, and_false, exists_false, or_false]
  exact breaks_traverse_objects _ content _ _ _ (breaks_fillQuestion points)
    (objects_eq_ok "quiz question" _)

lemma not_breaks_fillFlashcards (content : Fields) : ¬(fillFlashcards content).Breaks := by
  simp [fillFlashcards, Traced.breaks_bind]

lemma not_breaks_fillMatching (content : Fields) : ¬(fillMatching content).Breaks := by
  simp [fillMatching, Traced.breaks_bind]

lemma not_breaks_fillSorting (content : Fields) : ¬(fillSorting content).Breaks := by
  simp [fillSorting, Traced.breaks_bind]

/-! ### Narratives -/

lemma not_breaks_fillCondition (scene : String) (v : Value) : ¬(fillCondition scene v).Breaks := by
  cases v with
  | map m =>
    simp only [fillCondition, fillKnownCondition]
    split_ifs <;> simp [Traced.breaks_bind]
  | _ => simp [fillCondition, Traced.breaks_bind]

lemma not_breaks_fillEffects (scene : String) (v : Value) : ¬(fillEffects scene v).Breaks := by
  rw [fillEffects, Traced.breaks_bind]
  simp only [not_breaks_objects, Traced.breaks_filterMap, false_or]
  rintro ⟨effects, -, effect, -, h⟩
  unfold fillEffect? at h
  dsimp only at h
  split_ifs at h <;> simp [Traced.breaks_bind] at h

lemma not_breaks_fillChoice? (scene : String) (choice : Fields) (n : Nat) :
    ¬(fillChoice? scene choice n).Breaks := by
  unfold fillChoice?
  dsimp only
  split_ifs
  · simp [Traced.breaks_bind, not_breaks_fillCondition, not_breaks_fillEffects]
  · simp [Traced.breaks_bind]

lemma not_breaks_fillEnding (scene : String) (m : Fields) : ¬(fillEnding scene m).Breaks := by
  unfold fillEnding
  dsimp only
  split_ifs <;> simp [Traced.breaks_bind]

lemma not_breaks_fillNarrative (content : Fields) : ¬(fillNarrative content).Breaks := by
  simp [fillNarrative, fillScene, Traced.breaks_bind, Traced.breaks_traverse,
    Traced.breaks_filterMap, not_breaks_fillChoice?, not_breaks_fillEnding]

/-! ### Simulations and explorations -/

/-- Whether the initial state of a simulation or the amounts in it give no entries. -/
def InitialStateBreaks (v : Value) : Prop :=
  ¬v.GivesEntries ∨ ∃ initial, entriesOf v = .ok initial ∧
    ¬(Fields.get initial "resources").GivesEntries

lemma exists_fillInitialState_iff (resources : List Fields) (v : Value) :
    (∃ m, fillInitialState resources v = .ok m) ↔ ¬InitialStateBreaks v := by
  unfold fillInitialState InitialStateBreaks
  rw [← exists_entriesOf_iff]
  cases entriesOf v with
  | error e => simp [Bind.bind, Except.bind]
  | ok initial =>
    simp only [← exists_entriesOf_iff]
    cases h : entriesOf (Fields.get initial "resources") <;>
      simp [h, Bind.bind, Except.bind, pure, Except.pure]

lemma not_breaks_fillEvent (event : Fields) (n : Nat) : ¬(fillEvent event n).Breaks := by
  simp [fillEvent, Traced.breaks_bind]

lemma breaks_fillSimulation (content : Fields) :
    (fillSimulation content).Breaks ↔
      InitialStateBreaks (content.get "initialState") ∨ (content.get "maxTurns").IsNotFinite := by
  have hevents (events : List Fields) :
      ¬(Traced.traverse (fun e => fillEvent e.1 e.2) (numbered events)).Breaks := by
    simp [Traced.breaks_traverse, not_breaks_fillEvent]
  unfold fillSimulation
  simp only [Traced.breaks_bind, not_breaks_objects, objects_eq_ok, false_or, Except.ok.injEq,
    exists_eq_left', hevents, breaks_fillWhole, Traced.breaks_lift, Traced.result_lift,
    exists_fillInitialState_iff, not_not]
  obtain ⟨events, hok⟩ := Traced.exists_ok_of_not_breaks
    (hevents ((content.get "events").items.filterMap Value.fields?))
  simp only [hok, Except.ok.injEq, exists_eq_left', Fields.get_put, String.reduceEq, if_false,
    exists_and_right, exists_fillInitialState_iff]
  tauto

lemma breaks_fillCollectible (item : Fields) (n : Nat) :
    (fillCollectible item n).Breaks ↔ (item.get "points").IsNotFinite := by
  simp [fillCollectible, fillText, fillId]

lemma not_breaks_fillLocation (location : Fields) (n : Nat) :
    ¬(fillLocation location n).Breaks := by
  have hvisit (m : Fields) : ¬(fillVisit m).Breaks := by
    unfold fillVisit
    dsimp only
    split_ifs <;> simp [Traced.breaks_bind]
  simp [fillLocation, Traced.breaks_bind, hvisit]

lemma breaks_fillExploration (content : Fields) :
    (fillExploration content).Breaks ↔ HasNotFinite content "collectibles" "points" := by
  have hlocations (locations : List Fields) :
      ¬(Traced.traverse (fun e => fillLocation e.1 e.2) (numbered locations)).Breaks := by
    simp [Traced.breaks_traverse, not_breaks_fillLocation]
  obtain ⟨locations, hok⟩ := Traced.exists_ok_of_not_breaks
    (hlocations ((content.get "locations").items.filterMap Value.fields?))
  simp only [fillExploration, Traced.breaks_bind, not_breaks_objects, objects_eq_ok, false_or,
    Except.ok.injEq, exists_eq_left', hok, hlocations, Traced.not_breaks_pure, and_false,
    exists_false, or_false]
  exact breaks_traverse_objects _ content _ _ _ breaks_fillCollectible
    (objects_eq_ok "collectible" _)

/-! ### Challenges -/

lemma breaks_fillPrompt (points : Int) (item : Fields) (n : Nat) :
    (fillPrompt points item n).Breaks ↔ (item.get "points").IsNotFinite := by
  unfold fillPrompt
  dsimp only
  rw [breaks_fillWhole]
  split_ifs <;> simp [fillText, fillId]

lemma breaks_fillChallenge (points : Int) (content : Fields) :
    (fillChallenge points content).Breaks ↔
      HasNotFinite content "items" "points" ∨ (content.get "timeLimit").IsNotFinite ∨
        (content.get "targetScore").IsNotFinite ∨ (content.get "maxMistakes").IsNotFinite := by
  have hprompts := breaks_traverse_objects _ content _ _ _ (breaks_fillPrompt points)
    (objects_eq_ok "challenge item" (content.get "items"))
  simp only [fillChallenge, Traced.breaks_bind, not_breaks_objects, objects_eq_ok, false_or,
    Except.ok.injEq, exists_eq_left', hprompts, breaks_fillWhole, fillWhole_eq_ok,
    exists_exists_and_eq_and, Fields.get_put, String.reduceEq, if_false, exists_and_right,
    exists_wholeOr_iff]
  by_cases h : HasNotFinite content "items" "points"
  · simp [h]
  · obtain ⟨items, hok⟩ := Traced.exists_ok_of_not_breaks (mt hprompts.mp h)
    simp only [h, hok, Except.ok.injEq, exists_eq', false_or, true_and]
    tauto

/-! ### Sections -/

/-- Whether filling a content of a kind breaks off. -/
def ContentBreaks (content : Fields) : SectionKind → Prop
  | .quiz => HasNotFinite content "questions" "points"
  | .simulation =>
    InitialStateBreaks (content.get "initialState") ∨ (content.get "maxTurns").IsNotFinite
  | .exploration => HasNotFinite content "collectibles" "points"
  | .challenge =>
    HasNotFinite content "items" "points" ∨ (content.get "timeLimit").IsNotFinite ∨
      (content.get "targetScore").IsNotFinite ∨ (content.get "maxMistakes").IsNotFinite
  | _ => False

lemma breaks_fillContent (kind : SectionKind) (points : Int) (title : Value) (content : Fields) :
    (fillContent kind points title content).Breaks ↔ ContentBreaks content kind := by
  cases kind with
  | quiz => exact breaks_fillQuiz points content
  | flashcards => exact iff_false_intro (not_breaks_fillFlashcards content)
  | matching => exact iff_false_intro (not_breaks_fillMatching content)
  | sorting => exact iff_false_intro (not_breaks_fillSorting content)
  | narrative => exact iff_false_intro (not_breaks_fillNarrative content)
  | simulation => exact breaks_fillSimulation content
  | exploration => exact breaks_fillExploration content
  | challenge => exact breaks_fillChallenge points content
  | info => exact iff_false_intro (Traced.not_breaks_pure _)

/-- The kind of a value as a section; what is no map has none. -/
def playableKind? : Value → Option SectionKind
  | .map m => kindOf? m
  | _ => none

/-- Whether filling a section breaks off: it is of a known kind, and filling its content does. -/
def SectionBreaks (v : Value) : Prop :=
  ∃ kind, playableKind? v = some kind ∧
    ContentBreaks (fieldsOf (Fields.get (fieldsOf v) "content")) kind

lemma breaks_fillSection (v : Value) (index points : Int) :
    (fillSection v index points).Breaks ↔ SectionBreaks v := by
  unfold SectionBreaks
  cases v with
  | map m =>
    simp only [fillSection, fillKnownSection, playableKind?, kindOf?, fieldsOf]
    cases h : sectionKind? _ with
    | none => simp [Traced.breaks_bind]
    | some kind => simp [Traced.breaks_bind, breaks_fillContent]
  | _ => simp [fillSection, Traced.breaks_bind, playableKind?]

/-- A section is dropped exactly if its kind is not known. -/
lemma fillSection_eq_none_iff {v : Value} {index points : Int} {o : Option Fields}
    (h : (fillSection v index points).result = .ok o) : o = none ↔ playableKind? v = none := by
  cases v with
  | map m =>
    simp only [fillSection, fillKnownSection] at h
    simp only [playableKind?, kindOf?]
    split at h
    · rename_i hkind
      obtain ⟨-, -, h⟩ := (Traced.bind_eq_ok _ _ _).mp h
      cases h
      simp [hkind]
    · rename_i kind hkind
      obtain ⟨filled, -, h⟩ := (Traced.bind_eq_ok _ _ _).mp h
      cases h
      simp [hkind]
  | _ =>
    obtain ⟨-, -, h⟩ := (Traced.bind_eq_ok _ _ _).mp h
    cases h
    simp [playableKind?]

end Completion

end LearningGame
