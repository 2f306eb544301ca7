import LearningGame.Proofs.Completion.Filled
import LearningGame.Proofs.Loading.Playable
import Mathlib.Data.List.Nodup

/-!
# Ids that are filled in

An entry without an id falls back to one that is made of a word and its place in the list. Such an
id is not looked for among those that are given: entries with different given ids are told apart by
their ids once they are filled exactly if no entry is given the id that another one falls back to.
-/

namespace LearningGame

open Completion Content Schema

/-! ### Entrants -/

/-- An entry of a list in which ids are filled in: the id that it is given, and the one that it
falls back to. -/
structure Entrant where
  given : Option String
  fallback : String

/-- The id that an entry gets. -/
def Entrant.id (e : Entrant) : String := e.given.getD e.fallback

/-- No entry is given the id that another one falls back to. -/
def Undisturbed (es : List Entrant) : Prop :=
  ∀ e ∈ es, ∀ f ∈ es, f.given = none → e.given ≠ some f.fallback

namespace Entrant

lemma id_of_given {e : Entrant} {s : String} (h : e.given = some s) : e.id = s := by
  rw [id, h, Option.getD_some]

lemma id_of_not_given {e : Entrant} (h : e.given = none) : e.id = e.fallback := by
  rw [id, h, Option.getD_none]

/-- When two entries get the same id: one of them is given the id that the other falls back to. -/
lemma id_eq_iff {e f : Entrant} (hgiven : e.given = f.given → e.given = none)
    (hfallback : e.fallback ≠ f.fallback) :
    e.id = f.id ↔ f.given = none ∧ e.given = some f.fallback ∨
      e.given = none ∧ f.given = some e.fallback := by
  cases he : e.given with
  | none =>
    rw [id_of_not_given he]
    cases hf : f.given with
    | none => simp [id_of_not_given hf, hfallback]
    | some t => simp [id_of_given hf, eq_comm]
  | some s =>
    rw [id_of_given he]
    cases hf : f.given with
    | none => simp [id_of_not_given hf]
    | some t =>
      have hne : s ≠ t := by
        rintro rfl
        rw [he, hf] at hgiven
        exact absurd (hgiven rfl) (Option.some_ne_none s)
      simp [id_of_given hf, hne]

end Entrant

lemma undisturbed_cons (e : Entrant) (es : List Entrant) :
    Undisturbed (e :: es) ↔ (∀ f ∈ es, ¬(f.given = none ∧ e.given = some f.fallback ∨
      e.given = none ∧ f.given = some e.fallback)) ∧ Undisturbed es := by
  have hself : e.given = none → e.given ≠ some e.fallback := fun h => by simp [h]
  unfold Undisturbed
  constructor
  · intro h
    refine ⟨fun f hf => ?_, fun f hf f' hf' => h f (.tail _ hf) f' (.tail _ hf')⟩
    rintro (⟨hnone, hsome⟩ | ⟨hnone, hsome⟩)
    · exact h e (.head _) f (.tail _ hf) hnone hsome
    · exact h f (.tail _ hf) e (.head _) hnone hsome
  · rintro ⟨hfirst, hrest⟩ f (_ | ⟨_, hf⟩) f' (_ | ⟨_, hf'⟩) hnone hsome
    · exact hself hnone hsome
    · exact hfirst f' hf' (.inl ⟨hnone, hsome⟩)
    · exact hfirst f hf (.inr ⟨hnone, hsome⟩)
    · exact hrest f hf f' hf' hnone hsome

/-- Entries with different given ids and different fallbacks get different ids exactly if they are
undisturbed. -/
lemma nodup_map_id_iff {es : List Entrant} (hgiven : (es.filterMap (·.given)).Nodup)
    (hfallback : (es.map (·.fallback)).Nodup) : (es.map Entrant.id).Nodup ↔ Undisturbed es := by
  induction es with
  | nil => simp [Undisturbed]
  | cons e es ih =>
    rw [List.map_cons, List.nodup_cons] at hfallback
    have hrest : (es.filterMap (·.given)).Nodup :=
      hgiven.sublist ((List.sublist_cons_self e es).filterMap _)
    have hpair (f : Entrant) (hf : f ∈ es) :
        e.id = f.id ↔ f.given = none ∧ e.given = some f.fallback ∨
          e.given = none ∧ f.given = some e.fallback := by
      refine Entrant.id_eq_iff (fun heq => ?_) fun heq => ?_
      · by_contra hne
        obtain ⟨s, hs⟩ := Option.ne_none_iff_exists'.mp hne
        rw [List.filterMap_cons_some hs, List.nodup_cons] at hgiven
        exact hgiven.1 (List.mem_filterMap.mpr ⟨f, hf, heq ▸ hs⟩)
      · exact hfallback.1 (List.mem_map.mpr ⟨f, hf, heq.symm⟩)
    rw [List.map_cons, List.nodup_cons, undisturbed_cons, ih hrest hfallback.2]
    refine and_congr_left fun _ => ?_
    rw [List.mem_map, not_exists]
    refine forall_congr' fun f => ?_
    rw [not_and]
    exact ⟨fun h hf hclash => h hf ((hpair f hf).mpr hclash).symm,
      fun h hf heq => h hf ((hpair f hf).mp heq.symm)⟩

/-! ### Entries -/

/-- The id that an entry is given; a blank one is none. -/
def givenId? (m : Fields) : Option String :=
  match m.get "id" with
  | .null => none
  | .str s => if Text.isBlankText s then none else some s
  | v => some v.text

lemma idOf_eq (m : Fields) (fallback : String) : idOf m fallback = (givenId? m).getD fallback := by
  unfold idOf givenId?
  cases m.get "id" with
  | str s =>
    dsimp only
    split_ifs <;> rfl
  | _ => rfl

/-- An entry at a place of a list whose fallbacks are made of a word. -/
def entrantOf (word : String) (e : Fields × Nat) : Entrant := ⟨givenId? e.1, word ++ toString e.2⟩

lemma id_entrantOf (word : String) (e : Fields × Nat) :
    (entrantOf word e).id = idOf e.1 (word ++ toString e.2) := (idOf_eq _ _).symm

/-- Fallbacks that are made of the places in a list differ. -/
lemma nodup_fallbacks {α : Type} {l : List (α × Nat)} {items : List α} {start : Nat}
    (hl : l.Sublist (items.zipIdx start)) (word : String) :
    (l.map fun e => word ++ toString e.2).Nodup := by
  have hplaces : (l.map Prod.snd).Nodup := by
    refine List.Nodup.sublist (hl.map Prod.snd) ?_
    rw [List.zipIdx_map_snd]
    exact List.nodup_range'
  have hall := hplaces.map (f := fun n => word ++ toString n)
    fun a b h => (append_toString_inj word).mp h
  rwa [List.map_map] at hall

/-- The ids of the maps in a list. -/
def idsAt (m : Fields) (key : String) : List String := (mapsAt m key).map fun e => textAt e "id"

lemma idsAt_of_find? {m : Fields} {key : String} {ms : List Fields}
    (h : m.find? key = some (mapList ms)) : idsAt m key = ms.map fun e => textAt e "id" := by
  rw [idsAt, mapsAt_of_find? h]

/-- Whether a way of filling an entry puts in the id that is given or made of a word. -/
def GivesIds (word : String) (f : Fields → Nat → Filling Fields) : Prop :=
  ∀ m n m', (f m n).result = .ok m' → m'.find? "id" = some (.str (idOf m (word ++ toString n)))

lemma FilledAll.ids {word : String} {f : Fields → Nat → Filling Fields} {given filled : List Fields}
    (hf : GivesIds word f) (h : FilledAll f given filled) :
    (filled.map fun e => textAt e "id") = (numbered given).map fun e => (entrantOf word e).id := by
  rw [eq_comm, ← List.forall₂_eq_eq_eq, List.forall₂_map_left_iff, List.forall₂_map_right_iff]
  refine h.imp fun e m he => ?_
  rw [id_entrantOf, textAt_of_find? (hf _ _ _ he)]

/-! ### Lists of contents -/

/-- A list of a content whose entries have ids, with the word for the ids that are filled in. -/
structure Roster where
  key : String
  word : String

/-- The lists of a content of a kind whose entries have ids. -/
def rosters : SectionKind → List Roster
  | .quiz => [⟨"questions", "q"⟩]
  | .flashcards => [⟨"cards", "card"⟩]
  | .matching => [⟨"pairs", "pair"⟩]
  | .sorting => [⟨"categories", "cat"⟩, ⟨"items", "item"⟩]
  | .narrative => [⟨"scenes", "scene"⟩]
  | .simulation =>
    [⟨"resources", "res"⟩, ⟨"actions", "action"⟩, ⟨"events", "event"⟩, ⟨"objectives", "obj"⟩]
  | .exploration => [⟨"locations", "loc"⟩, ⟨"collectibles", "collect"⟩]
  | .challenge => [⟨"items", "c"⟩]
  | .info => []

/-- The entries of a list of a content. -/
def Roster.entrants (r : Roster) (content : Fields) : List Entrant :=
  (numbered (mapsAt content r.key)).map (entrantOf r.word)

section GivesIds

lemma givesIds_pure {word : String} {f : Fields → Nat → Fields}
    (h : ∀ m n, (f m n).find? "id" = some (.str (idOf m (word ++ toString n)))) :
    GivesIds word fun m n => pure (f m n) := by
  intro m n m' hm
  cases hm
  exact h m n

lemma givesIds_fillQuestion (points : Int) : GivesIds "q" (fillQuestion points) := by
  intro m n m' h
  rw [fillQuestion_eq points m n rfl rfl, fillWhole_eq_ok] at h
  obtain ⟨k, -, rfl⟩ := h
  simp [find?_fillText]

lemma givesIds_fillScene : GivesIds "scene" fillScene := by
  intro m n m' h
  obtain ⟨choices, -, hending⟩ := (fillScene_iff _ _ _).mp h
  rcases fillEnding_eq_ok hending with rfl | rfl
  · simp [sceneWith, fillSomeText]
  · simp [sceneWith, fillSomeText]

lemma givesIds_fillLocation : GivesIds "loc" fillLocation := by
  intro m n m' h
  obtain ⟨visited, hvisited, rfl⟩ := (fillLocation_iff _ _ _).mp h
  rcases fillVisit_eq_ok hvisited with rfl | rfl
  · simp
  · simp

lemma givesIds_fillCollectible : GivesIds "collect" fillCollectible := by
  intro m n m' h
  obtain ⟨k, -, rfl⟩ := (fillWhole_eq_ok _ _ _ _).mp h
  simp [find?_fillText]

lemma givesIds_fillPrompt (points : Int) : GivesIds "c" (fillPrompt points) := by
  intro m n m' h
  obtain ⟨k, -, rfl⟩ := (fillWhole_eq_ok _ _ _ _).mp h
  split_ifs <;> simp [find?_fillText]

lemma givesIds_fillId (word : String) :
    GivesIds word fun m n => pure (fillId m (word ++ toString n)) := by
  refine givesIds_pure fun m n => ?_
  simp

lemma givesIds_fillEvent : GivesIds "event" fun m n =>
    pure ((fillId m ("event" ++ toString n)).put "choices" (mapList (mapsAt m "choices"))) := by
  refine givesIds_pure fun m n => ?_
  simp

lemma givesIds_fillObjective : GivesIds "obj" fun m n => pure (fillObjective m n) := by
  refine givesIds_pure fun m n => ?_
  simp only [fillObjective]
  split_ifs <;> simp

end GivesIds

/-- What a list of a content is filled with, entry by entry. -/
lemma exists_filledAll {kind : SectionKind} {points : Int} {title : Value} {content filled : Fields}
    (h : (fillContent kind points title content).result = .ok filled) {r : Roster}
    (hr : r ∈ rosters kind) :
    ∃ f ms, GivesIds r.word f ∧ FilledAll f (mapsAt content r.key) ms ∧
      filled.find? r.key = some (mapList ms) := by
  cases kind with
  | quiz =>
    obtain ⟨ms, hms, rfl⟩ := (fillQuiz_iff _ _ _).mp h
    simp only [rosters, List.mem_singleton] at hr
    subst hr
    exact ⟨_, ms, givesIds_fillQuestion points, hms, by simp⟩
  | flashcards =>
    cases (fillFlashcards_eq content).symm.trans h
    simp only [rosters, List.mem_singleton] at hr
    subst hr
    exact ⟨_, _, givesIds_pure (f := fillCard) (by simp [fillCard, fillSide]), filledAll_map _ _,
      by simp⟩
  | matching =>
    cases (fillMatching_eq content).symm.trans h
    simp only [rosters, List.mem_singleton] at hr
    subst hr
    exact ⟨_, _, givesIds_pure (f := fillPair) (by simp [fillPair, fillSide]), filledAll_map _ _,
      by simp⟩
  | sorting =>
    cases (fillSorting_eq content).symm.trans h
    simp only [rosters, List.mem_cons, List.not_mem_nil, or_false] at hr
    rcases hr with rfl | rfl
    · exact ⟨_, _, givesIds_pure (f := fillCategory) (by simp [fillCategory]), filledAll_map _ _,
        by simp [filledCategories]⟩
    · exact ⟨_, _, givesIds_pure (f := fillItem (filledCategories content))
        (by simp [fillItem, find?_fillText]), filledAll_map _ _,
        by simp⟩
  | narrative =>
    obtain ⟨ms, hms, rfl⟩ := (fillNarrative_iff _ _).mp h
    simp only [rosters, List.mem_singleton] at hr
    subst hr
    exact ⟨_, ms, givesIds_fillScene, hms, by simp⟩
  | simulation =>
    obtain ⟨initial, turns, -, -, rfl⟩ := (fillSimulation_iff _ _).mp h
    simp only [rosters, List.mem_cons, List.not_mem_nil, or_false] at hr
    rcases hr with rfl | rfl | rfl | rfl
    · exact ⟨_, _, givesIds_fillId "res", filledAll_map _ _,
        by simp [Completion.simulationWith, fillIds]⟩
    · exact ⟨_, _, givesIds_fillId "action", filledAll_map _ _,
        by simp [Completion.simulationWith, fillIds]⟩
    · exact ⟨_, _, givesIds_fillEvent, filledAll_map _ _,
        by simp [Completion.simulationWith, filledEvents]⟩
    · exact ⟨_, _, givesIds_fillObjective, filledAll_map _ _, by simp [Completion.simulationWith]⟩
  | exploration =>
    obtain ⟨locations, items, hlocations, hitems, rfl⟩ := (fillExploration_iff _ _).mp h
    simp only [rosters, List.mem_cons, List.not_mem_nil, or_false] at hr
    rcases hr with rfl | rfl
    · exact ⟨_, locations, givesIds_fillLocation, hlocations, by simp⟩
    · exact ⟨_, items, givesIds_fillCollectible, hitems, by simp⟩
  | challenge =>
    obtain ⟨items, limit, target, mistakes, hitems, -, -, -, rfl⟩ :=
      (fillChallenge_iff _ _ _).mp h
    simp only [rosters, List.mem_singleton] at hr
    subst hr
    exact ⟨_, items, givesIds_fillPrompt points, hitems, by simp⟩
  | info => simp [rosters] at hr

lemma Roster.idsAt_eq {kind : SectionKind} {points : Int} {title : Value} {content filled : Fields}
    (h : (fillContent kind points title content).result = .ok filled) {r : Roster}
    (hr : r ∈ rosters kind) : idsAt filled r.key = (r.entrants content).map Entrant.id := by
  obtain ⟨f, ms, hf, hms, hfind⟩ := exists_filledAll h hr
  rw [idsAt_of_find? hfind, FilledAll.ids hf hms, entrants, List.map_map]
  rfl

/-! ### Options and choices -/

lemma FilledAll.exists_of_mem_zip {f : Fields → Nat → Filling Fields} {given filled : List Fields}
    (h : FilledAll f given filled) {m m' : Fields} (hm : (m, m') ∈ given.zip filled) :
    ∃ n, (f m n).result = .ok m' := by
  have hall : List.Forall₂ (fun m m' => ∃ n, (f m n).result = .ok m')
      ((numbered given).map Prod.fst) filled := by
    rw [List.forall₂_map_left_iff]
    exact h.imp fun e _ he => ⟨e.2, he⟩
  rw [numbered, List.zipIdx_map_fst] at hall
  exact (List.forall₂_iff_zip.mp hall).2 hm

/-- The options that a question lists. A yes-or-no question without any has two. -/
def optionsGiven (q : Fields) : Value :=
  let given := fillOptions (q.get "options")
  if questionKind (q.get "questionType") given = .trueFalse ∧ given.isEmpty then
    .list ["True", "False"]
  else q.get "options"

/-- The options of a question; one that is no map has no id. -/
def optionEntrants (q : Fields) : List Entrant :=
  (optionsGiven q).items.zipIdx.map fun e =>
    ⟨e.1.fields?.bind givenId?, "opt" ++ toString e.2⟩

lemma optionsFor_eq (q : Fields) :
    optionsFor (questionKind (q.get "questionType") (fillOptions (q.get "options")))
      (q.get "options") = fillOptions (optionsGiven q) := by
  simp only [optionsFor, optionsGiven]
  split_ifs <;> rfl

lemma find?_options_of_fillQuestion {points : Int} {q m : Fields} {n : Nat}
    (h : (fillQuestion points q n).result = .ok m) :
    m.find? "options" = some (mapList (fillOptions (optionsGiven q))) := by
  obtain ⟨named, hnamed⟩ : ∃ named, fillText (fillId q ("q" ++ toString n)) "question" = named :=
    ⟨_, rfl⟩
  have hkind : named.get "questionType" = q.get "questionType" := by
    simp [← hnamed, Fields.get_eq, find?_fillText, find?_fillId]
  have hoptions : named.get "options" = q.get "options" := by
    simp [← hnamed, Fields.get_eq, find?_fillText, find?_fillId]
  rw [fillQuestion_eq points q n hnamed rfl, fillWhole_eq_ok, hkind, hoptions, optionsFor_eq] at h
  obtain ⟨k, -, rfl⟩ := h
  simp

lemma textAt_fillOption (v : Value) (n : Nat) :
    textAt (fillOption v n) "id" =
      (⟨v.fields?.bind givenId?, "opt" ++ toString n⟩ : Entrant).id := by
  cases v with
  | map m =>
    rw [textAt_of_find? (s := idOf m ("opt" ++ toString n)) (by simp [fillOption, find?_fillText]),
      idOf_eq]
    rfl
  | _ => exact textAt_of_find? (by simp [fillOption, Value.fields?, Entrant.id])

lemma idsAt_options {points : Int} {q m : Fields} {n : Nat}
    (h : (fillQuestion points q n).result = .ok m) :
    idsAt m "options" = (optionEntrants q).map Entrant.id := by
  rw [idsAt_of_find? (find?_options_of_fillQuestion h), fillOptions, optionEntrants, List.map_map,
    List.map_map]
  exact List.map_congr_left fun e _ => textAt_fillOption e.1 e.2

/-- The choices of a scene that lead somewhere. -/
def choiceEntrants (scene : Fields) : List Entrant :=
  ((numbered (mapsAt scene "choices")).filter fun e => (e.1.get "targetScene").truthy).map
    (entrantOf "choice")

lemma of_fillChoice? {scene : String} {choice : Fields} {n : Nat} {o : Option Fields}
    (h : (fillChoice? scene choice n).result = .ok o) :
    (choice.get "targetScene").truthy = o.isSome ∧
      ∀ m ∈ o, textAt m "id" = idOf choice ("choice" ++ toString n) := by
  cases o with
  | none =>
    refine ⟨?_, by simp⟩
    by_contra htarget
    simp only [Option.isSome_none, Bool.not_eq_false] at htarget
    simp only [fillChoice?, htarget, if_true, Traced.bind_eq_ok, Traced.result_pure] at h
    obtain ⟨condition, -, effects, -, h⟩ := h
    cases h
  | some m =>
    obtain ⟨htarget, condition, effects, -, -, rfl⟩ := (fillChoice?_eq_some _ _ _ _).mp h
    refine ⟨htarget, ?_⟩
    rintro m ⟨⟩
    exact textAt_of_find? (by simp [find?_fillText])

lemma FilledChoices.ids {scene : String} {given filled : List Fields}
    (h : FilledChoices scene given filled) :
    (filled.map fun m => textAt m "id") =
      (((numbered given).filter fun e => (e.1.get "targetScene").truthy).map
        (entrantOf "choice")).map Entrant.id := by
  obtain ⟨os, hos, rfl⟩ := h
  generalize numbered given = choices at hos ⊢
  induction hos with
  | nil => rfl
  | @cons e o choices os he _ ih =>
    obtain ⟨htarget, hid⟩ := of_fillChoice? he
    cases o with
    | none =>
      rw [List.filter_cons_of_neg (by simp [htarget])]
      exact ih
    | some m =>
      rw [List.filter_cons_of_pos (by simp [htarget])]
      rw [List.map_cons, List.map_cons, ← ih, id_entrantOf, ← hid m rfl]
      rfl

lemma idsAt_choices {scene m : Fields} {n : Nat} (h : (fillScene scene n).result = .ok m) :
    idsAt m "choices" = (choiceEntrants scene).map Entrant.id := by
  obtain ⟨choices, hchoices, hending⟩ := (fillScene_iff _ _ _).mp h
  have hfind : m.find? "choices" = some (mapList choices) := by
    rcases fillEnding_eq_ok hending with rfl | rfl
    · simp [sceneWith, fillSomeText]
    · simp [sceneWith, fillSomeText]
  rw [idsAt_of_find? hfind]
  exact FilledChoices.ids hchoices

/-! ### Sections -/

/-- The sections among some values, which are those of a known kind. -/
def sectionEntrants (raws : List (Value × Nat)) : List Entrant :=
  (raws.filter fun e => (playableKind? e.1).isSome).map fun e =>
    entrantOf "section" (fieldsOf e.1, e.2)

lemma textAt_of_fillSection {raw : Value} {index : Nat} {points : Int} {m : Fields}
    (h : (fillSection raw index points).result = .ok (some m)) :
    textAt m "id" = (entrantOf "section" (fieldsOf raw, index + 1)).id := by
  obtain ⟨m', rfl, h⟩ := (fillSection_eq_some _ _ _ _).mp h
  obtain ⟨kind, filled, -, -, rfl⟩ := (fillKnownSection_eq_some _ _ _ _).mp h
  rw [id_entrantOf]
  refine textAt_of_find? ?_
  simp only [withContent]
  split_ifs
  · simp [fieldsOf]
    rfl
  · simp [fieldsOf]
    rfl

lemma isSome_playableKind? {raw : Value} {index points : Int} {m : Fields}
    (h : (fillSection raw index points).result = .ok (some m)) :
    (playableKind? raw).isSome = true := by
  rw [Option.isSome_iff_ne_none, Ne, ← fillSection_eq_none_iff h]
  exact Option.some_ne_none m

lemma sectionEntrants_cons_of_playable {raw : Value} {n : Nat} {rest : List (Value × Nat)}
    (h : (playableKind? raw).isSome = true) :
    sectionEntrants ((raw, n) :: rest) =
      entrantOf "section" (fieldsOf raw, n) :: sectionEntrants rest := by
  simp [sectionEntrants, h]

lemma sectionEntrants_cons_of_not_playable {raw : Value} {n : Nat} {rest : List (Value × Nat)}
    (h : playableKind? raw = none) : sectionEntrants ((raw, n) :: rest) = sectionEntrants rest := by
  simp [sectionEntrants, h]

/-- Sections are all kept exactly if their ids differ and none of them is taken. -/
lemma length_fillSections {points : Int} {seen : List String} {index : Nat} {raws : List Value}
    {ms : List Fields} (h : (fillSections points seen index raws).result = .ok ms) :
    ms.length ≤ (sectionEntrants (raws.zipIdx (index + 1))).length ∧
      (ms.length = (sectionEntrants (raws.zipIdx (index + 1))).length ↔
        ((sectionEntrants (raws.zipIdx (index + 1))).map Entrant.id).Nodup ∧
          ∀ e ∈ sectionEntrants (raws.zipIdx (index + 1)), e.id ∉ seen) := by
  induction raws generalizing seen index ms with
  | nil =>
    cases h
    simp [sectionEntrants]
  | cons raw rest ih =>
    obtain ⟨o, ho, hrest⟩ := (fillSections_cons_eq_ok seen index raw rest ms).mp h
    have hnone := fillSection_eq_none_iff ho
    rw [List.zipIdx_cons]
    cases o with
    | none =>
      rw [sectionEntrants_cons_of_not_playable (hnone.mp rfl)]
      exact ih hrest
    | some m =>
      rw [sectionEntrants_cons_of_playable (isSome_playableKind? ho)]
      dsimp only at hrest
      rw [textAt_of_fillSection ho] at hrest
      generalize entrantOf "section" (fieldsOf raw, index + 1) = e at hrest
      split_ifs at hrest with hs
      · obtain ⟨hle, -⟩ := ih hrest
        simp only [List.contains_eq_mem, decide_eq_true_eq] at hs
        refine ⟨by simp only [List.length_cons]; omega, iff_of_false ?_ ?_⟩
        · simp only [List.length_cons]
          omega
        · rintro ⟨-, hnew⟩
          exact hnew e (.head _) hs
      · obtain ⟨others, hothers, rfl⟩ := hrest
        obtain ⟨hle, hiff⟩ := ih hothers
        simp only [List.contains_eq_mem, decide_eq_true_eq] at hs
        refine ⟨by simpa using hle, ?_⟩
        simp only [List.length_cons, Nat.add_right_cancel_iff, hiff, List.map_cons,
          List.nodup_cons, List.mem_cons, not_or, List.mem_map]
        constructor
        · rintro ⟨hnodup, hnew⟩
          refine ⟨⟨?_, hnodup⟩, ?_⟩
          · rintro ⟨f, hf, hid⟩
            exact (hnew f hf).1 hid
          · rintro f (rfl | hf)
            · exact hs
            · exact (hnew f hf).2
        · rintro ⟨⟨hfirst, hnodup⟩, hnew⟩
          refine ⟨hnodup, fun f hf => ⟨fun hid => hfirst ⟨f, hf, hid⟩, hnew f (.inr hf)⟩⟩

/-- What a document is filled with when it is loaded. -/
lemma exists_parts_of_load {doc : Fields} {raw gameType : Value} {g : Game}
    (hraw : HoldsDocument doc raw) (hdoc : hasSections doc = true)
    (h : (load raw gameType).result = .ok g) :
    ∃ (p : DocumentParts) (points : Int),
      (fillSections points [] 0 (sectionsOf doc)).result = .ok p.sections ∧
      (fillProgression p.sectionIds (doc.get "progression")).result = .ok p.progression ∧
      Game.codec.read (.map (p.fill doc gameType)) = .valid g ∧ g.IsFilledFrom doc gameType := by
  rw [load_of_holdsDocument hraw, buildGame_eq_ok] at h
  obtain ⟨shape, known, filled, hknown, hfilled, hg⟩ := h
  cases (recognize_of_hasSections hdoc []).symm.trans hknown
  obtain ⟨p, -, ⟨points, -, raws, hraws, hsections⟩, -, -, hprogression, rfl⟩ :=
    (fillDocument_eq_ok _ _ _).mp hfilled
  have hlist : raws = sectionsOf doc := by
    unfold hasSections at hdoc
    unfold sectionsOf
    generalize Fields.get (fieldsOf (doc.get "content")) "sections" = v at hdoc hraws
    cases v with
    | list items =>
      cases hraws
      rfl
    | _ => cases hdoc
  subst hlist
  exact ⟨p, points, hsections, hprogression, hg, _, hfilled, hg⟩

/-- The sections of a document are the sections of its game exactly if their ids differ. -/
lemma length_sectionIds {doc : Fields} {raw gameType : Value} {g : Game}
    (hraw : HoldsDocument doc raw) (hdoc : hasSections doc = true)
    (h : (load raw gameType).result = .ok g) :
    g.sectionIds.Nodup ∧
      (g.sectionIds.length = (sectionEntrants (numbered (sectionsOf doc))).length ↔
        ((sectionEntrants (numbered (sectionsOf doc))).map Entrant.id).Nodup) := by
  obtain ⟨p, points, hsections, -, hg, hfilled⟩ := exists_parts_of_load hraw hdoc h
  have hnodup := hfilled.spec.2.1
  have hlength : g.sectionIds.length = p.sections.length := by
    rw [Game.sectionIds, List.length_map, ← (Game.sections_of_read hg).length_eq, List.length_map]
  have hall := (length_fillSections hsections).2
  refine ⟨hnodup, ?_⟩
  rw [hlength]
  simpa [numbered] using hall

/-! ### Distinct ids -/

/-- Entries with the ids that they get: the sections of a document, the lists of the content of a
section, the options of its questions and the choices of its scenes. -/
inductive Enrolled : List Entrant → List String → Prop
  | sections {doc : Fields} {raw gameType : Value} {g : Game} (hraw : HoldsDocument doc raw)
      (hdoc : hasSections doc = true) (h : (load raw gameType).result = .ok g) :
      Enrolled (sectionEntrants (numbered (sectionsOf doc))) g.sectionIds
  | roster {kind : SectionKind} {points : Int} {title : Value} {content filled : Fields}
      (h : (fillContent kind points title content).result = .ok filled) {r : Roster}
      (hr : r ∈ rosters kind) : Enrolled (r.entrants content) (idsAt filled r.key)
  | options {points : Int} {content filled q m : Fields}
      (h : (fillQuiz points content).result = .ok filled)
      (hq : (q, m) ∈ (mapsAt content "questions").zip (mapsAt filled "questions")) :
      Enrolled (optionEntrants q) (idsAt m "options")
  | choices {content filled scene m : Fields} (h : (fillNarrative content).result = .ok filled)
      (hscene : (scene, m) ∈ (mapsAt content "scenes").zip (mapsAt filled "scenes")) :
      Enrolled (choiceEntrants scene) (idsAt m "choices")

lemma Enrolled.nodup_fallbacks {es : List Entrant} {ids : List String} (h : Enrolled es ids) :
    (es.map (·.fallback)).Nodup := by
  cases h with
  | sections =>
    rw [sectionEntrants, List.map_map]
    exact LearningGame.nodup_fallbacks List.filter_sublist "section"
  | @roster kind points title content filled h r hr =>
    rw [Roster.entrants, List.map_map]
    exact LearningGame.nodup_fallbacks (List.Sublist.refl _) r.word
  | options =>
    rw [optionEntrants, List.map_map]
    exact LearningGame.nodup_fallbacks (List.Sublist.refl _) "opt"
  | choices =>
    rw [choiceEntrants, List.map_map]
    exact LearningGame.nodup_fallbacks List.filter_sublist "choice"

/-- All entries are kept with different ids exactly if the ids that they are to get differ. -/
lemma Enrolled.nodup_iff {es : List Entrant} {ids : List String} (h : Enrolled es ids) :
    ids.Nodup ∧ ids.length = es.length ↔ (es.map Entrant.id).Nodup := by
  cases h with
  | sections hraw hdoc h =>
    obtain ⟨hnodup, hlength⟩ := length_sectionIds hraw hdoc h
    rw [and_iff_right hnodup, hlength]
  | roster h hr =>
    rw [Roster.idsAt_eq h hr]
    simp
  | @options points content filled q m h hq =>
    obtain ⟨ms, hms, rfl⟩ := (fillQuiz_iff _ _ _).mp h
    have hfilled : mapsAt (content.put "questions" (mapList ms)) "questions" = ms :=
      mapsAt_of_find? (by simp)
    rw [hfilled] at hq
    obtain ⟨n, hfill⟩ := FilledAll.exists_of_mem_zip hms hq
    rw [idsAt_options hfill]
    simp
  | @choices content filled scene m h hscene =>
    obtain ⟨ms, hms, rfl⟩ := (fillNarrative_iff _ _).mp h
    have hfilled : mapsAt ((content.put "scenes" (mapList ms)).put "startScene"
        (startAmong (ms.map fun s => textAt s "id") (content.get "startScene"))) "scenes" = ms :=
      mapsAt_of_find? (by simp)
    rw [hfilled] at hscene
    obtain ⟨n, hfill⟩ := FilledAll.exists_of_mem_zip hms hscene
    rw [idsAt_choices hfill]
    simp

/-- Entries whose given ids differ are all kept, with different ids, exactly if none of them is
given an id that another one falls back to. -/
theorem nodup_ids_iff_undisturbed {es : List Entrant} {ids : List String} (h : Enrolled es ids)
    (hgiven : (es.filterMap (·.given)).Nodup) :
    ids.Nodup ∧ ids.length = es.length ↔ Undisturbed es := by
  rw [h.nodup_iff, nodup_map_id_iff hgiven h.nodup_fallbacks]

/-- Two cards, the first with an id and the second without one. -/
def cardsNamed (id : String) : Fields :=
  [("cards", .list [.map [("id", id), ("front", "one"), ("back", "eins")],
    .map [("front", "two"), ("back", "zwei")]])]

theorem nodup_ids_iff_undisturbed_of_cards :
    Enrolled [⟨some "a", "card1"⟩, ⟨none, "card2"⟩] ["a", "card2"] ∧
      (["a", "card2"].Nodup ∧ ["a", "card2"].length = 2 ↔
        Undisturbed [⟨some "a", "card1"⟩, ⟨none, "card2"⟩]) := by
  have hroll := @Enrolled.roster .flashcards 10 "" (cardsNamed "a") _ (fillFlashcards_eq _)
    ⟨"cards", "card"⟩ (by simp [rosters])
  have hentrants : (⟨"cards", "card"⟩ : Roster).entrants (cardsNamed "a") =
      [⟨some "a", "card1"⟩, ⟨none, "card2"⟩] := rfl
  rw [hentrants] at hroll
  have hids : Enrolled [⟨some "a", "card1"⟩, ⟨none, "card2"⟩] ["a", "card2"] := hroll
  exact ⟨hids, nodup_ids_iff_undisturbed hids (by decide)⟩

/-- The ids of the cards of a game, deck by deck. -/
def Game.cardIds (g : Game) : List (List String) :=
  g.sections.filterMap fun s => match s.content with
    | .flashcards z => some (z.cards.map (·.id))
    | _ => none

/-- A game with the two cards. -/
def deckNamed (id : String) : Value :=
  .map [("content", .map [("sections", .list
    [.map [("id", "a"), ("type", "flashcards"), ("content", .map (cardsNamed id))]])])]

/-- The only id that is given is the one that the other card falls back to. -/
theorem not_nodup_of_card2 :
    (["card2"] : List String).Nodup ∧
      ∃ g, (load (deckNamed "card2") "flashcards").result = .ok g ∧
        g.cardIds = [["card2", "card2"]] ∧ ¬(["card2", "card2"] : List String).Nodup := by
  obtain ⟨g, hg, hids⟩ := Traced.exists_ok_of_any (x := load (deckNamed "card2") "flashcards")
    (p := fun g => g.cardIds == [["card2", "card2"]]) (by decide +kernel)
  exact ⟨by decide, g, hg, by simpa using hids, by decide⟩

end LearningGame
