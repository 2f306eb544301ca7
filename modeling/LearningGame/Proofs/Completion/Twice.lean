import LearningGame.Proofs.Completion.Again.Section
import LearningGame.Proofs.Completion.Fitting

/-!
# Filling sections twice

A section that is filled once more, at the same place and for the same points, is left as it is,
unless it is a quiz. Entries that were dropped are gone, those that are left have their ids and keep
them whatever their numbers are now, names were replaced by what they stand for and kinds that are
unknown by known ones, and the start is one of the entries.
-/

namespace LearningGame.Completion

open Content Schema

/-! ### Single values -/

lemma fillId_of_hasId {m : Fields} (h : HasId m) (fallback : String) : fillId m fallback = m := by
  obtain ⟨id, hid, hblank⟩ := h
  exact fillId_of_find? hid hblank fallback

lemma orElse_orElse (v w : Value) : (v.orElse w).orElse w = v.orElse w := by
  by_cases hv : v.truthy = true
  · rw [orElse_of_truthy hv, orElse_of_truthy hv]
  · simp [Value.orElse, hv]

/-- The name of a kind counts as true. -/
lemma truthy_of_isOneOf {v : Value} {names : List String} (h : v.isOneOf names = true)
    (hnames : "" ∉ names) : v.truthy = true := by
  cases v with
  | str s =>
    have hs : s ∈ names := by simpa [Value.isOneOf] using h
    have hne : s ≠ "" := fun heq => hnames (heq ▸ hs)
    simpa [Value.truthy] using hne
  | _ => cases h

/-- A known kind stands for what is unknown. -/
lemma isOneOf_ite {v : Value} {names : List String} {s : String} (hs : s ∈ names) :
    (if v.isOneOf names then v else .str s).isOneOf names = true := by
  split_ifs with h
  · exact h
  · simpa [Value.isOneOf] using hs

lemma exists_textSide (v : Value) : ∃ (side : Fields) (s : String),
    textSide v = .map side ∧ side.find? "text" = some (.str s) := by
  cases v with
  | map m => exact ⟨fillText m "text", textAt m "text", rfl, by simp [find?_fillText]⟩
  | _ => exact ⟨_, _, rfl, by simp; rfl⟩

lemma fillSide_of_textSide {m : Fields} {key : String} {v : Value}
    (h : m.find? (.text key) = some (textSide v)) : fillSide m key = m := by
  obtain ⟨side, s, hside, hs⟩ := exists_textSide v
  exact fillSide_of_find? (hside ▸ h) hs

/-! ### Entries -/

/-- Whether a way of filling entries leaves those that it has filled, with whatever number. -/
def Settles (f : Fields → Nat → Filling Fields) : Prop :=
  ∀ m n m', (f m n).result = .ok m' → ∀ k, (f m' k).result = .ok m'

lemma settles_pure {f : Fields → Nat → Fields} (h : ∀ m n k, f (f m n) k = f m n) :
    Settles fun m n => pure (f m n) := by
  intro m n m' hm k
  cases hm
  exact congrArg Except.ok (h m n k)

lemma FilledAll.again {f : Fields → Nat → Filling Fields} (hf : Settles f)
    {given filled : List Fields} (h : FilledAll f given filled) : FilledAll f filled filled := by
  have hall : FilledAll f (filled.map id) (filled.map id) := forall₂_numbered fun m hm k => by
    obtain ⟨e, -, he⟩ := h.exists_of_mem_right hm
    exact hf _ _ _ he k
  rwa [List.map_id] at hall

/-- The entries of a list, filled by a function of them and their numbers. -/
lemma map_numbered_again {f : Fields → Nat → Fields} (hf : ∀ m n k, f (f m n) k = f m n)
    (given : List Fields) :
    (numbered ((numbered given).map fun e => f e.1 e.2)).map (fun e => f e.1 e.2) =
      (numbered given).map fun e => f e.1 e.2 := by
  have hall := @map_numbered _ _ _ ((numbered given).map fun e => f e.1 e.2) id id f
    fun m hm k => by
      obtain ⟨e, -, n, rfl⟩ := exists_of_mem_map_numbered hm
      exact hf _ _ k
  rwa [List.map_id] at hall

/-! ### Cards, pairs and things to sort -/

lemma fillCard_fillCard (m : Fields) (n k : Nat) : fillCard (fillCard m n) k = fillCard m n := by
  have hid : HasId (fillCard m n) :=
    ((hasId_fillId m "card" (toString n) (by decide)).put (by decide) _).put (by decide) _
  obtain ⟨filled, hfilled⟩ : ∃ filled, fillCard m n = filled := ⟨_, rfl⟩
  have hfront : filled.find? "front" = some (textSide (m.get "front")) := by
    simp [← hfilled, fillCard, fillSide, Fields.get_eq, find?_fillId]
  have hback : filled.find? "back" = some (textSide (m.get "back")) := by
    simp [← hfilled, fillCard, fillSide, Fields.get_eq, find?_fillId]
  rw [hfilled] at hid ⊢
  rw [fillCard, fillId_of_hasId hid, fillSide_of_textSide hfront, fillSide_of_textSide hback]

lemma fillPair_fillPair (m : Fields) (n k : Nat) : fillPair (fillPair m n) k = fillPair m n := by
  have hid : HasId (fillPair m n) :=
    ((hasId_fillId m "pair" (toString n) (by decide)).put (by decide) _).put (by decide) _
  obtain ⟨filled, hfilled⟩ : ∃ filled, fillPair m n = filled := ⟨_, rfl⟩
  have hleft : filled.find? "left" = some (textSide (m.get "left")) := by
    simp [← hfilled, fillPair, fillSide, Fields.get_eq, find?_fillId]
  have hright : filled.find? "right" = some (textSide (m.get "right")) := by
    simp [← hfilled, fillPair, fillSide, Fields.get_eq, find?_fillId]
  rw [hfilled] at hid ⊢
  rw [fillPair, fillId_of_hasId hid, fillSide_of_textSide hleft, fillSide_of_textSide hright]

section Contents

variable {content filled : Fields} (tag : Value)

lemma fillFlashcards_again (h : (fillFlashcards content).result = .ok filled) :
    (fillFlashcards (filled.put "type" tag)).result = .ok (filled.put "type" tag) := by
  rw [fillFlashcards_eq, Except.ok.injEq] at h
  obtain ⟨again, hagain⟩ : ∃ again, filled.put "type" tag = again := ⟨_, rfl⟩
  have hcards : again.find? "cards" = some (mapList
      ((numbered (mapsAt content "cards")).map fun e => fillCard e.1 e.2)) := by
    simp [← hagain, ← h]
  have hmode : again.find? "testMode" =
      some (if (content.get "testMode").isOneOf (Named.names TestMode) then content.get "testMode"
        else .str (Named.name TestMode.flipReveal)) := by
    simp [← hagain, ← h]
  rw [hagain, fillFlashcards_eq, mapsAt_of_find? hcards, map_numbered_again fillCard_fillCard,
    Fields.put_of_find? hcards, Fields.get_of_find? hmode, if_pos (isOneOf_ite (by decide)),
    Fields.put_of_find? hmode]

lemma fillMatching_again (h : (fillMatching content).result = .ok filled) :
    (fillMatching (filled.put "type" tag)).result = .ok (filled.put "type" tag) := by
  rw [fillMatching_eq, Except.ok.injEq] at h
  obtain ⟨again, hagain⟩ : ∃ again, filled.put "type" tag = again := ⟨_, rfl⟩
  have hpairs : again.find? "pairs" = some (mapList
      ((numbered (mapsAt content "pairs")).map fun e => fillPair e.1 e.2)) := by
    simp [← hagain, ← h]
  have hstyle : again.find? "matchStyle" = some ((content.get "matchStyle").orElse "tap-tap") := by
    simp [← hagain, ← h]
  rw [hagain, fillMatching_eq, mapsAt_of_find? hpairs, map_numbered_again fillPair_fillPair,
    Fields.put_of_find? hpairs, Fields.get_of_find? hstyle, orElse_orElse,
    Fields.put_of_find? hstyle]

lemma fillCategory_fillCategory (m : Fields) (n k : Nat) :
    fillCategory (fillCategory m n) k = fillCategory m n := by
  have hid : HasId (fillCategory m n) :=
    (hasId_fillId m "cat" (toString n) (by decide)).put (by decide) _
  obtain ⟨name, -, hname⟩ := find?_fillCategory m n
  rw [fillCategory, fillId_of_hasId hid, Fields.getD_eq, hname]
  exact Fields.put_of_find? hname

lemma fillItem_fillItem (categories : List Fields) (m : Fields) (n k : Nat) :
    fillItem categories (fillItem categories m n) k = fillItem categories m n := by
  have hid : HasId (fillItem categories m n) :=
    ((hasId_fillId m "item" (toString n) (by decide)).put (by decide) _).put (by decide) _
  obtain ⟨filled, hfilled⟩ : ∃ filled, fillItem categories m n = filled := ⟨_, rfl⟩
  obtain ⟨s, hs⟩ : ∃ s, filled.find? "text" = some (.str s) := by
    simp [← hfilled, fillItem, find?_fillText]
  obtain ⟨target, htarget⟩ : ∃ target, filled.find? "correctCategory" =
      some (.str (categoryOf categories target)) := ⟨_, by simp [← hfilled, fillItem]; rfl⟩
  have hsame : categoryOf categories (categoryOf categories target) = categoryOf categories target := by
    simp only [categoryOf_eq, categoryIn_categoryIn]
  rw [hfilled] at hid ⊢
  rw [fillItem, fillId_of_hasId hid, fillText_of_find? hs, textAt_of_find? htarget, hsame]
  exact Fields.put_of_find? htarget

lemma fillSorting_again (h : (fillSorting content).result = .ok filled) :
    (fillSorting (filled.put "type" tag)).result = .ok (filled.put "type" tag) := by
  rw [fillSorting_eq, Except.ok.injEq] at h
  obtain ⟨again, hagain⟩ : ∃ again, filled.put "type" tag = again := ⟨_, rfl⟩
  have hitems : again.find? "items" = some (mapList
      ((numbered (mapsAt content "items")).map fun e =>
        fillItem (filledCategories content) e.1 e.2)) := by
    simp [← hagain, ← h]
  have hcategories : again.find? "categories" = some (mapList (filledCategories content)) := by
    simp [← hagain, ← h]
  have hinstructions : again.find? "instructions" =
      some ((content.get "instructions").orElse "") := by
    simp [← hagain, ← h]
  have hsame : filledCategories again = filledCategories content := by
    rw [filledCategories, mapsAt_of_find? hcategories]
    exact map_numbered_again fillCategory_fillCategory _
  rw [hagain, fillSorting_eq, hsame, mapsAt_of_find? hitems,
    map_numbered_again (fillItem_fillItem _), Fields.put_of_find? hitems,
    Fields.put_of_find? hcategories, Fields.get_of_find? hinstructions, orElse_orElse,
    Fields.put_of_find? hinstructions]

end Contents

/-! ### Narratives -/

/-- A condition that is kept is of a known kind with a known comparison. -/
lemma fillKnownCondition_again {scene : String} {m : Fields} {w : Value}
    (h : (fillKnownCondition scene m).result = .ok w) : (fillCondition scene w).result = .ok w := by
  unfold fillKnownCondition at h
  simp only [Fields.get_put, String.reduceEq, if_false, if_true] at h
  split_ifs at h with hknown
  · cases h
    obtain ⟨kind, hkind⟩ : ∃ kind, (m.get "type").orElse "variable" = kind := ⟨_, rfl⟩
    obtain ⟨operator, hoperator⟩ : ∃ operator, (m.get "operator").orElse "==" = operator := ⟨_, rfl⟩
    obtain ⟨filled, hfilled⟩ : ∃ filled, fillSomeText ((m.put "type" kind).put "operator" operator)
      "variable" = filled := ⟨_, rfl⟩
    simp only [hkind, hoperator, hfilled] at hknown ⊢
    have htype : filled.find? "type" = some kind := by simp [← hfilled, fillSomeText]
    have hcompare : filled.find? "operator" = some operator := by simp [← hfilled, fillSomeText]
    obtain ⟨name, hname⟩ : ∃ name, filled.find? "variable" = some (.str name) := by
      simp [← hfilled, fillSomeText]
    show (fillKnownCondition scene filled).result = .ok (.map filled)
    unfold fillKnownCondition
    simp only [Fields.get_of_find? htype, Fields.get_of_find? hcompare, Fields.put_of_find? htype,
      Fields.put_of_find? hcompare, orElse_of_truthy (truthy_of_isOneOf hknown.1 (by decide)),
      orElse_of_truthy (truthy_of_isOneOf hknown.2 (by decide)), fillSomeText_of_find? hname]
    rw [if_pos hknown]
    rfl
  · cases h
    rfl

lemma fillCondition_again {scene : String} {v w : Value}
    (h : (fillCondition scene v).result = .ok w) : (fillCondition scene w).result = .ok w := by
  cases v with
  | map m => exact fillKnownCondition_again h
  | _ =>
    cases h
    rfl

lemma fillEffect?_again {scene : String} {effect m : Fields}
    (h : (fillEffect? scene effect).result = .ok (some m)) :
    (fillEffect? scene m).result = .ok (some m) := by
  unfold fillEffect? at h
  dsimp only at h
  split_ifs at h with hkind
  · cases h
    have hsame : (fillSomeText effect "target").get "type" = effect.get "type" := by
      simp [fillSomeText]
    unfold fillEffect?
    dsimp only
    rw [hsame, if_pos hkind, fillSomeText_of_find? (s := someTextAt effect "target")
      (by simp [fillSomeText])]
    rfl
  · cases h

lemma fillEffects_again {scene : String} {v : Value} {effects : List Fields}
    (h : (fillEffects scene v).result = .ok effects) :
    (fillEffects scene (mapList effects)).result = .ok effects := by
  obtain ⟨given, -, h⟩ := (Traced.bind_eq_ok _ _ _).mp h
  refine (Traced.bind_eq_ok _ _ _).mpr ⟨effects, objects_mapList _ _, ?_⟩
  refine (Traced.filterMap_eq_ok _ _ _).mpr ⟨effects.map some, ?_, by simp⟩
  rw [List.forall₂_map_right_iff, List.forall₂_same]
  intro effect heffect
  obtain ⟨e, -, he⟩ := exists_of_mem_filterMap h heffect
  exact fillEffect?_again he

lemma fillChoice?_again {scene : String} {choice m : Fields} {n : Nat}
    (h : (fillChoice? scene choice n).result = .ok (some m)) (k : Nat) :
    (fillChoice? scene m k).result = .ok (some m) := by
  obtain ⟨htarget, condition, effects, hcondition, heffects, hm⟩ :=
    (fillChoice?_eq_some _ _ _ _).mp h
  have hid : HasId m := by
    rw [← hm]
    exact ((((hasId_fillId choice "choice" (toString n) (by decide)).put (by decide) _).put
      (by decide) _).put (by decide) _).put (by decide) _
  have htext : m.find? "text" =
      some (.str (textAt (fillId choice ("choice" ++ toString n)) "text")) := by
    simp [← hm, find?_fillText]
  have hscene : m.find? "targetScene" = some (.str (choice.get "targetScene").text) := by
    simp [← hm]
  have hfound : m.find? "condition" = some condition := by simp [← hm]
  have heffects' : m.find? "effects" = some (mapList effects) := by simp [← hm]
  refine (fillChoice?_eq_some _ _ _ _).mpr ⟨?_, condition, effects, ?_, ?_, ?_⟩
  · simpa [Fields.get_of_find? hscene, Value.truthy] using Value.text_ne_empty htarget
  · rw [Fields.get_of_find? hfound]
    exact fillCondition_again hcondition
  · rw [Fields.get_of_find? heffects']
    exact fillEffects_again heffects
  · rw [fillId_of_hasId hid, fillText_of_find? htext, Fields.get_of_find? hscene, Value.text,
      Fields.put_of_find? hscene, Fields.put_of_find? hfound, Fields.put_of_find? heffects']

lemma FilledChoices.again {scene : String} {given filled : List Fields}
    (h : FilledChoices scene given filled) : FilledChoices scene filled filled := by
  obtain ⟨os, hos, hfilled⟩ := h
  have hall := @forall₂_numbered _ _ _ _ filled id some (fillChoice? scene) fun m hm k => by
      rw [← hfilled] at hm
      obtain ⟨o, ho, rfl⟩ := List.mem_filterMap.mp hm
      obtain ⟨e, -, he⟩ := hos.exists_of_mem_right ho
      exact fillChoice?_again he k
  rw [List.map_id] at hall
  exact ⟨filled.map some, hall, by simp⟩

lemma idOf_of_find? {m : Fields} {id : String} (h : m.find? "id" = some (.str id))
    (hblank : Text.isBlankText id = false) (fallback : String) : idOf m fallback = id := by
  rw [idOf, Fields.get_of_find? h]
  simp [hblank]

/-- The kind of an ending that has been looked at is known, if there is one, and nothing else has
changed. -/
lemma fillEnding_again {scene : String} {m m' : Fields} (h : (fillEnding scene m).result = .ok m') :
    (fillEnding scene m').result = .ok m' ∧
      ∀ {key : String}, key ≠ "endingType" → m'.find? key = m.find? key := by
  unfold fillEnding at h
  dsimp only at h
  split_ifs at h with hknown
  · cases h
    refine ⟨?_, fun _ => rfl⟩
    unfold fillEnding
    dsimp only
    rw [if_pos hknown]
    rfl
  · cases h
    refine ⟨?_, fun hkey => by rw [Fields.find?_put, if_neg hkey.symm]⟩
    unfold fillEnding
    dsimp only
    rw [Fields.get_put, if_pos rfl, if_pos (.inr (by decide))]
    rfl

lemma settles_fillScene : Settles fillScene := by
  intro scene n m h k
  obtain ⟨choices, hchoices, hending⟩ := (fillScene_iff _ _ _).mp h
  obtain ⟨hending, hsame⟩ := fillEnding_again hending
  have hid : m.find? "id" = some (.str (idOf scene ("scene" ++ toString n))) := by
    rw [hsame (by decide)]
    simp [sceneWith, fillSomeText]
  have hblank : Text.isBlankText (idOf scene ("scene" ++ toString n)) = false :=
    isBlankText_idOf_append scene (by decide) _
  have hfound : m.find? "choices" = some (mapList choices) := by
    rw [hsame (by decide)]
    simp [sceneWith, fillSomeText]
  obtain ⟨text, htext⟩ : ∃ text, m.find? "text" = some (.str text) := by
    rw [hsame (by decide)]
    simp [sceneWith, fillSomeText]
  have hactions : m.find? "actions" =
      some (mapList ((mapsAt scene "actions").map fun a => fillSomeText a "type")) := by
    rw [hsame (by decide)]
    simp [sceneWith]
  have hkinds : ((mapsAt scene "actions").map fun a => fillSomeText a "type").map
      (fun a => fillSomeText a "type") =
        (mapsAt scene "actions").map fun a => fillSomeText a "type" := by
    rw [List.map_map]
    exact List.map_congr_left fun a _ =>
      fillSomeText_of_find? (s := someTextAt a "type") (by simp [fillSomeText])
  refine (fillScene_iff _ _ _).mpr ⟨choices, ?_, ?_⟩
  · rw [idOf_of_find? hid hblank, mapsAt_of_find? hfound]
    exact hchoices.again
  · rw [idOf_of_find? hid hblank, sceneWith, fillId_of_find? hid hblank, Fields.put_of_find? hfound,
      fillSomeText_of_find? htext, mapsAt_of_find? hactions, hkinds, Fields.put_of_find? hactions]
    exact hending

section Contents

variable {content filled : Fields} (tag : Value)

lemma fillNarrative_again (h : (fillNarrative content).result = .ok filled) :
    (fillNarrative (filled.put "type" tag)).result = .ok (filled.put "type" tag) := by
  obtain ⟨ms, hms, hfilled⟩ := (fillNarrative_iff _ _).mp h
  obtain ⟨again, hagain⟩ : ∃ again, filled.put "type" tag = again := ⟨_, rfl⟩
  have hscenes : again.find? "scenes" = some (mapList ms) := by simp [← hagain, ← hfilled]
  have hstart : again.find? "startScene" =
      some (startAmong (ms.map fun s => textAt s "id") (content.get "startScene")) := by
    simp [← hagain, ← hfilled]
  rw [hagain]
  refine (fillNarrative_iff _ _).mpr ⟨ms, ?_, ?_⟩
  · rw [mapsAt_of_find? hscenes]
    exact hms.again settles_fillScene
  · rw [Fields.put_of_find? hscenes, Fields.get_of_find? hstart, startAmong_startAmong,
      Fields.put_of_find? hstart]

end Contents

/-! ### Simulations -/

lemma fillIds_fillIds {word : String} (hword : Text.isBlankText word = false) (ms : List Fields) :
    fillIds word (fillIds word ms) = fillIds word ms :=
  map_numbered_again (f := fun m n => fillId m (word ++ toString n))
    (fun m n _ => fillId_of_hasId (hasId_fillId m word (toString n) hword) _) ms

/-- What an event is filled with. -/
def filledEvent (event : Fields) (n : Nat) : Fields :=
  (fillId event ("event" ++ toString n)).put "choices" (mapList (mapsAt event "choices"))

lemma filledEvent_filledEvent (event : Fields) (n k : Nat) :
    filledEvent (filledEvent event n) k = filledEvent event n := by
  have hid : HasId (filledEvent event n) :=
    (hasId_fillId event "event" (toString n) (by decide)).put (by decide) _
  have hchoices : (filledEvent event n).find? "choices" =
      some (mapList (mapsAt event "choices")) := by simp [filledEvent]
  rw [filledEvent, fillId_of_hasId hid, mapsAt_of_find? hchoices, Fields.put_of_find? hchoices]

lemma fillObjective_fillObjective (m : Fields) (n k : Nat) :
    fillObjective (fillObjective m n) k = fillObjective m n := by
  have hid : HasId (fillObjective m n) := by
    have hid := hasId_fillId m "obj" (toString n) (by decide)
    unfold fillObjective
    dsimp only
    split_ifs
    · exact hid
    · exact hid.put (by decide) _
  have hkind : ((fillObjective m n).get "type").isOneOf (Named.names ObjectiveKind) = true := by
    unfold fillObjective
    dsimp only
    split_ifs with hkind
    · exact hkind
    · rw [Fields.get_put, if_pos rfl]
      decide
  obtain ⟨filled, hfilled⟩ : ∃ filled, fillObjective m n = filled := ⟨_, rfl⟩
  rw [hfilled] at hid hkind ⊢
  unfold fillObjective
  dsimp only
  rw [fillId_of_hasId hid, if_pos hkind]

lemma entriesOf_map (m : Fields) : entriesOf (.map m) = .ok m := by
  cases m <;> rfl

/-- An initial state that was filled is left as it is. -/
lemma fillInitialState_again {resources : List Fields} {v : Value} {initial : Fields}
    (h : fillInitialState resources v = .ok initial) :
    fillInitialState resources (.map initial) = .ok initial := by
  obtain ⟨given, amounts, -, -, hinitial⟩ := (fillInitialState_iff _ _ _).mp h
  have hamounts : initial.find? "resources" = some (.map (startResources resources amounts)) := by
    simp [← hinitial, initialWith]
  have hsame : startResources resources (startResources resources amounts) =
      startResources resources amounts :=
    startResources_of_has fun r hr => has_startResources (.inr ⟨r, hr, rfl⟩)
  have hnew {key : String} {v : Value}
      (hkey : ∃ w, initial.find? key = some w) : initial.putNew key v = initial := by
    obtain ⟨w, hw⟩ := hkey
    exact Fields.putNew_of_find? hw
  refine (fillInitialState_iff _ _ _).mpr ⟨initial, startResources resources amounts,
    entriesOf_map _, by rw [Fields.get_of_find? hamounts, entriesOf_map], ?_⟩
  rw [hsame, initialWith, Fields.put_of_find? hamounts, hnew ⟨_, by simp [← hinitial, initialWith]; rfl⟩,
    hnew ⟨_, by simp [← hinitial, initialWith]; rfl⟩, hnew ⟨_, by simp [← hinitial, initialWith]; rfl⟩,
    hnew ⟨_, by simp [← hinitial, initialWith]; rfl⟩]

section Contents

variable {content filled : Fields} (tag : Value)

lemma fillSimulation_again (h : (fillSimulation content).result = .ok filled) :
    (fillSimulation (filled.put "type" tag)).result = .ok (filled.put "type" tag) := by
  obtain ⟨initial, turns, hinitial, -, hfilled⟩ := (fillSimulation_iff _ _).mp h
  obtain ⟨again, hagain⟩ : ∃ again, filled.put "type" tag = again := ⟨_, rfl⟩
  have hstate : again.find? "initialState" = some (.map initial) := by
    simp [← hagain, ← hfilled, simulationWith]
  have hresources : again.find? "resources" =
      some (mapList (fillIds "res" (mapsAt content "resources"))) := by
    simp [← hagain, ← hfilled, simulationWith]
  have hactions : again.find? "actions" =
      some (mapList (fillIds "action" (mapsAt content "actions"))) := by
    simp [← hagain, ← hfilled, simulationWith]
  have hevents : again.find? "events" = some (mapList (filledEvents content)) := by
    simp [← hagain, ← hfilled, simulationWith]
  have hobjectives : again.find? "objectives" = some (mapList
      ((numbered (mapsAt content "objectives")).map fun e => fillObjective e.1 e.2)) := by
    simp [← hagain, ← hfilled, simulationWith]
  have hturns : again.find? "maxTurns" = some (.int turns) := by
    simp [← hagain, ← hfilled]
  have hsame : filledEvents again = filledEvents content := by
    rw [filledEvents, mapsAt_of_find? hevents]
    exact map_numbered_again filledEvent_filledEvent _
  rw [hagain]
  refine (fillSimulation_iff _ _).mpr ⟨initial, turns, ?_, ?_, ?_⟩
  · rw [mapsAt_of_find? hresources, fillIds_fillIds (by decide), Fields.get_of_find? hstate]
    exact fillInitialState_again hinitial
  · rw [Fields.get_of_find? hturns]
    rfl
  · rw [simulationWith, mapsAt_of_find? hresources, mapsAt_of_find? hactions,
      mapsAt_of_find? hobjectives, hsame, fillIds_fillIds (by decide), fillIds_fillIds (by decide),
      map_numbered_again fillObjective_fillObjective, Fields.put_of_find? hstate,
      Fields.put_of_find? hresources, Fields.put_of_find? hactions, Fields.put_of_find? hevents,
      Fields.put_of_find? hobjectives, Fields.put_of_find? hturns]

end Contents

/-! ### Explorations -/

lemma position_position (v : Value) : position (.map (position v)) = position v := by
  cases v with
  | map m => exact List.filter_eq_self.mpr fun e he => (List.mem_filter.mp he).2
  | _ => rfl

lemma fillVisit_again {location m : Fields} (h : (fillVisit location).result = .ok m) :
    ((m.get "onVisit").isNull = true ∨ isVisitEvent (m.get "onVisit") = true) := by
  unfold fillVisit at h
  dsimp only at h
  split_ifs at h with hknown
  · cases h
    exact hknown
  · cases h
    rw [Fields.get_put, if_pos rfl]
    exact .inl rfl

lemma settles_fillLocation : Settles fillLocation := by
  intro location n m h k
  obtain ⟨visited, hvisited, hm⟩ := (fillLocation_iff _ _ _).mp h
  have hknown := fillVisit_again hvisited
  have hid : HasId m := by
    have hid := hasId_fillId location "loc" (toString n) (by decide)
    have hvisitedId : HasId visited := by
      rcases fillVisit_eq_ok hvisited with rfl | rfl
      · exact hid
      · exact hid.put (by decide) _
    rw [← hm]
    exact (hvisitedId.put (by decide) _).put (by decide) _
  have hevent : m.get "onVisit" = visited.get "onVisit" := by simp [← hm]
  have hposition : m.find? "position" = some (.map (position (visited.get "position"))) := by
    simp [← hm]
  have hvisible : m.find? "visible" = some (.bool (visibility (visited.get "visible"))) := by
    simp [← hm]
  have hbool (b : Bool) : visibility (.bool b) = b := by cases b <;> rfl
  refine (fillLocation_iff _ _ _).mpr ⟨m, ?_, ?_⟩
  · unfold fillVisit
    dsimp only
    rw [fillId_of_hasId hid, hevent, if_pos hknown]
    rfl
  · rw [Fields.get_of_find? hposition, position_position, Fields.put_of_find? hposition,
      Fields.get_of_find? hvisible, hbool, Fields.put_of_find? hvisible]

lemma settles_fillCollectible : Settles fillCollectible := by
  intro item n m h k
  obtain ⟨points, -, hm⟩ := (fillWhole_eq_ok _ _ _ _).mp h
  have hid : HasId m := by
    rw [← hm]
    exact ((hasId_fillId item "collect" (toString n) (by decide)).put (by decide) _).put
      (by decide) _
  obtain ⟨place, hplace⟩ : ∃ place, m.find? "locationId" = some (.str place) := by
    simp [← hm, find?_fillText]
  rw [fillCollectible, fillId_of_hasId hid, fillText_of_find? hplace]
  exact fillWhole_of_find? (n := points) (by simp [← hm]) 0

section Contents

variable {content filled : Fields} (tag : Value)

lemma fillExploration_again (h : (fillExploration content).result = .ok filled) :
    (fillExploration (filled.put "type" tag)).result = .ok (filled.put "type" tag) := by
  obtain ⟨locations, items, hlocations, hitems, hfilled⟩ := (fillExploration_iff _ _).mp h
  obtain ⟨again, hagain⟩ : ∃ again, filled.put "type" tag = again := ⟨_, rfl⟩
  have hfoundLocations : again.find? "locations" = some (mapList locations) := by
    simp [← hagain, ← hfilled]
  have hfoundItems : again.find? "collectibles" = some (mapList items) := by
    simp [← hagain, ← hfilled]
  have hstart : again.find? "startLocation" =
      some (startAmong (locations.map fun l => textAt l "id") (content.get "startLocation")) := by
    simp [← hagain, ← hfilled]
  rw [hagain]
  refine (fillExploration_iff _ _).mpr ⟨locations, items, ?_, ?_, ?_⟩
  · rw [mapsAt_of_find? hfoundLocations]
    exact hlocations.again settles_fillLocation
  · rw [mapsAt_of_find? hfoundItems]
    exact hitems.again settles_fillCollectible
  · rw [Fields.put_of_find? hfoundLocations, Fields.put_of_find? hfoundItems,
      Fields.get_of_find? hstart, startAmong_startAmong, Fields.put_of_find? hstart]

end Contents

/-! ### Challenges and reading matter -/

/-- An empty text stands for an answer that is missing. -/
lemma exists_answered (m : Fields) : ∃ answered : Fields,
    (if (m.get "correctAnswer").isNull then m.put "correctAnswer" "" else m) = answered ∧
      (answered.get "correctAnswer").isNull = false ∧
      ∀ {key : String}, key ≠ "correctAnswer" → answered.find? key = m.find? key := by
  refine ⟨_, rfl, ?_⟩
  split_ifs with hnull
  · exact ⟨by rw [Fields.get_put, if_pos rfl]; rfl,
      fun hkey => by rw [Fields.find?_put, if_neg hkey.symm]⟩
  · exact ⟨by simpa using hnull, fun _ => rfl⟩

lemma settles_fillPrompt (points : Int) : Settles (fillPrompt points) := by
  intro item n m h k
  obtain ⟨answered, hanswered, hnull, hsame⟩ :=
    exists_answered (fillText (fillId item ("c" ++ toString n)) "prompt")
  unfold fillPrompt at h
  dsimp only at h
  rw [hanswered] at h
  obtain ⟨given, -, hm⟩ := (fillWhole_eq_ok _ _ _ _).mp h
  have hfind {key : String} (hpoints : key ≠ "points") (hkey : key ≠ "correctAnswer") :
      m.find? key = (fillText (fillId item ("c" ++ toString n)) "prompt").find? key := by
    rw [← hm, Fields.find?_put, if_neg hpoints.symm, hsame hkey]
  have hid : m.find? "id" = some (.str (idOf item ("c" ++ toString n))) := by
    rw [hfind (by decide) (by decide)]
    simp [find?_fillText]
  obtain ⟨prompt, hprompt⟩ : ∃ prompt, m.find? "prompt" = some (.str prompt) := by
    rw [hfind (by decide) (by decide)]
    simp [find?_fillText]
  have hanswer : (m.get "correctAnswer").isNull = false := by
    rw [← hm, Fields.get_put, if_neg (by decide)]
    exact hnull
  unfold fillPrompt
  dsimp only
  rw [fillId_of_find? hid (isBlankText_idOf_append item (by decide) _), fillText_of_find? hprompt,
    if_neg (by simp [hanswer])]
  exact fillWhole_of_find? (n := given) (by simp [← hm]) points

lemma isOneOf_fillBlock (v : Value) :
    ((fillBlock v).get "type").isOneOf (Named.names BlockKind) = true := by
  cases v with
  | map m =>
    unfold fillBlock
    dsimp only
    split_ifs with hkind
    · exact hkind
    · rw [Fields.get_put, if_pos rfl]
      decide
  | _ => rfl

lemma fillBlock_fillBlock (v : Value) : fillBlock (.map (fillBlock v)) = fillBlock v := by
  have hkind := isOneOf_fillBlock v
  generalize fillBlock v = m at hkind ⊢
  exact if_pos hkind

section Contents

variable {content filled : Fields} (tag : Value)

lemma fillChallenge_again {points : Int} (h : (fillChallenge points content).result = .ok filled) :
    (fillChallenge points (filled.put "type" tag)).result = .ok (filled.put "type" tag) := by
  obtain ⟨items, limit, target, mistakes, hitems, -, -, -, hfilled⟩ := (fillChallenge_iff _ _ _).mp h
  obtain ⟨again, hagain⟩ : ∃ again, filled.put "type" tag = again := ⟨_, rfl⟩
  have hkind : again.find? "challengeType" =
      some ((content.get "challengeType").orElse "speed-round") := by
    simp [← hagain, ← hfilled]
  have hfound : again.find? "items" = some (mapList items) := by simp [← hagain, ← hfilled]
  have hlimit : again.find? "timeLimit" = some (.int limit) := by simp [← hagain, ← hfilled]
  have htarget : again.find? "targetScore" = some (.int target) := by simp [← hagain, ← hfilled]
  have hmistakes : again.find? "maxMistakes" = some (.int mistakes) := by simp [← hagain, ← hfilled]
  rw [hagain]
  refine (fillChallenge_iff _ _ _).mpr ⟨items, limit, target, mistakes, ?_, ?_, ?_, ?_, ?_⟩
  · rw [mapsAt_of_find? hfound]
    exact hitems.again (settles_fillPrompt points)
  · rw [Fields.get_of_find? hlimit]
    rfl
  · rw [Fields.get_of_find? htarget]
    rfl
  · rw [Fields.get_of_find? hmistakes]
    rfl
  · rw [Fields.get_of_find? hkind, orElse_orElse, Fields.put_of_find? hkind,
      Fields.put_of_find? hfound, Fields.put_of_find? hlimit, Fields.put_of_find? htarget,
      Fields.put_of_find? hmistakes]

/-- The title of the section plays no role any more once there is one. -/
lemma fillInfo_again {title : Value} (htitle : title.truthy = true) (other : Value) :
    fillInfo other ((fillInfo title content).put "type" tag) =
      (fillInfo title content).put "type" tag := by
  obtain ⟨again, hagain⟩ : ∃ again, (fillInfo title content).put "type" tag = again := ⟨_, rfl⟩
  have hnamed : again.find? "title" = some ((content.get "title").orElse title) := by
    simp [← hagain, fillInfo]
  have hblocks : again.find? "content" =
      some (mapList ((blocksOf (content.get "content")).map fillBlock)) := by
    simp [← hagain, fillInfo]
  have hsame : (blocksOf (mapList ((blocksOf (content.get "content")).map fillBlock))).map fillBlock =
      (blocksOf (content.get "content")).map fillBlock := by
    show ((((blocksOf (content.get "content")).map fillBlock).map Value.map).map fillBlock) = _
    rw [List.map_map, List.map_map]
    exact List.map_congr_left fun v _ => fillBlock_fillBlock v
  rw [hagain, fillInfo, Fields.get_of_find? hnamed, orElse_of_truthy (truthy_orElse _ _ htitle),
    Fields.put_of_find? hnamed, Fields.get_of_find? hblocks, hsame, Fields.put_of_find? hblocks]

/-- A content that is no quiz is left as it is, whatever the section is called now. -/
lemma fillContent_again {kind : SectionKind} {points : Int} {title : Value}
    (hkind : kind ≠ .quiz) (htitle : title.truthy = true)
    (h : (fillContent kind points title content).result = .ok filled) (other : Value) :
    (fillContent kind points other (filled.put "type" tag)).result =
      .ok (filled.put "type" tag) := by
  cases kind with
  | quiz => exact absurd rfl hkind
  | flashcards => exact fillFlashcards_again tag h
  | matching => exact fillMatching_again tag h
  | sorting => exact fillSorting_again tag h
  | narrative => exact fillNarrative_again tag h
  | simulation => exact fillSimulation_again tag h
  | exploration => exact fillExploration_again tag h
  | challenge => exact fillChallenge_again tag h
  | info =>
    cases h
    exact congrArg Except.ok (fillInfo_again tag htitle other)

end Contents

/-! ### Sections -/

/-- Whatever has been filled, unless it is a quiz, is left as it is when it is filled once more, with
the same entries in the same order. -/
theorem fillSection_again {raw : Value} {index points : Int} {m : Fields} {kind : SectionKind}
    (hraw : playableKind? raw = some kind) (hkind : kind ≠ .quiz)
    (h : (fillSection raw index points).result = .ok (some m)) :
    (fillSection (.map m) index points).result = .ok (some m) := by
  obtain ⟨n, rfl, h⟩ := (fillSection_eq_some _ _ _ _).mp h
  obtain ⟨named, filled, hnamed, hfilled, hm⟩ := (fillKnownSection_eq_some _ _ _ _).mp h
  cases Option.some.inj (hnamed.symm.trans hraw)
  have hfill := isFilled_withContent n index kind filled
  obtain ⟨title, htitle, htruthy⟩ := find?_title_withContent n index kind filled
  have hcontent : (withContent n index kind filled).find? "content" =
      some (.map (filled.put "type" (Named.name kind))) := by simp [withContent]
  rw [hm] at hfill htitle hcontent
  have hagain := fillContent_again (Named.name kind) hkind (truthy_titleOf n index) hfilled
    (titleOf m index)
  refine (fillSection_eq_some _ _ _ _).mpr ⟨m, rfl, (fillKnownSection_eq_some _ _ _ _).mpr
    ⟨kind, filled.put "type" (Named.name kind), ?_, ?_, ?_⟩⟩
  · have hne : Named.name kind ≠ "" := by cases kind <;> decide
    rw [kindOf?, Fields.get_of_find? hfill.type, orElse_str hne]
    exact find?_name_sectionKind kind
  · rw [Fields.get_of_find? hcontent]
    exact hagain
  · rw [withContent, fillId_of_hasId hfill.id, Fields.get_of_find? htitle, if_pos htruthy,
      Fields.put_of_find? hfill.type, Fields.put_put, Fields.put_of_find? hcontent]

/-- A story in which an entry is no scene, a choice leads nowhere and the start is unknown. -/
def unevenStory : Value :=
  .map [("type", "narrative"), ("content", .map [("scenes", .list ["Once.", .map [("text", .int 3),
    ("choices", .list [.map [("text", "Stay")], .map [("targetScene", .int 2)]])]]),
      ("startScene", "nowhere")])]

theorem fillSection_again_of_story :
    ∃ m, (fillSection unevenStory 0 10).result = .ok (some m) ∧
      (fillSection (.map m) 0 10).result = .ok (some m) := by
  obtain ⟨o, ho, hsome⟩ := Traced.exists_ok_of_any (x := fillSection unevenStory 0 10)
    (p := Option.isSome) (by decide +kernel)
  obtain ⟨m, rfl⟩ := Option.isSome_iff_exists.mp hsome
  have hkind : playableKind? unevenStory = some .narrative := by rfl
  exact ⟨m, ho, fillSection_again hkind (by decide) ho⟩

end LearningGame.Completion
