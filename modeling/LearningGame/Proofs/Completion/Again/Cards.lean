import LearningGame.Completion.Cards
import LearningGame.Proofs.Completion.Again
import LearningGame.Proofs.Content.Restored

/-!
# Filling cards, pairs and things to sort again

Decks, pairs and sorting games that were filled are left as they are. For an item to sort that is
because the category that was found for it is found again.
-/

namespace LearningGame

open Schema RecordOf Content Completion

/-! ### Flashcards -/

namespace Content

/-- Whether every card of a deck has an id. -/
def Flashcards.IsComplete (z : Flashcards) : Prop :=
  ∀ c ∈ z.cards, Text.isBlankText c.id = false

lemma Flashcard.id_of_read {m : Fields} {c : Flashcard} (h : codec.read (.map m) = .valid c)
    {s : String} (hs : m.find? "id" = some (.str s)) : s = c.id := by
  simp only [codec, read_codec_eq_valid, readsAs_apply, readsAs_build, required,
    read_field_of_find? _ _ hs, Codec.read_text_eq_valid, Value.map.injEq, exists_eq_left'] at h
  obtain ⟨id, hid, -, -, -, -, -, -, -, -, rfl⟩ := h
  exact Value.str.inj hid

lemma Flashcards.cards_of_read {m : Fields} {z : Flashcards} (h : fields.read m = .valid z)
    {v : Value} (hv : m.find? "cards" = some v) :
    Flashcard.codec.list.read v = .valid z.cards := by
  rw [read_eq_valid_iff] at h
  simp only [fields, readsAs_apply, readsAs_build, required, read_field_of_find? _ _ hv] at h
  obtain ⟨cards, hcards, -, -, rfl⟩ := h
  exact hcards

end Content

namespace Completion

lemma fillSide_of_find? {m side : Fields} {key s : String}
    (h : m.find? (.text key) = some (.map side)) (hs : side.find? "text" = some (.str s)) :
    fillSide m key = m := by
  unfold fillSide
  rw [Fields.get_eq, h, Option.getD_some, textSide, fillText_of_find? hs]
  exact Fields.put_of_find? h

lemma fillCard_written {c : Flashcard} (h : Text.isBlankText c.id = false) (n : Nat) :
    fillCard (Flashcard.codec.written c) n = Flashcard.codec.written c := by
  have hfront : (Flashcard.codec.written c).find? "front" =
      some (.map (CardFace.codec.written c.front)) := by
    simp [Flashcard.codec, CardFace.codec, write_codec]
  have hback : (Flashcard.codec.written c).find? "back" =
      some (.map (CardFace.codec.written c.back)) := by
    simp [Flashcard.codec, CardFace.codec, write_codec]
  unfold fillCard
  rw [fillId_of_find? (s := c.id) (by simp [Flashcard.codec]) h,
    fillSide_of_find? (s := c.front.text) hfront (by simp [CardFace.codec]),
    fillSide_of_find? (s := c.back.text) hback (by simp [CardFace.codec])]

lemma isBlankText_of_fillCard {m : Fields} {n : Nat} {c : Flashcard}
    (h : Flashcard.codec.read (.map (fillCard m n)) = .valid c) :
    Text.isBlankText c.id = false := by
  rw [← Flashcard.id_of_read h (s := idOf m ("card" ++ toString n)) (by simp [fillCard, fillSide])]
  exact isBlankText_idOf_append m (by decide) _

lemma isComplete_of_fillFlashcards {content filled : Fields} {z : Flashcards}
    (h : (fillFlashcards content).result = .ok filled)
    (hz : Flashcards.fields.read filled = .valid z) : z.IsComplete := by
  obtain ⟨cards, -, h⟩ := (Traced.bind_eq_ok _ _ _).mp h
  cases h
  intro c hc
  have hread := Flashcards.cards_of_read hz (v := mapList _) (by simp; rfl)
  obtain ⟨m, hm, hcm⟩ := exists_of_read_mapList hread hc
  obtain ⟨o, -, n, rfl⟩ := exists_of_mem_map_numbered hm
  exact isBlankText_of_fillCard hcm

/-- A complete deck that is filled again is left as it is. -/
lemma fillFlashcards_written {z : Flashcards} (h : z.IsComplete) (tag : Value) :
    (fillFlashcards ((.text "type", tag) :: Flashcards.fields.write false z)).result =
      .ok ((.text "type", tag) :: Flashcards.fields.write false z) := by
  have hcards : Fields.find? ((.text "type", tag) :: Flashcards.fields.write false z) "cards" =
      some (mapList (z.cards.map Flashcard.codec.written)) := by
    rw [← write_list_eq fun _ => rfl]
    simp [Flashcards.fields]
  have hmode : Fields.find? ((.text "type", tag) :: Flashcards.fields.write false z) "testMode" =
      some (.str (Named.name z.testMode)) := by
    simp [Flashcards.fields]
  have hknown : (Named.names TestMode).contains (Named.name z.testMode) = true := by
    cases z.testMode <;> decide
  have hfill := map_numbered fun c hc n => fillCard_written (h c hc) n
  refine (Traced.bind_eq_ok _ _ _).mpr ⟨_, objects_of_find? hcards "flashcard", ?_⟩
  dsimp only
  rw [hfill, Fields.get_eq, hmode, Fields.put_of_find? hcards]
  simp only [Option.getD_some, Value.isOneOf, hknown, if_true, Fields.put_of_find? hmode]
  rfl

end Completion

/-! ### Matching -/

namespace Content

/-- Whether every pair of a matching game has an id, and the game a style. -/
structure Matching.IsComplete (z : Matching) : Prop where
  pairs : ∀ p ∈ z.pairs, Text.isBlankText p.id = false
  style : z.style ≠ ""

lemma MatchPair.id_of_read {m : Fields} {p : MatchPair} (h : codec.read (.map m) = .valid p)
    {s : String} (hs : m.find? "id" = some (.str s)) : s = p.id := by
  simp only [codec, read_codec_eq_valid, readsAs_apply, readsAs_build, required,
    read_field_of_find? _ _ hs, Codec.read_text_eq_valid, Value.map.injEq, exists_eq_left'] at h
  obtain ⟨id, hid, -, -, -, -, rfl⟩ := h
  exact Value.str.inj hid

lemma Matching.of_read {m : Fields} {z : Matching} (h : fields.read m = .valid z)
    {v w : Value} (hv : m.find? "pairs" = some v) (hw : m.find? "matchStyle" = some w) :
    MatchPair.codec.list.read v = .valid z.pairs ∧ w = .str z.style := by
  rw [read_eq_valid_iff] at h
  simp only [fields, readsAs_apply, readsAs_build, required, withDefault,
    read_field_of_find? _ _ hv, read_field_of_find? _ _ hw, Codec.read_text_eq_valid] at h
  obtain ⟨pairs, hpairs, style, hstyle, -, -, rfl⟩ := h
  exact ⟨hpairs, hstyle⟩

end Content

namespace Completion

lemma fillPair_written {p : MatchPair} (h : Text.isBlankText p.id = false) (n : Nat) :
    fillPair (MatchPair.codec.written p) n = MatchPair.codec.written p := by
  have hleft : (MatchPair.codec.written p).find? "left" =
      some (.map (PairSide.codec.written p.left)) := by
    simp [MatchPair.codec, PairSide.codec, write_codec]
  have hright : (MatchPair.codec.written p).find? "right" =
      some (.map (PairSide.codec.written p.right)) := by
    simp [MatchPair.codec, PairSide.codec, write_codec]
  unfold fillPair
  rw [fillId_of_find? (s := p.id) (by simp [MatchPair.codec]) h,
    fillSide_of_find? (s := p.left.text) hleft (by simp [PairSide.codec]),
    fillSide_of_find? (s := p.right.text) hright (by simp [PairSide.codec])]

lemma isBlankText_of_fillPair {m : Fields} {n : Nat} {p : MatchPair}
    (h : MatchPair.codec.read (.map (fillPair m n)) = .valid p) :
    Text.isBlankText p.id = false := by
  rw [← MatchPair.id_of_read h (s := idOf m ("pair" ++ toString n)) (by simp [fillPair, fillSide])]
  exact isBlankText_idOf_append m (by decide) _

lemma isComplete_of_fillMatching {content filled : Fields} {z : Matching}
    (h : (fillMatching content).result = .ok filled)
    (hz : Matching.fields.read filled = .valid z) : z.IsComplete := by
  obtain ⟨pairs, -, h⟩ := (Traced.bind_eq_ok _ _ _).mp h
  cases h
  obtain ⟨hpairs, hstyle⟩ := Matching.of_read hz (v := mapList _) (by simp; rfl) (by simp; rfl)
  refine ⟨fun p hp => ?_, ne_empty_of_orElse (by decide) hstyle⟩
  obtain ⟨m, hm, hpm⟩ := exists_of_read_mapList hpairs hp
  obtain ⟨o, -, n, rfl⟩ := exists_of_mem_map_numbered hm
  exact isBlankText_of_fillPair hpm

/-- A complete matching game that is filled again is left as it is. -/
lemma fillMatching_written {z : Matching} (h : z.IsComplete) (tag : Value) :
    (fillMatching ((.text "type", tag) :: Matching.fields.write false z)).result =
      .ok ((.text "type", tag) :: Matching.fields.write false z) := by
  have hpairs : Fields.find? ((.text "type", tag) :: Matching.fields.write false z) "pairs" =
      some (mapList (z.pairs.map MatchPair.codec.written)) := by
    rw [← write_list_eq fun _ => rfl]
    simp [Matching.fields]
  have hstyle : Fields.find? ((.text "type", tag) :: Matching.fields.write false z) "matchStyle" =
      some (.str z.style) := by
    simp [Matching.fields]
  have hfill := map_numbered fun p hp n => fillPair_written (h.pairs p hp) n
  refine (Traced.bind_eq_ok _ _ _).mpr ⟨_, objects_of_find? hpairs "match pair", ?_⟩
  dsimp only
  rw [hfill, Fields.get_eq, hstyle, Fields.put_of_find? hpairs, Option.getD_some, orElse_str h.style,
    Fields.put_of_find? hstyle]
  rfl

end Completion

/-! ### Sorting -/

namespace Completion

/-- The category among ids with names that a text stands for. -/
def categoryIn (named : List (String × String)) (target : String) : String :=
  if (named.map (·.1)).contains target then target
  else ((named.reverse.find? fun e => folded e.2 == folded target).map (·.1)).getD target

/-- The id and the name of a category. -/
def nameOf (category : Fields) : String × String := (textAt category "id", textAt category "name")

lemma categoryOf_eq (categories : List Fields) (target : String) :
    categoryOf categories target = categoryIn (categories.map nameOf) target := by
  unfold categoryOf categoryIn categoryNamed?
  rw [List.map_map, ← List.map_reverse, List.find?_map, Option.map_map]
  rfl

/-- The category that was found for a text is found again. -/
lemma categoryIn_categoryIn (named : List (String × String)) (target : String) :
    categoryIn named (categoryIn named target) = categoryIn named target := by
  by_cases htarget : (named.map (·.1)).contains target = true
  · have hsame : categoryIn named target = target := if_pos htarget
    rw [hsame, hsame]
  cases hfind : named.reverse.find? fun e => folded e.2 == folded target with
  | none =>
    have hsame : categoryIn named target = target := by simp [categoryIn, hfind]
    rw [hsame, hsame]
  | some e =>
    have he : categoryIn named target = e.1 := by
      unfold categoryIn
      rw [if_neg htarget, hfind]
      rfl
    have hmem : (named.map (·.1)).contains e.1 = true := by
      rw [List.contains_iff_mem]
      exact List.mem_map_of_mem (List.mem_reverse.mp (List.mem_of_find?_eq_some hfind))
    rw [he, categoryIn, if_pos hmem]

end Completion

namespace Content

/-- The ids and names of the categories of a sorting game. -/
def Sorting.named (z : Sorting) : List (String × String) := z.categories.map fun c => (c.id, c.name)

/-- Whether all items and categories of a sorting game have ids, and every item the category that it
stands for. -/
structure Sorting.IsComplete (z : Sorting) : Prop where
  categories : ∀ c ∈ z.categories, Text.isBlankText c.id = false
  items : ∀ i ∈ z.items, Text.isBlankText i.id = false ∧
    categoryIn z.named i.correctCategory = i.correctCategory

lemma SortCategory.of_read {m : Fields} {c : SortCategory} (h : codec.read (.map m) = .valid c)
    {s t : String} (hs : m.find? "id" = some (.str s)) (ht : m.find? "name" = some (.str t)) :
    s = c.id ∧ t = c.name := by
  simp only [codec, read_codec_eq_valid, readsAs_apply, readsAs_build, required,
    read_field_of_find? _ _ hs, read_field_of_find? _ _ ht, Codec.read_text_eq_valid,
    Value.map.injEq, exists_eq_left'] at h
  obtain ⟨id, hid, name, hname, -, -, -, -, rfl⟩ := h
  exact ⟨Value.str.inj hid, Value.str.inj hname⟩

lemma SortItem.of_read {m : Fields} {i : SortItem} (h : codec.read (.map m) = .valid i)
    {s t : String} (hs : m.find? "id" = some (.str s))
    (ht : m.find? "correctCategory" = some (.str t)) : s = i.id ∧ t = i.correctCategory := by
  simp only [codec, read_codec_eq_valid, readsAs_apply, readsAs_build, required,
    read_field_of_find? _ _ hs, read_field_of_find? _ _ ht, Codec.read_text_eq_valid,
    Value.map.injEq, exists_eq_left'] at h
  obtain ⟨id, hid, -, -, -, -, category, hcategory, rfl⟩ := h
  exact ⟨Value.str.inj hid, Value.str.inj hcategory⟩

lemma Sorting.of_read {m : Fields} {z : Sorting} (h : fields.read m = .valid z)
    {v w : Value} (hv : m.find? "items" = some v) (hw : m.find? "categories" = some w) :
    SortItem.codec.list.read v = .valid z.items ∧
      SortCategory.codec.list.read w = .valid z.categories := by
  rw [read_eq_valid_iff] at h
  simp only [fields, readsAs_apply, readsAs_build, required, read_field_of_find? _ _ hv,
    read_field_of_find? _ _ hw] at h
  obtain ⟨items, hitems, categories, hcategories, -, -, rfl⟩ := h
  exact ⟨hitems, hcategories⟩

end Content

namespace Completion

lemma find?_fillCategory (m : Fields) (n : Nat) :
    ∃ name, (fillCategory m n).find? "id" = some (.str (idOf m ("cat" ++ toString n))) ∧
      (fillCategory m n).find? "name" = some (.str name) :=
  ⟨_, by simp [fillCategory], by simp [fillCategory]; rfl⟩

lemma of_read_fillCategory {m : Fields} {n : Nat} {c : SortCategory}
    (h : SortCategory.codec.read (.map (fillCategory m n)) = .valid c) :
    Text.isBlankText c.id = false ∧ nameOf (fillCategory m n) = (c.id, c.name) := by
  obtain ⟨name, hid, hname⟩ := find?_fillCategory m n
  obtain ⟨hid', rfl⟩ := SortCategory.of_read h hid hname
  rw [nameOf, textAt_of_find? hid, textAt_of_find? hname, ← hid']
  exact ⟨isBlankText_idOf_append m (by decide) _, rfl⟩

lemma fillCategory_written {c : SortCategory} (h : Text.isBlankText c.id = false) (n : Nat) :
    fillCategory (SortCategory.codec.written c) n = SortCategory.codec.written c := by
  have hname : (SortCategory.codec.written c).find? "name" = some (.str c.name) := by
    simp [SortCategory.codec]
  unfold fillCategory
  dsimp only
  rw [fillId_of_find? (s := c.id) (by simp [SortCategory.codec]) h, Fields.getD_eq, hname]
  exact Fields.put_of_find? hname

/-- Categories that are read have the ids and names that were filled in. -/
lemma named_of_read {ms : List Fields} {cs : List SortCategory}
    (h : SortCategory.codec.list.read
      (mapList ((numbered ms).map fun e => fillCategory e.1 e.2)) = .valid cs) :
    ((numbered ms).map fun e => fillCategory e.1 e.2).map nameOf =
      cs.map fun c => (c.id, c.name) := by
  obtain ⟨items, hitems, hall⟩ := (Codec.read_list_eq_valid _ _ _).mp h
  cases hitems
  rw [List.map_map, List.forall₂_map_left_iff] at hall
  rw [List.map_map, ← List.forall₂_eq_eq_eq, List.forall₂_map_left_iff, List.forall₂_map_right_iff]
  exact hall.imp fun _ _ hread => (of_read_fillCategory hread).2

lemma fillItem_written (categories : List Fields) {i : SortItem}
    (h : Text.isBlankText i.id = false)
    (hcategory : categoryOf categories i.correctCategory = i.correctCategory) (n : Nat) :
    fillItem categories (SortItem.codec.written i) n = SortItem.codec.written i := by
  have hfind : (SortItem.codec.written i).find? "correctCategory" =
      some (.str i.correctCategory) := by
    simp [SortItem.codec]
  unfold fillItem
  dsimp only
  rw [fillId_of_find? (s := i.id) (by simp [SortItem.codec]) h,
    fillText_of_find? (s := i.text) (by simp [SortItem.codec]), textAt_of_find? hfind, hcategory]
  exact Fields.put_of_find? hfind

lemma of_read_fillItem {categories : List Fields} {m : Fields} {n : Nat} {i : SortItem}
    (h : SortItem.codec.read (.map (fillItem categories m n)) = .valid i) :
    Text.isBlankText i.id = false ∧
      ∃ target, i.correctCategory = categoryOf categories target := by
  have hid : (fillItem categories m n).find? "id" = some (.str (idOf m ("item" ++ toString n))) := by
    simp [fillItem, find?_fillText]
  obtain ⟨target, htarget⟩ : ∃ target, (fillItem categories m n).find? "correctCategory" =
      some (.str (categoryOf categories target)) := ⟨_, by simp [fillItem]; rfl⟩
  obtain ⟨hid', hcategory⟩ := SortItem.of_read h hid htarget
  exact ⟨hid' ▸ isBlankText_idOf_append m (by decide) _, target, hcategory.symm⟩

lemma isComplete_of_fillSorting {content filled : Fields} {z : Sorting}
    (h : (fillSorting content).result = .ok filled)
    (hz : Sorting.fields.read filled = .valid z) : z.IsComplete := by
  obtain ⟨categories, -, h⟩ := (Traced.bind_eq_ok _ _ _).mp h
  obtain ⟨items, -, h⟩ := (Traced.bind_eq_ok _ _ _).mp h
  cases h
  obtain ⟨hitems, hcategories⟩ :=
    Sorting.of_read hz (v := mapList _) (w := mapList _) (by simp; rfl) (by simp; rfl)
  have hnamed := named_of_read hcategories
  refine ⟨fun c hc => ?_, fun i hi => ?_⟩
  · obtain ⟨m, hm, hread⟩ := exists_of_read_mapList hcategories hc
    obtain ⟨o, -, n, rfl⟩ := exists_of_mem_map_numbered hm
    exact (of_read_fillCategory hread).1
  · obtain ⟨m, hm, hread⟩ := exists_of_read_mapList hitems hi
    obtain ⟨o, -, n, rfl⟩ := exists_of_mem_map_numbered hm
    obtain ⟨hid, target, htarget⟩ := of_read_fillItem hread
    refine ⟨hid, ?_⟩
    rw [htarget, categoryOf_eq, hnamed]
    exact categoryIn_categoryIn _ _

/-- A complete sorting game that is filled again is left as it is. -/
lemma fillSorting_written {z : Sorting} (h : z.IsComplete) (tag : Value) :
    (fillSorting ((.text "type", tag) :: Sorting.fields.write false z)).result =
      .ok ((.text "type", tag) :: Sorting.fields.write false z) := by
  have hitems : Fields.find? ((.text "type", tag) :: Sorting.fields.write false z) "items" =
      some (mapList (z.items.map SortItem.codec.written)) := by
    rw [← write_list_eq fun _ => rfl]
    simp [Sorting.fields]
  have hcategories : Fields.find? ((.text "type", tag) :: Sorting.fields.write false z)
      "categories" = some (mapList (z.categories.map SortCategory.codec.written)) := by
    rw [← write_list_eq fun _ => rfl]
    simp [Sorting.fields]
  have htext : Fields.find? ((.text "type", tag) :: Sorting.fields.write false z)
      "instructions" = some (.str z.instructions) := by
    simp [Sorting.fields]
  have hnamed : (z.categories.map SortCategory.codec.written).map nameOf = z.named := by
    rw [List.map_map]
    refine List.map_congr_left fun c _ => ?_
    show (textAt _ _, textAt _ _) = _
    rw [textAt_of_find? (s := c.id) (by simp [SortCategory.codec]),
      textAt_of_find? (s := c.name) (by simp [SortCategory.codec])]
  have hfillc := map_numbered fun c hc n => fillCategory_written (h.categories c hc) n
  have hfilli := map_numbered fun i hi n =>
    fillItem_written (z.categories.map SortCategory.codec.written) (h.items i hi).1
      (by rw [categoryOf_eq, hnamed]; exact (h.items i hi).2) n
  refine (Traced.bind_eq_ok _ _ _).mpr ⟨_, objects_of_find? hcategories "sort category", ?_⟩
  refine (Traced.bind_eq_ok _ _ _).mpr ⟨_, objects_of_find? hitems "sort item", ?_⟩
  dsimp only
  rw [hfillc, hfilli, Fields.put_of_find? hitems, Fields.put_of_find? hcategories, Fields.get_eq,
    htext, Option.getD_some]
  have hsame : (Value.str z.instructions).orElse "" = .str z.instructions := by
    by_cases hs : z.instructions = "" <;> simp [Value.orElse, Value.truthy, hs]
  rw [hsame, Fields.put_of_find? htext]
  rfl

end Completion

end LearningGame
