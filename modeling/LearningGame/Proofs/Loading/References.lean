import LearningGame.Proofs.Loading.Beginning
import LearningGame.Proofs.Catalogue
import LearningGame.Play.Exploration
import LearningGame.Play.Narrative

/-!
# References to entries

A document refers to its scenes, locations and sections by their ids. What it gives as an id is made
a text, and so is what it lists as the order of play, but not what it gives as a start. So a start
that is a text leads to the entry with that id; one that is a number is not found among the ids, even
if it is written like one of them, and play begins with the first entry instead.
-/

namespace LearningGame

open Schema RecordOf Content Completion Play

/-! ### Starts -/

namespace Completion

variable {ids : List String} {start : Value}

/-- A start whose text is among some ids is kept if it is a text; else the first of the ids takes its
place. -/
lemma startAmong_eq_text_iff (h : start.text ∈ ids) :
    startAmong ids start = .str start.text ↔
      (∃ s, start = .str s) ∨ ids.head? = some start.text := by
  obtain ⟨id, rest, rfl⟩ := List.exists_cons_of_ne_nil (List.ne_nil_of_mem h)
  unfold startAmong
  cases start with
  | str s =>
    have hs : (Value.str s).isOneOf (id :: rest) = true := by
      simpa [Value.isOneOf, Value.text] using h
    simp [hs, Value.text]
  | _ => simp [Value.isOneOf]

/-- Only what is among the ids and which of them is the first counts. -/
lemma startAmong_congr {others : List String} (hmem : ∀ s, s ∈ ids ↔ s ∈ others)
    (hhead : ids.head? = others.head?) : startAmong ids start = startAmong others start := by
  have hone : start.isOneOf ids = start.isOneOf others := by
    cases start with
    | str s => simp [Value.isOneOf, hmem]
    | _ => rfl
  have hfirst : ids.headD "" = others.headD "" := by
    rw [List.headD_eq_head?_getD, List.headD_eq_head?_getD, hhead]
  rw [startAmong, startAmong, hone, hfirst]

end Completion

/-! ### Contents -/

namespace Content.SectionContent

/-- The scene or location in which the player of a content is at the beginning. -/
def opening? : SectionContent → Option String
  | .narrative x => (NarrativeSitting.create x 0).current?.map (·.id)
  | .exploration x => (ExplorationSitting.create x 0).current?.map (·.id)
  | _ => none

end Content.SectionContent

lemma Catalogue.map_find?_ofList {α : Type} {id : α → String} {things : List α} {name : String}
    (h : name ∈ things.map id) : ((ofList id things).find? name).map id = some name := by
  obtain ⟨a, ha⟩ := Option.isSome_iff_exists.mp (has_ofList_iff.mpr h)
  have hid : name = id a := (mem_ofList (mem_of_find? ha)).1
  rw [ha, Option.map_some, hid]

namespace Completion

/-- Where a content refers to its start, and the list of the entries that it may refer to. -/
def startOf : SectionKind → Option (String × Roster)
  | .narrative => some ("startScene", ⟨"scenes", "scene"⟩)
  | .exploration => some ("startLocation", ⟨"locations", "loc"⟩)
  | _ => none

variable {kind : SectionKind} {points : Int} {title : Value} {content filled : Fields}
  {c : SectionContent} {key : String} {roster : Roster}

lemma ne_nil_of_map_eq {α β : Type} {as : List α} {f : α → String} {bs : List β} {g : β → String}
    (h : as.map f = bs.map g) (hne : bs ≠ []) : as ≠ [] := by
  rintro rfl
  exact hne (List.map_eq_nil_iff.mp h.symm)

/-- Play begins in the scene or location that filling has chosen. -/
lemma opening?_of_fillContent (h : (fillContent kind points title content).result = .ok filled)
    (hc : SectionContent.readAs filled kind = .valid c) (hstart : startOf kind = some (key, roster))
    (hne : roster.entrants content ≠ []) :
    c.opening?.map Value.str =
      some (startAmong ((roster.entrants content).map Entrant.id) (content.get key)) := by
  have hstarts := hasStart_of_fillContent h hc
  cases kind with
  | narrative =>
    cases hstart
    obtain ⟨x, hx, rfl⟩ := (Checked.map_eq_valid _ _ _).mp hc
    have hids := Roster.idsAt_eq h (List.mem_singleton_self _)
    obtain ⟨ms, hms, rfl⟩ := (fillNarrative_iff _ _).mp h
    obtain ⟨hread, hstart⟩ := (Narrative.read_eq_valid (by simp; rfl) (by simp; rfl) x).mp hx
    rw [idsAt_of_find? (by simp : _ = some (mapList ms))] at hids
    rw [hids] at hstart
    rw [FilledAll.ids_of_read givesIds_fillScene hms hread Scene.id_of_read] at hids
    rw [hstart]
    exact congrArg (Option.map Value.str)
      (Catalogue.map_find?_ofList (hstarts (ne_nil_of_map_eq hids hne)))
  | exploration =>
    cases hstart
    obtain ⟨x, hx, rfl⟩ := (Checked.map_eq_valid _ _ _).mp hc
    have hids := Roster.idsAt_eq h List.mem_cons_self
    obtain ⟨ms, items, hms, -, rfl⟩ := (fillExploration_iff _ _).mp h
    obtain ⟨hread, -, hstart⟩ := Exploration.of_read hx (by simp; rfl) (by simp; rfl) (by simp; rfl)
    rw [idsAt_of_find? (by simp : _ = some (mapList ms))] at hids
    rw [hids] at hstart
    rw [FilledAll.ids_of_read givesIds_fillLocation hms hread Location.id_of_read] at hids
    rw [hstart]
    exact congrArg (Option.map Value.str)
      (Catalogue.map_find?_ofList (hstarts (ne_nil_of_map_eq hids hne)))
  | _ => cases hstart

end Completion

/-! ### Sections -/

section Sections

variable {points : Int} {seen : List String} {index : Nat} {raws : List Value} {ms : List Fields}

/-- Of the sections with one id the first is kept, unless the id is taken. -/
lemma distinct_ids_of_fillSections (h : (fillSections points seen index raws).result = .ok ms) :
    (ms.map fun m => textAt m "id") =
      (distinct ((sectionEntrants (raws.zipIdx (index + 1))).map Entrant.id)).filter
        fun id => !seen.contains id := by
  induction raws generalizing seen index ms with
  | nil =>
    cases h
    rfl
  | cons raw rest ih =>
    obtain ⟨o, ho, hrest⟩ := (fillSections_cons_eq_ok seen index raw rest ms).mp h
    have hnone := fillSection_eq_none_iff ho
    rw [List.zipIdx_cons]
    cases o with
    | none => rw [sectionEntrants_cons_of_not_playable (hnone.mp rfl), ih hrest]
    | some m =>
      have hplayable := isSome_playableKind? ho
      dsimp only at hrest
      rw [sectionEntrants_cons_of_playable hplayable, List.map_cons, distinct, List.filter_cons,
        ← textAt_of_fillSection ho]
      split_ifs at hrest with hs
      · rw [hs, ih hrest, List.filter_filter, if_neg (by simp)]
        refine List.filter_congr fun id _ => ?_
        by_cases heq : id = textAt m "id"
        · rw [heq, hs]
          rfl
        · simp [heq]
      · obtain ⟨others, hothers, rfl⟩ := hrest
        rw [Bool.not_eq_true] at hs
        rw [hs, List.map_cons, ih hothers, List.filter_filter, if_pos (by simp)]
        refine congrArg _ (List.filter_congr fun id _ => ?_)
        rw [List.contains_cons, Bool.not_or, Bool.and_comm]
        rfl

/-- A section is kept if it is the first with its id and the id is not taken. -/
lemma exists_mem_of_fillSections (h : (fillSections points seen index raws).result = .ok ms)
    {before after : List (Value × Nat)} {raw : Value} {n : Nat}
    (hsplit : raws.zipIdx (index + 1) = before ++ (raw, n) :: after)
    (hplayable : (playableKind? raw).isSome = true)
    (hfirst : (entrantOf "section" (fieldsOf raw, n)).id ∉
      seen ++ (sectionEntrants before).map Entrant.id) :
    ∃ m ∈ ms, ∃ i : Nat, n = i + 1 ∧ (fillSection raw i points).result = .ok (some m) := by
  induction raws generalizing seen index ms before with
  | nil => simp at hsplit
  | cons first rest ih =>
    obtain ⟨o, ho, hrest⟩ := (fillSections_cons_eq_ok seen index first rest ms).mp h
    have hnone := fillSection_eq_none_iff ho
    rw [List.zipIdx_cons] at hsplit
    cases before with
    | nil =>
      obtain ⟨hhead, -⟩ := List.cons.inj hsplit
      cases hhead
      cases o with
      | none => simp [hnone.mp rfl] at hplayable
      | some m =>
        dsimp only at hrest
        rw [textAt_of_fillSection ho] at hrest
        rw [if_neg (by simpa [sectionEntrants] using hfirst)] at hrest
        obtain ⟨others, -, rfl⟩ := hrest
        exact ⟨m, List.mem_cons_self, index, rfl, ho⟩
    | cons b before =>
      obtain ⟨hhead, htail⟩ := List.cons.inj hsplit
      subst hhead
      cases o with
      | none =>
        rw [sectionEntrants_cons_of_not_playable (hnone.mp rfl)] at hfirst
        exact ih hrest htail hfirst
      | some m =>
        rw [sectionEntrants_cons_of_playable (isSome_playableKind? ho), List.map_cons,
          ← textAt_of_fillSection ho] at hfirst
        dsimp only at hrest
        split_ifs at hrest with hs
        · exact ih hrest htail fun hmem => hfirst (by simp at hmem ⊢; tauto)
        · obtain ⟨others, hothers, rfl⟩ := hrest
          obtain ⟨m', hm', hfill⟩ := ih hothers htail (by simp at hfirst ⊢; tauto)
          exact ⟨m', List.mem_cons_of_mem _ hm', hfill⟩

end Sections

/-! ### Games -/

namespace Content

/-- The start of an order of play is read from what is given for it. -/
lemma Progression.start_of_read {m : Fields} {p : Progression}
    (h : codec.read (.map m) = .valid p) {v : Value} (hv : given? m "startSection" = some v) :
    Codec.text.optional.read v = .valid p.startSection := by
  simp only [codec, read_codec_eq_valid, readsAs_apply, readsAs_build, RecordOf.optional,
    read_field_eq_valid, hv, Value.map.injEq, exists_eq_left'] at h
  obtain ⟨-, -, -, -, start, hstart, -, -, -, -, rfl⟩ := h
  simpa using hstart

end Content

/-- The entries among which a start may be, and the id of the one with which play begins. -/
inductive RefersToStart (doc : Fields) (g : Game) : Value → List Entrant → Option String → Prop
  /-- The start of a story or an exploration, which is kept as the first section with its id. -/
  | content {before after : List (Value × Nat)} {m : Fields} {n : Nat} {kind : SectionKind}
      {key : String} {roster : Roster}
      (hsplit : numbered (sectionsOf doc) = before ++ (.map m, n) :: after)
      (hkind : playableKind? (.map m) = some kind)
      (hfirst : (entrantOf "section" (m, n)).id ∉ (sectionEntrants before).map Entrant.id)
      (hstart : startOf kind = some (key, roster)) :
      RefersToStart doc g (Fields.get (fieldsOf (m.get "content")) key)
        (roster.entrants (fieldsOf (m.get "content")))
        ((g.section? (entrantOf "section" (m, n)).id).bind fun s => s.content.opening?)
  /-- The section with which an order of play starts that lists none. -/
  | progression {m : Fields} (hm : doc.get "progression" = .map m)
      (horder : m.get "sectionOrder" = .null) :
      RefersToStart doc g (m.get "startSection") (sectionEntrants (numbered (sectionsOf doc)))
        (some g.firstSectionId)

lemma Game.section?_of_mem {g : Game} (h : g.sectionIds.Nodup) {s : Section} (hs : s ∈ g.sections) :
    g.section? s.id = some s := by
  have hsome : (g.section? s.id).isSome = true := List.find?_isSome.mpr ⟨s, hs, by simp⟩
  obtain ⟨t, ht⟩ := Option.isSome_iff_exists.mp hsome
  have hid : t.id = s.id := by simpa using List.find?_some ht
  rw [ht, List.inj_on_of_nodup_map h (List.mem_of_find?_eq_some ht) hs hid]

section Loaded

variable {doc : Fields} {raw gameType : Value} {g : Game}

/-- The sections of a loaded game have the ids of those of the document. -/
lemma mem_sectionIds_iff (hraw : HoldsDocument doc raw) (hdoc : hasSections doc = true)
    (h : (load raw gameType).result = .ok g) :
    (∀ id, id ∈ g.sectionIds ↔ id ∈ (sectionEntrants (numbered (sectionsOf doc))).map Entrant.id) ∧
      g.sectionIds.head? = ((sectionEntrants (numbered (sectionsOf doc))).map Entrant.id).head? := by
  obtain ⟨p, points, hsections, -, hg, -⟩ := exists_parts_of_load hraw hdoc h
  have hids : g.sectionIds = p.sections.map fun m => textAt m "id" :=
    (isFilled_sections (fillSections_spec hsections).1 (Game.sections_of_read hg)).1
  rw [hids, distinct_ids_of_fillSections hsections, List.filter_eq_self.mpr (by simp)]
  refine ⟨fun id => mem_distinct, ?_⟩
  rw [numbered]
  cases (sectionEntrants ((sectionsOf doc).zipIdx 1)).map Entrant.id <;> rfl

/-- An order of play is read from what it is filled with. -/
lemma exists_progression_of_load (hraw : HoldsDocument doc raw) (hdoc : hasSections doc = true)
    (h : (load raw gameType).result = .ok g) :
    ∃ filled : Fields,
      (fillProgression g.sectionIds (doc.get "progression")).result = .ok filled ∧
        Progression.codec.read (.map filled) = .valid g.progression := by
  obtain ⟨p, points, hsections, hprogression, hg, -⟩ := exists_parts_of_load hraw hdoc h
  have hids : g.sectionIds = p.sectionIds :=
    (isFilled_sections (fillSections_spec hsections).1 (Game.sections_of_read hg)).1
  obtain ⟨-, hfind⟩ := p.find?_fill doc gameType
  obtain ⟨-, v, hv, hread⟩ := Game.of_read hg
  rw [given?_of_find? hfind] at hv
  cases hv
  exact ⟨p.progression, hids ▸ hprogression, hread⟩

lemma eq_none_of_read_null {α : Type} {c : Codec α} {o : Option α}
    (h : c.optional.read .null = .valid o) : o = none :=
  (Checked.valid.inj (((Codec.read_optional_eq_none c .null).mpr rfl).symm.trans h)).symm

/-- A given order of play is filled with the start that is given, if it is known, and with the
sections that it lists. -/
lemma progression_of_fill {ids : List String} {m filled : Fields} {p : Progression}
    (h : (fillProgression ids (.map m)).result = .ok filled)
    (hread : Progression.codec.read (.map filled) = .valid p) :
    (∀ order, m.get "sectionOrder" = .list order → knownOf ids order ≠ [] →
      p.sectionOrder = some (knownOf ids order)) ∧
    (m.get "sectionOrder" = .null → p.sectionOrder = none) ∧
    ∀ r, m.get "startSection" = r → r ≠ .null →
      p.startSection = if r.isOneOf ids then some r.text else none := by
  obtain ⟨v, hv, h⟩ := (Traced.bind_eq_ok _ _ _).mp h
  rw [Traced.bind_eq_ok, fillStart_eq_ok] at h
  obtain ⟨started, hstarted, h⟩ := h
  have hget : started.get "type" = m.get "type" := by
    cases hstarted
    split_ifs <;> simp
  have hsame {key : String} (hkey : key ≠ "type") : filled.find? key = started.find? key := by
    cases h
    split_ifs <;> simp [hkey.symm]
  have horder : filled.find? "sectionOrder" = some v := by
    rw [hsame (by decide)]
    cases hstarted
    split_ifs <;> simp
  have hread_order := Progression.of_read hread (given?_of_find? horder)
  refine ⟨fun order hlist hne => ?_, fun hnull => ?_, fun r hr hne => ?_⟩
  · rw [hlist, fillOrder_list, if_neg (by simpa using hne)] at hv
    cases hv
    exact (read_order_eq_some _ _).mp hread_order
  · rw [hnull] at hv
    cases hv
    exact eq_none_of_read_null hread_order
  · have hfind : started.find? "startSection" =
        some (if r.isOneOf ids then r else .null) := by
      cases hstarted
      simp only [Fields.get_put, String.reduceEq, if_false, hr]
      have hnull : r.isNull = false := by
        cases r with
        | null => exact absurd rfl hne
        | _ => rfl
      by_cases hone : r.isOneOf ids = true
      · rw [if_pos (.inr hone), if_pos hone, Fields.find?_put, if_neg (by decide)]
        exact Fields.find?_of_get hr hne
      · rw [if_neg (by simp [hnull, hone]), if_neg hone, Fields.find?_put, if_pos rfl]
    have hstart := Progression.start_of_read hread (given?_of_find? ((hsame (by decide)).trans hfind))
    split_ifs at hstart ⊢ with hone
    · cases r with
      | str s => exact Checked.valid.inj (hstart.symm.trans rfl)
      | _ => cases hone
    · exact eq_none_of_read_null hstart

/-- Play of a loaded game begins with the section that its order of play starts with. -/
lemma firstSectionId_of_load (hraw : HoldsDocument doc raw) (hdoc : hasSections doc = true)
    (h : (load raw gameType).result = .ok g) {m : Fields} (hm : doc.get "progression" = .map m)
    (horder : m.get "sectionOrder" = .null) (hstart : m.get "startSection" ≠ .null) :
    startAmong g.sectionIds (m.get "startSection") = .str g.firstSectionId := by
  obtain ⟨filled, hfilled, hread⟩ := exists_progression_of_load hraw hdoc h
  rw [hm] at hfilled
  obtain ⟨-, hnone, hfirst⟩ := progression_of_fill hfilled hread
  have hplayable := isPlayable_of_loaded [] (.inl h)
  unfold Game.firstSectionId startAmong
  rw [hnone horder, hfirst _ rfl hstart]
  split_ifs with hone
  · cases hr : m.get "startSection" with
    | str s =>
      have hs : s ∈ g.sectionIds := by simpa [hr, Value.isOneOf] using hone
      have hne : s ≠ "" := by
        rintro rfl
        exact absurd (hplayable.not_blank "" hs) (by decide)
      obtain ⟨t, ht, hid⟩ := List.mem_map.mp hs
      have hfound := Game.section?_of_mem hplayable.nodup_sectionIds ht
      rw [hid] at hfound
      simp [Value.text, hne, hfound]
    | _ => simp [hr, Value.isOneOf] at hone
  · rfl

/-- A section that is the first with its id is found by it, and play of it begins with the start that
filling has chosen. -/
lemma opening?_of_section (hraw : HoldsDocument doc raw) (hdoc : hasSections doc = true)
    (h : (load raw gameType).result = .ok g) {before after : List (Value × Nat)} {m : Fields} {n : Nat}
    {kind : SectionKind} {key : String} {roster : Roster}
    (hsplit : numbered (sectionsOf doc) = before ++ (.map m, n) :: after)
    (hkind : playableKind? (.map m) = some kind)
    (hfirst : (entrantOf "section" (m, n)).id ∉ (sectionEntrants before).map Entrant.id)
    (hstart : startOf kind = some (key, roster))
    (hne : roster.entrants (fieldsOf (m.get "content")) ≠ []) :
    ((g.section? (entrantOf "section" (m, n)).id).bind fun s => s.content.opening?).map Value.str =
      some (startAmong ((roster.entrants (fieldsOf (m.get "content"))).map Entrant.id)
        (Fields.get (fieldsOf (m.get "content")) key)) := by
  obtain ⟨p, points, hsections, -, hg, hfilled⟩ := exists_parts_of_load hraw hdoc h
  obtain ⟨m', hm', i, rfl, hfill⟩ := exists_mem_of_fillSections hsections hsplit
    (by rw [hkind, Option.isSome_some]) (by rwa [List.nil_append])
  obtain ⟨s, hs, hread⟩ :=
    (Game.sections_of_read hg).flip.exists_of_mem_right (List.mem_map_of_mem hm')
  have hid : s.id = (entrantOf "section" (m, i + 1)).id := by
    obtain ⟨named, hnamed⟩ := isFilled_of_fillSection hfill
    rw [(isFilled_section hnamed hread).1, textAt_of_fillSection hfill]
    rfl
  rw [← hid, Game.section?_of_mem hfilled.isPlayable.nodup_sectionIds hs, Option.bind_some]
  obtain ⟨_, kind', filled, hmap, hkind', hcontent, hread⟩ := exists_content_of_fillSection hfill hread
  cases hmap
  cases Option.some.inj (hkind'.symm.trans hkind)
  exact opening?_of_fillContent hcontent hread hstart hne

lemma RefersToStart.opening_eq (hraw : HoldsDocument doc raw) (hdoc : hasSections doc = true)
    (h : (load raw gameType).result = .ok g) {r : Value} {es : List Entrant}
    {opening : Option String} (href : RefersToStart doc g r es opening) (hr : r ≠ .null)
    (hne : es ≠ []) : opening.map Value.str = some (startAmong (es.map Entrant.id) r) := by
  cases href with
  | content hsplit hkind hfirst hstart =>
    exact opening?_of_section hraw hdoc h hsplit hkind hfirst hstart hne
  | progression hm horder =>
    obtain ⟨hmem, hhead⟩ := mem_sectionIds_iff hraw hdoc h
    rw [← startAmong_congr hmem hhead, firstSectionId_of_load hraw hdoc h hm horder hr]
    rfl

end Loaded

/-- Where a reference to an entry of a loaded document leads, by the text of the id that is given to
the entry. A start is followed if it is a text, or if the entry is the first one anyway; the order of
play lists every section that it is to list. -/
theorem references_of_load {doc : Fields} {raw gameType : Value} {g : Game}
    (hraw : HoldsDocument doc raw) (hdoc : hasSections doc = true)
    (h : (load raw gameType).result = .ok g) :
    (∀ r es opening, RefersToStart doc g r es opening → r ≠ .null →
      r.text ∈ es.filterMap (·.given) →
      (opening = some r.text ↔
        (∃ s, r = .str s) ∨ es.head?.map Entrant.id = some r.text)) ∧
    ∀ (m : Fields) (order : List Value), doc.get "progression" = .map m →
      m.get "sectionOrder" = .list order → ∀ v ∈ order,
      v.text ∈ (sectionEntrants (numbered (sectionsOf doc))).filterMap (·.given) →
      v.text ∈ g.order ∧ v.text ∈ g.sectionIds := by
  have hgiven {es : List Entrant} {id : String} (hid : id ∈ es.filterMap (·.given)) :
      id ∈ es.map Entrant.id := by
    obtain ⟨e, he, hgiven⟩ := List.mem_filterMap.mp hid
    exact List.mem_map.mpr ⟨e, he, Entrant.id_of_given hgiven⟩
  refine ⟨fun r es opening href hr hid => ?_, fun m order hm horder v hv hid => ?_⟩
  · have hne : es ≠ [] := by
      rintro rfl
      cases hid
    have hopening := href.opening_eq hraw hdoc h hr hne
    rw [← List.head?_map, ← startAmong_eq_text_iff (hgiven hid)]
    cases opening with
    | none => cases hopening
    | some start =>
      have hstart : Value.str start = startAmong (es.map Entrant.id) r := Option.some.inj hopening
      rw [← hstart]
      simp
  · have hsection := ((mem_sectionIds_iff hraw hdoc h).1 _).mpr (hgiven hid)
    refine ⟨?_, hsection⟩
    obtain ⟨filled, hfilled, hread⟩ := exists_progression_of_load hraw hdoc h
    rw [hm] at hfilled
    have hknown : v.text ∈ knownOf g.sectionIds order := by
      rw [knownOf, mem_distinct, List.mem_filter]
      exact ⟨List.mem_map_of_mem hv, by simpa using hsection⟩
    obtain ⟨id, rest, hcons⟩ := List.exists_cons_of_ne_nil (List.ne_nil_of_mem hknown)
    have hlisted := (progression_of_fill hfilled hread).1 order horder (List.ne_nil_of_mem hknown)
    rw [hcons] at hknown hlisted
    rwa [Game.order, hlisted]

/-- A document with a story of two scenes that are numbered. -/
def numberedScenes (start : Value) : Fields :=
  [("content", .map [("sections", .list [.map [("id", "a"), ("type", "narrative"), ("content", .map
    [("scenes", .list [.map [("id", .int 1), ("text", "Here.")], .map [("id", .int 2),
      ("text", "There.")]]), ("startScene", start)])]])])]

/-- The scene in which the story begins, once the document is loaded. -/
def Game.sceneOf (g : Game) (id : String) : Option String :=
  (g.section? id).bind fun s => s.content.opening?

theorem references_of_load_of_scenes :
    ∃ g, (load (.map (numberedScenes "2")) "narrative").result = .ok g ∧ g.sceneOf "a" = some "2" := by
  obtain ⟨g, hg, -⟩ := Traced.exists_ok_of_any
    (x := load (.map (numberedScenes "2")) "narrative") (p := fun _ => true) (by decide +kernel)
  refine ⟨g, hg, ?_⟩
  have hsplit : numbered (sectionsOf (numberedScenes "2")) = [] ++ (.map _, _) :: [] := rfl
  have href := @RefersToStart.content _ g _ _ _ _ .narrative _ _ hsplit (by rfl)
    (by simp [sectionEntrants]) rfl
  have hraw : HoldsDocument (numberedScenes "2") (.map (numberedScenes "2")) := rfl
  exact ((references_of_load hraw (by rfl) hg).1 _ _ _ href (fun hnull => by cases hnull)
    (by decide)).mpr (.inl ⟨"2", rfl⟩)

/-- A start that is given as a number like the id of the second scene. -/
theorem scene_lost_of_number :
    ∃ g, (load (.map (numberedScenes (.int 2))) "narrative").result = .ok g ∧
      (Value.int 2).text = "2" ∧ g.sceneOf "a" = some "1" := by
  obtain ⟨g, hg, hscene⟩ := Traced.exists_ok_of_any
    (x := load (.map (numberedScenes (.int 2))) "narrative")
    (p := fun g => g.sceneOf "a" == some "1") (by decide +kernel)
  exact ⟨g, hg, by decide, by simpa using hscene⟩

end LearningGame
