import LearningGame.Proofs.Completion.Section
import LearningGame.Completion.Document

/-!
# Filled documents

The sections of a filled document have distinct ids, and an order of play that is filled in names
some of them, each once.
-/

namespace LearningGame.Completion

open Content Schema

@[simp] lemma result_warnLoader (message : String) : (warnLoader message).result = .ok () := rfl

/-! ### Metadata -/

lemma find?_fillGivenText (m : Fields) (key b : String) :
    (fillGivenText m key).find? (.text b) =
      if key = b then (m.find? (.text key)).map fun v => .str v.text else m.find? (.text b) := by
  unfold fillGivenText
  by_cases hb : key = b
  · subst hb
    cases h : m.find? (.text key) <;> simp [h]
  · cases m.find? (.text key) <;> simp [hb]

/-! ### Sections -/

section Sections

variable {points : Int}

/-- Sections are filled one by one; one whose id is taken is dropped. -/
lemma fillSections_cons_eq_ok (seen : List String) (index : Nat) (raw : Value) (rest : List Value)
    (ms : List Fields) :
    (fillSections points seen index (raw :: rest)).result = .ok ms ↔
      ∃ o, (fillSection raw index points).result = .ok o ∧
        match o with
        | none => (fillSections points seen (index + 1) rest).result = .ok ms
        | some m =>
          if seen.contains (textAt m "id") then
            (fillSections points seen (index + 1) rest).result = .ok ms
          else
            ∃ others, (fillSections points (textAt m "id" :: seen) (index + 1) rest).result =
              .ok others ∧ m :: others = ms := by
  rw [fillSections, Traced.bind_eq_ok]
  simp only [filling, Traced.mapError_eq_ok]
  refine exists_congr fun o => and_congr_right fun _ => ?_
  cases o with
  | none => exact Iff.rfl
  | some m =>
    dsimp only
    split_ifs with hs
    · simp [Except.bind]
    · simp [Traced.bind_eq_ok, -Traced.result_bind]

/-- Sections that are kept have been filled, and their ids are distinct. -/
lemma fillSections_spec {seen : List String} {index : Nat} {raws : List Value} {ms : List Fields}
    (h : (fillSections points seen index raws).result = .ok ms) :
    (∀ m ∈ ms, ∃ kind, IsFilled m kind) ∧ (ms.map fun m => textAt m "id").Nodup ∧
      ∀ m ∈ ms, textAt m "id" ∉ seen := by
  induction raws generalizing seen index ms with
  | nil =>
    cases h
    simp
  | cons raw rest ih =>
    obtain ⟨o, ho, hrest⟩ := (fillSections_cons_eq_ok seen index raw rest ms).mp h
    cases o with
    | none => exact ih hrest
    | some m =>
      dsimp only at hrest
      split_ifs at hrest with hs
      · exact ih hrest
      · obtain ⟨others, hothers, rfl⟩ := hrest
        obtain ⟨hfilled, hnodup, hnew⟩ := ih hothers
        simp only [List.mem_cons, not_or, List.contains_eq_mem, decide_eq_true_eq] at hnew hs
        refine ⟨?_, ?_, ?_⟩
        · rintro m' (_ | ⟨_, hm'⟩)
          · exact isFilled_of_fillSection ho
          · exact hfilled m' hm'
        · refine List.nodup_cons.mpr ⟨fun hmem => ?_, hnodup⟩
          obtain ⟨m', hm', heq⟩ := List.mem_map.mp hmem
          exact (hnew m' hm').1 heq
        · rintro m' (_ | ⟨_, hm'⟩)
          · exact hs
          · exact (hnew m' hm').2

end Sections

/-! ### Order of play -/

section Order

variable {ids : List String}

lemma mem_distinct {s : String} {l : List String} : s ∈ distinct l ↔ s ∈ l := by
  induction l with
  | nil => simp [distinct]
  | cons a l ih =>
    by_cases hs : s = a
    · simp [distinct, hs]
    · simp [distinct, ih, hs]

lemma nodup_distinct (l : List String) : (distinct l).Nodup := by
  induction l with
  | nil => simp [distinct]
  | cons a l ih => exact List.nodup_cons.mpr ⟨by simp, ih.filter _⟩

/-- The ids of sections that an order of play names, each once. -/
def knownOf (ids : List String) (order : List Value) : List String :=
  distinct ((order.map Value.text).filter ids.contains)

lemma fillOrder_list (ids : List String) (order : List Value) :
    (fillOrder ids (.list order)).result =
      .ok (if (knownOf ids order).isEmpty then .null else .list ((knownOf ids order).map .str)) := by
  unfold fillOrder knownOf
  dsimp only
  generalize distinct _ = kept
  split_ifs <;> rfl

lemma mem_of_mem_knownOf {order : List Value} {id : String} (h : id ∈ knownOf ids order) :
    id ∈ ids := by
  rw [knownOf, mem_distinct, List.mem_filter] at h
  simpa using h.2

/-- An order of play among some sections: none, or some of them, each once. -/
def IsOrderOf (ids : List String) (v : Value) : Prop :=
  v = .null ∨ ∃ order : List String,
    v = .list (order.map .str) ∧ order ≠ [] ∧ order.Nodup ∧ ∀ id ∈ order, id ∈ ids

lemma isOrderOf_fillOrder {raw v : Value} (h : (fillOrder ids raw).result = .ok v) :
    IsOrderOf ids v := by
  cases raw with
  | list order =>
    rw [fillOrder_list, Except.ok.injEq] at h
    subst h
    split_ifs with hk
    · exact .inl rfl
    · exact .inr ⟨_, rfl, by simpa using hk, nodup_distinct _, fun id => mem_of_mem_knownOf⟩
  | _ =>
    cases h
    exact .inl rfl

lemma fillStart_eq_ok (ids : List String) (m : Fields) :
    (fillStart ids m).result =
      .ok (if (m.get "startSection").isNull ∨ (m.get "startSection").isOneOf ids then m
        else m.put "startSection" .null) := by
  unfold fillStart
  dsimp only
  split_ifs <;> rfl

/-- What an order of play of some sections is filled with. -/
lemma fillProgression_spec {raw : Value} {m : Fields} (hne : ids ≠ []) (hn : ids.Nodup)
    (h : (fillProgression ids raw).result = .ok m) :
    ∃ v, m.find? "sectionOrder" = some v ∧ IsOrderOf ids v := by
  cases raw with
  | map given =>
    obtain ⟨v, hv, h⟩ := (Traced.bind_eq_ok _ _ _).mp h
    refine ⟨v, ?_, isOrderOf_fillOrder hv⟩
    rw [Traced.bind_eq_ok, fillStart_eq_ok] at h
    obtain ⟨m', hm', h⟩ := h
    cases hm'
    cases h
    split_ifs <;> simp
  | _ =>
    cases h
    exact ⟨_, by simp [defaultProgression], .inr ⟨ids, rfl, hne, hn, fun _ h => h⟩⟩

end Order

/-! ### Documents -/

/-- The elements of the list of sections. -/
def sectionsOf (doc : Fields) : List Value :=
  (Fields.get (fieldsOf (doc.get "content")) "sections").items

/-- The parts that a document is filled with. -/
structure DocumentParts where
  scoring : Fields
  sections : List Fields
  metadata : Fields
  progression : Fields

/-- The ids of the sections. -/
def DocumentParts.sectionIds (p : DocumentParts) : List String := p.sections.map fun m => textAt m "id"

/-- A document with its parts in place. -/
def DocumentParts.fill (p : DocumentParts) (doc : Fields) (gameType : Value) : Fields :=
  let content := fieldsOf (doc.get "content")
  let doc := doc.put "version" ((doc.get "version").orElse "1.0").text
  let doc := doc.put "metadata" (.map p.metadata)
  let doc := doc.put "theme" (.map (merge defaultTheme (doc.get "theme")))
  let doc := doc.put "config" (.map (fillConfig gameType (doc.get "config")))
  let doc := doc.put "content" (.map (content.put "sections" (mapList p.sections)))
  let doc := doc.put "progression" (.map p.progression)
  doc.put "scoring" (.map p.scoring)

lemma fillDocument_eq_ok (doc m : Fields) (gameType : Value) :
    (fillDocument doc gameType).result = .ok m ↔
      ∃ p : DocumentParts, (fillScoring (doc.get "scoring")).result = .ok p.scoring ∧
        (∃ points, wholeOr (p.scoring.get "pointsPerCorrect") 10 = .ok points ∧
          ∃ raw, (Fields.get (fieldsOf (doc.get "content")) "sections").elements = .ok raw ∧
            (fillSections points [] 0 raw).result = .ok p.sections) ∧
        p.sections ≠ [] ∧ fillMetadata (doc.get "metadata") = .ok p.metadata ∧
        (fillProgression p.sectionIds (doc.get "progression")).result = .ok p.progression ∧
        p.fill doc gameType = m := by
  unfold fillDocument
  simp only [Traced.bind_eq_ok, Traced.result_lift, Except.mapError_eq_ok]
  constructor
  · rintro ⟨scoring, hscoring, points, hpoints, raw, hraw, sections, hsections, h⟩
    split_ifs at h with he
    · cases h
    · simp only [Traced.bind_eq_ok, Traced.result_lift, Except.mapError_eq_ok] at h
      obtain ⟨metadata, hmetadata, progression, hprogression, h⟩ := h
      cases h
      exact ⟨⟨scoring, sections, metadata, progression⟩, hscoring,
        ⟨points, hpoints, raw, hraw, hsections⟩, by simpa using he, by simpa using hmetadata,
        by simpa [DocumentParts.sectionIds] using hprogression, rfl⟩
  · rintro ⟨p, hscoring, ⟨points, hpoints, raw, hraw, hsections⟩, hne, hmetadata, hprogression, rfl⟩
    refine ⟨p.scoring, hscoring, points, hpoints, raw, hraw, p.sections, hsections, ?_⟩
    rw [if_neg (by simpa using hne)]
    simp only [Traced.bind_eq_ok, Traced.result_lift, Except.mapError_eq_ok]
    exact ⟨p.metadata, by simpa using hmetadata, p.progression,
      by simpa [DocumentParts.sectionIds] using hprogression, rfl⟩

lemma DocumentParts.find?_fill (p : DocumentParts) (doc : Fields) (gameType : Value) :
    (∃ content : Fields, (p.fill doc gameType).find? "content" = some (.map content) ∧
      content.find? "sections" = some (mapList p.sections)) ∧
    (p.fill doc gameType).find? "progression" = some (.map p.progression) := by
  refine ⟨⟨(fieldsOf (doc.get "content")).put "sections" (mapList p.sections), ?_, ?_⟩, ?_⟩
  · simp [DocumentParts.fill]
  · simp
  · simp [DocumentParts.fill]

end LearningGame.Completion
