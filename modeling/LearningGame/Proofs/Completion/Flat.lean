import LearningGame.Proofs.Completion.Document
import LearningGame.Proofs.Value.Document
import LearningGame.Completion.Flat

/-!
# Converted content

Flat content becomes a document with a single section, which holds finite floats only if the flat
content does.
-/

namespace LearningGame.Completion

open Content

/-- The section that flat content becomes. -/
def flatSection (shape : FlatShape) (filled : Fields) : Fields :=
  [("id", flatSectionId), ("title", shape.title), ("type", Fields.get filled "type"),
    ("content", .map filled)]

/-- The document that flat content becomes. -/
def flatDocument (shape : FlatShape) (filled record : Fields) : Fields :=
  [("version", "1.0"),
    ("metadata", .map (flatMetadata record)),
    ("theme", .map defaultTheme),
    ("config", .map (defaultConfig shape.gameType)),
    ("content", .map [("sections", .list [.map (flatSection shape filled)])]),
    ("progression", .map (defaultProgression [flatSectionId])),
    ("scoring", .map (defaultScoring 100))]

lemma convertFlat_eq_ok (shape : FlatShape) (doc record converted : Fields) :
    (convertFlat shape doc record).result = .ok converted ↔
      ∃ filled, (flatContent doc shape).result = .ok filled ∧
        flatDocument shape filled record = converted := by
  simp only [convertFlat, Traced.bind_eq_ok, noteFlat, Traced.result_note, Except.ok.injEq,
    Traced.result_pure, true_and, exists_const]
  exact Iff.rfl

lemma sectionsOf_flatDocument (shape : FlatShape) (filled record : Fields) :
    sectionsOf (flatDocument shape filled record) = [.map (flatSection shape filled)] := by
  simp [sectionsOf, flatDocument, Fields.get_eq, fieldsOf, Value.items]

/-! ### Finite content -/

variable {content filled : Fields}

lemma isFinite_flatOptions {v w : Value} (h : flatOptions v = .ok w) : w.IsFinite := by
  unfold flatOptions at h
  cases helements : (v.orElse (.list [])).elements with
  | error f =>
    rw [helements] at h
    cases h
  | ok items =>
    rw [helements] at h
    cases h
    refine (Value.isDocumentOf_list _).mpr ?_
    intro w hw
    obtain ⟨e, -, rfl⟩ := List.mem_map.mp hw
    simp [flatOption]

lemma isFinite_flatQuestion? {v w : Value} {index : Nat} (hv : v.IsFinite)
    (h : (flatQuestion? v index).result = .ok (some w)) : w.IsFinite := by
  cases v with
  | map q =>
    have hq := (Value.isDocumentOf_map q).mp hv
    obtain ⟨options, hoptions, h⟩ := (Traced.bind_eq_ok _ _ _).mp h
    rw [Traced.result_lift] at hoptions
    cases h
    simp [isFinite_flatOptions hoptions, hq.get, hq.getD]
  | _ =>
    obtain ⟨-, -, h⟩ := (Traced.bind_eq_ok _ _ _).mp h
    cases h

lemma isFinite_flatQuiz (hc : content.IsFinite) (h : (flatQuiz content).result = .ok filled) :
    filled.IsFinite := by
  obtain ⟨questions, hquestions, h⟩ := (Traced.bind_eq_ok _ _ _).mp h
  cases h
  obtain ⟨os, hos, rfl⟩ := (Traced.filterMap_eq_ok _ _ _).mp hquestions
  have hall (w : Value) (hw : w ∈ os.filterMap id) : w.IsFinite := by
    obtain ⟨o, ho, rfl⟩ := List.mem_filterMap.mp hw
    obtain ⟨e, he, hquestion⟩ := hos.exists_of_mem_right ho
    exact isFinite_flatQuestion? ((hc.get _).items _ (List.fst_mem_of_mem_zipIdx he)) hquestion
  simpa using hall

lemma isFinite_flatDeck (hc : content.IsFinite) : (flatDeck content).IsFinite := by
  have hall (w : Value) (hw : w ∈ (content.get "cards").items.zipIdx.filterMap fun e =>
      flatCard? e.1 e.2) : w.IsFinite := by
    obtain ⟨⟨v, index⟩, he, hcard⟩ := List.mem_filterMap.mp hw
    have hv := (hc.get _).items v (List.fst_mem_of_mem_zipIdx he)
    cases v with
    | map card =>
      cases hcard
      simp [((Value.isDocumentOf_map card).mp hv).get]
    | _ => cases hcard
  simpa [flatDeck] using hall

lemma result_toPair (g : CardGroup) (n : Nat) : (g.toPair n).result = .ok (g.pair n) := by
  unfold CardGroup.toPair
  split_ifs <;> rfl

/-- A pair holds nothing but texts. -/
lemma isFinite_pair (g : CardGroup) (n : Nat) : (g.pair n).IsFinite := by
  unfold CardGroup.pair
  rcases g.cards with - | ⟨first, - | ⟨second, rest⟩⟩ <;> simp

lemma isFinite_flatMatching (h : (flatMatching content).result = .ok filled) :
    filled.IsFinite := by
  obtain ⟨pairs, hpairs, h⟩ := (Traced.bind_eq_ok _ _ _).mp h
  cases h
  have hall (w : Value) (hw : w ∈ pairs) : w.IsFinite := by
    obtain ⟨e, -, hpair⟩ := ((Traced.traverse_eq_ok _ _ _).mp hpairs).exists_of_mem_right hw
    rw [result_toPair] at hpair
    cases hpair
    exact isFinite_pair e.1 e.2
  simpa using hall

lemma isFinite_flatContent {shape : FlatShape} (hc : content.IsFinite)
    (h : (flatContent content shape).result = .ok filled) : filled.IsFinite := by
  cases shape with
  | quiz => exact isFinite_flatQuiz hc h
  | flashcards =>
    cases h
    exact isFinite_flatDeck hc
  | matching => exact isFinite_flatMatching h

/-- The section that flat content of finite floats becomes has finite floats. -/
lemma isFinite_flatSection {shape : FlatShape} (hc : content.IsFinite)
    (h : (flatContent content shape).result = .ok filled) : (flatSection shape filled).IsFinite := by
  have hfilled := isFinite_flatContent hc h
  simp [flatSection, hfilled, hfilled.get]

end LearningGame.Completion
