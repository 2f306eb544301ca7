import LearningGame.Proofs.Completion.Again.Section
import LearningGame.Proofs.Completion.Fitting

/-!
# Sections that are kept

Of the sections of known kinds with one id the first is kept. The sections of a document are
accepted exactly if those that are kept fit.
-/

namespace LearningGame.Completion

open Content Schema

/-! ### Single sections -/

/-- What a section has to be given beside its content. -/
@[mk_iff] structure FrameFits (m : Fields) (title : Value) : Prop where
  title : Codec.text.Accepts title
  description : Fits Codec.text.optional m "description"
  unlockCondition : Fits UnlockCondition.codec.optional m "unlockCondition"

lemma accepts_sectionContent (kind : SectionKind) (filled : Fields) :
    SectionContent.codec.Accepts (.map (filled.put "type" (Named.name kind))) ↔
      ∃ c, SectionContent.readAs filled kind = .valid c := by
  have htag : (filled.put "type" (Named.name kind)).find? "type" =
      some (.str (Named.name kind)) := by simp
  refine exists_congr fun c => ?_
  exact (SectionContent.read_of_tag htag c).trans (by rw [SectionContent.readAs_put_type])

lemma find?_title_of_withContent (m : Fields) (index : Int) (kind : SectionKind)
    (filled : Fields) :
    (withContent m index kind filled).find? "title" = some (titleOf m index) := by
  unfold withContent titleOf
  dsimp only
  split_ifs with htitle
  · rw [Value.orElse, if_pos htitle]
    rw [Fields.get_eq] at htitle ⊢
    cases hfind : (fillId m ("section" ++ Number.intText (index + 1))).find? "title" with
    | none => simp [hfind, Value.truthy] at htitle
    | some v => simp [hfind]
  · simp

lemma accepts_withContent (m : Fields) (index : Int) (kind : SectionKind) (filled : Fields) :
    Section.codec.Accepts (.map (withContent m index kind filled)) ↔
      FrameFits m (titleOf m index) ∧ ∃ c, SectionContent.readAs filled kind = .valid c := by
  have htitle := find?_title_of_withContent m index kind filled
  have hframe {α : Type} (c : Codec α) {name : String} (hid : "id" ≠ name ∧ "id" ≠ underscored name)
      (htitle : "title" ≠ name ∧ "title" ≠ underscored name)
      (htype : "type" ≠ name ∧ "type" ≠ underscored name)
      (hcontent : "content" ≠ name ∧ "content" ≠ underscored name) :
      Fits c (withContent m index kind filled) name ↔ Fits c m name := by
    unfold withContent fillId
    dsimp only
    split_ifs <;>
      simp only [fits_put_of_ne hid.1 hid.2, fits_put_of_ne htitle.1 htitle.2,
        fits_put_of_ne htype.1 htype.2, fits_put_of_ne hcontent.1 hcontent.2]
  have hid : (withContent m index kind filled).find? "id" =
      some (.str (idOf m ("section" ++ Number.intText (index + 1)))) := by
    unfold withContent
    dsimp only
    split_ifs <;> simp
  have htype : (withContent m index kind filled).find? "type" =
      some (.str (Named.name kind)) := by simp [withContent]
  have hcontent : (withContent m index kind filled).find? "content" =
      some (.map (filled.put "type" (Named.name kind))) := by simp [withContent]
  simp (disch := decide) [Section.codec, fits_of_find? hid, given?_of_find? hid, hframe,
    fits_of_find? htitle, given?_of_find? htitle, fits_of_find? htype, given?_of_find? htype,
    fits_of_find? hcontent, given?_of_find? hcontent, accepts_sectionContent, frameFits_iff]
  tauto

/-- The id that the section at an index gets. -/
def sectionId (e : Value × Nat) : String :=
  idOf (fieldsOf e.1) ("section" ++ Number.intText (e.2 + 1))

/-- What the section at an index has to be given. -/
def SectionFits (e : Value × Nat) : Prop :=
  FrameFits (fieldsOf e.1) (titleOf (fieldsOf e.1) e.2) ∧ ∀ kind, playableKind? e.1 = some kind →
    ContentFits (titleOf (fieldsOf e.1) e.2) (fieldsOf (Fields.get (fieldsOf e.1) "content")) kind

/-- A section that is filled has its id, and is accepted exactly if it fits. -/
lemma accepts_fillSection {v : Value} {index : Nat} {points : Int} {m : Fields}
    (h : (fillSection v index points).result = .ok (some m)) :
    textAt m "id" = sectionId (v, index) ∧
      (Section.codec.Accepts (.map m) ↔ SectionFits (v, index)) := by
  obtain ⟨given, rfl, h⟩ := (fillSection_eq_some _ _ _ _).mp h
  obtain ⟨kind, filled, hkind, hfilled, rfl⟩ := (fillKnownSection_eq_some _ _ _ _).mp h
  constructor
  · refine textAt_of_find? ?_
    unfold withContent
    dsimp only
    split_ifs <;> simp [sectionId, fieldsOf]
  · rw [accepts_withContent, accepts_fillContent hfilled, SectionFits]
    simp [playableKind?, hkind, fieldsOf]

/-! ### Lists of sections -/

/-- The sections that are kept while some ids are taken: of those of known kinds with one id the
first. -/
def keptSections (seen : List String) : List (Value × Nat) → List (Value × Nat)
  | [] => []
  | e :: rest =>
    if (playableKind? e.1).isSome ∧ sectionId e ∉ seen then
      e :: keptSections (sectionId e :: seen) rest
    else keptSections seen rest

/-- Of the sections that are filled those that are kept are left, each of which is accepted exactly
if it fits. -/
lemma forall₂_keptSections {points : Int} {seen : List String} {index : Nat} {raws : List Value}
    {ms : List Fields} (h : (fillSections points seen index raws).result = .ok ms) :
    List.Forall₂ (fun e m => textAt m "id" = sectionId e ∧
      (Section.codec.Accepts (.map m) ↔ SectionFits e))
        (keptSections seen (raws.zipIdx index)) ms := by
  induction raws generalizing seen index ms with
  | nil =>
    cases h
    exact .nil
  | cons v rest ih =>
    obtain ⟨o, ho, h⟩ := (fillSections_cons_eq_ok seen index v rest ms).mp h
    have hnone := fillSection_eq_none_iff ho
    rw [List.zipIdx_cons, keptSections]
    cases o with
    | none =>
      have hkind : playableKind? v = none := hnone.mp rfl
      rw [if_neg (by simp [hkind])]
      exact ih h
    | some m =>
      have hkind : (playableKind? v).isSome = true := by
        rw [Option.isSome_iff_ne_none, Ne, ← hnone]
        exact Option.some_ne_none m
      obtain ⟨hid, haccepts⟩ := accepts_fillSection ho
      dsimp only at h
      rw [hid] at h
      split_ifs at h with hseen
      · -- A section whose id is taken is left out after it has been filled.
        rw [if_neg (by simpa using fun _ => hseen)]
        exact ih h
      · obtain ⟨others, hothers, rfl⟩ := h
        rw [if_pos ⟨hkind, by simpa using hseen⟩]
        exact .cons ⟨hid, haccepts⟩ (ih hothers)

section Filled

variable {points : Int} {seen : List String} {index : Nat} {raws : List Value} {ms : List Fields}

lemma ids_of_fillSections (h : (fillSections points seen index raws).result = .ok ms) :
    (ms.map fun m => textAt m "id") = (keptSections seen (raws.zipIdx index)).map sectionId := by
  rw [eq_comm, ← List.forall₂_eq_eq_eq, List.forall₂_map_left_iff, List.forall₂_map_right_iff]
  exact (forall₂_keptSections h).imp fun _ _ hm => hm.1.symm

/-- Sections are accepted exactly if those that are kept fit. -/
lemma accepts_fillSections (h : (fillSections points seen index raws).result = .ok ms) :
    (∀ m ∈ ms, Section.codec.Accepts (.map m)) ↔
      ∀ e ∈ keptSections seen (raws.zipIdx index), SectionFits e := by
  have hall := forall₂_keptSections h
  constructor
  · intro hms e he
    obtain ⟨m, hm, -, haccepts⟩ := (List.Forall₂.flip hall).exists_of_mem_right he
    exact haccepts.mp (hms m hm)
  · intro hfits m hm
    obtain ⟨e, he, -, haccepts⟩ := hall.exists_of_mem_right hm
    exact haccepts.mpr (hfits e he)

end Filled

lemma mem_of_mem_keptSections {seen : List String} {l : List (Value × Nat)} {e : Value × Nat}
    (h : e ∈ keptSections seen l) : e ∈ l := by
  induction l generalizing seen with
  | nil => exact h
  | cons d l ih =>
    rw [keptSections] at h
    split_ifs at h
    · rcases List.mem_cons.mp h with rfl | h
      · exact List.mem_cons_self
      · exact List.mem_cons_of_mem _ (ih h)
    · exact List.mem_cons_of_mem _ (ih h)

end LearningGame.Completion
