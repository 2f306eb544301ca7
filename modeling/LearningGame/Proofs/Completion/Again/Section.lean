import LearningGame.Proofs.Completion.Again.Quiz
import LearningGame.Proofs.Completion.Again.Cards
import LearningGame.Proofs.Completion.Again.Narrative
import LearningGame.Proofs.Completion.Again.Simulation
import LearningGame.Proofs.Completion.Again.Exploration
import LearningGame.Proofs.Completion.Again.Challenge
import LearningGame.Proofs.Completion.Again.Info
import LearningGame.Proofs.Completion.Document
import LearningGame.Proofs.Content.Game

/-!
# Filling sections again

What holds for the content of every kind holds for sections: what was filled is read as it was when
it is written and filled again, up to multiple-choice questions with a single index.
-/

namespace LearningGame

open Schema RecordOf Content Completion

/-! ### Contents -/

namespace Content.SectionContent

/-- A content as it is filled again. -/
def settled : SectionContent → SectionContent
  | .quiz z => .quiz z.settled
  | .simulation z => .simulation z.settled
  | c => c

/-- What filling makes sure of in a content. -/
def IsComplete : SectionContent → Prop
  | .quiz z => z.IsComplete
  | .flashcards z => z.IsComplete
  | .matching z => z.IsComplete
  | .sorting z => z.IsComplete
  | .narrative z => z.IsComplete
  | .simulation z => z.IsComplete
  | .exploration z => z.IsComplete
  | .challenge z => z.IsComplete
  | .info z => z.IsComplete

/-- Whether no question of a content has a single index in place of a list of indices. -/
def IsSettled : SectionContent → Prop
  | .quiz z => ∀ q ∈ z.questions, ¬q.IsSingle
  | _ => True

lemma readAs_put_type (m : Fields) (v : Value) (kind : SectionKind) :
    readAs (m.put "type" v) kind = readAs m kind := by
  cases kind <;> simp (disch := decide) only [readAs, Quiz.fields, Flashcards.fields,
    Matching.fields, Sorting.fields, Narrative.fields, Simulation.fields, Exploration.fields,
    Challenge.fields, Info.fields, RecordOf.apply, required, withDefault, RecordOf.optional,
    read_field_put_of_ne] <;> rfl

lemma readAs_cons_type (m : Fields) (v : Value) (kind : SectionKind) :
    readAs ((.text "type", v) :: m) kind = readAs m kind := by
  cases kind <;> simp (disch := decide) only [readAs, Quiz.fields, Flashcards.fields,
    Matching.fields, Sorting.fields, Narrative.fields, Simulation.fields, Exploration.fields,
    Challenge.fields, Info.fields, RecordOf.apply, required, withDefault, RecordOf.optional,
    read_field_cons_of_ne] <;> rfl

/-- A content with the tag of a kind is read as that kind. -/
lemma read_of_tag {m : Fields} {kind : SectionKind}
    (h : m.find? "type" = some (.str (Named.name kind))) (c : SectionContent) :
    read (.map m) = .valid c ↔ readAs m kind = .valid c := by
  unfold read
  simp only [h, LawfulNamed.find?_name, Checked.under_eq_valid]

lemma restores_of_readAs {c d : SectionContent} (h : readAs (c.writeFields false) c.kind = .valid d)
    (hsame : same c d = true) : codec.Restores c d where
  read := by
    have htag : Fields.find? ((.text "type", .str (Named.name c.kind)) :: c.writeFields false)
        "type" = some (.str (Named.name c.kind)) := by simp
    refine (read_of_tag htag d).mpr ?_
    rw [readAs_cons_type]
    exact h
  same := hsame

/-- A complete content is equal to what it is read as once it has been written. -/
lemma IsComplete.restores {c : SectionContent} (h : c.IsComplete) : ∃ d, codec.Restores c d := by
  cases c with
  | quiz z =>
    exact ⟨.quiz z, restores_of_readAs ((Checked.map_eq_valid _ _ _).mpr
      ⟨z, z.restores.read, rfl⟩) z.restores.same⟩
  | flashcards z =>
    exact ⟨.flashcards z, restores_of_readAs ((Checked.map_eq_valid _ _ _).mpr
      ⟨z, z.restores.read, rfl⟩) z.restores.same⟩
  | matching z =>
    exact ⟨.matching z, restores_of_readAs ((Checked.map_eq_valid _ _ _).mpr
      ⟨z, z.restores.read, rfl⟩) z.restores.same⟩
  | sorting z =>
    exact ⟨.sorting z, restores_of_readAs ((Checked.map_eq_valid _ _ _).mpr
      ⟨z, z.restores.read, rfl⟩) z.restores.same⟩
  | challenge z =>
    exact ⟨.challenge z, restores_of_readAs ((Checked.map_eq_valid _ _ _).mpr
      ⟨z, z.restores.read, rfl⟩) z.restores.same⟩
  | narrative z =>
    have hz := Narrative.IsComplete.restores h
    exact ⟨.narrative z, restores_of_readAs ((Checked.map_eq_valid _ _ _).mpr
      ⟨z, hz.read, rfl⟩) hz.same⟩
  | simulation z =>
    have hz := Simulation.IsComplete.restores h
    exact ⟨.simulation z.settled, restores_of_readAs ((Checked.map_eq_valid _ _ _).mpr
      ⟨z.settled, hz.read, rfl⟩) hz.same⟩
  | exploration z =>
    have hz := Exploration.IsComplete.restores h
    exact ⟨.exploration z, restores_of_readAs ((Checked.map_eq_valid _ _ _).mpr
      ⟨z, hz.read, rfl⟩) hz.same⟩
  | info z =>
    have hz := Info.IsComplete.restores h
    exact ⟨.info z, restores_of_readAs ((Checked.map_eq_valid _ _ _).mpr
      ⟨z, hz.read, rfl⟩) hz.same⟩

/-- Filling a complete content again changes it exactly if it is not settled. -/
lemma same_settled {c : SectionContent} (h : c.IsComplete) :
    same c c.settled = true ↔ c.IsSettled := by
  cases c with
  | quiz z => exact z.same_settled
  | flashcards z => exact iff_of_true z.restores.same trivial
  | matching z => exact iff_of_true z.restores.same trivial
  | sorting z => exact iff_of_true z.restores.same trivial
  | challenge z => exact iff_of_true z.restores.same trivial
  | narrative z => exact iff_of_true (Narrative.IsComplete.restores h).same trivial
  | simulation z => exact iff_of_true (Simulation.IsComplete.restores h).same trivial
  | exploration z => exact iff_of_true (Exploration.IsComplete.restores h).same trivial
  | info z => exact iff_of_true (Info.IsComplete.restores h).same trivial

end Content.SectionContent

namespace Completion

/-- A content that was filled is complete. -/
lemma isComplete_of_fillContent {kind : SectionKind} {points : Int} {title : Value}
    {content filled : Fields} {c : SectionContent} (hfinite : content.IsFinite)
    (htitle : title.truthy = true)
    (h : (fillContent kind points title content).result = .ok filled)
    (hc : SectionContent.readAs filled kind = .valid c) : c.IsComplete ∧ c.kind = kind := by
  cases kind with
  | quiz =>
    obtain ⟨z, hz, rfl⟩ := (Checked.map_eq_valid _ _ _).mp hc
    exact ⟨isComplete_of_fillQuiz h hz, rfl⟩
  | flashcards =>
    obtain ⟨z, hz, rfl⟩ := (Checked.map_eq_valid _ _ _).mp hc
    exact ⟨isComplete_of_fillFlashcards h hz, rfl⟩
  | matching =>
    obtain ⟨z, hz, rfl⟩ := (Checked.map_eq_valid _ _ _).mp hc
    exact ⟨isComplete_of_fillMatching h hz, rfl⟩
  | sorting =>
    obtain ⟨z, hz, rfl⟩ := (Checked.map_eq_valid _ _ _).mp hc
    exact ⟨isComplete_of_fillSorting h hz, rfl⟩
  | narrative =>
    obtain ⟨z, hz, rfl⟩ := (Checked.map_eq_valid _ _ _).mp hc
    exact ⟨isComplete_of_fillNarrative hfinite h hz, rfl⟩
  | simulation =>
    obtain ⟨z, hz, rfl⟩ := (Checked.map_eq_valid _ _ _).mp hc
    exact ⟨isComplete_of_fillSimulation hfinite h hz, rfl⟩
  | exploration =>
    obtain ⟨z, hz, rfl⟩ := (Checked.map_eq_valid _ _ _).mp hc
    exact ⟨isComplete_of_fillExploration hfinite h hz, rfl⟩
  | challenge =>
    obtain ⟨z, hz, rfl⟩ := (Checked.map_eq_valid _ _ _).mp hc
    exact ⟨isComplete_of_fillChallenge h hz, rfl⟩
  | info =>
    obtain ⟨z, hz, rfl⟩ := (Checked.map_eq_valid _ _ _).mp hc
    cases h
    exact ⟨isComplete_of_fillInfo hfinite htitle hz, rfl⟩

/-- A complete content that is filled again is read as the settled one. -/
lemma fillContent_written {c : SectionContent} (h : c.IsComplete) (points : Int)
    (title tag : Value) :
    ∃ filled, (fillContent c.kind points title ((.text "type", tag) :: c.writeFields false)).result =
      .ok filled ∧ SectionContent.readAs filled c.kind = .valid c.settled := by
  cases c with
  | quiz z =>
    obtain ⟨filled, hfill, hread⟩ := fillQuiz_written h points tag
    exact ⟨filled, hfill, (Checked.map_eq_valid _ _ _).mpr ⟨_, hread, rfl⟩⟩
  | flashcards z =>
    refine ⟨_, fillFlashcards_written h tag, ?_⟩
    rw [SectionContent.readAs_cons_type]
    exact (Checked.map_eq_valid _ _ _).mpr ⟨z, z.restores.read, rfl⟩
  | matching z =>
    refine ⟨_, fillMatching_written h tag, ?_⟩
    rw [SectionContent.readAs_cons_type]
    exact (Checked.map_eq_valid _ _ _).mpr ⟨z, z.restores.read, rfl⟩
  | sorting z =>
    refine ⟨_, fillSorting_written h tag, ?_⟩
    rw [SectionContent.readAs_cons_type]
    exact (Checked.map_eq_valid _ _ _).mpr ⟨z, z.restores.read, rfl⟩
  | narrative z =>
    obtain ⟨filled, hfill, hread⟩ := fillNarrative_written h tag
    exact ⟨filled, hfill, (Checked.map_eq_valid _ _ _).mpr ⟨_, hread, rfl⟩⟩
  | simulation z =>
    refine ⟨_, fillSimulation_written h tag, ?_⟩
    rw [SectionContent.readAs_cons_type]
    exact (Checked.map_eq_valid _ _ _).mpr ⟨_, Simulation.IsComplete.restores h |>.read, rfl⟩
  | exploration z =>
    refine ⟨_, fillExploration_written h tag, ?_⟩
    rw [SectionContent.readAs_cons_type]
    exact (Checked.map_eq_valid _ _ _).mpr ⟨z, Exploration.IsComplete.restores h |>.read, rfl⟩
  | challenge z =>
    refine ⟨_, fillChallenge_written h points tag, ?_⟩
    rw [SectionContent.readAs_cons_type]
    exact (Checked.map_eq_valid _ _ _).mpr ⟨z, z.restores.read, rfl⟩
  | info z =>
    refine ⟨_, congrArg Except.ok (fillInfo_written h title tag), ?_⟩
    rw [SectionContent.readAs_cons_type]
    exact (Checked.map_eq_valid _ _ _).mpr ⟨z, Info.IsComplete.restores h |>.read, rfl⟩

end Completion

/-! ### Sections -/

namespace Content

/-- What filling makes sure of in a section. -/
structure Section.IsComplete (s : Section) : Prop where
  id : Text.isBlankText s.id = false
  title : s.title ≠ ""
  kind : s.content.kind = s.kind
  content : s.content.IsComplete
  unlockCondition : UnlockCondition.codec.optional.Restores s.unlockCondition s.unlockCondition

/-- A section as it is filled again. -/
def Section.settled (s : Section) : Section := { s with content := s.content.settled }

/-- A section is read with its title and what opens it. -/
lemma Section.title_of_read {m : Fields} {s : Section} (h : codec.read (.map m) = .valid s)
    {v : Value} (hv : m.find? "title" = some v) :
    v = .str s.title ∧ (RecordOf.optional "unlockCondition" UnlockCondition.codec
      Section.unlockCondition).read m = .valid s.unlockCondition := by
  simp only [codec, read_codec_eq_valid, readsAs_apply, readsAs_build, required,
    read_field_of_find? _ _ hv, Codec.read_text_eq_valid, Value.map.injEq, exists_eq_left'] at h
  obtain ⟨-, -, title, htitle, -, -, -, -, -, -, unlock, hunlock, rfl⟩ := h
  exact ⟨htitle, hunlock⟩

lemma Section.IsComplete.restores {s : Section} (h : s.IsComplete) :
    ∃ d, codec.Restores s { s with content := d } := by
  obtain ⟨d, hd⟩ := h.content.restores
  exact ⟨d, restores_codec (spells_build (r := s) (s := { s with content := d }) _
    |>.required rfl (Codec.isExact_text _) |>.required rfl (Codec.isExact_text _)
    |>.optional (Codec.isExact_text.optional Codec.isSolid_text _)
    |>.required rfl (Codec.isExact_named _) |>.required rfl hd |>.optional h.unlockCondition)
    (by decide) _⟩

lemma Section.read_put_content {m : Fields} {s : Section} {v : Value} {c : SectionContent}
    (h : codec.read (.map m) = .valid s) (hv : SectionContent.read v = .valid c) :
    codec.read (.map (m.put "content" v)) = .valid { s with content := c } := by
  simp only [codec, read_codec_eq_valid, readsAs_apply, readsAs_build, Value.map.injEq,
    exists_eq_left', required, RecordOf.optional] at h ⊢
  simp (disch := decide) only [read_field_put_of_ne]
  obtain ⟨id, hid, title, htitle, description, hdescription, kind, hkind, -, -, unlock, hunlock,
    rfl⟩ := h
  exact ⟨id, hid, title, htitle, description, hdescription, kind, hkind, c,
    read_field_put_self "content" SectionContent.codec hv, unlock, hunlock, rfl⟩

lemma Section.same_settled {s : Section} (h : s.IsComplete) :
    codec.same s s.settled = true ↔ s.content.IsSettled := by
  have hid : Codec.text.same s.id s.id = true := (Codec.isExact_text _).same
  have htitle : Codec.text.same s.title s.title = true := (Codec.isExact_text _).same
  have htext : Codec.text.optional.same s.description s.description = true :=
    (Codec.isExact_text.optional Codec.isSolid_text _).same
  have hkind : Codec.named.same s.kind s.kind = true := (Codec.isExact_named _).same
  rw [← SectionContent.same_settled h.content]
  show (true && Codec.text.same s.id s.id && Codec.text.same s.title s.title &&
    Codec.text.optional.same s.description s.description && Codec.named.same s.kind s.kind &&
    SectionContent.same s.content s.content.settled &&
    UnlockCondition.codec.optional.same s.unlockCondition s.unlockCondition) = true ↔ _
  simp only [hid, htitle, htext, hkind, h.unlockCondition.same, Bool.and_true, Bool.true_and]

end Content

namespace Completion

/-- The title that a section gets counts as true. -/
lemma truthy_titleOf (m : Fields) (index : Int) : (titleOf m index).truthy = true := by
  refine truthy_orElse _ _ ?_
  have hne : "Section " ++ Number.intText (index + 1) ≠ "" := by
    intro h
    have hlength := congrArg String.length h
    simp at hlength
  simp [Value.truthy, hne]

lemma isFinite_fieldsOf {v : Value} (h : v.IsFinite) : (fieldsOf v).IsFinite := by
  cases v with
  | map m => exact (Value.isDocumentOf_map m).mp h
  | _ => exact Fields.isDocumentOf_nil

lemma find?_title_withContent (m : Fields) (index : Int) (kind : SectionKind) (filled : Fields) :
    ∃ v, (withContent m index kind filled).find? "title" = some v ∧ v.truthy = true := by
  obtain ⟨v, hv, htruthy⟩ := exists_truthy_of_put (fillId m ("section" ++ Number.intText (index + 1)))
    "title" (truthy_titleOf m index)
  exact ⟨v, by simp [withContent, hv], htruthy⟩

/-- Filling a section leaves what opens it as it is. -/
lemma read_unlockCondition_withContent (m : Fields) (index : Int) (kind : SectionKind)
    (filled : Fields) :
    (RecordOf.optional "unlockCondition" UnlockCondition.codec Section.unlockCondition).read
        (withContent m index kind filled) =
      (RecordOf.optional "unlockCondition" UnlockCondition.codec Section.unlockCondition).read m := by
  unfold withContent fillId
  dsimp only
  split_ifs <;> simp (disch := decide) only [RecordOf.optional, read_field_put_of_ne]

/-- The content of a section is read from what was filled for it. -/
lemma readAs_of_read_withContent {n : Fields} {index : Int} {kind : SectionKind} {filled : Fields}
    {s : Section} (hs : Section.codec.read (.map (withContent n index kind filled)) = .valid s) :
    SectionContent.readAs filled kind = .valid s.content := by
  obtain ⟨-, -, w, hw, hread⟩ := Section.of_read hs
  have hcontent : (withContent n index kind filled).find? "content" =
      some (.map (filled.put "type" (Named.name kind))) := by simp [withContent]
  rw [given?_of_find? hcontent] at hw
  cases hw
  have htag : (filled.put "type" (Named.name kind)).find? "type" =
      some (.str (Named.name kind)) := by simp
  rwa [SectionContent.read_of_tag htag, SectionContent.readAs_put_type] at hread

/-- A section that was filled is complete. -/
lemma isComplete_of_fillSection {v : Value} {index points : Int} {m : Fields} {s : Section}
    (hv : v.IsFinite) (h : (fillSection v index points).result = .ok (some m))
    (hs : Section.codec.read (.map m) = .valid s) : s.IsComplete := by
  obtain ⟨n, rfl, h⟩ := (fillSection_eq_some v index points m).mp h
  have hn := (Value.isDocumentOf_map n).mp hv
  obtain ⟨kind, filled, -, hfilled, rfl⟩ := (fillKnownSection_eq_some n m index points).mp h
  have hfill := isFilled_withContent n index kind filled
  obtain ⟨-, hid, hkind⟩ := isFilled_section hfill hs
  obtain ⟨title, htitle, htruthy⟩ := find?_title_withContent n index kind filled
  obtain ⟨htext, hunlock⟩ := Section.title_of_read hs htitle
  rw [read_unlockCondition_withContent] at hunlock
  refine ⟨hid, ?_, hkind, ?_, restores_of_optional hn.showsFinite hunlock
    UnlockCondition.isFaithful (isSolid_codec _ _)⟩
  · rw [htext] at htruthy
    simpa [Value.truthy] using htruthy
  · exact (isComplete_of_fillContent (isFinite_fieldsOf (hn.get _)) (truthy_titleOf n index)
      hfilled (readAs_of_read_withContent hs)).1

/-- A complete section that is filled again is read as the settled one. -/
lemma fillSection_written {s : Section} (h : s.IsComplete) (index points : Int) :
    ∃ m, (fillSection (.map (Section.codec.written s)) index points).result = .ok (some m) ∧
      Section.codec.read (.map m) = .valid s.settled ∧ textAt m "id" = s.id := by
  have hid : (Section.codec.written s).find? "id" = some (.str s.id) := by simp [Section.codec]
  have htitle : (Section.codec.written s).find? "title" = some (.str s.title) := by
    simp [Section.codec]
  have htype : (Section.codec.written s).find? "type" = some (.str (Named.name s.kind)) := by
    simp [Section.codec]
  have hcontent : (Section.codec.written s).find? "content" = some (.map
      ((.text "type", .str (Named.name s.content.kind)) :: s.content.writeFields false)) := by
    simp [Section.codec]
    exact ⟨rfl, rfl⟩
  have hkind : kindOf? (Section.codec.written s) = some s.kind := by
    have hne : Named.name s.kind ≠ "" := by cases s.kind <;> decide
    unfold kindOf?
    rw [Fields.get_eq, htype, Option.getD_some, orElse_str hne]
    exact LawfulNamed.find?_name s.kind
  obtain ⟨filled, hfill, hread⟩ := fillContent_written h.content points
    (titleOf (Section.codec.written s) index) (.str (Named.name s.content.kind))
  have hwith : withContent (Section.codec.written s) index s.kind filled =
      (Section.codec.written s).put "content" (.map (filled.put "type" (Named.name s.kind))) := by
    unfold withContent
    dsimp only
    rw [fillId_of_find? hid h.id, if_pos, Fields.put_of_find? htype]
    rw [Fields.get_eq, htitle]
    simp [Value.truthy, h.title]
  refine ⟨_, (fillSection_eq_some _ _ _ _).mpr ⟨_, rfl, (fillKnownSection_eq_some _ _ _ _).mpr
    ⟨s.kind, filled, hkind, ?_, rfl⟩⟩, ?_, ?_⟩
  · rw [Fields.get_eq _ "content", hcontent, ← h.kind]
    exact hfill
  · obtain ⟨d, hd⟩ := h.restores
    have htag : (filled.put "type" (Named.name s.kind)).find? "type" =
        some (.str (Named.name s.kind)) := by simp
    have hnew : SectionContent.read (.map (filled.put "type" (Named.name s.kind))) =
        .valid s.content.settled := by
      rw [SectionContent.read_of_tag htag, SectionContent.readAs_put_type, ← h.kind]
      exact hread
    rw [hwith]
    exact Section.read_put_content (s := { s with content := d }) hd.read hnew
  · rw [hwith]
    exact textAt_of_find? (by simp [hid])

/-! ### Lists of sections -/

/-- Sections that are kept have been filled, each from one that was given. -/
lemma exists_of_mem_fillSections {points : Int} {seen : List String} {index : Nat}
    {raws : List Value} {ms : List Fields}
    (h : (fillSections points seen index raws).result = .ok ms) {m : Fields} (hm : m ∈ ms) :
    ∃ v ∈ raws, ∃ i, (fillSection v i points).result = .ok (some m) := by
  induction raws generalizing seen index ms with
  | nil =>
    cases h
    cases hm
  | cons raw rest ih =>
    have hrest {seen : List String} {ms : List Fields} (hmem : m ∈ ms)
        (h : (fillSections points seen (index + 1) rest).result = .ok ms) :
        ∃ v ∈ raw :: rest, ∃ i, (fillSection v i points).result = .ok (some m) := by
      obtain ⟨v, hv, hfill⟩ := ih h hmem
      exact ⟨v, List.mem_cons_of_mem _ hv, hfill⟩
    obtain ⟨o, ho, h⟩ := (fillSections_cons_eq_ok seen index raw rest ms).mp h
    cases o with
    | none => exact hrest hm h
    | some n =>
      dsimp only at h
      split_ifs at h
      · exact hrest hm h
      · obtain ⟨others, hothers, rfl⟩ := h
        rcases List.mem_cons.mp hm with rfl | hm
        · exact ⟨raw, List.mem_cons_self, index, ho⟩
        · exact hrest hm hothers

/-- Complete sections with distinct ids that are filled again are read as the settled ones. -/
lemma fillSections_written {sections : List Section} (points : Int) (seen : List String)
    (index : Nat) (h : ∀ s ∈ sections, s.IsComplete) (hn : (sections.map (·.id)).Nodup)
    (hseen : ∀ s ∈ sections, s.id ∉ seen) :
    ∃ ms, (fillSections points seen index
      (sections.map fun s => .map (Section.codec.written s))).result = .ok ms ∧
        List.Forall₂ (fun m s => Section.codec.read (.map m) = .valid s.settled ∧
          textAt m "id" = s.id) ms sections := by
  induction sections generalizing seen index with
  | nil => exact ⟨[], rfl, .nil⟩
  | cons s sections ih =>
    obtain ⟨m, hfill, hread, hid⟩ := fillSection_written (h s List.mem_cons_self) index points
    obtain ⟨hs, hrest⟩ := List.nodup_cons.mp hn
    obtain ⟨ms, hms, hall⟩ := ih (s.id :: seen) (index + 1)
      (fun t ht => h t (List.mem_cons_of_mem _ ht)) hrest fun t ht hmem => by
        rcases List.mem_cons.mp hmem with heq | hmem
        · exact hs (List.mem_map.mpr ⟨t, ht, heq⟩)
        · exact hseen t (List.mem_cons_of_mem _ ht) hmem
    refine ⟨m :: ms, ?_, .cons ⟨hread, hid⟩ hall⟩
    refine (fillSections_cons_eq_ok _ _ _ _ _).mpr ⟨_, hfill, ?_⟩
    dsimp only
    rw [hid, if_neg (by simpa using hseen s List.mem_cons_self)]
    exact ⟨ms, hms, rfl⟩

end Completion

end LearningGame
