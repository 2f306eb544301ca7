import LearningGame.Proofs.Schema.Reading
import LearningGame.Content.Game

/-!
# Games that are read

The parts of a document that the sections of a game and their order are read from. The kind of a
section and that of its content are read apart from each other.
-/

namespace LearningGame

open Schema Content RecordOf

/-- A game is read with its content and its order of play. -/
lemma Game.of_read {m : Fields} {g : Game} (h : codec.read (.map m) = .valid g) :
    (∃ v, given? m "content" = some v ∧ Script.codec.read v = .valid g.content) ∧
      ∃ v, given? m "progression" = some v ∧ Progression.codec.read v = .valid g.progression := by
  simp only [codec, read_codec_eq_valid, readsAs_apply, readsAs_build, read_required_eq_valid,
    Value.map.injEq, exists_eq_left'] at h
  obtain ⟨-, -, -, -, -, -, -, -, content, hcontent, progression, hprogression, -, -, rfl⟩ := h
  exact ⟨hcontent, hprogression⟩

namespace Content

lemma Script.of_read {m : Fields} {c : Script} (h : codec.read (.map m) = .valid c) :
    ∃ items, given? m "sections" = some (.list items) ∧
      List.Forall₂ (fun v s => Section.codec.read v = .valid s) items c.sections := by
  simp only [codec, read_codec_eq_valid, readsAs_apply, readsAs_build, read_required_eq_valid,
    Codec.read_list_eq_valid, Value.map.injEq, exists_eq_left'] at h
  obtain ⟨-, -, sections, ⟨-, hgiven, items, rfl, hsections⟩, -, -, rfl⟩ := h
  exact ⟨items, hgiven, hsections⟩

/-- A content is read as the kind that its tag names. -/
lemma SectionContent.of_read {m : Fields} {c : SectionContent} (h : read (.map m) = .valid c) :
    ∃ name, m.find? "type" = some (.str name) ∧ Named.find? name = some c.kind ∧
      readAs m c.kind = .valid c := by
  have hkind (kind : SectionKind) (hc : readAs m kind = .valid c) : kind = c.kind := by
    cases kind <;> obtain ⟨a, -, rfl⟩ := (Checked.map_eq_valid _ _ _).mp hc <;> rfl
  unfold read at h
  dsimp only at h
  split at h
  · simp at h
  · rename_i tag htag
    split at h
    · rename_i kind hfound
      have hc := (Checked.under_eq_valid _ _ _).mp h
      cases hkind kind hc
      cases tag with
      | str name => exact ⟨name, htag, hfound, hc⟩
      | _ => cases hfound
    · simp at h

lemma Section.of_read {m : Fields} {s : Section} (h : codec.read (.map m) = .valid s) :
    given? m "id" = some (.str s.id) ∧
      (∃ name, given? m "type" = some (.str name) ∧ Named.find? name = some s.kind) ∧
      ∃ v, given? m "content" = some v ∧ SectionContent.read v = .valid s.content := by
  simp only [codec, read_codec_eq_valid, readsAs_apply, readsAs_build, read_required_eq_valid,
    Codec.read_text_eq_valid, Codec.read_named_eq_valid, exists_eq_right, Value.map.injEq,
    exists_eq_left'] at h
  obtain ⟨id, hid, -, -, -, -, kind, ⟨v, hv, name, rfl, hname⟩, content, hcontent, -, -, rfl⟩ := h
  exact ⟨hid, ⟨name, hv, hname⟩, hcontent⟩

lemma Progression.of_read {m : Fields} {p : Progression} (h : codec.read (.map m) = .valid p)
    {v : Value} (hv : given? m "sectionOrder" = some v) :
    (Codec.list .text).optional.read v = .valid p.sectionOrder := by
  simp only [codec, read_codec_eq_valid, readsAs_apply, readsAs_build, RecordOf.optional,
    read_field_eq_valid, hv, Value.map.injEq, exists_eq_left'] at h
  obtain ⟨-, -, order, horder, -, -, -, -, -, -, rfl⟩ := h
  simpa using horder

/-- An order of play is read as the texts that it lists. -/
lemma read_order_eq_some (order : List String) (o : Option (List String)) :
    (Codec.list .text).optional.read (.list (order.map .str)) = .valid o ↔ o = some order := by
  cases o with
  | none => simp [Codec.read_optional_eq_none]
  | some names =>
    simp only [Codec.read_optional_eq_some, Codec.read_list_eq_valid, Value.list.injEq,
      exists_eq_left', List.forall₂_map_left_iff, Codec.read_text_eq_valid, Value.str.injEq,
      List.forall₂_eq_eq_eq, Option.some.injEq]
    simp [eq_comm]

end Content

end LearningGame
