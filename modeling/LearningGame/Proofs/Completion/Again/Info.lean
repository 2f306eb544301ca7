import LearningGame.Completion.Info
import LearningGame.Proofs.Completion.Again
import LearningGame.Proofs.Content.Restored

/-!
# Filling reading matter again

Reading matter that was filled is left as it is: it has a title, and all blocks are of known kinds.
-/

namespace LearningGame

open Schema RecordOf Content Completion

namespace Content

/-- What filling makes sure of in reading matter. -/
structure Info.IsComplete (z : Info) : Prop where
  title : z.title ≠ ""
  restores : fields.Restores z z

lemma Info.of_read {m : Fields} {z : Info} (h : fields.read m = .valid z) {v w : Value}
    (hv : m.find? "title" = some v) (hw : m.find? "content" = some w) :
    v = .str z.title ∧ InfoBlock.codec.list.read w = .valid z.blocks := by
  rw [read_eq_valid_iff] at h
  simp only [fields, readsAs_apply, readsAs_build, withDefault, read_field_of_find? _ _ hv,
    read_field_of_find? _ _ hw, Codec.read_text_eq_valid] at h
  obtain ⟨_, htitle, _, hblocks, rfl⟩ := h
  exact ⟨htitle, hblocks⟩

lemma Info.restores (z : Info) (h : InfoBlock.codec.list.Restores z.blocks z.blocks) :
    fields.Restores z z :=
  restores_fields (spells_build (r := z) (s := z) _ |>.withDefault rfl (Codec.isExact_text _)
    |>.withDefault rfl h) (by decide)

end Content

namespace Completion

lemma isFinite_fillBlock {v : Value} (h : v.IsFinite) : (fillBlock v).IsFinite := by
  cases v with
  | map m =>
    have hm := (Value.isDocumentOf_map m).mp h
    unfold fillBlock
    dsimp only
    split_ifs
    · exact hm
    · exact hm.put (.str _)
  | _ => simp [fillBlock]

lemma isFinite_blocksOf {v : Value} (h : v.IsFinite) : ∀ w ∈ blocksOf v, w.IsFinite := by
  cases v with
  | str s => simp [blocksOf]
  | _ => exact h.items

lemma isComplete_of_fillInfo {title : Value} {content : Fields} {z : Info}
    (hfinite : content.IsFinite) (htitle : title.truthy = true)
    (hz : Info.fields.read (fillInfo title content) = .valid z) : z.IsComplete := by
  obtain ⟨hread, hblocks⟩ := Info.of_read hz (v := (content.get "title").orElse title)
    (w := mapList ((blocksOf (content.get "content")).map fillBlock)) (by simp [fillInfo])
    (by simp [fillInfo])
  refine ⟨?_, Info.restores z (InfoBlock.isFaithful.list _ _ (isFinite_mapList ?_) hblocks)⟩
  · have htruthy := truthy_orElse (content.get "title") title htitle
    rw [hread] at htruthy
    simpa [Value.truthy] using htruthy
  · intro m hm
    obtain ⟨w, hw, rfl⟩ := List.mem_map.mp hm
    exact isFinite_fillBlock (isFinite_blocksOf (hfinite.get _) w hw)

lemma fillBlock_written (b : InfoBlock) :
    fillBlock (.map (InfoBlock.codec.written b)) = InfoBlock.codec.written b := by
  have hkind : Fields.find? (InfoBlock.codec.written b) "type" =
      some (.str (Named.name b.kind)) := by
    simp [InfoBlock.codec]
  have hknown : (Named.names BlockKind).contains (Named.name b.kind) = true := by
    cases b.kind <;> decide
  unfold fillBlock
  dsimp only
  rw [Fields.get_eq, hkind, if_pos]
  exact hknown

/-- Complete reading matter that is filled again is left as it is. -/
lemma fillInfo_written {z : Info} (h : z.IsComplete) (title tag : Value) :
    fillInfo title ((.text "type", tag) :: Info.fields.write false z) =
      (.text "type", tag) :: Info.fields.write false z := by
  obtain ⟨content, hcontent⟩ : ∃ content : Fields,
    (.text "type", tag) :: Info.fields.write false z = content := ⟨_, rfl⟩
  have htitle : content.find? "title" = some (.str z.title) := by
    simp [← hcontent, Info.fields]
  have hblocks : content.find? "content" =
      some (mapList (z.blocks.map InfoBlock.codec.written)) := by
    rw [← write_list_eq fun _ => rfl]
    simp [← hcontent, Info.fields]
  have hsame : (blocksOf (mapList (z.blocks.map InfoBlock.codec.written))).map fillBlock =
      z.blocks.map InfoBlock.codec.written := by
    show ((z.blocks.map InfoBlock.codec.written).map Value.map).map fillBlock = _
    rw [List.map_map, List.map_map]
    exact List.map_congr_left fun b _ => fillBlock_written b
  rw [hcontent]
  unfold fillInfo
  dsimp only
  rw [Fields.get_eq, htitle, Option.getD_some, orElse_str h.title, Fields.put_of_find? htitle,
    Fields.get_eq, hblocks, Option.getD_some, hsame, Fields.put_of_find? hblocks]

end Completion

end LearningGame
