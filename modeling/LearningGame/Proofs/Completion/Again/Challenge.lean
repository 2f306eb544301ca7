import LearningGame.Completion.Challenge
import LearningGame.Proofs.Completion.Again
import LearningGame.Proofs.Content.Restored

/-!
# Filling challenges again

A challenge that was filled is left as it is: every prompt has an answer and points by then.
-/

namespace LearningGame

open Schema RecordOf Content Completion

namespace Content

/-- What filling makes sure of in a challenge. -/
structure Challenge.IsComplete (z : Challenge) : Prop where
  items : ∀ i ∈ z.items, Text.isBlankText i.id = false
  style : z.style ≠ ""

lemma ChallengeItem.id_of_read {m : Fields} {i : ChallengeItem}
    (h : codec.read (.map m) = .valid i) {s : String} (hs : m.find? "id" = some (.str s)) :
    s = i.id := by
  simp only [codec, read_codec_eq_valid, readsAs_apply, readsAs_build, required,
    read_field_of_find? _ _ hs, Codec.read_text_eq_valid, Value.map.injEq, exists_eq_left'] at h
  obtain ⟨id, hid, -, -, -, -, -, -, -, -, -, -, rfl⟩ := h
  exact Value.str.inj hid

lemma Challenge.of_read {m : Fields} {z : Challenge} (h : fields.read m = .valid z) {v w : Value}
    (hv : m.find? "items" = some v) (hw : m.find? "challengeType" = some w) :
    ChallengeItem.codec.list.read v = .valid z.items ∧ w = .str z.style := by
  rw [read_eq_valid_iff] at h
  simp only [fields, readsAs_apply, readsAs_build, required, withDefault,
    read_field_of_find? _ _ hv, read_field_of_find? _ _ hw, Codec.read_text_eq_valid] at h
  obtain ⟨_, hstyle, _, hitems, -, -, -, -, -, -, rfl⟩ := h
  exact ⟨hitems, hstyle⟩

lemma ShortAnswer.toValue_ne_null (a : ShortAnswer) : a.toValue.isNull = false := by
  cases a <;> rfl

end Content

namespace Completion

/-! ### Prompts -/

lemma hasId_of_fillPrompt {points : Int} {item m : Fields} {n : Nat}
    (h : (fillPrompt points item n).result = .ok m) : HasId m := by
  obtain ⟨k, -, rfl⟩ := (fillWhole_eq_ok _ _ _ _).mp h
  have hid := (hasId_fillId item "c" (toString n) (by decide)).put
    (show "prompt" ≠ "id" by decide) (.str (textAt (fillId item ("c" ++ toString n)) "prompt"))
  refine HasId.put ?_ (by decide) _
  split_ifs
  · exact hid.put (by decide) _
  · exact hid

lemma fillPrompt_written {i : ChallengeItem} (h : Text.isBlankText i.id = false) (points : Int)
    (n : Nat) :
    (fillPrompt points (ChallengeItem.codec.written i) n).result =
      .ok (ChallengeItem.codec.written i) := by
  have hanswer : (ChallengeItem.codec.written i).find? "correctAnswer" = some i.answer.toValue := by
    simp [ChallengeItem.codec, ShortAnswer.codec]
  unfold fillPrompt
  rw [fillId_of_find? (s := i.id) (by simp [ChallengeItem.codec]) h,
    fillText_of_find? (s := i.prompt) (by simp [ChallengeItem.codec])]
  dsimp only
  rw [Fields.get_eq, hanswer, Option.getD_some, i.answer.toValue_ne_null]
  exact fillWhole_of_find? (n := i.points) (by simp [ChallengeItem.codec]) points

/-! ### Challenges -/

lemma isComplete_of_fillChallenge {points : Int} {content filled : Fields} {z : Challenge}
    (h : (fillChallenge points content).result = .ok filled)
    (hz : Challenge.fields.read filled = .valid z) : z.IsComplete := by
  obtain ⟨given, -, h⟩ := (Traced.bind_eq_ok _ _ _).mp h
  obtain ⟨items, hitems, h⟩ := (Traced.bind_eq_ok _ _ _).mp h
  obtain ⟨limited, hlimit, h⟩ := (Traced.bind_eq_ok _ _ _).mp h
  obtain ⟨targeted, htarget, h⟩ := (Traced.bind_eq_ok _ _ _).mp h
  obtain ⟨_, -, rfl⟩ := (fillWhole_eq_ok _ _ _ _).mp hlimit
  obtain ⟨_, -, rfl⟩ := (fillWhole_eq_ok _ _ _ _).mp htarget
  obtain ⟨_, -, rfl⟩ := (fillWhole_eq_ok _ _ _ _).mp h
  obtain ⟨hread, hstyle⟩ := Challenge.of_read hz (by simp; rfl) (by simp; rfl)
  refine ⟨fun i hi => ?_, ne_empty_of_orElse (by decide) hstyle⟩
  obtain ⟨m, hm, him⟩ := exists_of_read_mapList hread hi
  obtain ⟨o, -, n, hfill⟩ := exists_of_mem_traverse hitems hm
  exact (hasId_of_fillPrompt hfill).isBlankText fun s hs => ChallengeItem.id_of_read him hs

/-- A complete challenge that is filled again is left as it is. -/
lemma fillChallenge_written {z : Challenge} (h : z.IsComplete) (points : Int) (tag : Value) :
    (fillChallenge points ((.text "type", tag) :: Challenge.fields.write false z)).result =
      .ok ((.text "type", tag) :: Challenge.fields.write false z) := by
  obtain ⟨content, hcontent⟩ : ∃ content : Fields,
    (.text "type", tag) :: Challenge.fields.write false z = content := ⟨_, rfl⟩
  have hitems : content.find? "items" =
      some (mapList (z.items.map ChallengeItem.codec.written)) := by
    rw [← write_list_eq fun _ => rfl]
    simp [← hcontent, Challenge.fields]
  have hstyle : content.find? "challengeType" = some (.str z.style) := by
    simp [← hcontent, Challenge.fields]
  have hlimit : content.find? "timeLimit" = some (.int z.timeLimit) := by
    simp [← hcontent, Challenge.fields]
  have htarget : content.find? "targetScore" = some (.int z.targetScore) := by
    simp [← hcontent, Challenge.fields]
  have hmistakes : content.find? "maxMistakes" = some (.int z.maxMistakes) := by
    simp [← hcontent, Challenge.fields]
  rw [hcontent]
  have hfill := traverse_numbered fun i hi n => fillPrompt_written (h.items i hi) points n
  refine (Traced.bind_eq_ok _ _ _).mpr ⟨_, objects_of_find? hitems _, ?_⟩
  refine (Traced.bind_eq_ok _ _ _).mpr ⟨_, hfill, ?_⟩
  dsimp only
  rw [Fields.get_eq, hstyle, Option.getD_some, orElse_str h.style, Fields.put_of_find? hstyle,
    Fields.put_of_find? hitems]
  refine (Traced.bind_eq_ok _ _ _).mpr ⟨_, fillWhole_of_find? hlimit _, ?_⟩
  refine (Traced.bind_eq_ok _ _ _).mpr ⟨_, fillWhole_of_find? htarget _, ?_⟩
  exact fillWhole_of_find? hmistakes _

end Completion

end LearningGame
