import LearningGame.Proofs.Content.Exact
import LearningGame.Proofs.Traced

/-!
# Data that are restored once they have been read

Data that hold any values, or entries with free names, are read back as they were written if they
have been read from a document of finite floats.
-/

namespace LearningGame.Content

open Schema Codec RecordOf

/-! ### Narratives -/

lemma Condition.isFaithful : Condition.codec.IsFaithful := by
  refine isSound_codec fun m r hm h => ?_
  simp only [readsAs_apply, readsAs_build] at h
  obtain ⟨kind, -, name, -, comparison, -, value, hvalue, rfl⟩ := h
  exact restores_codec (spells_build _ |>.withDefault rfl (isExact_named _)
    |>.withDefault rfl (isExact_text _) |>.withDefault rfl (isExact_named _)
    |>.any (restores_of_withDefault hm hvalue isFaithful_any (restores_any .null))) (by decide) _

lemma Effect.isFaithful : Effect.codec.IsFaithful := by
  refine isSound_codec fun m r hm h => ?_
  simp only [readsAs_apply, readsAs_build] at h
  obtain ⟨kind, -, target, -, value, hvalue, rfl⟩ := h
  exact restores_codec (spells_build _ |>.required rfl (isExact_named _)
    |>.withDefault rfl (isExact_text _)
    |>.any (restores_of_withDefault hm hvalue isFaithful_any (restores_any .null))) (by decide) _

lemma restores_nil {α : Type} (c : Codec α) : c.entries.Restores [] [] := ⟨rfl, rfl⟩

lemma restores_list_nil {α : Type} (c : Codec α) : c.list.Restores [] [] := ⟨rfl, rfl⟩

lemma SceneAction.isFaithful : SceneAction.codec.IsFaithful := by
  refine isSound_codec fun m r hm h => ?_
  simp only [readsAs_apply, readsAs_build] at h
  obtain ⟨kind, -, payload, hpayload, rfl⟩ := h
  exact restores_codec (spells_build _ |>.required rfl (isExact_text _)
    |>.withDefault rfl (restores_of_withDefault hm hpayload isFaithful_any.entries (restores_nil _)))
    (by decide) _

/-- A choice is also restored if null is written for a condition that it does not have. -/
lemma Choice.conveys {m : Fields} {r : Choice} (hm : m.ShowsFinite)
    (h : codec.read (.map m) = .valid r) :
    codec.Conveys ["id", "text", "targetScene", "condition", "effects"] r r := by
  simp only [codec, read_codec_eq_valid, readsAs_apply, readsAs_build, Value.map.injEq,
    exists_eq_left'] at h
  obtain ⟨id, -, text, -, target, -, condition, hcondition, effects, heffects, rfl⟩ := h
  have hcondition' := restores_of_optional hm hcondition Condition.isFaithful (isSolid_codec _ _)
  have heffects' := restores_of_withDefault hm heffects Effect.isFaithful.list (restores_list_nil _)
  exact conveys_codec (spells_build _ |>.required rfl (isExact_text _)
    |>.required rfl (isExact_text _) |>.required rfl (isExact_text _) |>.optional hcondition'
    |>.withDefault rfl heffects') (by decide) _

lemma Choice.isFaithful : Choice.codec.IsFaithful := by
  refine isSound_codec fun m r hm h => ?_
  exact (Choice.conveys hm ((read_codec_eq_valid _ _ _ _).mpr ⟨m, rfl, h⟩)).restores

lemma Scene.isFaithful : Scene.codec.IsFaithful := by
  refine isSound_codec fun m r hm h => ?_
  simp only [readsAs_apply, readsAs_build] at h
  obtain ⟨id, -, text, -, speaker, -, background, -, choices, hchoices, next, -, actions, hactions,
    isEnding, -, ending, -, rfl⟩ := h
  have hchoices' := restores_of_withDefault hm hchoices Choice.isFaithful.list (restores_list_nil _)
  have hactions' := restores_of_withDefault hm hactions SceneAction.isFaithful.list
    (restores_list_nil _)
  exact restores_codec (spells_build _ |>.required rfl (isExact_text _)
    |>.withDefault rfl (isExact_text _) |>.optional (isExact_text.optional isSolid_text _)
    |>.optional (isExact_text.optional isSolid_text _) |>.withDefault rfl hchoices'
    |>.optional (isExact_text.optional isSolid_text _) |>.withDefault rfl hactions'
    |>.withDefault rfl (isExact_boolean _) |>.optional (isExact_named.optional isSolid_named _))
    (by decide) _

/-! ### Simulations -/

lemma Amounts.isFaithful : Amounts.codec.IsFaithful := isExact_float.isFaithful.entries

lemma InitialState.restores (r : InitialState)
    (hresources : Amounts.codec.Restores r.resources r.resources)
    (hvars : (Codec.entries .any).Restores r.vars r.vars) : codec.Restores r r :=
  restores_codec (spells_build _ |>.withDefault rfl (isExact_integer _)
    |>.withDefault rfl hresources |>.withDefault rfl hvars |>.withDefault rfl (isExact_text.list _)
    |>.withDefault rfl (isExact_text.list _)) (by decide) _

/-- A resource as it is read back: its numbers are floats. -/
def Resource.settled (r : Resource) : Resource :=
  { r with
    initialValue := settledNumber r.initialValue
    minValue := settledNumber r.minValue
    maxValue := settledNumber r.maxValue }

lemma isPlainNumber_of_withDefault {ρ : Type} {m : Fields} {name : String} {default n : Number}
    {get : ρ → Number} (h : (withDefault name number default get).read m = .valid n)
    (hdefault : IsPlainNumber default) : IsPlainNumber n := by
  rcases (read_withDefault_eq_valid name number m default get n).mp h with ⟨v, -, hread⟩ | ⟨-, rfl⟩
  · exact isPlainNumber_of_read hread
  · exact hdefault

lemma restores_of_number {ρ : Type} {m : Fields} {name : String} {default n : Number}
    {get : ρ → Number} (h : (withDefault name number default get).read m = .valid n)
    (hdefault : IsPlainNumber default) : number.Restores n (settledNumber n) :=
  restores_number (isPlainNumber_of_withDefault h hdefault)

/-- The bounds of a resource that is read are floats, unless they are not given. -/
lemma Resource.isPlainNumber_bounds {v : Value} {r : Resource} (h : codec.read v = .valid r) :
    IsPlainNumber r.minValue ∧ IsPlainNumber r.maxValue := by
  simp only [codec, read_codec_eq_valid, readsAs_apply, readsAs_build] at h
  obtain ⟨m, -, id, -, name, -, icon, -, initial, -, least, hleast, most, hmost, text, -, rfl⟩ := h
  exact ⟨isPlainNumber_of_withDefault hleast (by simp [IsPlainNumber]),
    isPlainNumber_of_withDefault hmost (by simp [IsPlainNumber])⟩

lemma Simulation.isPlainNumber_bounds {m : Fields} {z : Simulation}
    (h : fields.read m = .valid z) {r : Resource} (hr : r ∈ z.resources) :
    IsPlainNumber r.minValue ∧ IsPlainNumber r.maxValue := by
  rw [fields, read_eq_valid_iff] at h
  simp only [readsAs_apply, readsAs_build, read_required_eq_valid, Codec.read_list_eq_valid] at h
  obtain ⟨initial, -, resources, ⟨v, -, items, -, hresources⟩, actions, -, events, -, objectives, -,
    turns, -, rfl⟩ := h
  obtain ⟨v, -, hread⟩ := hresources.exists_of_mem_right hr
  exact Resource.isPlainNumber_bounds hread

lemma Resource.isSound : Resource.codec.IsSound Resource.settled := by
  refine isSound_codec fun m r _ h => ?_
  simp only [readsAs_apply, readsAs_build] at h
  obtain ⟨id, -, name, -, icon, -, initial, hinitial, least, hleast, most, hmost, text, -, rfl⟩ := h
  exact restores_codec (spells_build (r := ⟨id, name, icon, initial, least, most, text⟩)
    (s := Resource.settled ⟨id, name, icon, initial, least, most, text⟩) _ |>.required rfl (isExact_text _)
    |>.withDefault rfl (isExact_text _) |>.withDefault rfl (isExact_text _)
    |>.withDefault rfl (restores_of_number hinitial (by simp [IsPlainNumber]))
    |>.withDefault rfl (restores_of_number hleast (by simp [IsPlainNumber]))
    |>.withDefault rfl (restores_of_number hmost (by simp [IsPlainNumber]))
    |>.withDefault rfl (isExact_text _)) (by decide) _

lemma SimAction.isFaithful : SimAction.codec.IsFaithful := by
  refine isSound_codec fun m r hm h => ?_
  simp only [readsAs_apply, readsAs_build] at h
  obtain ⟨id, -, name, -, text, -, icon, -, cost, hcost, effects, heffects, condition, -, cooldown, -,
    rfl⟩ := h
  exact restores_codec (spells_build _ |>.required rfl (isExact_text _)
    |>.withDefault rfl (isExact_text _) |>.withDefault rfl (isExact_text _)
    |>.withDefault rfl (isExact_text _)
    |>.withDefault rfl (restores_of_withDefault hm hcost Amounts.isFaithful (restores_nil _))
    |>.withDefault rfl (restores_of_withDefault hm heffects Amounts.isFaithful (restores_nil _))
    |>.optional (isExact_text.optional isSolid_text _) |>.withDefault rfl (isExact_integer _))
    (by decide) _

lemma EventChoice.isFaithful : EventChoice.codec.IsFaithful := by
  refine isSound_codec fun m r hm h => ?_
  simp only [readsAs_apply, readsAs_build] at h
  obtain ⟨text, -, effects, heffects, rfl⟩ := h
  exact restores_codec (spells_build _ |>.required rfl (isExact_text _)
    |>.withDefault rfl (restores_of_withDefault hm heffects Amounts.isFaithful (restores_nil _)))
    (by decide) _

lemma SimEvent.isFaithful : SimEvent.codec.IsFaithful := by
  refine isSound_codec fun m r hm h => ?_
  simp only [readsAs_apply, readsAs_build] at h
  obtain ⟨id, -, name, -, text, -, probability, -, conditions, -, effects, heffects, choices, hchoices,
    rfl⟩ := h
  have hchoices' := restores_of_withDefault hm hchoices EventChoice.isFaithful.list
    (restores_list_nil _)
  exact restores_codec (spells_build _ |>.required rfl (isExact_text _)
    |>.withDefault rfl (isExact_text _) |>.withDefault rfl (isExact_text _)
    |>.withDefault rfl (isExact_float _) |>.optional (isExact_text.optional isSolid_text _)
    |>.withDefault rfl (restores_of_withDefault hm heffects Amounts.isFaithful (restores_nil _))
    |>.withDefault rfl hchoices') (by decide) _

/-- An objective as it is read back: its value is a float. -/
def Objective.settled (o : Objective) : Objective := { o with value := settledNumber o.value }

lemma Objective.isSound : Objective.codec.IsSound Objective.settled := by
  refine isSound_codec fun m r hm h => ?_
  simp only [readsAs_apply, readsAs_build] at h
  obtain ⟨id, -, text, -, kind, -, target, -, value, hvalue, required, -, points, -, rfl⟩ := h
  exact restores_codec (spells_build (r := ⟨id, text, kind, target, value, required, points⟩)
    (s := Objective.settled ⟨id, text, kind, target, value, required, points⟩) _ |>.required rfl (isExact_text _)
    |>.withDefault rfl (isExact_text _) |>.required rfl (isExact_named _)
    |>.withDefault rfl (isExact_text _)
    |>.withDefault rfl (restores_of_number hvalue (by simp [IsPlainNumber]))
    |>.withDefault rfl (isExact_boolean _) |>.withDefault rfl (isExact_integer _)) (by decide) _

/-! ### Explorations -/

lemma LocationEvent.isFaithful : LocationEvent.codec.IsFaithful := by
  refine isSound_codec fun m r hm h => ?_
  simp only [readsAs_apply, readsAs_build] at h
  obtain ⟨kind, -, content, hcontent, rfl⟩ := h
  exact restores_codec (spells_build _ |>.required rfl (isExact_named _)
    |>.any (restores_of_withDefault hm hcontent isFaithful_any (restores_any .null))) (by decide) _

lemma Location.isFaithful : Location.codec.IsFaithful := by
  refine isSound_codec fun m r hm h => ?_
  simp only [readsAs_apply, readsAs_build] at h
  obtain ⟨id, -, name, -, text, -, position, hposition, event, hevent, visible, -, icon, -, rfl⟩ := h
  have hevent' := restores_of_optional hm hevent LocationEvent.isFaithful (isSolid_codec _ _)
  exact restores_codec (spells_build _ |>.required rfl (isExact_text _)
    |>.withDefault rfl (isExact_text _) |>.withDefault rfl (isExact_text _)
    |>.withDefault rfl (restores_of_withDefault hm hposition isExact_float.isFaithful.entries
      (restores_nil _))
    |>.optional hevent' |>.withDefault rfl (isExact_boolean _) |>.withDefault rfl (isExact_text _))
    (by decide) _

/-! ### Reading matter, sections and scoring -/

lemma InfoBlock.isFaithful : InfoBlock.codec.IsFaithful := by
  refine isSound_codec fun m r hm h => ?_
  simp only [readsAs_apply, readsAs_build] at h
  obtain ⟨kind, -, content, hcontent, rfl⟩ := h
  exact restores_codec (spells_build _ |>.required rfl (isExact_named _)
    |>.any (restores_of_withDefault hm hcontent isFaithful_any (restores_any .null))) (by decide) _

lemma UnlockCondition.isFaithful : UnlockCondition.codec.IsFaithful := by
  refine isSound_codec fun m r hm h => ?_
  simp only [readsAs_apply, readsAs_build] at h
  obtain ⟨kind, -, target, -, value, hvalue, rfl⟩ := h
  exact restores_codec (spells_build _ |>.required rfl (isExact_named _)
    |>.withDefault rfl (isExact_text _)
    |>.any (restores_of_withDefault hm hvalue isFaithful_any (restores_any .null))) (by decide) _

/-- A scoring as it is read back: its multiplier is a float. -/
def Scoring.settled (s : Scoring) : Scoring :=
  { s with streakMultiplier := settledNumber s.streakMultiplier }

lemma Scoring.restores_multiplier {m : Fields} {r : Scoring}
    (h : codec.read (.map m) = .valid r) :
    number.Restores r.streakMultiplier (settledNumber r.streakMultiplier) := by
  simp only [codec, read_codec_eq_valid, readsAs_apply, readsAs_build, Value.map.injEq,
    exists_eq_left'] at h
  obtain ⟨-, -, -, -, -, -, -, -, multiplier, hmultiplier, -, -, rfl⟩ := h
  exact restores_of_number hmultiplier (by simp [IsPlainNumber])

lemma Scoring.conveys {m : Fields} {r : Scoring} (h : codec.read (.map m) = .valid r) :
    codec.Conveys ["maxScore", "pointsPerCorrect", "penaltyPerWrong", "timeBonus",
      "streakMultiplier", "ratings"] r r.settled :=
  conveys_codec (spells_build (r := r) (s := r.settled) _ |>.withDefault rfl (isExact_integer _)
    |>.withDefault rfl (isExact_integer _) |>.withDefault rfl (isExact_integer _)
    |>.withDefault rfl (isExact_boolean _) |>.withDefault rfl (restores_multiplier h)
    |>.withDefault rfl (RatingTier.isExact.list _)) (by decide) _

end LearningGame.Content
