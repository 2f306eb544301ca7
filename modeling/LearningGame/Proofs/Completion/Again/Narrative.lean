import LearningGame.Completion.Narrative
import LearningGame.Proofs.Completion.Again
import LearningGame.Proofs.Content.Restored

/-!
# Filling narratives again

A narrative that was filled is left as it is, except that null is put in for the conditions that
choices do not have; what is read stays the same.
-/

namespace LearningGame

open Schema RecordOf Content Completion

namespace Content

/-- What filling makes sure of in a choice. -/
structure Choice.IsComplete (c : Choice) : Prop where
  id : Text.isBlankText c.id = false
  targetScene : c.targetScene ≠ ""
  conveys : codec.Conveys ["id", "text", "targetScene", "condition", "effects"] c c

/-- What filling makes sure of in a scene. -/
structure Scene.IsComplete (s : Scene) : Prop where
  id : Text.isBlankText s.id = false
  choices : ∀ c ∈ s.choices, c.IsComplete
  restores : codec.Restores s s

/-- What filling makes sure of in a narrative. -/
structure Narrative.IsComplete (z : Narrative) : Prop where
  scenes : ∀ s ∈ z.scenes, s.IsComplete
  startScene : startAmong (z.scenes.map (·.id)) (.str z.startScene) = .str z.startScene

lemma Narrative.IsComplete.restores {z : Narrative} (h : z.IsComplete) : fields.Restores z z := by
  have hscenes : Scene.codec.list.Restores z.scenes z.scenes :=
    Codec.restores_list (List.forall₂_same.mpr fun s hs => (h.scenes s hs).restores)
  exact restores_fields (spells_build (r := z) (s := z) _ |>.required rfl hscenes
    |>.required rfl (Codec.isExact_text _)) (by decide)

/-! ### Reading -/

lemma Choice.of_read {m : Fields} {c : Choice} (h : codec.read (.map m) = .valid c) {s t : String}
    (hs : m.find? "id" = some (.str s)) (ht : m.find? "targetScene" = some (.str t)) :
    s = c.id ∧ t = c.targetScene := by
  simp only [codec, read_codec_eq_valid, readsAs_apply, readsAs_build, required,
    read_field_of_find? _ _ hs, read_field_of_find? _ _ ht, Codec.read_text_eq_valid,
    Value.map.injEq, exists_eq_left'] at h
  obtain ⟨id, hid, -, -, target, htarget, -, -, -, -, rfl⟩ := h
  exact ⟨Value.str.inj hid, Value.str.inj htarget⟩

lemma Scene.of_read {m : Fields} {s : Scene} (h : codec.read (.map m) = .valid s) {id : String}
    {v : Value} (hid : m.find? "id" = some (.str id)) (hv : m.find? "choices" = some v) :
    id = s.id ∧ Choice.codec.list.read v = .valid s.choices := by
  simp only [codec, read_codec_eq_valid, readsAs_apply, readsAs_build, required, withDefault,
    read_field_of_find? _ _ hid, read_field_of_find? _ _ hv, Codec.read_text_eq_valid,
    Value.map.injEq, exists_eq_left'] at h
  obtain ⟨id, hid, -, -, -, -, -, -, choices, hchoices, -, -, -, -, -, -, -, -, rfl⟩ := h
  exact ⟨Value.str.inj hid, hchoices⟩

lemma Scene.read_put_choices {m : Fields} {s : Scene} {v : Value}
    (h : codec.read (.map m) = .valid s) (hv : Choice.codec.list.read v = .valid s.choices) :
    codec.read (.map (m.put "choices" v)) = .valid s := by
  simp only [codec, read_codec_eq_valid, readsAs_apply, readsAs_build, Value.map.injEq,
    exists_eq_left', required, withDefault, RecordOf.optional] at h ⊢
  simp (disch := decide) only [read_field_put_of_ne]
  obtain ⟨id, hid, text, htext, speaker, hspeaker, background, hbackground, choices, -, next, hnext,
    actions, hactions, isEnding, hending, ending, hkind, rfl⟩ := h
  exact ⟨id, hid, text, htext, speaker, hspeaker, background, hbackground, choices,
    read_field_put_self _ _ hv, next, hnext, actions, hactions, isEnding, hending, ending, hkind,
    rfl⟩

lemma Narrative.read_eq_valid {m : Fields} {v w : Value} (hv : m.find? "scenes" = some v)
    (hw : m.find? "startScene" = some w) (z : Narrative) :
    fields.read m = .valid z ↔
      Scene.codec.list.read v = .valid z.scenes ∧ w = .str z.startScene := by
  rw [read_eq_valid_iff]
  simp only [fields, readsAs_apply, readsAs_build, required, read_field_of_find? _ _ hv,
    read_field_of_find? _ _ hw, Codec.read_text_eq_valid]
  constructor
  · rintro ⟨scenes, hscenes, start, hstart, rfl⟩
    exact ⟨hscenes, hstart⟩
  · exact fun h => ⟨z.scenes, h.1, z.startScene, h.2, rfl⟩

end Content

namespace Completion

/-! ### Conditions and effects -/

lemma isFinite_fillCondition {scene : String} {v w : Value} (hv : v.IsFinite)
    (h : (fillCondition scene v).result = .ok w) : w.IsFinite := by
  cases v with
  | map m =>
    have hm := (Value.isDocumentOf_map m).mp hv
    change (fillKnownCondition scene m).result = .ok w at h
    unfold fillKnownCondition at h
    dsimp only at h
    split_ifs at h
    · cases h
      have htype := hm.put (a := "type") (isFinite_orElse (hm.get "type") (.str "variable"))
      have hoperator := htype.put (a := "operator")
        (isFinite_orElse (htype.get "operator") (.str "=="))
      exact (Value.isDocumentOf_map _).mpr (isFinite_fillSomeText hoperator "variable")
    · cases h
      exact .null
  | _ =>
    cases h
    exact .null

lemma fillCondition_written (scene : String) (c : Option Condition) :
    (fillCondition scene (Condition.codec.optional.write false c)).result =
      .ok (Condition.codec.optional.write false c) := by
  cases c with
  | none => rfl
  | some c =>
    have hkind : (Condition.codec.written c).find? "type" = some (.str (Named.name c.kind)) := by
      simp [Condition.codec]
    have hoperator : (Condition.codec.written c).find? "operator" =
        some (.str (Named.name c.comparison)) := by
      simp [Condition.codec]
    have hname : (Condition.codec.written c).find? "variable" = some (.str c.variableName) := by
      simp [Condition.codec]
    have hkinds : Named.name c.kind ≠ "" ∧
        (Named.names ConditionKind).contains (Named.name c.kind) = true := by
      cases c.kind <;> decide
    have hoperators : Named.name c.comparison ≠ "" ∧
        (Named.names Comparison).contains (Named.name c.comparison) = true := by
      cases c.comparison <;> decide
    show (fillKnownCondition scene (Condition.codec.written c)).result =
      .ok (.map (Condition.codec.written c))
    unfold fillKnownCondition
    simp only [Fields.get_eq, hkind, Option.getD_some, orElse_str hkinds.1,
      Fields.put_of_find? hkind, hoperator, orElse_str hoperators.1, Fields.put_of_find? hoperator,
      Value.isOneOf, hkinds.2, hoperators.2, and_self, if_true, fillSomeText_of_find? hname]
    rfl

lemma isFinite_of_fillEffects {scene : String} {v : Value} {ms : List Fields} (hv : v.IsFinite)
    (h : (fillEffects scene v).result = .ok ms) : ∀ m ∈ ms, m.IsFinite := by
  obtain ⟨effects, heffects, h⟩ := (Traced.bind_eq_ok _ _ _).mp h
  intro m hm
  obtain ⟨e, he, hem⟩ := exists_of_mem_filterMap h hm
  have hfinite := isFinite_of_objects hv heffects e he
  unfold fillEffect? at hem
  dsimp only at hem
  split_ifs at hem
  · cases hem
    exact isFinite_fillSomeText hfinite _
  · cases hem

lemma fillEffects_written (scene : String) (es : List Effect) :
    (fillEffects scene (mapList (es.map Effect.codec.written))).result =
      .ok (es.map Effect.codec.written) := by
  refine (Traced.bind_eq_ok _ _ _).mpr ⟨_, objects_mapList _ _, ?_⟩
  refine (Traced.filterMap_eq_ok _ _ _).mpr ⟨es.map fun e => some (Effect.codec.written e), ?_, by simp⟩
  rw [List.forall₂_map_left_iff, List.forall₂_map_right_iff, List.forall₂_same]
  intro e _
  have hkind : (Effect.codec.written e).find? "type" = some (.str (Named.name e.kind)) := by
    simp [Effect.codec]
  have htarget : (Effect.codec.written e).find? "target" = some (.str e.target) := by
    simp [Effect.codec]
  have hkinds : (Named.names EffectKind).contains (Named.name e.kind) = true := by
    cases e.kind <;> decide
  unfold fillEffect?
  simp only [Fields.get_eq, hkind, Option.getD_some, Value.isOneOf, hkinds, if_true,
    fillSomeText_of_find? htarget]
  rfl

/-! ### Choices -/

/-- What a choice is filled with. -/
lemma fillChoice?_eq_some (scene : String) (choice m : Fields) (n : Nat) :
    (fillChoice? scene choice n).result = .ok (some m) ↔
      (choice.get "targetScene").truthy = true ∧ ∃ condition effects,
        (fillCondition scene (choice.get "condition")).result = .ok condition ∧
        (fillEffects scene (choice.get "effects")).result = .ok effects ∧
        ((((fillText (fillId choice ("choice" ++ toString n)) "text").put "targetScene"
          (choice.get "targetScene").text).put "condition" condition).put "effects"
          (mapList effects)) = m := by
  unfold fillChoice?
  dsimp only
  split_ifs with htarget
  · rw [and_iff_right htarget]
    simp [Traced.bind_eq_ok, -Traced.result_bind, Fields.get_eq, find?_fillText, find?_fillId]
  · simp [htarget, Except.bind]

lemma isFinite_of_fillChoice? {scene : String} {choice m : Fields} {n : Nat}
    (hfinite : choice.IsFinite) (h : (fillChoice? scene choice n).result = .ok (some m)) :
    m.IsFinite := by
  obtain ⟨-, condition, effects, hcondition, heffects, rfl⟩ :=
    (fillChoice?_eq_some scene choice m n).mp h
  have hc := isFinite_fillCondition (hfinite.get "condition") hcondition
  have he := isFinite_mapList (isFinite_of_fillEffects (hfinite.get "effects") heffects)
  exact (((isFinite_fillText (isFinite_fillId hfinite _) _).put (.str _)).put hc).put he

/-- A choice that was filled is complete. -/
lemma isComplete_of_fillChoice? {scene : String} {choice m : Fields} {n : Nat} {c : Choice}
    (hfinite : choice.IsFinite) (h : (fillChoice? scene choice n).result = .ok (some m))
    (hc : Choice.codec.read (.map m) = .valid c) : c.IsComplete := by
  have hm := isFinite_of_fillChoice? hfinite h
  obtain ⟨htarget, condition, effects, -, -, rfl⟩ := (fillChoice?_eq_some scene choice m n).mp h
  obtain ⟨hid, htarget'⟩ := Choice.of_read hc (s := idOf choice ("choice" ++ toString n))
    (t := (choice.get "targetScene").text) (by simp [find?_fillText]) (by simp)
  exact ⟨hid ▸ isBlankText_idOf_append choice (by decide) _,
    htarget' ▸ Value.text_ne_empty htarget, Choice.conveys hm.showsFinite hc⟩

/-- The entries of a choice that is filled again. -/
def refilledChoice (c : Choice) : Fields :=
  (Choice.codec.written c).put "condition" (Condition.codec.optional.write false c.condition)

lemma fillChoice?_written {c : Choice} (h : c.IsComplete) (scene : String) (n : Nat) :
    (fillChoice? scene (Choice.codec.written c) n).result = .ok (some (refilledChoice c)) := by
  have hid : (Choice.codec.written c).find? "id" = some (.str c.id) := by simp [Choice.codec]
  have htext : (Choice.codec.written c).find? "text" = some (.str c.text) := by simp [Choice.codec]
  have htarget : (Choice.codec.written c).find? "targetScene" = some (.str c.targetScene) := by
    simp [Choice.codec]
  have hcondition : (Choice.codec.written c).get "condition" =
      Condition.codec.optional.write false c.condition := by
    cases hc : c.condition <;> simp [Choice.codec, Fields.get_eq, hc] <;> rfl
  have heffects : (Choice.codec.written c).find? "effects" =
      some (mapList (c.effects.map Effect.codec.written)) := by
    rw [← write_list_eq fun _ => rfl]
    simp [Choice.codec]
  refine (fillChoice?_eq_some _ _ _ _).mpr ⟨?_, Condition.codec.optional.write false c.condition,
    c.effects.map Effect.codec.written, ?_, ?_, ?_⟩
  · simp [Fields.get_eq, htarget, Value.truthy, h.targetScene]
  · rw [hcondition]
    exact fillCondition_written scene c.condition
  · rw [Fields.get_eq, heffects]
    exact fillEffects_written scene c.effects
  · rw [fillId_of_find? hid h.id, fillText_of_find? htext, Fields.get_eq, htarget,
      Option.getD_some, Value.text, Fields.put_of_find? htarget]
    exact Fields.put_of_find? (by rw [Fields.find?_put, if_neg (by decide), heffects])

lemma read_refilledChoice {c : Choice} (h : c.IsComplete) :
    Choice.codec.read (.map (refilledChoice c)) = .valid c := by
  have hput {name : String} {v : Value} (hne : "condition" ≠ name)
      (hv : (Choice.codec.written c).find? name = some v) :
      Tells (refilledChoice c) name ((Choice.codec.written c).find? name) := by
    rw [hv]
    exact given?_of_find? (by rw [refilledChoice, Fields.find?_put, if_neg hne, hv])
  refine h.conveys.read _ fun name hname => ?_
  simp only [List.mem_cons, List.not_mem_nil, or_false] at hname
  rcases hname with rfl | rfl | rfl | rfl | rfl
  · exact hput (v := .str c.id) (by decide) (by simp [Choice.codec])
  · exact hput (v := .str c.text) (by decide) (by simp [Choice.codec])
  · exact hput (v := .str c.targetScene) (by decide) (by simp [Choice.codec])
  · have hfind : (Choice.codec.written c).find? "condition" =
        c.condition.map (Condition.codec.write false) := by
      cases hc : c.condition <;> simp [Choice.codec, hc]
    have hgiven : given? (refilledChoice c) "condition" =
        some (Condition.codec.optional.write false c.condition) :=
      given?_of_find? (by rw [refilledChoice, Fields.find?_put, if_pos rfl])
    rw [hfind]
    cases hc : c.condition with
    | none =>
      rw [hc] at hgiven
      exact .inr hgiven
    | some k =>
      rw [hc] at hgiven
      exact hgiven
  · exact hput (v := Effect.codec.list.write false c.effects) (by decide) (by simp [Choice.codec])

/-! ### Scenes -/

/-- The ending that a scene has when its kind is known or not. -/
lemma fillEnding_eq_ok {scene : String} {m m' : Fields} (h : (fillEnding scene m).result = .ok m') :
    m' = m ∨ m' = m.put "endingType" (Named.name EndingKind.neutral) := by
  unfold fillEnding at h
  dsimp only at h
  split_ifs at h
  · cases h
    exact .inl rfl
  · cases h
    exact .inr rfl

/-- What is found in a scene that was filled. -/
lemma of_fillScene {scene m : Fields} {n : Nat} (hfinite : scene.IsFinite)
    (h : (fillScene scene n).result = .ok m) :
    m.IsFinite ∧ m.find? "id" = some (.str (idOf scene ("scene" ++ toString n))) ∧
      ∃ choices, m.find? "choices" = some (mapList choices) ∧ ∀ c ∈ choices, ∃ choice n',
        choice.IsFinite ∧
          (fillChoice? (textAt (fillId scene ("scene" ++ toString n)) "id") choice n').result =
            .ok (some c) := by
  obtain ⟨given, hgiven, h⟩ := (Traced.bind_eq_ok _ _ _).mp h
  obtain ⟨choices, hchoices, h⟩ := (Traced.bind_eq_ok _ _ _).mp h
  obtain ⟨actions, hactions, h⟩ := (Traced.bind_eq_ok _ _ _).mp h
  have hgivens := isFinite_of_objects ((isFinite_fillId hfinite _).get _) hgiven
  have hfilled (c : Fields) (hc : c ∈ choices) : ∃ choice n', choice.IsFinite ∧
      (fillChoice? (textAt (fillId scene ("scene" ++ toString n)) "id") choice n').result =
        .ok (some c) := by
    obtain ⟨e, he, hec⟩ := exists_of_mem_filterMap hchoices hc
    exact ⟨e.1, e.2, hgivens e.1 (List.fst_mem_of_mem_zipIdx he), hec⟩
  have hchoicesFinite : (mapList choices).IsFinite := isFinite_mapList fun c hc => by
    obtain ⟨choice, n', hchoice, hfill⟩ := hfilled c hc
    exact isFinite_of_fillChoice? hchoice hfill
  have hactionsFinite : (mapList (actions.map fun a => fillSomeText a "type")).IsFinite := by
    refine isFinite_mapList fun a ha => ?_
    obtain ⟨b, hb, rfl⟩ := List.mem_map.mp ha
    refine isFinite_fillSomeText (isFinite_of_objects ?_ hactions b hb) _
    exact (isFinite_fillSomeText ((isFinite_fillId hfinite _).put hchoicesFinite) _).get _
  have hbase := (isFinite_fillSomeText ((isFinite_fillId hfinite ("scene" ++ toString n)).put
    (a := "choices") hchoicesFinite) "text").put (a := "actions") hactionsFinite
  rcases fillEnding_eq_ok h with rfl | rfl
  · exact ⟨hbase, by simp [fillSomeText], choices, by simp [fillSomeText], hfilled⟩
  · exact ⟨hbase.put (.str _), by simp [fillSomeText], choices, by simp [fillSomeText], hfilled⟩

/-- A scene that was filled is complete. -/
lemma isComplete_of_fillScene {scene m : Fields} {n : Nat} {s : Scene} (hfinite : scene.IsFinite)
    (h : (fillScene scene n).result = .ok m) (hs : Scene.codec.read (.map m) = .valid s) :
    s.IsComplete := by
  obtain ⟨hm, hid, choices, hchoices, hfilled⟩ := of_fillScene hfinite h
  obtain ⟨hid', hread⟩ := Scene.of_read hs hid hchoices
  refine ⟨hid' ▸ isBlankText_idOf_append scene (by decide) _, fun c hc => ?_,
    Scene.isFaithful _ s ((Value.isDocumentOf_map m).mpr hm) hs⟩
  obtain ⟨f, hf, hcf⟩ := exists_of_read_mapList hread hc
  obtain ⟨choice, n', hchoice, hfill⟩ := hfilled f hf
  exact isComplete_of_fillChoice? hchoice hfill hcf

/-- The entries of a scene that is filled again. -/
def refilledScene (s : Scene) : Fields :=
  (Scene.codec.written s).put "choices" (mapList (s.choices.map refilledChoice))

lemma fillEnding_written (scene : String) {m : Fields} {e : Option EndingKind}
    (h : m.find? "endingType" = e.map fun e => .str (Named.name e)) :
    (fillEnding scene m).result = .ok m := by
  unfold fillEnding
  dsimp only
  rw [if_pos]
  · rfl
  · cases e with
    | none => simp [Fields.get_eq, h, Value.isNull]
    | some e =>
      have hknown : (Named.names EndingKind).contains (Named.name e) = true := by
        cases e <;> decide
      right
      rw [Fields.get_eq, h]
      exact hknown

lemma fillScene_written {s : Scene} (h : s.IsComplete) (n : Nat) :
    (fillScene (Scene.codec.written s) n).result = .ok (refilledScene s) := by
  have hid : (Scene.codec.written s).find? "id" = some (.str s.id) := by simp [Scene.codec]
  have htext : (Scene.codec.written s).find? "text" = some (.str s.text) := by simp [Scene.codec]
  have hchoices : (Scene.codec.written s).find? "choices" =
      some (mapList (s.choices.map Choice.codec.written)) := by
    rw [← write_list_eq fun _ => rfl]
    simp [Scene.codec]
  have hactions : (Scene.codec.written s).find? "actions" =
      some (mapList (s.actions.map SceneAction.codec.written)) := by
    rw [← write_list_eq fun _ => rfl]
    simp [Scene.codec]
  have hending : (Scene.codec.written s).find? "endingType" =
      s.ending.map fun e => .str (Named.name e) := by
    cases he : s.ending <;> simp [Scene.codec, he]
  have hfill := filterMap_numbered fun c hc n =>
    fillChoice?_written (h.choices c hc) (textAt (Scene.codec.written s) "id") n
  have hkinds : (s.actions.map SceneAction.codec.written).map (fun a => fillSomeText a "type") =
      s.actions.map SceneAction.codec.written := by
    rw [List.map_map]
    exact List.map_congr_left fun a _ =>
      fillSomeText_of_find? (s := a.kind) (by simp [SceneAction.codec])
  have hput (name : String) (hne : "choices" ≠ name) :
      (refilledScene s).find? name = (Scene.codec.written s).find? name := by
    rw [refilledScene, Fields.find?_put, if_neg hne]
  have hsame : fillSomeText (refilledScene s) "text" = refilledScene s :=
    fillSomeText_of_find? (s := s.text) (by rw [hput "text" (by decide), htext])
  unfold fillScene
  rw [fillId_of_find? hid h.id]
  refine (Traced.bind_eq_ok _ _ _).mpr ⟨_, objects_of_find? hchoices "narrative choice", ?_⟩
  refine (Traced.bind_eq_ok _ _ _).mpr ⟨_, hfill, ?_⟩
  show (objects "scene action" ((fillSomeText (refilledScene s) "text").get "actions") >>= fun a =>
    fillEnding (textAt (Scene.codec.written s) "id") ((fillSomeText (refilledScene s) "text").put
      "actions" (mapList (a.map fun a => fillSomeText a "type")))).result = _
  have hactions' : (refilledScene s).find? "actions" = _ := (hput "actions" (by decide)).trans hactions
  rw [hsame]
  refine (Traced.bind_eq_ok _ _ _).mpr ⟨_, objects_of_find? hactions' "scene action", ?_⟩
  rw [hkinds, Fields.put_of_find? hactions']
  exact fillEnding_written _ ((hput "endingType" (by decide)).trans hending)

lemma read_refilledScene {s : Scene} (h : s.IsComplete) :
    Scene.codec.read (.map (refilledScene s)) = .valid s := by
  have hscene : Scene.codec.read (.map (Scene.codec.written s)) = .valid s := h.restores.read
  unfold refilledScene
  refine Scene.read_put_choices hscene ?_
  have hread := read_mapList (g := fun c => c) fun c hc => read_refilledChoice (h.choices c hc)
  rwa [List.map_id'] at hread

/-! ### Narratives -/

/-- A start among some ids is kept. -/
lemma startAmong_startAmong (ids : List String) (start : Value) :
    startAmong ids (startAmong ids start) = startAmong ids start := by
  unfold startAmong
  by_cases hstart : start.isOneOf ids = true
  · simp [hstart]
  · simp only [hstart, Bool.false_eq_true, if_false]
    split_ifs <;> rfl

lemma fillNarrative_eq_ok (content filled : Fields) :
    (fillNarrative content).result = .ok filled ↔
      ∃ scenes ms, (objects "narrative scene" (content.get "scenes")).result = .ok scenes ∧
        (Traced.traverse (fun e => fillScene e.1 e.2) (numbered scenes)).result = .ok ms ∧
        (content.put "scenes" (mapList ms)).put "startScene"
          (startAmong (ms.map fun s => textAt s "id") (content.get "startScene")) = filled := by
  unfold fillNarrative
  simp [Traced.bind_eq_ok, -Traced.result_bind]

lemma isComplete_of_fillNarrative {content filled : Fields} {z : Narrative}
    (hfinite : content.IsFinite) (h : (fillNarrative content).result = .ok filled)
    (hz : Narrative.fields.read filled = .valid z) : z.IsComplete := by
  obtain ⟨scenes, ms, hscenes, hms, rfl⟩ := (fillNarrative_eq_ok content filled).mp h
  have hgiven := isFinite_of_objects (hfinite.get _) hscenes
  obtain ⟨hread, hstart⟩ := (Narrative.read_eq_valid (v := mapList ms)
    (w := startAmong (ms.map fun s => textAt s "id") (content.get "startScene"))
    (by simp) (by simp) z).mp hz
  have hcomplete (m : Fields) (hm : m ∈ ms) (s : Scene) (hs : Scene.codec.read (.map m) = .valid s) :
      s.IsComplete ∧ m.find? "id" = some (.str s.id) := by
    obtain ⟨o, ho, n, hfill⟩ := exists_of_mem_traverse hms hm
    obtain ⟨-, hid, choices, hchoices, -⟩ := of_fillScene (hgiven o ho) hfill
    rw [← (Scene.of_read hs hid hchoices).1]
    exact ⟨isComplete_of_fillScene (hgiven o ho) hfill hs, hid⟩
  have hids := ids_of_read (k := (·.id)) hread fun m hm s hs => (hcomplete m hm s hs).2
  refine ⟨fun s hs => ?_, ?_⟩
  · obtain ⟨m, hm, hsm⟩ := exists_of_read_mapList hread hs
    exact (hcomplete m hm s hsm).1
  · rw [← hids, ← hstart]
    exact startAmong_startAmong _ _

/-- A complete narrative that is filled again is read as it was. -/
lemma fillNarrative_written {z : Narrative} (h : z.IsComplete) (tag : Value) :
    ∃ filled, (fillNarrative ((.text "type", tag) :: Narrative.fields.write false z)).result =
      .ok filled ∧ Narrative.fields.read filled = .valid z := by
  have hscenes : Fields.find? ((.text "type", tag) :: Narrative.fields.write false z) "scenes" =
      some (mapList (z.scenes.map Scene.codec.written)) := by
    rw [← write_list_eq fun _ => rfl]
    simp [Narrative.fields]
  have hstart : Fields.find? ((.text "type", tag) :: Narrative.fields.write false z) "startScene" =
      some (.str z.startScene) := by
    simp [Narrative.fields]
  have hfill := traverse_numbered fun s hs n => fillScene_written (h.scenes s hs) n
  have hread := read_mapList (g := fun s => s) fun s hs => read_refilledScene (h.scenes s hs)
  rw [List.map_id'] at hread
  have hids := ids_of_read (k := (·.id)) hread fun m hm s hs => by
    obtain ⟨t, ht, rfl⟩ := List.mem_map.mp hm
    rw [read_refilledScene (h.scenes t ht)] at hs
    cases hs
    simp [refilledScene, Scene.codec]
  refine ⟨_, (fillNarrative_eq_ok _ _).mpr ⟨_, _, objects_of_find? hscenes _, hfill, rfl⟩, ?_⟩
  rw [hids, Fields.get_eq, hstart, Option.getD_some, h.startScene, Narrative.read_eq_valid
    (by rw [Fields.find?_put, if_neg (by decide), Fields.find?_put, if_pos rfl])
    (by rw [Fields.find?_put, if_pos rfl])]
  exact ⟨hread, rfl⟩

end Completion

end LearningGame
