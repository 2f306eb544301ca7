import LearningGame.Proofs.Completion.Again.Section
import LearningGame.Proofs.Content.Restored

/-!
# Filling documents again

The frame around the sections: what the parts of a loaded game look like once they have been written
and filled again. They are the same parts, except for a start of play that is no section.
-/

namespace LearningGame

open Schema RecordOf Content Completion

namespace Schema.Codec

variable {ρ : Type} {c : Codec ρ} {names : List String} {r s : ρ} {name : String}

/-- What a record shows outweighs the defaults. -/
lemma Conveys.find?_merge (h : c.Conveys names r s) (defaults : Fields) {v : Value}
    (hv : (c.written r).find? (.text name) = some v) (hnull : v.isNull = false) :
    Fields.find? (merge defaults (.map (c.written r))) (.text name) = some v := by
  show Fields.find? (defaults.putAll (Fields.dropNulls (c.written r))) _ = _
  rw [Fields.find?_putAll _ h.isRecord.dropNulls, h.isRecord.find?_dropNulls, hv]
  simp [Option.filter, hnull]

/-- A record that shows all of its fields is read back also after it has got defaults. -/
lemma Conveys.read_merge (h : c.Conveys names r s) (defaults : Fields)
    (hall : ∀ name ∈ names, ∃ v, (c.written r).find? (.text name) = some v ∧ v.isNull = false) :
    c.read (.map (merge defaults (.map (c.written r)))) = .valid s := by
  refine h.read _ fun name hname => ?_
  obtain ⟨v, hv, hnull⟩ := hall name hname
  rw [hv]
  exact given?_of_find? (h.find?_merge defaults hv hnull)

end Schema.Codec

/-! ### Metadata -/

namespace Completion

lemma fillGivenText_of_find? {m : Fields} {key s : String}
    (h : m.find? (.text key) = some (.str s)) : fillGivenText m key = m := by
  unfold fillGivenText
  rw [h]
  exact Fields.put_of_find? h

lemma fillList_of_find? {m : Fields} {key : String} {items : List Value}
    (h : m.find? (.text key) = some (.list items)) : fillList m key = m := by
  unfold fillList
  rw [Fields.get_of_find? h]
  rfl

lemma difficultyOf_name (default d : Difficulty) :
    difficultyOf default (.str (Named.name d)) = d := by
  cases d <;> rfl

lemma complexityOf_name (c : Complexity) : complexityOf (.str (Named.name c)) = c := by
  cases c <;> rfl

lemma fillMinutes_of_find? {m : Fields} {n : Int}
    (h : m.find? "estimatedMinutes" = some (.int n)) : fillMinutes m = .ok m := by
  unfold fillMinutes
  rw [Fields.get_of_find? h]
  exact congrArg Except.ok (Fields.put_of_find? h)

/-- Metadata that are filled name a language. -/
lemma language_of_fillMetadata {raw : Value} {m : Fields} {r : Metadata}
    (h : fillMetadata raw = .ok m) (hr : Metadata.codec.read (.map m) = .valid r) :
    r.language ≠ "" := by
  have hlanguage : ∃ v, m.find? "language" = some v ∧ v.truthy = true := by
    unfold fillMetadata at h
    dsimp only at h
    cases hminutes : fillMinutes _ with
    | error f =>
      rw [hminutes] at h
      cases h
    | ok n =>
      rw [hminutes] at h
      cases h
      exact exists_truthy_of_put _ "language" rfl
  obtain ⟨v, hv, htruthy⟩ := hlanguage
  simp only [Metadata.codec, read_codec_eq_valid, readsAs_apply, readsAs_build, withDefault,
    read_field_of_find? _ _ hv, Codec.read_text_eq_valid, Value.map.injEq, exists_eq_left'] at hr
  obtain ⟨-, -, -, -, -, -, -, -, -, -, -, -, -, -, -, -, -, -, language, rfl, rfl⟩ := hr
  simpa [Value.truthy] using htruthy

/-- Metadata that have been written are filled already. -/
lemma fillMetadata_written {r : Metadata} (h : r.language ≠ "") :
    fillMetadata (.map (Metadata.codec.written r)) = .ok (Metadata.codec.written r) := by
  have hnulls : Fields.dropNulls (Metadata.codec.written r) = Metadata.codec.written r := rfl
  have htitle : (Metadata.codec.written r).find? "title" = some (.str r.title) := by
    simp [Metadata.codec]
  have hdescription : (Metadata.codec.written r).find? "description" = some (.str r.description) := by
    simp [Metadata.codec]
  have hsubject : (Metadata.codec.written r).find? "subject" = some (.str r.subject) := by
    simp [Metadata.codec]
  have htopic : (Metadata.codec.written r).find? "topic" = some (.str r.topic) := by
    simp [Metadata.codec]
  have hminutes : (Metadata.codec.written r).find? "estimatedMinutes" =
      some (.int r.estimatedMinutes) := by simp [Metadata.codec]
  have hdifficulty : (Metadata.codec.written r).find? "difficulty" =
      some (.str (Named.name r.difficulty)) := by simp [Metadata.codec]
  have hcomplexity : (Metadata.codec.written r).find? "complexity" =
      some (.str (Named.name r.complexity)) := by simp [Metadata.codec]
  have htags : (Metadata.codec.written r).find? "tags" = some (.list (r.tags.map .str)) := by
    simp [Metadata.codec]
  have hobjectives : (Metadata.codec.written r).find? "learningObjectives" =
      some (.list (r.learningObjectives.map .str)) := by simp [Metadata.codec]
  have hlanguage : (Metadata.codec.written r).find? "language" = some (.str r.language) := by
    simp [Metadata.codec]
  unfold fillMetadata
  dsimp only [fieldsOf]
  rw [hnulls, Fields.putNew_of_find? htitle, fillGivenText_of_find? htitle,
    fillGivenText_of_find? hdescription, fillGivenText_of_find? hsubject,
    fillGivenText_of_find? htopic, Fields.putNew_of_find? hdescription,
    fillMinutes_of_find? hminutes]
  show Except.ok _ = Except.ok _
  rw [Fields.get_of_find? hdifficulty, difficultyOf_name, Fields.put_of_find? hdifficulty,
    Fields.get_of_find? hcomplexity, complexityOf_name, Fields.put_of_find? hcomplexity,
    fillList_of_find? htags, fillList_of_find? hobjectives, Fields.get_of_find? hlanguage, if_pos]
  simpa [Value.truthy] using h

/-! ### Look and settings -/

lemma read_theme_written (r : Theme) :
    Theme.codec.read (.map (merge defaultTheme (.map (Theme.codec.written r)))) = .valid r := by
  refine r.conveys.read_merge defaultTheme ?_
  simp [Theme.codec, Value.isNull]
  exact ⟨rfl, rfl⟩

/-- Settings that are filled name a game type. -/
lemma gameType_of_fillConfig {gameType : String} {raw : Value} {r : Config} (hne : gameType ≠ "")
    (hr : Config.codec.read (.map (fillConfig (.str gameType) raw)) = .valid r) :
    r.gameType ≠ "" := by
  obtain ⟨v, hv, htruthy⟩ := exists_truthy_of_put (merge (defaultConfig (.str gameType)) raw)
    "gameType" (v := .str gameType) (by simp [Value.truthy, hne])
  have hv : (fillConfig (.str gameType) raw).find? "gameType" = some v := hv
  simp only [Config.codec, read_codec_eq_valid, readsAs_apply, readsAs_build, required,
    read_field_of_find? _ _ hv, Codec.read_text_eq_valid, Value.map.injEq, exists_eq_left'] at hr
  obtain ⟨name, rfl, hr⟩ := hr
  have hname : r.gameType = name := by
    obtain ⟨-, -, -, -, -, -, -, -, -, -, -, -, -, -, -, -, -, -, -, -, -, -, rfl⟩ := hr
    rfl
  rw [hname]
  simpa [Value.truthy] using htruthy

lemma read_config_written {r : Config} (h : r.gameType ≠ "") (gameType : Value) :
    Config.codec.read (.map (fillConfig gameType (.map (Config.codec.written r)))) = .valid r := by
  have hname : (merge (defaultConfig gameType) (.map (Config.codec.written r))).get "gameType" =
      .str r.gameType :=
    Fields.get_of_find? (r.conveys.find?_merge _ (by simp [Config.codec]) rfl)
  unfold fillConfig
  dsimp only
  rw [hname, if_pos (by simpa [Value.truthy] using h)]
  refine r.conveys.read_merge _ ?_
  simp [Config.names, Config.codec, Value.isNull]

/-! ### Scoring -/

lemma fillTiers_written (tiers : List RatingTier) :
    (fillTiers (tiers.map (RatingTier.codec.write false))).result =
      .ok (tiers.map (RatingTier.codec.write false)) := by
  have hvalid : (Traced.filterMap validTier? (tiers.map (RatingTier.codec.write false))).result =
      .ok (tiers.map (RatingTier.codec.write false)) := by
    refine (Traced.filterMap_eq_ok _ _ _).mpr
      ⟨tiers.map fun r => some (RatingTier.codec.write false r), ?_, by simp⟩
    rw [List.forall₂_map_left_iff, List.forall₂_map_right_iff, List.forall₂_same]
    intro r _
    unfold validTier?
    rw [(RatingTier.isExact r).read]
    rfl
  refine (Traced.bind_eq_ok _ _ _).mpr ⟨_, hvalid, ?_⟩
  cases tiers <;> rfl

/-- A scoring that has been written is filled so that it is read as the settled one. -/
lemma fillScoring_written {m : Fields} {r : Scoring}
    (h : Scoring.codec.read (.map m) = .valid r) :
    ∃ filled, (fillScoring (.map (Scoring.codec.written r))).result = .ok filled ∧
      Scoring.codec.read (.map filled) = .valid r.settled ∧
      wholeOr (filled.get "pointsPerCorrect") 10 = .ok r.pointsPerCorrect := by
  have hconveys := Scoring.conveys h
  have hratings : (merge (defaultScoring 100) (.map (Scoring.codec.written r))).find? "ratings" =
      some (.list (r.ratings.map (RatingTier.codec.write false))) :=
    hconveys.find?_merge _ (by simp [Scoring.codec]) rfl
  have hpoints : (merge (defaultScoring 100) (.map (Scoring.codec.written r))).get
      "pointsPerCorrect" = .int r.pointsPerCorrect :=
    Fields.get_of_find? (hconveys.find?_merge _ (by simp [Scoring.codec]) rfl)
  refine ⟨merge (defaultScoring 100) (.map (Scoring.codec.written r)), ?_, ?_, ?_⟩
  · unfold fillScoring
    dsimp only
    rw [Fields.get_of_find? hratings]
    refine (Traced.bind_eq_ok _ _ _).mpr ⟨_, fillTiers_written r.ratings, ?_⟩
    exact congrArg Except.ok (Fields.put_of_find? hratings)
  · refine hconveys.read_merge _ ?_
    have hmultiplier : (Codec.number.write false r.streakMultiplier).isNull = false := by
      have hread := (Scoring.restores_multiplier h).read
      cases hwrite : Codec.number.write false r.streakMultiplier with
      | null =>
        rw [hwrite] at hread
        cases hread
      | _ => rfl
    simp [Scoring.codec, Value.isNull]
    exact ⟨rfl, hmultiplier⟩
  · rw [hpoints]
    rfl

/-! ### Order of play -/

end Completion

namespace Content

/-- An order of play as it is filled again: without a start that is no section. -/
def Progression.settled (ids : List String) (r : Progression) : Progression :=
  { r with startSection := r.startSection.filter ids.contains }

lemma Progression.same_settled (ids : List String) (r : Progression) :
    codec.same r (r.settled ids) = true ↔ ∀ id, r.startSection = some id → id ∈ ids := by
  have hkind : Codec.named.same r.kind r.kind = true := (Codec.isExact_named _).same
  have horder : (Codec.list .text).optional.same r.sectionOrder r.sectionOrder = true :=
    (Codec.isExact_text.list.optional Codec.isSolid_list _).same
  have hscore : Codec.integer.optional.same r.minimumScore r.minimumScore = true :=
    (Codec.isExact_integer.optional Codec.isSolid_integer _).same
  have hshow : Codec.boolean.same r.showProgress r.showProgress = true :=
    (Codec.isExact_boolean _).same
  show (true && Codec.named.same r.kind r.kind &&
    (Codec.list .text).optional.same r.sectionOrder r.sectionOrder &&
    Codec.text.optional.same r.startSection (r.startSection.filter ids.contains) &&
    Codec.integer.optional.same r.minimumScore r.minimumScore &&
    Codec.boolean.same r.showProgress r.showProgress) = true ↔ _
  simp only [hkind, horder, hscore, hshow, Bool.and_true, Bool.true_and]
  cases hstart : r.startSection with
  | none => exact iff_of_true rfl nofun
  | some id =>
    by_cases hid : id ∈ ids
    · have hfilter : (some id).filter ids.contains = some id := by simp [Option.filter, hid]
      rw [hfilter]
      exact iff_of_true (Codec.isExact_text id).same fun _ h => Option.some.inj h ▸ hid
    · have hfilter : (some id).filter ids.contains = none := by simp [Option.filter, hid]
      rw [hfilter]
      exact iff_of_false nofun fun h => hid (h id rfl)

lemma Progression.read_put_order {m : Fields} {r : Progression} {v : Value}
    {o : Option (List String)} (h : codec.read (.map m) = .valid r)
    (hv : (Codec.list .text).optional.read v = .valid o) :
    codec.read (.map (m.put "sectionOrder" v)) = .valid { r with sectionOrder := o } := by
  simp only [codec, read_codec_eq_valid, readsAs_apply, readsAs_build, Value.map.injEq,
    exists_eq_left', withDefault, RecordOf.optional] at h ⊢
  simp (disch := decide) only [read_field_put_of_ne]
  obtain ⟨kind, hkind, -, -, start, hstart, score, hscore, shown, hshown, rfl⟩ := h
  exact ⟨kind, hkind, o, read_field_put_self "sectionOrder" _ hv, start, hstart, score, hscore,
    shown, hshown, rfl⟩

lemma Progression.read_put_start {m : Fields} {r : Progression} {v : Value} {o : Option String}
    (h : codec.read (.map m) = .valid r) (hv : Codec.text.optional.read v = .valid o) :
    codec.read (.map (m.put "startSection" v)) = .valid { r with startSection := o } := by
  simp only [codec, read_codec_eq_valid, readsAs_apply, readsAs_build, Value.map.injEq,
    exists_eq_left', withDefault, RecordOf.optional] at h ⊢
  simp (disch := decide) only [read_field_put_of_ne]
  obtain ⟨kind, hkind, order, horder, -, -, score, hscore, shown, hshown, rfl⟩ := h
  exact ⟨kind, hkind, order, horder, o, read_field_put_self "startSection" _ hv, score, hscore,
    shown, hshown, rfl⟩

end Content

namespace Completion

lemma distinct_of_nodup {l : List String} (h : l.Nodup) : distinct l = l := by
  induction l with
  | nil => rfl
  | cons s l ih =>
    obtain ⟨hs, hl⟩ := List.nodup_cons.mp h
    rw [distinct, ih hl, List.filter_eq_self.mpr]
    intro t ht
    have hne : t ≠ s := fun heq => hs (heq ▸ ht)
    simp [hne]

/-- An order that names some of the sections, each once, is kept. -/
lemma knownOf_of_subset {ids order : List String} (hn : order.Nodup)
    (hmem : ∀ id ∈ order, id ∈ ids) : knownOf ids (order.map .str) = order := by
  have htexts : (order.map Value.str).map Value.text = order := by
    rw [List.map_map]
    exact List.map_id _
  unfold knownOf
  rw [htexts, List.filter_eq_self.mpr, distinct_of_nodup hn]
  simpa using hmem

/-- What has been written of an order that keeps to the sections is filled as it is. -/
lemma fillOrder_written {ids : List String} {o : Option (List String)}
    (h : ∀ order, o = some order → order ≠ [] ∧ order.Nodup ∧ ∀ id ∈ order, id ∈ ids) :
    (fillOrder ids ((Codec.list .text).optional.write false o)).result =
      .ok ((Codec.list .text).optional.write false o) := by
  cases o with
  | none => rfl
  | some order =>
    obtain ⟨hne, hn, hmem⟩ := h order rfl
    show (fillOrder ids (.list (order.map .str))).result = .ok (.list (order.map .str))
    rw [fillOrder_list, knownOf_of_subset hn hmem, if_neg (by simpa using hne)]

/-- A start is kept if it is a section or if there is none. -/
lemma keeps_start_iff (ids : List String) (o : Option String) :
    ((Codec.text.optional.write false o).isNull ∨ (Codec.text.optional.write false o).isOneOf ids) ↔
      o.filter ids.contains = o := by
  cases o with
  | none => exact iff_of_true (.inl rfl) rfl
  | some id =>
    have hnull : (Codec.text.optional.write false (some id)).isNull = false := rfl
    have hone : (Codec.text.optional.write false (some id)).isOneOf ids = ids.contains id := rfl
    rw [hnull, hone]
    simp [Option.filter]

lemma isOneOf_name (kind : ProgressionKind) :
    (Value.str (Named.name kind)).isOneOf (Named.names ProgressionKind) = true := by
  cases kind <;> rfl

/-- An order of play that keeps to the sections is filled so that it is read as the settled one. -/
lemma fillProgression_written {ids : List String} {r : Progression}
    (h : ∀ order, r.sectionOrder = some order →
      order ≠ [] ∧ order.Nodup ∧ ∀ id ∈ order, id ∈ ids) :
    ∃ m, (fillProgression ids (.map (Progression.codec.written r))).result = .ok m ∧
      Progression.codec.read (.map m) = .valid (r.settled ids) := by
  have hgetOrder : (Progression.codec.written r).get "sectionOrder" =
      (Codec.list .text).optional.write false r.sectionOrder := by
    rw [Fields.get_eq]
    simp [Progression.codec]
    cases r.sectionOrder <;> rfl
  have hgetStart : (Progression.codec.written r).get "startSection" =
      Codec.text.optional.write false r.startSection := by
    rw [Fields.get_eq]
    simp [Progression.codec]
    cases r.startSection <;> rfl
  set order := (Codec.list .text).optional.write false r.sectionOrder with horder
  set start := Codec.text.optional.write false r.startSection with hstart
  set given := (Progression.codec.written r).put "sectionOrder" order with hgiven
  have hgetStart : given.get "startSection" = start := by simp [hgiven, hgetStart]
  have htype : given.find? "type" = some (.str (Named.name r.kind)) := by
    simp [Progression.codec, hgiven]
  have hread : Progression.codec.read (.map given) = .valid r :=
    Progression.read_put_order (Progression.isExact r).read
      (Codec.isExact_text.list.optional Codec.isSolid_list r.sectionOrder).read
  have hfilled (m : Fields) (hm : (fillStart ids given).result = .ok m)
      (hkind : m.find? "type" = some (.str (Named.name r.kind))) :
      (fillProgression ids (.map (Progression.codec.written r))).result = .ok m := by
    refine (Traced.bind_eq_ok _ _ _).mpr ⟨order, ?_, ?_⟩
    · rw [hgetOrder]
      exact fillOrder_written h
    · refine (Traced.bind_eq_ok _ _ _).mpr ⟨m, hm, ?_⟩
      rw [Fields.get_of_find? hkind, isOneOf_name]
      rfl
  by_cases hkeeps : r.startSection.filter ids.contains = r.startSection
  · refine ⟨given, hfilled given ?_ htype, ?_⟩
    · rw [fillStart_eq_ok, hgetStart, if_pos ((keeps_start_iff ids _).mpr hkeeps)]
    · rw [hread, Progression.settled, hkeeps]
  · refine ⟨given.put "startSection" .null, hfilled _ ?_ (by simp [htype]), ?_⟩
    · rw [fillStart_eq_ok, hgetStart, if_neg ((keeps_start_iff ids _).not.mpr hkeeps)]
    · have hnone : r.startSection.filter ids.contains = none := by
        rw [Option.filter_eq_none_iff]
        intro id hid hmem
        exact hkeeps (by simp_all [Option.filter])
      rw [Progression.settled, hnone]
      exact Progression.read_put_start hread rfl

end Completion

/-! ### Screens and sections -/

namespace Content

/-- Screens and sections as they are filled again. -/
def Script.settled (r : Script) : Script := { r with sections := r.sections.map Section.settled }

lemma Script.restores {r : Script} (h : ∀ s ∈ r.sections, s.IsComplete) :
    ∃ sections, codec.Restores r { r with sections := sections } := by
  have hsection (s : Section) : ∃ d, s.IsComplete → Section.codec.Restores s d := by
    by_cases hs : s.IsComplete
    · obtain ⟨c, hc⟩ := hs.restores
      exact ⟨_, fun _ => hc⟩
    · exact ⟨s, fun h => absurd h hs⟩
  choose d hd using hsection
  have hsections : Section.codec.list.Restores r.sections (r.sections.map d) := by
    refine Codec.restores_list ?_
    rw [List.forall₂_map_right_iff, List.forall₂_same]
    exact fun s hs => hd s (h s hs)
  exact ⟨r.sections.map d, restores_codec
    (spells_build (r := r) (s := { r with sections := r.sections.map d }) _
      |>.optional (Intro.isExact.optional (isSolid_codec _ _) _) |>.required rfl hsections
      |>.optional (Outro.isExact.optional (isSolid_codec _ _) _)) (by decide) _⟩

lemma Script.read_put_sections {m : Fields} {r : Script} {v : Value} {sections : List Section}
    (h : codec.read (.map m) = .valid r) (hv : Section.codec.list.read v = .valid sections) :
    codec.read (.map (m.put "sections" v)) = .valid { r with sections := sections } := by
  simp only [codec, read_codec_eq_valid, readsAs_apply, readsAs_build, Value.map.injEq,
    exists_eq_left', RecordOf.required, RecordOf.optional] at h ⊢
  simp (disch := decide) only [read_field_put_of_ne]
  obtain ⟨intro, hintro, -, -, outro, houtro, rfl⟩ := h
  exact ⟨intro, hintro, sections, read_field_put_self "sections" _ hv, outro, houtro, rfl⟩

lemma Script.same_settled {r : Script} (h : ∀ s ∈ r.sections, s.IsComplete) :
    codec.same r r.settled = true ↔ ∀ s ∈ r.sections, s.content.IsSettled := by
  have hintro : Intro.codec.optional.same r.intro r.intro = true :=
    (Intro.isExact.optional (isSolid_codec _ _) _).same
  have houtro : Outro.codec.optional.same r.outro r.outro = true :=
    (Outro.isExact.optional (isSolid_codec _ _) _).same
  show (true && Intro.codec.optional.same r.intro r.intro &&
    Codec.sameItems Section.codec r.sections (r.sections.map Section.settled) &&
    Outro.codec.optional.same r.outro r.outro) = true ↔ _
  rw [hintro, houtro, Bool.true_and, Bool.true_and, Bool.and_true, Codec.sameItems_map]
  exact forall₂_congr fun s hs => Section.same_settled (h s hs)

end Content

end LearningGame
