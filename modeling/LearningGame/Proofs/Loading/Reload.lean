import LearningGame.Proofs.Completion.Again.Document
import LearningGame.Proofs.Completion.Flat
import LearningGame.Proofs.Loading.Playable

/-!
# Loading a printed game

The document that a loaded game is printed as is loaded again. What comes back is the game itself,
apart from multiple-choice questions whose answer is a single index and a start of play that is no
section.
-/

namespace LearningGame

open Schema RecordOf Content Completion

/-! ### Finite documents -/

/-- A document of finite floats, or a text that holds one. -/
def HoldsFinite : Value → Prop
  | .str text => ∃ doc, parseDocument text = .ok doc ∧ doc.IsFinite
  | doc => doc.IsFinite

lemma isFinite_sections_of_recognize {doc record known : Fields} {shape : String}
    (hdoc : doc.IsFinite) (h : (recognize doc record).result = .ok (shape, known)) :
    (Fields.get (fieldsOf (known.get "content")) "sections").IsFinite := by
  unfold recognize at h
  split_ifs at h
  · cases h
    exact (isFinite_fieldsOf (hdoc.get _)).get _
  · cases hflat : FlatShape.of? doc with
    | none =>
      rw [hflat] at h
      cases h
    | some flat =>
      rw [hflat] at h
      obtain ⟨converted, hconverted, h⟩ := (Traced.bind_eq_ok _ _ _).mp h
      cases h
      obtain ⟨filled, hfilled, rfl⟩ :=
        (convertFlat_eq_ok _ _ _ _).mp ((Traced.mapError_eq_ok _ _ _).mp hconverted)
      have hsection := isFinite_flatSection hdoc hfilled
      simpa [flatDocument, Fields.get_eq, fieldsOf] using hsection

/-- A game that is loaded from finite floats is filled from sections of finite floats. -/
lemma exists_isFilledFrom_of_load {raw gameType : Value} {g : Game} (hraw : HoldsFinite raw)
    (h : (load raw gameType).result = .ok g) :
    ∃ known, g.IsFilledFrom known gameType ∧
      (Fields.get (fieldsOf (known.get "content")) "sections").IsFinite := by
  have hdoc {doc : Value} (hdoc : doc.IsFinite) (h : (ofDocument doc gameType []).result = .ok g) :
      ∃ known, g.IsFilledFrom known gameType ∧
        (Fields.get (fieldsOf (known.get "content")) "sections").IsFinite := by
    cases doc with
    | map m =>
      obtain ⟨shape, known, filled, hknown, hfilled, hg⟩ := (buildGame_eq_ok m [] gameType g).mp h
      exact ⟨known, ⟨filled, hfilled, hg⟩,
        isFinite_sections_of_recognize ((Value.isDocumentOf_map m).mp hdoc) hknown⟩
    | _ => simp [ofDocument, refuse] at h
  cases raw with
  | str text =>
    obtain ⟨doc, hparse, hfinite⟩ := hraw
    obtain ⟨doc', hparse', h⟩ := (Traced.bind_eq_ok _ _ _).mp h
    rw [Traced.result_lift, hparse] at hparse'
    cases hparse'
    exact hdoc hfinite h
  | _ => exact hdoc hraw h

/-! ### Complete games -/

namespace Game

/-- What loading makes sure of in a game. -/
structure IsComplete (g : Game) : Prop where
  version : g.version ≠ ""
  language : g.metadata.language ≠ ""
  gameType : g.config.gameType ≠ ""
  scoring : ∃ m, Scoring.codec.read (.map m) = .valid g.scoring
  sections : ∀ s ∈ g.sections, s.IsComplete
  sections_ne_nil : g.sections ≠ []
  nodup_sectionIds : g.sectionIds.Nodup
  order : g.KeepsOrder

/-- A game as it is loaded again. -/
def settled (g : Game) : Game :=
  { g with
    content := g.content.settled
    progression := g.progression.settled g.sectionIds
    scoring := g.scoring.settled }

/-- Whether a game has no multiple-choice question whose answer is a single index, and no start of
play that is no section. -/
def IsSettled (g : Game) : Prop :=
  (∀ s ∈ g.sections, s.content.IsSettled) ∧
    ∀ id, g.progression.startSection = some id → id ∈ g.sectionIds

/-- A game is read from a filled document part by part. -/
lemma read_fill_iff (p : DocumentParts) (doc : Fields) (gameType : Value) (g : Game) :
    codec.read (.map (p.fill doc gameType)) = .valid g ↔
      ((doc.get "version").orElse "1.0").text = g.version ∧
      Metadata.codec.read (.map p.metadata) = .valid g.metadata ∧
      Theme.codec.read (.map (merge defaultTheme (doc.get "theme"))) = .valid g.theme ∧
      Config.codec.read (.map (fillConfig gameType (doc.get "config"))) = .valid g.config ∧
      Script.codec.read (.map ((fieldsOf (doc.get "content")).put "sections"
        (mapList p.sections))) = .valid g.content ∧
      Progression.codec.read (.map p.progression) = .valid g.progression ∧
      Scoring.codec.read (.map p.scoring) = .valid g.scoring := by
  have hversion : (p.fill doc gameType).find? "version" =
      some (.str ((doc.get "version").orElse "1.0").text) := by simp [DocumentParts.fill]
  have hmetadata : (p.fill doc gameType).find? "metadata" = some (.map p.metadata) := by
    simp [DocumentParts.fill]
  have htheme : (p.fill doc gameType).find? "theme" =
      some (.map (merge defaultTheme (doc.get "theme"))) := by simp [DocumentParts.fill]
  have hconfig : (p.fill doc gameType).find? "config" =
      some (.map (fillConfig gameType (doc.get "config"))) := by simp [DocumentParts.fill]
  have hcontent : (p.fill doc gameType).find? "content" = some (.map
      ((fieldsOf (doc.get "content")).put "sections" (mapList p.sections))) := by
    simp [DocumentParts.fill]
  have hprogression : (p.fill doc gameType).find? "progression" = some (.map p.progression) := by
    simp [DocumentParts.fill]
  have hscoring : (p.fill doc gameType).find? "scoring" = some (.map p.scoring) := by
    simp [DocumentParts.fill]
  simp only [codec, read_codec_eq_valid, readsAs_apply, readsAs_build, Value.map.injEq,
    exists_eq_left', RecordOf.withDefault, RecordOf.required, read_field_of_find? _ _ hversion,
    read_field_of_find? _ _ hmetadata, read_field_of_find? _ _ htheme,
    read_field_of_find? _ _ hconfig, read_field_of_find? _ _ hcontent,
    read_field_of_find? _ _ hprogression, read_field_of_find? _ _ hscoring,
    Codec.read_text_eq_valid, Value.str.injEq]
  constructor
  · rintro ⟨_, hm, _, ht, _, hc, _, hs, _, hp, _, hr, rfl⟩
    exact ⟨rfl, hm, ht, hc, hs, hp, hr⟩
  · rintro ⟨hv, hm, ht, hc, hs, hp, hr⟩
    exact ⟨_, hm, _, ht, _, hc, _, hs, _, hp, _, hr, by rw [hv]⟩

/-- A game that is filled from sections of finite floats is complete. -/
lemma IsFilledFrom.isComplete {g : Game} {doc : Fields} {gameType : String}
    (h : g.IsFilledFrom doc (.str gameType)) (hne : gameType ≠ "")
    (hdoc : (Fields.get (fieldsOf (doc.get "content")) "sections").IsFinite) : g.IsComplete := by
  obtain ⟨hne_nil, hnodup, -, hkeeps⟩ := h.spec
  obtain ⟨filled, hfilled, hg⟩ := h
  obtain ⟨p, -, ⟨points, -, raw, hraw, hsections⟩, -, hmetadata, -, rfl⟩ :=
    (fillDocument_eq_ok doc filled _).mp hfilled
  obtain ⟨hversion, hlanguage, -, hconfig, hcontent, -, hscoring⟩ := (read_fill_iff _ _ _ _).mp hg
  have hcomplete : ∀ s ∈ g.sections, s.IsComplete := by
    intro s hs
    obtain ⟨v, hv, hread⟩ := (sections_of_read hg).exists_of_mem_right hs
    obtain ⟨m, hm, rfl⟩ := List.mem_map.mp hv
    obtain ⟨w, hw, i, hfill⟩ := exists_of_mem_fillSections hsections hm
    exact isComplete_of_fillSection (Value.isFinite_elements hdoc hraw w hw) hfill hread
  refine ⟨?_, language_of_fillMetadata hmetadata hlanguage, gameType_of_fillConfig hne hconfig,
    ⟨_, hscoring⟩, hcomplete, hne_nil, hnodup, hkeeps⟩
  rw [← hversion]
  exact Value.text_ne_empty (truthy_orElse _ _ rfl)

lemma get_content_written (g : Game) :
    (codec.written g).get "content" = .map (Script.codec.written g.content) :=
  Fields.get_of_find? (by simp [codec]; exact ⟨rfl, rfl⟩)

lemma get_sections_written (g : Game) :
    (Script.codec.written g.content).get "sections" =
      .list (g.sections.map fun s => .map (Section.codec.written s)) :=
  Fields.get_of_find? (by simp [Script.codec]; rfl)

lemma hasSections_written (g : Game) : hasSections (codec.written g) = true := by
  unfold hasSections
  rw [get_content_written, fieldsOf, get_sections_written]
  rfl

/-- A complete game is filled from its own document as it is settled. -/
lemma IsComplete.isFilledFrom_settled {g : Game} (h : g.IsComplete) (gameType : Value) :
    g.settled.IsFilledFrom (codec.written g) gameType := by
  have hversion : (codec.written g).get "version" = .str g.version :=
    Fields.get_of_find? (by simp [codec])
  have hmetadata : (codec.written g).get "metadata" = .map (Metadata.codec.written g.metadata) :=
    Fields.get_of_find? (by simp [codec]; exact ⟨rfl, rfl⟩)
  have htheme : (codec.written g).get "theme" = .map (Theme.codec.written g.theme) :=
    Fields.get_of_find? (by simp [codec]; exact ⟨rfl, rfl⟩)
  have hconfig : (codec.written g).get "config" = .map (Config.codec.written g.config) :=
    Fields.get_of_find? (by simp [codec]; exact ⟨rfl, rfl⟩)
  have hprogression : (codec.written g).get "progression" =
      .map (Progression.codec.written g.progression) :=
    Fields.get_of_find? (by simp [codec]; exact ⟨rfl, rfl⟩)
  have hscoring : (codec.written g).get "scoring" = .map (Scoring.codec.written g.scoring) :=
    Fields.get_of_find? (by simp [codec]; exact ⟨rfl, rfl⟩)
  obtain ⟨m, hm⟩ := h.scoring
  obtain ⟨scoring, hfillScoring, hreadScoring, hpoints⟩ := fillScoring_written hm
  obtain ⟨ms, hfillSections, hms⟩ := fillSections_written g.scoring.pointsPerCorrect [] 0
    h.sections h.nodup_sectionIds (by simp)
  have hids : (ms.map fun m => textAt m "id") = g.sectionIds := by
    rw [sectionIds, ← List.forall₂_eq_eq_eq, List.forall₂_map_left_iff, List.forall₂_map_right_iff]
    exact hms.imp fun _ _ h => h.2
  obtain ⟨progression, hfillProgression, hreadProgression⟩ := fillProgression_written h.order
  have hsections : Section.codec.list.read (mapList ms) =
      .valid (g.sections.map Section.settled) := by
    refine (Codec.read_list_eq_valid _ _ _).mpr ⟨ms.map .map, rfl, ?_⟩
    rw [List.forall₂_map_left_iff, List.forall₂_map_right_iff]
    exact hms.imp fun _ _ h => h.1
  obtain ⟨old, hold⟩ := Script.restores h.sections
  refine ⟨_, (fillDocument_eq_ok _ _ _).mpr ⟨⟨scoring, ms, Metadata.codec.written g.metadata,
    progression⟩, ?_, ⟨_, hpoints, _, ?_, hfillSections⟩, ?_, ?_, ?_, rfl⟩, ?_⟩
  · rw [hscoring]
    exact hfillScoring
  · rw [get_content_written, fieldsOf, get_sections_written]
    rfl
  · intro hnil
    rw [show ms = [] from hnil] at hids
    exact h.sections_ne_nil (List.map_eq_nil_iff.mp hids.symm)
  · rw [hmetadata]
    exact fillMetadata_written h.language
  · rw [hprogression, DocumentParts.sectionIds, hids]
    exact hfillProgression
  · refine (read_fill_iff _ _ _ _).mpr ⟨?_, (Metadata.isExact _).read, ?_, ?_, ?_,
      hreadProgression, hreadScoring⟩
    · rw [hversion, orElse_str h.version]
      rfl
    · rw [htheme]
      exact read_theme_written g.theme
    · rw [hconfig]
      exact read_config_written h.gameType gameType
    · rw [get_content_written]
      exact Script.read_put_sections (r := { g.content with sections := old }) hold.read hsections

lemma same_settled {g : Game} (h : g.IsComplete) : g.same g.settled = true ↔ g.IsSettled := by
  obtain ⟨m, hm⟩ := h.scoring
  have hmetadata : Metadata.codec.same g.metadata g.metadata = true := (Metadata.isExact _).same
  have htheme : Theme.codec.same g.theme g.theme = true := (Theme.isExact _).same
  have hconfig : Config.codec.same g.config g.config = true := (Config.isExact _).same
  have hscoring : Scoring.codec.same g.scoring g.scoring.settled = true :=
    (Scoring.conveys hm).restores.same
  have hversion : Codec.text.same g.version g.version = true := (Codec.isExact_text _).same
  show (true && Codec.text.same g.version g.version && Metadata.codec.same g.metadata g.metadata &&
    Theme.codec.same g.theme g.theme && Config.codec.same g.config g.config &&
    Script.codec.same g.content g.content.settled &&
    Progression.codec.same g.progression (g.progression.settled g.sectionIds) &&
    Scoring.codec.same g.scoring g.scoring.settled) = true ↔ _
  simp only [hversion, hmetadata, htheme, hconfig, hscoring, Bool.and_true, Bool.true_and,
    Bool.and_eq_true]
  exact and_congr (Script.same_settled h.sections) (Progression.same_settled _ _)

end Game

/-! ### Loading again -/

/-- The document that a loaded game is printed as is loaded as the settled game, which equals the
game exactly if the game is settled. -/
theorem load_toDocument {raw : Value} {gameType : String} {g : Game} (hraw : HoldsFinite raw)
    (hne : gameType ≠ "") (h : (load raw (.str gameType)).result = .ok g) :
    (load g.toDocument (.str gameType)).result = .ok g.settled ∧
      (g.same g.settled = true ↔ g.IsSettled) := by
  obtain ⟨known, hknown, hfinite⟩ := exists_isFilledFrom_of_load hraw h
  have hg := hknown.isComplete hne hfinite
  refine ⟨?_, Game.same_settled hg⟩
  obtain ⟨filled, hfilled, hread⟩ := hg.isFilledFrom_settled (.str gameType)
  show (buildGame (Game.codec.written g) (.str gameType) []).result = _
  exact (buildGame_eq_ok _ _ _ _).mpr
    ⟨_, _, filled, recognize_of_hasSections (Game.hasSections_written g) [], hfilled, hread⟩

/-- A quiz with a multiple-choice question and its answer key. -/
def quizWith (answerKey : Value) : Value :=
  .map [("content", .map [("sections", .list
    [.map [("type", "quiz"), ("content", .map [("questions", .list
      [.map [("question", "Which?"), ("questionType", "multiple-choice"),
        ("options", .list ["one", "other"]), ("correctAnswer", answerKey)]])])]])])]

theorem load_toDocument_of_list :
    HoldsFinite (quizWith (.list [.int 0, .int 1])) ∧ "quiz" ≠ "" ∧
      ∃ g, (load (quizWith (.list [.int 0, .int 1])) "quiz").result = .ok g ∧
        (load g.toDocument "quiz").result = .ok g.settled ∧
          (g.same g.settled = true ↔ g.IsSettled) := by
  have hfinite : HoldsFinite (quizWith (.list [.int 0, .int 1])) := by
    simp [HoldsFinite, quizWith]
  obtain ⟨g, hg⟩ := Traced.exists_ok_of_isOk
    (x := load (quizWith (.list [.int 0, .int 1])) "quiz") (by decide +kernel)
  exact ⟨hfinite, by decide, g, hg, load_toDocument hfinite (by decide) hg⟩

/-- An answer key that is null becomes an index, and on loading again a list of it. -/
theorem not_same_of_null :
    HoldsFinite (quizWith .null) ∧ ∃ g again, (load (quizWith .null) "quiz").result = .ok g ∧
      (load g.toDocument "quiz").result = .ok again ∧ g.same again = false := by
  refine ⟨by simp [HoldsFinite, quizWith], ?_⟩
  have h : (match (load (quizWith .null) "quiz").result with
    | .ok g =>
      match (load g.toDocument "quiz").result with
      | .ok again => !g.same again
      | .error _ => false
    | .error _ => false) = true := by decide +kernel
  cases hg : (load (quizWith .null) "quiz").result with
  | error e =>
    rw [hg] at h
    cases h
  | ok g =>
    rw [hg] at h
    dsimp only at h
    cases hagain : (load g.toDocument "quiz").result with
    | error e =>
      rw [hagain] at h
      cases h
    | ok again =>
      rw [hagain] at h
      exact ⟨g, again, rfl, hagain, by simpa using h⟩
end LearningGame
