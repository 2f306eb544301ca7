import LearningGame.Proofs.Completion.Faults
import LearningGame.Proofs.Completion.Flat
import LearningGame.Proofs.Json.Reader
import LearningGame.Proofs.Loading.Basic

/-!
# Faults of loading

Loading refuses what cannot be played, except for the documents told here, at which it breaks off
with a fault instead of a report.
-/

namespace LearningGame

open Completion Content Schema

/-! ### Faults -/

namespace Completion.Loading

variable {α β : Type}

/-- Loading breaks off with a fault. -/
def Faults (x : Loading α) : Prop := ∃ f, x.result = .error (.fault f)

@[simp] lemma not_faults_pure (a : α) : ¬Faults (pure a) := by simp [Faults]

@[simp] lemma not_faults_refuse (cause : Unplayable) : ¬Faults (refuse cause : Loading α) := by
  simp [Faults, refuse]

lemma faults_bind (x : Loading α) (f : α → Loading β) :
    Faults (x >>= f) ↔ Faults x ∨ ∃ a, x.result = .ok a ∧ Faults (f a) := by
  unfold Faults
  rw [Traced.result_bind]
  cases x.result <;> simp [Except.bind]

lemma faults_filling (x : Filling α) : Faults (filling x) ↔ x.Breaks := by
  unfold Faults filling Traced.Breaks
  rw [Traced.result_mapError]
  cases x.result <;> simp [Except.mapError]

lemma faults_lift (r : Except Fault α) :
    Faults (Traced.lift (r.mapError .fault)) ↔ ¬∃ a, r = .ok a := by
  unfold Faults
  cases r <;> simp [Except.mapError]

lemma not_faults_of_not_breaks {x : Loading α} (h : ¬x.Breaks) : ¬Faults x :=
  fun ⟨_, hf⟩ => h ⟨_, hf⟩

end Completion.Loading

open Completion.Loading

/-! ### Entries with defaults -/

/-- What is found at a key after merging: what is given unless it is null, else the default. -/
lemma get_merge {raw : Value} (defaults : Fields) (h : Fields.IsRecord (fieldsOf raw))
    (key : String) :
    (merge defaults raw).get key =
      if (Fields.get (fieldsOf raw) key).isNull then defaults.get key
      else Fields.get (fieldsOf raw) key := by
  cases raw with
  | map m =>
    have hm : Fields.IsRecord m := h
    have hmerge : (merge defaults (.map m)).find? key =
        ((Fields.find? m key).filter fun v => !v.isNull).or (defaults.find? key) := by
      rw [merge, Fields.find?_putAll _ hm.dropNulls, hm.find?_dropNulls]
    have hraw : Fields.get (fieldsOf (.map m)) key = (Fields.find? m key).getD .null := rfl
    rw [Fields.get_eq, hmerge]
    cases hf : Fields.find? m key with
    | none => simp [hraw, hf, Value.isNull, Fields.get_eq defaults]
    | some v => cases hv : v.isNull <;> simp [hraw, hf, Option.filter, hv, Fields.get_eq defaults]
  | _ => simp [merge, fieldsOf, Fields.get_eq, Value.isNull]

lemma Value.IsDocumentOf.isRecord_fieldsOf {p : Float → Prop} {v : Value}
    (h : v.IsDocumentOf p) : Fields.IsRecord (fieldsOf v) := by
  cases h with
  | map hm _ => exact hm
  | _ => exact Fields.isRecord_nil

lemma get_dropNulls {m : Fields} (h : Fields.IsRecord m) (key : String) :
    (Fields.dropNulls m).get key = m.get key := by
  rw [Fields.get_eq, h.find?_dropNulls, Fields.get_eq]
  cases m.find? key with
  | none => rfl
  | some v => cases v <;> simp [Option.filter, Value.isNull]

/-! ### Parts of documents -/

lemma exists_fillMinutes_iff (m : Fields) :
    (∃ n, fillMinutes m = .ok n) ↔ ¬(m.get "estimatedMinutes").IsNotFinite := by
  rw [← exists_wholeOr_iff _ 0]
  unfold fillMinutes
  split
  · simp [*, wholeOr]
  · rename_i x hx
    simp only [hx, wholeOr]
    cases (Number.float x).toInt <;> simp [Except.map]
  · rename_i hint hfloat
    cases hm : m.get "estimatedMinutes" with
    | int n => exact absurd hm (hint n)
    | float x => exact absurd hm (hfloat x)
    | _ => simp [wholeOr]

lemma exists_fillMetadata_iff {raw : Value} (h : Fields.IsRecord (fieldsOf raw)) :
    (∃ m, fillMetadata raw = .ok m) ↔
      ¬(Fields.get (fieldsOf raw) "estimatedMinutes").IsNotFinite := by
  rw [← get_dropNulls h]
  -- None of the texts that are filled in first is the number of minutes.
  have hminutes : ∀ m : Fields, (Fields.putNew (fillGivenText (fillGivenText (fillGivenText
      (fillGivenText (m.putNew "title" "Game") "title") "description") "subject") "topic")
      "description" "").get "estimatedMinutes" = m.get "estimatedMinutes" := by
    intro m
    simp [Fields.get_eq, find?_fillGivenText]
  unfold fillMetadata
  dsimp only
  rw [← hminutes, ← exists_fillMinutes_iff]
  cases fillMinutes _ <;> simp [Bind.bind, Except.bind, pure, Except.pure]

lemma not_breaks_fillScoring (raw : Value) : ¬(fillScoring raw).Breaks := by
  have htier (v : Value) : ¬(validTier? v).Breaks := by
    unfold validTier?
    cases RatingTier.codec.read v <;> simp [Traced.breaks_bind, warnLoader]
  have htiers (given : List Value) : ¬(fillTiers given).Breaks := by
    simp [fillTiers, Traced.breaks_bind, Traced.breaks_filterMap, htier]
  unfold fillScoring
  dsimp only
  split <;> simp [Traced.breaks_bind, htiers]

/-- Only the ratings of a merged scoring are filled. -/
lemma get_fillScoring {raw : Value} {m : Fields} (h : (fillScoring raw).result = .ok m)
    (key : String) (hkey : key ≠ "ratings") :
    m.get key = (merge (defaultScoring 100) raw).get key := by
  unfold fillScoring at h
  dsimp only at h
  split at h
  · obtain ⟨tiers, -, h⟩ := (Traced.bind_eq_ok _ _ _).mp h
    cases h
    simp [hkey.symm]
  · cases h
    simp [hkey.symm]

lemma faults_fillSections (points : Int) (seen : List String) (index : Nat) (raws : List Value) :
    Faults (fillSections points seen index raws) ↔ ∃ v ∈ raws, SectionBreaks v := by
  induction raws generalizing seen index with
  | nil => simp [fillSections]
  | cons v rest ih =>
    rw [fillSections, faults_bind, faults_filling, breaks_fillSection, List.exists_mem_cons_iff]
    refine or_congr_right' fun hv => ?_
    obtain ⟨o, ho⟩ := Traced.exists_ok_of_not_breaks (mt (breaks_fillSection v index points).mp hv)
    have hok : (filling (fillSection v index points)).result = .ok o := by
      simp [filling, ho, Except.mapError]
    simp only [hok, Except.ok.injEq, exists_eq_left']
    cases o with
    | none => exact ih seen (index + 1)
    | some m =>
      dsimp only
      split_ifs
      · rw [faults_bind, ← ih seen (index + 1)]
        simp [warnLoader, Faults]
      · rw [faults_bind, ih]
        simp

/-- Sections that can all be filled give some sections. -/
lemma exists_fillSections {raws : List Value} (h : ∀ v ∈ raws, ¬SectionBreaks v) (points : Int)
    (seen : List String) (index : Nat) :
    ∃ ms, (fillSections points seen index raws).result = .ok ms := by
  induction raws generalizing seen index with
  | nil => exact ⟨[], rfl⟩
  | cons v rest ih =>
    rw [List.forall_mem_cons] at h
    obtain ⟨o, ho⟩ :=
      Traced.exists_ok_of_not_breaks (mt (breaks_fillSection v index points).mp h.1)
    simp only [fillSections_cons_eq_ok]
    cases o with
    | none =>
      obtain ⟨ms, hms⟩ := ih h.2 seen (index + 1)
      exact ⟨ms, none, ho, hms⟩
    | some m =>
      by_cases hs : seen.contains (textAt m "id") = true
      · obtain ⟨ms, hms⟩ := ih h.2 seen (index + 1)
        refine ⟨ms, some m, ho, ?_⟩
        dsimp only
        rwa [if_pos hs]
      · obtain ⟨ms, hms⟩ := ih h.2 (textAt m "id" :: seen) (index + 1)
        refine ⟨m :: ms, some m, ho, ?_⟩
        dsimp only
        rw [if_neg hs]
        exact ⟨ms, hms, rfl⟩

/-- Sections that can be filled are all dropped exactly if none is of a known kind. -/
lemma fillSections_eq_nil_iff {points : Int} {index : Nat} {raws : List Value} {ms : List Fields}
    (h : (fillSections points [] index raws).result = .ok ms) :
    ms = [] ↔ ∀ v ∈ raws, playableKind? v = none := by
  induction raws generalizing index with
  | nil =>
    cases h
    simp
  | cons v rest ih =>
    obtain ⟨o, ho, hrest⟩ := (fillSections_cons_eq_ok [] index v rest ms).mp h
    rw [List.forall_mem_cons, ← fillSection_eq_none_iff ho]
    cases o with
    | none => simpa using ih hrest
    | some m =>
      obtain ⟨others, -, rfl⟩ : ∃ others, _ ∧ m :: others = ms := by simpa using hrest
      simp

/-! ### Documents with sections -/

/-- Whether filling a document with sections breaks off: at the points for a correct answer, at one
of the sections, or, if there is a section to play, at the minutes that play takes. -/
def FullBreaks (doc : Fields) : Prop :=
  (Fields.get (fieldsOf (doc.get "scoring")) "pointsPerCorrect").IsNotFinite ∨
    (∃ v ∈ sectionsOf doc, SectionBreaks v) ∨
    (∃ v ∈ sectionsOf doc, (playableKind? v).isSome = true) ∧
      (Fields.get (fieldsOf (doc.get "metadata")) "estimatedMinutes").IsNotFinite

lemma isNotFinite_merge_iff {raw : Value} {defaults : Fields} {key : String}
    (h : Fields.IsRecord (fieldsOf raw)) (hdefault : ¬(defaults.get key).IsNotFinite) :
    ((merge defaults raw).get key).IsNotFinite ↔ (Fields.get (fieldsOf raw) key).IsNotFinite := by
  rw [get_merge defaults h]
  split_ifs with hnull
  · refine iff_of_false hdefault ?_
    rintro ⟨x, hx, -⟩
    simp [hx, Value.isNull] at hnull
  · exact Iff.rfl

lemma not_faults_fillProgression (ids : List String) (v : Value) :
    ¬Faults (fillProgression ids v) := by
  cases v with
  | map m =>
    have horder (w : Value) : ¬Faults (fillOrder ids w) := by
      cases w with
      | list order => simp [Faults, fillOrder_list]
      | _ => exact not_faults_pure _
    have hstart (n : Fields) : ¬Faults (fillStart ids n) := by simp [Faults, fillStart_eq_ok]
    simp [fillProgression, fillGivenProgression, faults_bind, horder, hstart]
  | _ => exact not_faults_pure _

lemma faults_fillDocument {doc : Fields} (hs : Fields.IsRecord (fieldsOf (doc.get "scoring")))
    (hm : Fields.IsRecord (fieldsOf (doc.get "metadata"))) (gameType : Value)
    (hlist : hasSections doc = true) :
    Faults (fillDocument doc gameType) ↔ FullBreaks doc := by
  obtain ⟨raws, hraws⟩ : ∃ raws,
      Fields.get (fieldsOf (doc.get "content")) "sections" = .list raws := by
    unfold hasSections at hlist
    cases hv : Fields.get (fieldsOf (doc.get "content")) "sections" with
    | list raws => exact ⟨raws, rfl⟩
    | _ => simp [hv, Value.isList] at hlist
  obtain ⟨scoring, hscoring⟩ := Traced.exists_ok_of_not_breaks
    (not_breaks_fillScoring (doc.get "scoring"))
  have hpoints : (scoring.get "pointsPerCorrect").IsNotFinite ↔
      (Fields.get (fieldsOf (doc.get "scoring")) "pointsPerCorrect").IsNotFinite := by
    rw [get_fillScoring hscoring _ (by decide)]
    exact isNotFinite_merge_iff hs (by simp [defaultScoring, Fields.get_eq])
  have hsections : sectionsOf doc = raws := by rw [sectionsOf, hraws, Value.items]
  rw [FullBreaks, hsections, fillDocument, ← hpoints]
  simp only [faults_bind, not_faults_of_not_breaks (not_breaks_fillScoring _), false_or, hscoring,
    Except.ok.injEq, exists_eq_left', faults_lift, exists_wholeOr_iff, not_not, hraws,
    Value.elements, Traced.result_lift, Except.mapError_eq_ok, exists_eq', not_true_eq_false,
    faults_fillSections]
  by_cases hp : (scoring.get "pointsPerCorrect").IsNotFinite
  · simp [hp]
  by_cases hs : ∃ v ∈ raws, SectionBreaks v
  · obtain ⟨points, hpoints⟩ := (exists_wholeOr_iff _ 10).mpr hp
    simp [hs, hpoints]
  · obtain ⟨points, hpoints⟩ := (exists_wholeOr_iff _ 10).mpr hp
    obtain ⟨ms, hms⟩ := exists_fillSections (fun v hv hb => hs ⟨v, hv, hb⟩) points [] 0
    simp only [hp, hs, hpoints, hms, Except.ok.injEq, exists_eq_left', false_or]
    have hnil : ms = [] ↔ ¬∃ v ∈ raws, (playableKind? v).isSome = true := by
      rw [fillSections_eq_nil_iff hms]
      simp
    by_cases hempty : ms = []
    · simp [hempty, hnil.mp hempty, Faults]
    · have hsome := not_not.mp (mt hnil.mpr hempty)
      rw [if_neg (by simpa using hempty)]
      simp only [faults_bind, faults_lift, not_faults_fillProgression, not_faults_pure, and_false,
        exists_false, or_false, hsome, true_and]
      rw [Fields.get_put, if_neg (by decide), exists_fillMetadata_iff hm, not_not]

/-! ### Flat content -/

/-- A question whose options count as true and are no sequence. -/
def OptionsBreak (v : Value) : Prop :=
  ∃ q, v = .map q ∧ (Fields.get q "options").truthy = true ∧
    ¬∃ items, (Fields.get q "options").elements = .ok items

/-- Whether converting flat content breaks off: at the options of a question. -/
def FlatBreaks (shape : FlatShape) (doc : Fields) : Prop :=
  shape = .quiz ∧ ∃ v ∈ (doc.get "questions").items, OptionsBreak v

lemma exists_flatOptions_iff (v : Value) :
    (∃ w, flatOptions v = .ok w) ↔ ¬(v.truthy = true ∧ ¬∃ items, v.elements = .ok items) := by
  unfold flatOptions Value.orElse
  cases ht : v.truthy with
  | false => simp [Value.elements, Bind.bind, Except.bind, pure, Except.pure]
  | true => cases h : v.elements <;> simp [h, Bind.bind, Except.bind, pure, Except.pure]

lemma breaks_flatQuestion? (v : Value) (index : Nat) :
    (flatQuestion? v index).Breaks ↔ OptionsBreak v := by
  unfold OptionsBreak
  cases v with
  | map q =>
    simp [flatQuestion?, Traced.breaks_bind, Traced.breaks_lift, exists_flatOptions_iff]
  | _ => simp [flatQuestion?, Traced.breaks_bind, noteFlat]

lemma breaks_flatQuiz (content : Fields) :
    (flatQuiz content).Breaks ↔ ∃ v ∈ (content.get "questions").items, OptionsBreak v := by
  simp only [flatQuiz, Traced.breaks_bind, Traced.breaks_filterMap, Traced.not_breaks_pure,
    and_false, exists_false, or_false, breaks_flatQuestion?]
  exact exists_zipIdx_iff _ _ OptionsBreak

lemma not_breaks_flatMatching (content : Fields) : ¬(flatMatching content).Breaks := by
  have hpair (g : CardGroup) (n : Nat) : ¬(g.toPair n).Breaks := by
    unfold CardGroup.toPair
    split_ifs <;> simp [Traced.breaks_bind, noteFlat]
  simp [flatMatching, pairCards, Traced.breaks_bind, Traced.breaks_traverse, hpair]

lemma breaks_convertFlat (shape : FlatShape) (doc record : Fields) :
    (convertFlat shape doc record).Breaks ↔ FlatBreaks shape doc := by
  rw [FlatBreaks, ← breaks_flatQuiz]
  cases shape <;>
    simp [convertFlat, flatContent, Traced.breaks_bind, noteFlat, not_breaks_flatMatching]

/-- The kind of the section that a shape becomes. -/
def flatKind : FlatShape → SectionKind
  | .quiz => .quiz
  | .flashcards => .flashcards
  | .matching => .matching

lemma points_of_flatQuestion? {v w : Value} {index : Nat}
    (h : (flatQuestion? v index).result = .ok (some w)) :
    ∃ q, w = .map q ∧ Fields.get q "points" = .int 10 := by
  cases v with
  | map q =>
    obtain ⟨options, -, h⟩ := (Traced.bind_eq_ok _ _ _).mp h
    cases h
    exact ⟨_, rfl, by simp [Fields.get_eq]⟩
  | _ =>
    obtain ⟨-, -, h⟩ := (Traced.bind_eq_ok _ _ _).mp h
    cases h

lemma not_hasNotFinite_flatQuiz {content filled : Fields}
    (h : (flatQuiz content).result = .ok filled) : ¬HasNotFinite filled "questions" "points" := by
  obtain ⟨questions, hquestions, h⟩ := (Traced.bind_eq_ok _ _ _).mp h
  cases h
  obtain ⟨os, hos, rfl⟩ := (Traced.filterMap_eq_ok _ _ _).mp hquestions
  rintro ⟨m, hm, hnot⟩
  have hm : .map m ∈ os.filterMap id := by simpa [Fields.get_eq, Value.items] using hm
  obtain ⟨o, ho, rfl⟩ := List.mem_filterMap.mp hm
  obtain ⟨e, -, he⟩ := hos.exists_of_mem_right ho
  obtain ⟨q, hq, hpoints⟩ := points_of_flatQuestion? he
  cases hq
  simp [hpoints] at hnot

lemma flatContent_spec {content filled : Fields} {shape : FlatShape}
    (h : (flatContent content shape).result = .ok filled) :
    filled.get "type" = .str (Named.name (flatKind shape)) ∧
      ¬ContentBreaks filled (flatKind shape) := by
  cases shape with
  | quiz =>
    refine ⟨?_, not_hasNotFinite_flatQuiz h⟩
    obtain ⟨questions, -, h⟩ := (Traced.bind_eq_ok _ _ _).mp h
    cases h
    simp [Fields.get_eq, flatKind]
  | flashcards =>
    cases h
    exact ⟨by simp [flatDeck, Fields.get_eq, flatKind], fun hb => hb⟩
  | matching =>
    obtain ⟨pairs, -, h⟩ := (Traced.bind_eq_ok _ _ _).mp h
    cases h
    exact ⟨by simp [Fields.get_eq, flatKind], fun hb => hb⟩

lemma kindOf?_flatSection {shape : FlatShape} {filled : Fields}
    (h : filled.get "type" = .str (Named.name (flatKind shape))) :
    kindOf? (flatSection shape filled) = some (flatKind shape) := by
  have htype : (flatSection shape filled).get "type" = .str (Named.name (flatKind shape)) := by
    rw [← h]
    simp [flatSection, Fields.get_eq]
  rw [kindOf?, htype]
  cases shape <;> rfl

lemma isNotFinite_orElse_iff (v : Value) (n : Int) :
    (v.orElse (.int n)).IsNotFinite ↔ v.IsNotFinite := by
  unfold Value.orElse
  split_ifs with ht
  · exact Iff.rfl
  · refine iff_of_false (by simp) ?_
    rintro ⟨x, rfl, hx⟩
    simp [Value.truthy, beq_zero_of_not_isFinite hx] at ht

/-- What flat content is converted into breaks off at the minutes that the record tells only. -/
lemma fullBreaks_flatDocument {shape : FlatShape} {doc record filled : Fields}
    (h : (flatContent doc shape).result = .ok filled) :
    FullBreaks (flatDocument shape filled record) ↔ (record.get "durationMinutes").IsNotFinite := by
  obtain ⟨htype, hcontent⟩ := flatContent_spec h
  have hkind : playableKind? (.map (flatSection shape filled)) = some (flatKind shape) :=
    kindOf?_flatSection htype
  have hpoints : ¬(Fields.get (fieldsOf (Fields.get (flatDocument shape filled record) "scoring"))
      "pointsPerCorrect").IsNotFinite := by
    simp [flatDocument, Fields.get_eq, fieldsOf, defaultScoring]
  have hsection : ¬SectionBreaks (.map (flatSection shape filled)) := by
    rintro ⟨kind, hk, hb⟩
    rw [hkind] at hk
    cases hk
    exact hcontent (by simpa [flatSection, Fields.get_eq, fieldsOf] using hb)
  have hminutes : Fields.get (fieldsOf (Fields.get (flatDocument shape filled record) "metadata"))
      "estimatedMinutes" = (record.get "durationMinutes").orElse (.int 10) := by
    simp [flatDocument, Fields.get_eq, fieldsOf, flatMetadata]
  rw [FullBreaks, sectionsOf_flatDocument, hminutes, isNotFinite_orElse_iff]
  simp [hpoints, hsection, hkind]

lemma faults_fillDocument_flatDocument {shape : FlatShape} {doc record filled : Fields}
    (h : (flatContent doc shape).result = .ok filled) (gameType : Value) :
    Faults (fillDocument (flatDocument shape filled record) gameType) ↔
      (record.get "durationMinutes").IsNotFinite := by
  have hscoring : Fields.IsRecord (defaultScoring 100) := by
    simp [defaultScoring, Fields.isRecord_cons]
  have hmetadata : Fields.IsRecord (flatMetadata record) := by
    simp [flatMetadata, Fields.isRecord_cons]
  rw [← fullBreaks_flatDocument h]
  refine faults_fillDocument ?_ ?_ gameType ?_
  · simpa [flatDocument, Fields.get_eq, fieldsOf] using hscoring
  · simpa [flatDocument, Fields.get_eq, fieldsOf] using hmetadata
  · simp [hasSections, flatDocument, Fields.get_eq, fieldsOf, Value.isList]

/-! ### Documents and texts -/

/-- Whether loading breaks off at a document. -/
def DocumentBreaks (doc record : Fields) : Prop :=
  if hasSections doc then FullBreaks doc
  else ∃ shape, FlatShape.of? doc = some shape ∧
    (FlatBreaks shape doc ∨ (record.get "durationMinutes").IsNotFinite)

lemma not_faults_checkGame (doc : Fields) : ¬Faults (checkGame doc) := by
  unfold checkGame
  cases Game.codec.read (.map doc) <;> simp

/-- Building a game breaks off where filling the document does that is recognized. -/
lemma faults_buildGame_iff (doc record : Fields) (gameType : Value) :
    Faults (buildGame doc gameType record) ↔
      Faults (recognize doc record) ∨
        ∃ known, (recognize doc record).result = .ok known ∧
          Faults (fillDocument known.2 gameType) := by
  have hnote (level : Log.Level) (source message : String) :
      ¬Faults (Traced.note level source message) := by simp [Faults]
  simp [buildGame, faults_bind, not_faults_checkGame, hnote]

lemma faults_buildGame {p : Float → Prop} {doc : Fields} (h : doc.IsDocumentOf p)
    (gameType : Value) (record : Fields) :
    Faults (buildGame doc gameType record) ↔ DocumentBreaks doc record := by
  rw [faults_buildGame_iff, recognize, DocumentBreaks]
  split_ifs with hlist
  · simp only [not_faults_pure, false_or, Traced.result_pure, Except.ok.injEq, exists_eq_left']
    exact faults_fillDocument (h.get _).isRecord_fieldsOf (h.get _).isRecord_fieldsOf gameType hlist
  · cases hshape : FlatShape.of? doc with
    | none => simp [Faults, refuse]
    | some shape =>
      simp only [faults_bind, faults_filling, breaks_convertFlat, not_faults_pure, and_false,
        exists_false, or_false, Option.some.injEq, exists_eq_left']
      by_cases hflat : FlatBreaks shape doc
      · simp [hflat]
      · obtain ⟨converted, hconverted⟩ :=
          Traced.exists_ok_of_not_breaks (mt (breaks_convertFlat shape doc record).mp hflat)
        obtain ⟨filled, hfilled, rfl⟩ := (convertFlat_eq_ok shape doc record converted).mp hconverted
        simp [hflat, filling, hconverted, Except.mapError, Except.bind,
          faults_fillDocument_flatDocument hfilled]

/-- Whether loading breaks off at a text: at an integer with more digits than are read, or at the
document that the text holds. -/
def TextBreaks (text : String) (record : Fields) : Prop :=
  (∃ e, Json.read (Fence.strip text) = .error e ∧ e.problem = .tooManyDigits) ∨
    ∃ doc, Json.read (Fence.strip text) = .ok (.map doc) ∧ DocumentBreaks doc record

/-- Whether loading breaks off at a text or a document. -/
def LoadBreaks (raw : Value) : Prop :=
  (∃ text, raw = .str text ∧ TextBreaks text []) ∨ ∃ doc, raw = .map doc ∧ DocumentBreaks doc []

/-- Whether loading breaks off at the record of a stored game. -/
def RecordBreaks (record : Fields) : Prop :=
  ∃ text, record.get "gameContent" = .str text ∧ Text.isBlankText text = false ∧
    TextBreaks text record

lemma faults_ofDocument {p : Float → Prop} {doc : Value} (h : doc.IsDocumentOf p)
    (gameType : Value) (record : Fields) :
    Faults (ofDocument doc gameType record) ↔
      ∃ m, doc = .map m ∧ DocumentBreaks m record := by
  cases h with
  | map hm hall => simpa [ofDocument] using faults_buildGame ⟨hm, hall⟩ gameType record
  | _ => simp [ofDocument]

lemma faults_parse (text : String) (gameType : Value) (record : Fields) :
    Faults (Traced.lift (parseDocument text) >>= fun doc => ofDocument doc gameType record) ↔
      TextBreaks text record := by
  rw [faults_bind, TextBreaks]
  unfold parseDocument
  cases hread : Json.read (Fence.strip text) with
  | ok v =>
    have hv := faults_ofDocument (Json.isDocument_of_read hread) gameType record
    have hlift : ¬Faults (Traced.lift (.ok v) : Loading Value) := by simp [Faults]
    simp [hlift, hv]
  | error e =>
    cases he : e.problem <;> simp [Faults, he]

/-! ### Loading -/

/-- Loading ends with a game or with a refusal. -/
def Settles (x : Loading Game) : Prop :=
  (∃ g, x.result = .ok g) ∨ ∃ cause, x.result = .error (.unplayable cause)

lemma settles_iff_not_faults (x : Loading Game) : Settles x ↔ ¬Faults x := by
  unfold Settles Faults
  cases x.result with
  | ok g => simp
  | error e => cases e <;> simp

lemma faults_load {raw : Value} (h : raw.IsDocument) (gameType : Value) :
    Faults (load raw gameType) ↔ LoadBreaks raw := by
  unfold LoadBreaks
  cases raw with
  | str text => simpa [load] using faults_parse text gameType []
  | map m => simpa [load] using faults_ofDocument h gameType []
  | _ => simp [load, ofDocument]

lemma faults_loadRecord (record : Fields) (gameType : Value) :
    Faults (loadRecord record gameType) ↔ RecordBreaks record := by
  unfold RecordBreaks loadRecord
  dsimp only
  split
  · rename_i text htext
    split_ifs with hblank
    · simp [htext, hblank]
    · simp [htext, hblank, faults_parse]
  · rename_i hno
    simp only [not_faults_refuse, false_iff]
    rintro ⟨text, htext, -⟩
    exact hno text htext

/-- Loading a document, a text or the record of a stored game ends with a game or a refusal unless
it breaks off for one of the known causes. -/
theorem settles_iff_not_breaks {raw : Value} (h : raw.IsDocument) (record : Fields)
    (gameType : Value) :
    (Settles (load raw gameType) ↔ ¬LoadBreaks raw) ∧
      (Settles (loadRecord record gameType) ↔ ¬RecordBreaks record) := by
  rw [settles_iff_not_faults, settles_iff_not_faults, faults_load h, faults_loadRecord]
  exact ⟨Iff.rfl, Iff.rfl⟩

/-- A simulation with an initial state. -/
def simulationWith (initialState : Value) : Value :=
  .map [("content", .map [("sections", .list
    [.map [("type", "simulation"), ("content", .map [("initialState", initialState)])]])])]

theorem settles_iff_of_pairs :
    (simulationWith (.list [.list ["turn", .int 2]])).IsDocument ∧
      (Settles (load (simulationWith (.list [.list ["turn", .int 2]])) "quiz") ↔
        ¬LoadBreaks (simulationWith (.list [.list ["turn", .int 2]]))) ∧
      (Settles (loadRecord [("gameContent", "[]")] "quiz") ↔
        ¬RecordBreaks [("gameContent", "[]")]) := by
  have h : (simulationWith (.list [.list ["turn", .int 2]])).IsDocument := by simp [simulationWith]
  exact ⟨h, settles_iff_not_breaks h [("gameContent", "[]")] "quiz"⟩

/-- An initial state that is a number is no sequence of pairs, and that is not refused. -/
theorem not_settles_of_number :
    (simulationWith (.int 5)).IsDocument ∧ ¬Settles (load (simulationWith (.int 5)) "quiz") := by
  have h : (load (simulationWith (.int 5)) "quiz").result = .error (.fault .notASequence) := rfl
  exact ⟨by simp [simulationWith], by simp [Settles, h]⟩

end LearningGame
