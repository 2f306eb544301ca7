import LearningGame.Proofs.Completion.Again.Quiz
import LearningGame.Proofs.Completion.Faults
import LearningGame.Proofs.Completion.Flat
import LearningGame.Proofs.Loading.Reload
import LearningGame.Rules.Grading

/-!
# Flat quizzes

A flat list of questions is loaded as a game with a single quiz that asks the same: the questions
and their options in the given order, and each graded by the index that was given as its answer.
-/

namespace LearningGame

open Schema RecordOf Content Completion Rules

/-- A question of a flat list that names its right option by the index. -/
structure FlatQuestion where
  text : String
  options : List String
  answer : Int
  explanation : Option String

namespace FlatQuestion

variable (q : FlatQuestion) (index : Nat)

/-- What a flat question is given by; it may be given without an explanation, or with null for
it. -/
structure IsGivenBy (m : Fields) : Prop where
  text : m.find? "question" = some (.str q.text)
  options : m.find? "options" = some (.list (q.options.map .str))
  answer : m.find? "correctAnswer" = some (.int q.answer)
  explanation : m.get "explanation" = (q.explanation.map Value.str).getD .null

/-- A question asks what a flat one asks. Its answers are graded by the index of the flat one,
whether an option is chosen by its index or by its id. -/
structure IsKeptIn (asked : QuizQuestion) : Prop where
  text : asked.question = q.text
  options : asked.options.map (·.text) = q.options
  explanation : asked.explanation = q.explanation
  index : ∀ j : Int, isCorrect asked (.int j) = true ↔ j = q.answer
  id : ∀ (j : Nat) (h : j < asked.options.length),
    isCorrect asked (.str asked.options[j].id) = isCorrect asked (.int j)

/-! ### Conversion -/

/-- The options that a flat question gets. -/
def optionMaps : List Fields :=
  q.options.zipIdx.map fun e => [("id", "opt" ++ toString e.2), ("text", e.1)]

/-- A flat question at an index as the entries of a question. -/
def entries : Fields :=
  [("id", "q" ++ toString (index + 1)), ("question", q.text),
    ("questionType", Named.name QuestionKind.singleChoice), ("options", mapList q.optionMaps),
    ("correctAnswer", .int q.answer), ("explanation", (q.explanation.map Value.str).getD .null),
    ("points", .int 10)]

/-- A flat question at an index as it is asked. -/
def asked : QuizQuestion where
  id := "q" ++ toString (index + 1)
  question := q.text
  media := none
  kind := .singleChoice
  options := q.options.zipIdx.map fun e => ⟨"opt" ++ toString e.2, e.1, none⟩
  answerKey := .index q.answer
  explanation := q.explanation
  hint := none
  points := 10
  timeLimit := none

lemma flatOptions_eq (options : List String) :
    flatOptions (.list (options.map .str)) =
      .ok (.list (options.zipIdx.map fun e => flatOption (.str e.1) e.2)) := by
  have helements :
      ((Value.list (options.map .str)).orElse (.list [])).elements = .ok (options.map .str) := by
    cases options <;> rfl
  rw [flatOptions, helements]
  show Except.ok (Value.list (((options.map Value.str).zipIdx).map _)) = _
  rw [List.zipIdx_map, List.map_map]
  rfl

lemma flatQuestion?_eq {m : Fields} (h : q.IsGivenBy m) :
    (flatQuestion? (.map m) index).result = .ok (some (.map (q.entries index))) := by
  have hoptions : flatOptions (m.get "options") = .ok (mapList q.optionMaps) := by
    rw [Fields.get_of_find? h.options, flatOptions_eq, mapList, optionMaps, List.map_map]
    rfl
  simp only [flatQuestion?, Traced.bind_eq_ok, Traced.result_lift, hoptions, Except.ok.injEq,
    exists_eq_left', Fields.getD_eq, h.text, h.answer, h.explanation]
  rfl

/-! ### Filling -/

lemma fillOptions_optionMaps : fillOptions (mapList q.optionMaps) = q.optionMaps := by
  unfold mapList optionMaps
  rw [List.map_map]
  refine map_zipIdx_of (fun e _ n => ?_) 0
  show fillText (fillId _ _) "text" = _
  rw [fillId_of_find? (s := "opt" ++ toString e.2) (by simp)
    (Text.isBlankText_append_left _ (by decide)), fillText_of_find? (s := e.1) (by simp)]

/-- A converted question has nothing to be filled in. -/
lemma fillQuestion_entries (points : Int) (n : Nat) :
    (fillQuestion points (q.entries index) n).result = .ok (q.entries index) := by
  have hnamed : fillText (fillId (q.entries index) ("q" ++ toString n)) "question" =
      q.entries index := by
    rw [fillId_of_find? (s := "q" ++ toString (index + 1)) (by simp [entries])
      (Text.isBlankText_append_left _ (by decide)),
      fillText_of_find? (s := q.text) (by simp [entries])]
  have hkind : questionKind ((q.entries index).get "questionType")
      (fillOptions ((q.entries index).get "options")) = .singleChoice := rfl
  have hoptions : (q.entries index).find? "options" = some (mapList q.optionMaps) := by
    simp [entries]
  have hsame : optionsFor .singleChoice ((q.entries index).get "options") = q.optionMaps := by
    rw [Fields.get_of_find? hoptions, optionsFor, if_neg (by simp), fillOptions_optionMaps]
  have hanswer : answerFor .singleChoice ((q.entries index).get "correctAnswer") =
      .int q.answer := rfl
  rw [fillQuestion_eq points _ n hnamed hkind, hsame, hanswer,
    Fields.put_of_find? (a := "questionType") (by simp [entries]), Fields.put_of_find? hoptions,
    Fields.put_of_find? (by simp [entries])]
  exact fillWhole_of_find? (n := 10) (by simp [entries]) points

/-! ### Reading -/

lemma read_optionMaps : QuizOption.codec.list.read (mapList q.optionMaps) =
    .valid (q.options.zipIdx.map fun e => ⟨"opt" ++ toString e.2, e.1, none⟩) := by
  refine (Codec.read_list_eq_valid _ _ _).mpr ⟨_, rfl, ?_⟩
  simp only [optionMaps, List.forall₂_map_left_iff, List.forall₂_map_right_iff, List.forall₂_same]
  intro e _
  rfl

lemma read_entries :
    QuizQuestion.codec.read (.map (q.entries index)) = .valid (q.asked index) := by
  have hoptions : (q.entries index).find? "options" = some (mapList q.optionMaps) := by
    simp [entries]
  have hexplanation : (q.entries index).find? "explanation" =
      some ((q.explanation.map Value.str).getD .null) := by simp [entries]
  simp only [QuizQuestion.codec, read_codec_eq_valid, readsAs_apply, readsAs_build,
    Value.map.injEq, exists_eq_left']
  refine ⟨_, rfl, _, rfl, none, rfl, .singleChoice, rfl, _,
    (read_field_of_find? _ _ hoptions _).mpr q.read_optionMaps, _, rfl, q.explanation,
    (read_field_of_find? _ _ hexplanation _).mpr ?_, none, rfl, 10, rfl, none, rfl, rfl⟩
  cases q.explanation <;> rfl

/-! ### Grading -/

lemma findIdx?_zipIdx_id (options : List String) (j : Nat) (h : j < options.length) :
    (options.zipIdx.map fun e => (⟨"opt" ++ toString e.2, e.1, none⟩ : QuizOption)).findIdx?
      (·.id == "opt" ++ toString j) = some j := by
  rw [List.findIdx?_eq_some_iff_getElem]
  refine ⟨by simpa using h, by simp, fun i hi => ?_⟩
  have hne : "opt" ++ toString i ≠ "opt" ++ toString j :=
    fun heq => hi.ne ((append_toString_inj "opt").mp heq)
  simpa using hne

lemma isKeptIn_asked : q.IsKeptIn (q.asked index) where
  text := rfl
  options := by simp [asked, List.map_map, Function.comp_def]
  explanation := rfl
  index j := by
    simp [isCorrect, asked, chosenIndex, AnswerKey.toValue, Value.same, Value.number?,
      Number.same, Number.compare?]
  id j h := by
    have hid : (q.asked index).options[j].id = "opt" ++ toString j := by simp [asked]
    have hj : j < q.options.length := by simpa [asked] using h
    have hchosen : chosenIndex (q.asked index) (.str ("opt" ++ toString j)) = .int j := by
      simp only [chosenIndex, asked, findIdx?_zipIdx_id q.options j hj]
    show isCorrect _ (.str (q.asked index).options[j].id) = _
    rw [hid]
    exact congrArg (Value.same · _) hchosen

end FlatQuestion

/-! ### Quizzes -/

section Quizzes

variable {qs : List FlatQuestion} {ms : List Fields} {doc : Fields}

/-- The entries of the questions of a flat quiz. -/
def flatEntries (qs : List FlatQuestion) : List Fields :=
  qs.zipIdx.map fun e => e.1.entries e.2

/-- The content that a flat quiz is converted to. -/
def flatQuizContent (qs : List FlatQuestion) : Fields :=
  [("type", Named.name SectionKind.quiz), ("questions", mapList (flatEntries qs))]

/-- The questions of a flat quiz as they are asked. -/
def flatAsked (qs : List FlatQuestion) : List QuizQuestion := qs.zipIdx.map fun e => e.1.asked e.2

lemma flatQuiz_eq (hdoc : doc.find? "questions" = some (mapList ms))
    (hms : List.Forall₂ FlatQuestion.IsGivenBy qs ms) :
    (flatQuiz doc).result = .ok (flatQuizContent qs) := by
  have hquestions : (Traced.filterMap (fun e => flatQuestion? e.1 e.2)
      (doc.get "questions").items.zipIdx).result = .ok ((flatEntries qs).map .map) := by
    rw [Fields.get_of_find? hdoc, Traced.filterMap_eq_ok]
    refine ⟨qs.zipIdx.map fun e => some (.map (e.1.entries e.2)), ?_, ?_⟩
    · simp only [mapList, Value.items, List.zipIdx_map, List.forall₂_map_left_iff,
        List.forall₂_map_right_iff]
      refine (hms.zipIdx 0).flip.imp fun e a h => ?_
      obtain ⟨hgiven, hindex⟩ := h
      obtain ⟨m, n⟩ := e
      cases hindex
      exact a.1.flatQuestion?_eq a.2 hgiven
    · simp [flatEntries, List.filterMap_map, Function.comp_def]
  simp only [flatQuiz, Traced.bind_eq_ok, hquestions, Except.ok.injEq, exists_eq_left']
  rfl

lemma fillQuiz_flatQuizContent (points : Int) :
    (fillQuiz points (flatQuizContent qs)).result = .ok (flatQuizContent qs) := by
  refine (fillQuiz_eq_ok _ _ _).mpr ⟨flatEntries qs, flatEntries qs, ?_, ?_, ?_⟩
  · exact objects_mapList _ _
  · exact traverse_numbered fun e _ n => e.1.fillQuestion_entries e.2 points n
  · exact Fields.put_of_find? (by simp [flatQuizContent])

lemma read_flatQuizContent :
    SectionContent.read (.map (flatQuizContent qs)) = .valid (.quiz ⟨flatAsked qs⟩) := by
  have htag : Fields.find? (flatQuizContent qs) "type" =
      some (.str (Named.name SectionKind.quiz)) := by
    simp [flatQuizContent]
  refine (SectionContent.read_of_tag htag _).mpr ?_
  refine (Checked.map_eq_valid _ _ _).mpr ⟨⟨flatAsked qs⟩, ?_, rfl⟩
  refine (Quiz.read_eq_valid (v := mapList (flatEntries qs)) (by simp [flatQuizContent]) _).mpr ?_
  refine (Codec.read_list_eq_valid _ _ _).mpr ⟨_, rfl, ?_⟩
  simp only [flatEntries, flatAsked, List.forall₂_map_left_iff, List.forall₂_map_right_iff,
    List.forall₂_same]
  exact fun e _ => e.1.read_entries e.2

lemma isKeptIn_flatAsked : List.Forall₂ FlatQuestion.IsKeptIn qs (flatAsked qs) := by
  have hall : List.Forall₂ FlatQuestion.IsKeptIn (qs.zipIdx.map (·.1)) (flatAsked qs) := by
    simp only [flatAsked, List.forall₂_map_left_iff, List.forall₂_map_right_iff,
      List.forall₂_same]
    exact fun e _ => e.1.isKeptIn_asked e.2
  rwa [List.zipIdx_map_fst] at hall

/-! ### Games -/

/-- The section of the game that a flat quiz is loaded as. -/
def flatQuizSection (qs : List FlatQuestion) : Section :=
  ⟨flatSectionId, FlatShape.quiz.title, none, .quiz, .quiz ⟨flatAsked qs⟩, none⟩

/-- The entries of that section once they are filled. -/
def flatQuizEntries (qs : List FlatQuestion) : Fields :=
  withContent (flatSection .quiz (flatQuizContent qs)) 0 .quiz (flatQuizContent qs)

lemma fillSections_flatSection (points : Int) :
    (fillSections points [] 0 [.map (flatSection .quiz (flatQuizContent qs))]).result =
      .ok [flatQuizEntries qs] := by
  refine (fillSections_cons_eq_ok _ _ _ _ _).mpr ⟨some (flatQuizEntries qs), ?_, ?_⟩
  · refine (fillSection_eq_some _ _ _ _).mpr ⟨_, rfl, (fillKnownSection_eq_some _ _ _ _).mpr
      ⟨.quiz, flatQuizContent qs, rfl, fillQuiz_flatQuizContent points, rfl⟩⟩
  · exact ⟨[], rfl, rfl⟩

lemma read_flatQuizEntries :
    Section.codec.read (.map (flatQuizEntries qs)) = .valid (flatQuizSection qs) := by
  have hcontent : (flatQuizEntries qs).find? "content" = some (.map (flatQuizContent qs)) := rfl
  simp only [Section.codec, read_codec_eq_valid, readsAs_apply, readsAs_build, Value.map.injEq,
    exists_eq_left']
  exact ⟨_, rfl, _, rfl, none, rfl, .quiz, rfl, _,
    (read_field_of_find? _ _ hcontent _).mpr read_flatQuizContent, none, rfl, rfl⟩

/-- The settings of a flat quiz are given in full, so the type of game that is asked for is not
looked at. -/
lemma fillConfig_flatDocument (qs : List FlatQuestion) (gameType : Value) :
    fillConfig gameType ((flatDocument .quiz (flatQuizContent qs) []).get "config") =
      defaultConfig "quiz" := rfl

/-- The parts around the sections are the same for all flat quizzes. -/
lemma exists_isFilledFrom_flatDocument (qs : List FlatQuestion) (gameType : Value) :
    ∃ g : Game, g.IsFilledFrom (flatDocument .quiz (flatQuizContent qs) []) gameType ∧
      g.sections = [flatQuizSection qs] := by
  obtain ⟨g, hg⟩ := Traced.exists_ok_of_isOk (x := do
    let filled ← fillDocument (flatDocument .quiz (flatQuizContent []) []) "quiz"
    checkGame filled) (by decide +kernel)
  obtain ⟨filled, hfilled, hg⟩ := (Traced.bind_eq_ok _ _ _).mp hg
  rw [checkGame_eq_ok] at hg
  obtain ⟨p, hscoring, ⟨points, hpoints, raw, hraw, hsections⟩, -, hmetadata, hprogression, rfl⟩ :=
    (fillDocument_eq_ok _ _ _).mp hfilled
  cases hraw
  have hids : p.sectionIds = [flatSectionId] := by
    rw [fillSections_flatSection, Except.ok.injEq] at hsections
    rw [DocumentParts.sectionIds, ← hsections]
    rfl
  obtain ⟨hversion, hmetadata', htheme, hconfig, -, hprogression', hscoring'⟩ :=
    (Game.read_fill_iff _ _ _ _).mp hg
  let filledParts : DocumentParts := { p with sections := [flatQuizEntries qs] }
  rw [fillConfig_flatDocument] at hconfig
  refine ⟨{ g with content := ⟨none, [flatQuizSection qs], none⟩ },
    ⟨_, (fillDocument_eq_ok _ _ _).mpr ⟨filledParts, hscoring, ⟨points, hpoints, _, rfl,
      fillSections_flatSection points⟩, List.cons_ne_nil _ _, hmetadata, ?_, rfl⟩, ?_⟩, rfl⟩
  · rw [hids] at hprogression
    exact hprogression
  · refine (Game.read_fill_iff _ _ _ _).mpr ⟨hversion, hmetadata', htheme, ?_, ?_,
      hprogression', hscoring'⟩
    · rw [fillConfig_flatDocument]
      exact hconfig
    · have hsections : Section.codec.list.read (mapList [flatQuizEntries qs]) =
          .valid [flatQuizSection qs] :=
        (Codec.read_list_eq_valid _ _ _).mpr ⟨_, rfl, .cons read_flatQuizEntries .nil⟩
      simp only [Script.codec, read_codec_eq_valid, readsAs_apply, readsAs_build,
        Value.map.injEq, exists_eq_left']
      exact ⟨none, rfl, _, (read_field_of_find? _ _ rfl _).mpr hsections, none, rfl, rfl⟩

end Quizzes

/-- A flat list of questions is loaded as a game with a single quiz, which asks the questions that
are given, in their order. -/
theorem load_flatQuiz {doc : Fields} {raw gameType : Value} {ms : List Fields}
    {qs : List FlatQuestion} (hraw : HoldsDocument doc raw) (hflat : hasSections doc = false)
    (hdoc : doc.find? "questions" = some (mapList ms))
    (hms : List.Forall₂ FlatQuestion.IsGivenBy qs ms) :
    ∃ g s z, (load raw gameType).result = .ok g ∧ g.sections = [s] ∧ s.kind = .quiz ∧
      s.content = .quiz z ∧ List.Forall₂ FlatQuestion.IsKeptIn qs z.questions := by
  obtain ⟨g, ⟨filled, hfilled, hread⟩, hsections⟩ :=
    exists_isFilledFrom_flatDocument qs gameType
  have hshape : FlatShape.of? doc = some .quiz := by
    rw [FlatShape.of?, Fields.get_of_find? hdoc]
    rfl
  have hknown : (recognize doc []).result =
      .ok ("legacy", flatDocument .quiz (flatQuizContent qs) []) := by
    have hconvert : (filling (convertFlat .quiz doc [])).result =
        .ok (flatDocument .quiz (flatQuizContent qs) []) :=
      (Traced.mapError_eq_ok _ _ _).mpr
        ((convertFlat_eq_ok _ _ _ _).mpr ⟨_, flatQuiz_eq hdoc hms, rfl⟩)
    rw [recognize, hflat, hshape]
    exact (Traced.bind_eq_ok _ _ _).mpr ⟨_, hconvert, rfl⟩
  refine ⟨g, flatQuizSection qs, ⟨flatAsked qs⟩, ?_, hsections, rfl, rfl, isKeptIn_flatAsked⟩
  rw [load_of_holdsDocument hraw]
  exact (buildGame_eq_ok _ _ _ _).mpr ⟨_, _, filled, hknown, hfilled, hread⟩

/-- The entries of a flat list with an explained question and one without an explanation. -/
def sums : List Fields :=
  [[("question", "1 + 1?"), ("options", .list ["2", "3"]), ("correctAnswer", .int 0),
    ("explanation", "One and one is two.")],
   [("question", "1 + 2?"), ("options", .list ["2", "3", "3"]), ("correctAnswer", .int 1)]]

theorem load_flatQuiz_of_sums :
    hasSections [("questions", mapList sums)] = false ∧
      ∃ g s z, (load (.map [("questions", mapList sums)]) "quiz").result = .ok g ∧
        g.sections = [s] ∧ s.kind = .quiz ∧ s.content = .quiz z ∧
        List.Forall₂ FlatQuestion.IsKeptIn
          [⟨"1 + 1?", ["2", "3"], 0, some "One and one is two."⟩,
            ⟨"1 + 2?", ["2", "3", "3"], 1, none⟩] z.questions := by
  have hraw : HoldsDocument [("questions", mapList sums)]
      (.map [("questions", mapList sums)]) := rfl
  refine ⟨rfl, load_flatQuiz hraw rfl rfl ?_⟩
  exact .cons ⟨rfl, rfl, rfl, rfl⟩ (.cons ⟨rfl, rfl, rfl, rfl⟩ .nil)

end LearningGame
