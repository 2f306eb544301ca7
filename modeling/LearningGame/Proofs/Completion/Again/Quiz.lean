import LearningGame.Completion.Quiz
import LearningGame.Proofs.Completion.Again
import LearningGame.Proofs.Content.Restored
import LearningGame.Proofs.Text.Folded

/-!
# Filling quizzes again

A question that was filled is left as it is when it is written and filled again, with one exception:
a multiple-choice question with a single index gets a list of that index.
-/

namespace LearningGame

open Schema RecordOf Content Completion

namespace Content

/-- The answer key of a question of some kind as it is filled again. -/
def AnswerKey.settled (kind : QuestionKind) : AnswerKey → AnswerKey
  | .index n => if kind = .multipleChoice then .indices [n] else .index n
  | k => k

/-- A question as it is filled again. -/
def QuizQuestion.settled (q : QuizQuestion) : QuizQuestion :=
  { q with answerKey := q.answerKey.settled q.kind }

/-- Whether a multiple-choice question has a single index instead of a list of indices. -/
def QuizQuestion.IsSingle (q : QuizQuestion) : Prop :=
  q.kind = .multipleChoice ∧ ∃ n, q.answerKey = .index n

/-- What filling makes sure of in a question. -/
structure QuizQuestion.IsComplete (q : QuizQuestion) : Prop where
  id : Text.isBlankText q.id = false
  options : ∀ o ∈ q.options, Text.isBlankText o.id = false
  truth : q.kind = .trueFalse →
    q.options ≠ [] ∧ ∀ s, q.answerKey = .text s → folded s ≠ "true" ∧ folded s ≠ "false"
  text : q.kind = .textInput → ∃ s, q.answerKey = .text s

lemma QuizOption.id_of_read {m : Fields} {o : QuizOption} (h : codec.read (.map m) = .valid o) :
    given? m "id" = some (.str o.id) := by
  simp only [codec, read_codec_eq_valid, readsAs_apply, readsAs_build, read_required_eq_valid,
    Codec.read_text_eq_valid, exists_eq_right, Value.map.injEq, exists_eq_left'] at h
  obtain ⟨id, hid, -, -, -, -, rfl⟩ := h
  exact hid

/-- A question is read with its id, its kind, its options and its answer. -/
lemma QuizQuestion.of_read {m : Fields} {q : QuizQuestion} (h : codec.read (.map m) = .valid q)
    {kind : QuestionKind} {options : List Fields} {answer : Value}
    (hkind : m.find? "questionType" = some (.str (Named.name kind)))
    (hoptions : m.find? "options" = some (mapList options))
    (hanswer : m.find? "correctAnswer" = some answer) :
    given? m "id" = some (.str q.id) ∧ q.kind = kind ∧
      QuizOption.codec.list.read (mapList options) = .valid q.options ∧
      AnswerKey.read answer = .valid q.answerKey := by
  simp only [codec, read_codec_eq_valid, readsAs_apply, readsAs_build, read_required_eq_valid,
    read_withDefault_eq_valid, Codec.read_text_eq_valid, exists_eq_right, Value.map.injEq,
    exists_eq_left', given?_of_find? hkind, given?_of_find? hoptions, given?_of_find? hanswer,
    Option.some.injEq, reduceCtorEq, false_and, or_false] at h
  obtain ⟨id, hid, -, -, -, -, kind', hkind', options', hoptions', key, hkey, -, -, -, -, -, -, -, -,
    rfl⟩ := h
  obtain ⟨name, hname, hfind⟩ := (Codec.read_named_eq_valid _ _).mp hkind'
  cases hname
  rw [LawfulNamed.find?_name] at hfind
  exact ⟨hid, (Option.some.inj hfind).symm, hoptions', hkey⟩

lemma QuizQuestion.read_put_correctAnswer {m : Fields} {q : QuizQuestion}
    (h : codec.read (.map m) = .valid q) (k : AnswerKey) :
    codec.read (.map (m.put "correctAnswer" k.toValue)) = .valid { q with answerKey := k } := by
  simp only [codec, read_codec_eq_valid, readsAs_apply, readsAs_build, Value.map.injEq,
    exists_eq_left', required, withDefault, RecordOf.optional] at h ⊢
  simp (disch := decide) only [read_field_put_of_ne]
  obtain ⟨id, hid, question, hquestion, media, hmedia, kind, hkind, options, hoptions, -, -, hint,
    hhint, explanation, hexplanation, points, hpoints, limit, hlimit, rfl⟩ := h
  exact ⟨id, hid, question, hquestion, media, hmedia, kind, hkind, options, hoptions, k,
    read_field_put_self _ _ (AnswerKey.isExact k).read, hint, hhint, explanation, hexplanation,
    points, hpoints, limit, hlimit, rfl⟩

/-- Whether the questions of a quiz are complete. -/
def Quiz.IsComplete (z : Quiz) : Prop := ∀ q ∈ z.questions, q.IsComplete

/-- A quiz as it is filled again. -/
def Quiz.settled (z : Quiz) : Quiz := ⟨z.questions.map QuizQuestion.settled⟩

lemma Quiz.read_eq_valid {m : Fields} {v : Value} (h : m.find? "questions" = some v) (z : Quiz) :
    fields.read m = .valid z ↔ QuizQuestion.codec.list.read v = .valid z.questions := by
  rw [read_eq_valid_iff]
  simp only [fields, readsAs_apply, readsAs_build, required, read_field_of_find? _ _ h]
  constructor
  · rintro ⟨questions, hquestions, rfl⟩
    exact hquestions
  · exact fun hquestions => ⟨z.questions, hquestions, rfl⟩

end Content

namespace Completion

/-! ### Options -/

lemma find?_fillOption_id (v : Value) (n : Nat) :
    ∃ id, (fillOption v n).find? "id" = some (.str id) ∧ Text.isBlankText id = false := by
  have hid : Text.isBlankText ("opt" ++ toString n) = false :=
    Text.isBlankText_append_left _ (by decide)
  cases v with
  | map m =>
    refine ⟨idOf m ("opt" ++ toString n), ?_, isBlankText_idOf m hid⟩
    simp [fillOption, find?_fillText]
  | _ => exact ⟨"opt" ++ toString n, by simp [fillOption], hid⟩

/-- The options that a question of some kind gets. -/
def optionsFor (kind : QuestionKind) (v : Value) : List Fields :=
  if kind = .trueFalse ∧ (fillOptions v).isEmpty then fillOptions (.list ["True", "False"])
  else fillOptions v

lemma find?_id_of_mem_optionsFor {kind : QuestionKind} {v : Value} {o : Fields}
    (h : o ∈ optionsFor kind v) :
    ∃ id, o.find? "id" = some (.str id) ∧ Text.isBlankText id = false := by
  have hfill (w : Value) (hw : o ∈ fillOptions w) :
      ∃ id, o.find? "id" = some (.str id) ∧ Text.isBlankText id = false := by
    obtain ⟨e, -, rfl⟩ := List.mem_map.mp hw
    exact find?_fillOption_id e.1 e.2
  unfold optionsFor at h
  split_ifs at h
  · exact hfill _ h
  · exact hfill _ h

lemma optionsFor_trueFalse_ne_nil (v : Value) : optionsFor .trueFalse v ≠ [] := by
  unfold optionsFor
  split_ifs with hv
  · simp [fillOptions, Value.items]
  · simpa using hv

lemma fillOption_written {o : QuizOption} (h : Text.isBlankText o.id = false) (n : Nat) :
    fillOption (.map (QuizOption.codec.written o)) n = QuizOption.codec.written o := by
  show fillText (fillId _ _) "text" = _
  rw [fillId_of_find? (s := o.id) (by simp [QuizOption.codec]) h,
    fillText_of_find? (s := o.text) (by simp [QuizOption.codec])]

/-- The options of a question are as they were when they are filled again. -/
lemma fillOptions_written {os : List QuizOption} (h : ∀ o ∈ os, Text.isBlankText o.id = false) :
    fillOptions (mapList (os.map QuizOption.codec.written)) = os.map QuizOption.codec.written := by
  show (List.map Value.map _).zipIdx.map (fun e => fillOption e.1 e.2) = _
  rw [List.map_map]
  exact map_zipIdx_of (fun o ho n => fillOption_written (h o ho) n) 0

/-! ### Answers -/

/-- The answer that a question of some kind gets. -/
def answerFor (kind : QuestionKind) (v : Value) : Value :=
  let raw := rawAnswer kind v
  fitAnswer kind (if raw.isNull then defaultAnswer kind else raw)

lemma text_of_read_textInput {v : Value} {k : AnswerKey}
    (h : AnswerKey.read (answerFor .textInput v) = .valid k) : ∃ s, k = .text s := by
  have htext : AnswerKey.read (answerFor .textInput v) = .valid (.text _) := rfl
  rw [htext] at h
  exact ⟨_, (Checked.valid.inj h).symm⟩

lemma read_list_ne_text (items : List Value) (s : String) :
    AnswerKey.read (.list items) ≠ .valid (.text s) := by
  intro h
  unfold AnswerKey.read at h
  cases hread : (Codec.list .integer).read (.list items) with
  | valid ns =>
    rw [hread] at h
    cases h
  | invalid issues =>
    rw [hread] at h
    cases h

/-- A text that is the answer to a yes-or-no question is neither of the two words for it. -/
lemma folded_ne_of_read_trueFalse {v : Value} {s : String}
    (h : AnswerKey.read (answerFor .trueFalse v) = .valid (.text s)) :
    folded s ≠ "true" ∧ folded s ≠ "false" := by
  cases v with
  | null => cases h
  | bool b => cases b <;> cases h
  | int n => cases h
  | float x =>
    change AnswerKey.read (fitAnswer .trueFalse (.float x)) = _ at h
    unfold fitAnswer at h
    cases hx : optionIndex? (.float x) with
    | some n =>
      simp only [hx] at h
      cases h
    | none =>
      simp only [hx] at h
      cases h
      exact ⟨folded_floatText_ne x (by decide) (by decide) (by decide) (by decide) (by decide),
        folded_floatText_ne x (by decide) (by decide) (by decide) (by decide) (by decide)⟩
  | str t =>
    unfold answerFor rawAnswer truthIndex at h
    dsimp only at h
    by_cases htrue : folded t = "true"
    · rw [if_pos htrue] at h
      cases h
    by_cases hfalse : folded t = "false"
    · rw [if_neg htrue, if_pos hfalse] at h
      cases h
    · rw [if_neg htrue, if_neg hfalse] at h
      cases h
      exact ⟨htrue, hfalse⟩
  | list items => exact absurd h (read_list_ne_text _ s)
  | map m =>
    cases h
    exact ⟨folded_map_ne m (by decide), folded_map_ne m (by decide)⟩

/-- What answers of a complete question are when they are filled again. -/
lemma answerFor_toValue {q : QuizQuestion} (h : q.IsComplete) :
    answerFor q.kind q.answerKey.toValue = (q.answerKey.settled q.kind).toValue := by
  have hints (ns : List Int) :
      ((ns.map Value.int).filterMap fun v => (optionIndex? v).map Value.int) = ns.map .int := by
    rw [List.filterMap_map]
    simp [Function.comp_def, optionIndex?]
  cases hkind : q.kind with
  | textInput =>
    obtain ⟨s, hs⟩ := h.text hkind
    rw [hs]
    rfl
  | singleChoice =>
    cases q.answerKey with
    | index n => rfl
    | text s => rfl
    | indices ns => exact congrArg Value.list (hints ns)
  | multipleChoice =>
    cases q.answerKey with
    | index n => rfl
    | text s => rfl
    | indices ns => exact congrArg Value.list (hints ns)
  | trueFalse =>
    cases hkey : q.answerKey with
    | index n => rfl
    | text s =>
      obtain ⟨htrue, hfalse⟩ := (h.truth hkind).2 s hkey
      simp [answerFor, rawAnswer, truthIndex, AnswerKey.toValue, AnswerKey.settled, htrue, hfalse,
        Value.isNull, fitAnswer]
    | indices ns => exact congrArg Value.list (hints ns)

/-! ### Questions -/

/-- A question with its kind, options and answer in place. -/
lemma fillQuestion_eq (points : Int) (q : Fields) (n : Nat) {kind : QuestionKind} {named : Fields}
    (hnamed : fillText (fillId q ("q" ++ toString n)) "question" = named)
    (hkind : questionKind (named.get "questionType") (fillOptions (named.get "options")) = kind) :
    fillQuestion points q n =
      fillWhole (((named.put "questionType" (Named.name kind)).put "options"
        (mapList (optionsFor kind (named.get "options")))).put "correctAnswer"
        (answerFor kind (named.get "correctAnswer"))) "points" points := by
  subst hnamed hkind
  rfl

/-- What is found in a question that was filled. -/
lemma find?_of_fillQuestion {points : Int} {m filled : Fields} {n : Nat}
    (h : (fillQuestion points m n).result = .ok filled) :
    ∃ id kind given answer, filled.find? "id" = some (.str id) ∧ Text.isBlankText id = false ∧
      filled.find? "questionType" = some (.str (Named.name kind)) ∧
      filled.find? "options" = some (mapList (optionsFor kind given)) ∧
      filled.find? "correctAnswer" = some (answerFor kind answer) := by
  have hid : Text.isBlankText ("q" ++ toString n) = false :=
    Text.isBlankText_append_left _ (by decide)
  obtain ⟨named, hnamed⟩ : ∃ named, fillText (fillId m ("q" ++ toString n)) "question" = named :=
    ⟨_, rfl⟩
  rw [fillQuestion_eq points m n hnamed rfl, fillWhole_eq_ok] at h
  obtain ⟨k, -, rfl⟩ := h
  refine ⟨idOf m ("q" ++ toString n),
    questionKind (named.get "questionType") (fillOptions (named.get "options")),
    named.get "options", named.get "correctAnswer", ?_, isBlankText_idOf m hid, by simp, by simp,
    by simp⟩
  simp [← hnamed, find?_fillText]

/-- A question that was filled is complete. -/
lemma isComplete_of_fillQuestion {points : Int} {m filled : Fields} {n : Nat} {q : QuizQuestion}
    (h : (fillQuestion points m n).result = .ok filled)
    (hq : QuizQuestion.codec.read (.map filled) = .valid q) : q.IsComplete := by
  obtain ⟨id, kind, given, answer, hid, hblank, hkind, hoptions, hanswer⟩ := find?_of_fillQuestion h
  obtain ⟨hid', rfl, hoptions', hanswer'⟩ := QuizQuestion.of_read hq hkind hoptions hanswer
  rw [given?_of_find? hid] at hid'
  cases hid'
  refine ⟨hblank, ?_, ?_, ?_⟩
  · intro o ho
    obtain ⟨f, hf, hread⟩ := exists_of_read_mapList hoptions' ho
    obtain ⟨id, hfind, hid⟩ := find?_id_of_mem_optionsFor hf
    have hgiven := QuizOption.id_of_read hread
    rw [given?_of_find? hfind] at hgiven
    cases hgiven
    exact hid
  · intro htruth
    rw [htruth] at hoptions' hanswer'
    refine ⟨fun hnil => ?_, fun s hs => ?_⟩
    · rw [hnil, Codec.read_list_eq_valid] at hoptions'
      obtain ⟨items, hitems, hall⟩ := hoptions'
      cases hall
      cases hitems' : optionsFor .trueFalse given with
      | nil => exact optionsFor_trueFalse_ne_nil given hitems'
      | cons o os => simp [mapList, hitems'] at hitems
    · rw [hs] at hanswer'
      exact folded_ne_of_read_trueFalse hanswer'
  · intro htext
    rw [htext] at hanswer'
    exact text_of_read_textInput hanswer'

/-- A complete question that is filled again is read as the settled one. -/
lemma fillQuestion_written {q : QuizQuestion} (h : q.IsComplete) (points : Int) (n : Nat) :
    (fillQuestion points (QuizQuestion.codec.written q) n).result =
      .ok ((QuizQuestion.codec.written q).put "correctAnswer"
        (q.answerKey.settled q.kind).toValue) := by
  have hnamed : fillText (fillId (QuizQuestion.codec.written q) ("q" ++ toString n)) "question" =
      QuizQuestion.codec.written q := by
    rw [fillId_of_find? (s := q.id) (by simp [QuizQuestion.codec]) h.id,
      fillText_of_find? (s := q.question) (by simp [QuizQuestion.codec])]
  have htype : (QuizQuestion.codec.written q).find? "questionType" =
      some (.str (Named.name q.kind)) := by simp [QuizQuestion.codec]
  have hoptions : (QuizQuestion.codec.written q).find? "options" =
      some (mapList (q.options.map QuizOption.codec.written)) := by
    rw [← write_list_eq fun _ => rfl]
    simp [QuizQuestion.codec]
  have hanswer : (QuizQuestion.codec.written q).find? "correctAnswer" =
      some q.answerKey.toValue := by
    simp [QuizQuestion.codec, AnswerKey.codec]
  have hkind : questionKind ((QuizQuestion.codec.written q).get "questionType")
      (fillOptions ((QuizQuestion.codec.written q).get "options")) = q.kind := by
    simp [questionKind, Fields.get_eq, htype, LawfulNamed.find?_name]
  have hsame : optionsFor q.kind (mapList (q.options.map QuizOption.codec.written)) =
      q.options.map QuizOption.codec.written := by
    unfold optionsFor
    rw [fillOptions_written h.options, if_neg]
    rintro ⟨htruth, hempty⟩
    exact (h.truth htruth).1 (by simpa using hempty)
  rw [fillQuestion_eq points _ n hnamed hkind, Fields.get_eq _ "options", hoptions,
    Fields.get_eq _ "correctAnswer", hanswer, Option.getD_some, Option.getD_some, hsame,
    Fields.put_of_find? htype, Fields.put_of_find? hoptions, answerFor_toValue h]
  refine fillWhole_of_find? (n := q.points) ?_ points
  simp [QuizQuestion.codec]

/-! ### Quizzes -/

lemma fillQuiz_eq_ok (points : Int) (content filled : Fields) :
    (fillQuiz points content).result = .ok filled ↔
      ∃ questions ms, (objects "quiz question" (content.get "questions")).result = .ok questions ∧
        (Traced.traverse (fun e => fillQuestion points e.1 e.2) (numbered questions)).result =
          .ok ms ∧ content.put "questions" (mapList ms) = filled := by
  unfold fillQuiz
  simp [Traced.bind_eq_ok, -Traced.result_bind]

/-- A quiz that was filled is complete. -/
lemma isComplete_of_fillQuiz {points : Int} {content filled : Fields} {z : Quiz}
    (h : (fillQuiz points content).result = .ok filled)
    (hz : Quiz.fields.read filled = .valid z) : z.IsComplete := by
  obtain ⟨questions, ms, -, hms, rfl⟩ := (fillQuiz_eq_ok points content filled).mp h
  rw [Quiz.read_eq_valid (v := mapList ms) (by simp)] at hz
  intro q hq
  obtain ⟨m, hm, hqm⟩ := exists_of_read_mapList hz hq
  obtain ⟨o, -, n, hfill⟩ := exists_of_mem_traverse hms hm
  exact isComplete_of_fillQuestion hfill hqm

/-- A complete quiz that is filled again is read as the settled one. -/
lemma fillQuiz_written {z : Quiz} (h : z.IsComplete) (points : Int) (tag : Value) :
    ∃ filled, (fillQuiz points ((.text "type", tag) :: Quiz.fields.write false z)).result =
      .ok filled ∧ Quiz.fields.read filled = .valid z.settled := by
  have hfind : Fields.get ((.text "type", tag) :: Quiz.fields.write false z) "questions" =
      mapList (z.questions.map QuizQuestion.codec.written) := by
    rw [← write_list_eq fun _ => rfl]
    simp [Fields.get_eq, Quiz.fields]
  have hfill := traverse_numbered fun q hq n => fillQuestion_written (h q hq) points n
  refine ⟨_, (fillQuiz_eq_ok _ _ _).mpr ⟨_, _, hfind ▸ objects_mapList _ _, hfill, rfl⟩, ?_⟩
  rw [Quiz.read_eq_valid (by rw [Fields.find?_put, if_pos rfl])]
  refine read_mapList (g := QuizQuestion.settled) fun q _ => ?_
  have hread : QuizQuestion.codec.read (.map (QuizQuestion.codec.written q)) = .valid q := by
    have hwritten : QuizQuestion.codec.write false q = .map (QuizQuestion.codec.written q) :=
      write_codec _
    rw [← hwritten]
    exact (QuizQuestion.isExact q).read
  exact QuizQuestion.read_put_correctAnswer hread (q.answerKey.settled q.kind)

end Completion

/-! ### Sameness -/

namespace Content

lemma AnswerKey.settled_of_not (kind : QuestionKind) (k : AnswerKey)
    (h : ¬(kind = .multipleChoice ∧ ∃ n, k = .index n)) : k.settled kind = k := by
  cases k with
  | index n =>
    have hkind : kind ≠ .multipleChoice := fun hkind => h ⟨hkind, n, rfl⟩
    exact if_neg hkind
  | _ => rfl

/-- Filling a complete question again changes it exactly if it has a single index. -/
lemma QuizQuestion.same_settled (q : QuizQuestion) :
    codec.same q q.settled = true ↔ ¬q.IsSingle := by
  constructor
  · rintro hsame ⟨hkind, n, hkey⟩
    have hanswer : AnswerKey.codec.same q.answerKey q.settled.answerKey = true := by
      simp only [codec, RecordOf.codec, RecordOf.apply, required, field, Bool.and_eq_true] at hsame
      exact hsame.1.1.1.1.2
    rw [settled, hkey, hkind] at hanswer
    cases hanswer
  · intro hq
    have hsettled : q.settled = q := by
      rw [settled, AnswerKey.settled_of_not q.kind q.answerKey hq]
    rw [hsettled]
    exact (QuizQuestion.isExact q).same

lemma Quiz.same_settled (z : Quiz) :
    fields.same z z.settled = true ↔ ∀ q ∈ z.questions, ¬q.IsSingle := by
  show Codec.sameItems QuizQuestion.codec z.questions (z.questions.map QuizQuestion.settled) = true ↔ _
  rw [Codec.sameItems_map]
  exact forall₂_congr fun q _ => q.same_settled

end Content

end LearningGame
