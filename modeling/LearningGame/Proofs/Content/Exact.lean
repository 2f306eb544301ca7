import LearningGame.Content.Game
import LearningGame.Proofs.Schema.Writing

/-!
# Data that are restored as they are

Data that are made up of texts, integers, floats, truth values and named values only are read back
as they were written.
-/

namespace LearningGame.Content

open Schema Codec RecordOf

/-! ### Named values -/

instance : LawfulNamed QuestionKind := ⟨fun a => by cases a <;> rfl⟩

instance : LawfulNamed TestMode := ⟨fun a => by cases a <;> rfl⟩

instance : LawfulNamed ConditionKind := ⟨fun a => by cases a <;> rfl⟩

instance : LawfulNamed Comparison := ⟨fun a => by cases a <;> rfl⟩

instance : LawfulNamed EffectKind := ⟨fun a => by cases a <;> rfl⟩

instance : LawfulNamed EndingKind := ⟨fun a => by cases a <;> rfl⟩

instance : LawfulNamed ObjectiveKind := ⟨fun a => by cases a <;> rfl⟩

instance : LawfulNamed LocationEventKind := ⟨fun a => by cases a <;> rfl⟩

instance : LawfulNamed BlockKind := ⟨fun a => by cases a <;> rfl⟩

instance : LawfulNamed SectionKind := ⟨fun a => by cases a <;> rfl⟩

instance : LawfulNamed UnlockKind := ⟨fun a => by cases a <;> rfl⟩

instance : LawfulNamed Difficulty := ⟨fun a => by cases a <;> rfl⟩

instance : LawfulNamed Complexity := ⟨fun a => by cases a <;> rfl⟩

instance : LawfulNamed ProgressionKind := ⟨fun a => by cases a <;> rfl⟩

/-! ### Answers -/

lemma AnswerKey.isDocument (k : AnswerKey) : k.toValue.IsFinite := by
  cases k <;> simp [toValue]

lemma AnswerKey.isExact : AnswerKey.codec.IsExact := by
  refine fun k => ⟨?_, k.isDocument.same_self⟩
  cases k with
  | index n => rfl
  | text s => rfl
  | indices ns =>
    have hread : (Codec.list .integer).read (.list (ns.map .int)) = .valid ns :=
      (isExact_integer.list ns).read
    show AnswerKey.read (.list (ns.map .int)) = _
    unfold AnswerKey.read
    rw [hread]
    rfl

lemma ShortAnswer.isExact : ShortAnswer.codec.IsExact := by
  intro a
  cases a with
  | int n => exact ⟨rfl, (Value.isDocumentOf_int n).same_self⟩
  | float x => exact ⟨rfl, sameFloat_self x⟩
  | text s => exact ⟨rfl, (Value.isDocumentOf_str s).same_self⟩

/-! ### Records -/

lemma Media.isExact : Media.codec.IsExact := fun _ =>
  restores_codec (spells_build _ |>.required rfl (isExact_text _) |>.required rfl (isExact_text _)
    |>.optional (isExact_text.optional isSolid_text _)) (by decide) _

lemma QuizOption.isExact : QuizOption.codec.IsExact := fun _ =>
  restores_codec (spells_build _ |>.required rfl (isExact_text _) |>.required rfl (isExact_text _)
    |>.optional (isExact_text.optional isSolid_text _)) (by decide) _

lemma QuizQuestion.isExact : QuizQuestion.codec.IsExact := fun _ =>
  restores_codec (spells_build _ |>.required rfl (isExact_text _) |>.required rfl (isExact_text _)
    |>.optional (Media.isExact.optional (isSolid_codec _ _) _) |>.withDefault rfl (isExact_named _)
    |>.withDefault rfl (QuizOption.isExact.list _) |>.required rfl (AnswerKey.isExact _)
    |>.optional (isExact_text.optional isSolid_text _)
    |>.optional (isExact_text.optional isSolid_text _) |>.withDefault rfl (isExact_integer _)
    |>.optional (isExact_integer.optional isSolid_integer _)) (by decide) _

lemma CardFace.isExact : CardFace.codec.IsExact := fun _ =>
  restores_codec (spells_build _ |>.required rfl (isExact_text _)
    |>.optional (Media.isExact.optional (isSolid_codec _ _) _)) (by decide) _

lemma Flashcard.isExact : Flashcard.codec.IsExact := fun _ =>
  restores_codec (spells_build _ |>.required rfl (isExact_text _)
    |>.required rfl (CardFace.isExact _) |>.required rfl (CardFace.isExact _)
    |>.optional (isExact_text.optional isSolid_text _)
    |>.optional (isExact_text.optional isSolid_text _)) (by decide) _

lemma PairSide.isExact : PairSide.codec.IsExact := fun _ =>
  restores_codec (spells_build _ |>.required rfl (isExact_text _)
    |>.optional (isExact_text.optional isSolid_text _)) (by decide) _

lemma MatchPair.isExact : MatchPair.codec.IsExact := fun _ =>
  restores_codec (spells_build _ |>.required rfl (isExact_text _)
    |>.required rfl (PairSide.isExact _) |>.required rfl (PairSide.isExact _)) (by decide) _

lemma SortItem.isExact : SortItem.codec.IsExact := fun _ =>
  restores_codec (spells_build _ |>.required rfl (isExact_text _) |>.required rfl (isExact_text _)
    |>.optional (isExact_text.optional isSolid_text _) |>.required rfl (isExact_text _))
    (by decide) _

lemma SortCategory.isExact : SortCategory.codec.IsExact := fun _ =>
  restores_codec (spells_build _ |>.required rfl (isExact_text _) |>.required rfl (isExact_text _)
    |>.optional (isExact_text.optional isSolid_text _)
    |>.optional (isExact_text.optional isSolid_text _)) (by decide) _

lemma Quiz.restores (z : Quiz) : fields.Restores z z :=
  restores_fields (spells_build _ |>.required rfl (QuizQuestion.isExact.list _)) (by decide)

lemma Flashcards.restores (z : Flashcards) : fields.Restores z z :=
  restores_fields (spells_build _ |>.required rfl (Flashcard.isExact.list _)
    |>.withDefault rfl (isExact_named _)) (by decide)

lemma Matching.restores (z : Matching) : fields.Restores z z :=
  restores_fields (spells_build _ |>.required rfl (MatchPair.isExact.list _)
    |>.withDefault rfl (isExact_text _) |>.optional (isExact_integer.optional isSolid_integer _))
    (by decide)

lemma Sorting.restores (z : Sorting) : fields.Restores z z :=
  restores_fields (spells_build _ |>.required rfl (SortItem.isExact.list _)
    |>.required rfl (SortCategory.isExact.list _) |>.withDefault rfl (isExact_text _)) (by decide)

lemma WorldSize.isExact : WorldSize.codec.IsExact := fun _ =>
  restores_codec (spells_build _ |>.withDefault rfl (isExact_integer _)
    |>.withDefault rfl (isExact_integer _)) (by decide) _

lemma World.isExact : World.codec.IsExact := fun _ =>
  restores_codec (spells_build _ |>.withDefault rfl (isExact_text _)
    |>.withDefault rfl (isExact_text _) |>.withDefault rfl (WorldSize.isExact _)
    |>.withDefault rfl (isExact_text _)) (by decide) _

lemma Collectible.isExact : Collectible.codec.IsExact := fun _ =>
  restores_codec (spells_build _ |>.required rfl (isExact_text _)
    |>.withDefault rfl (isExact_text _) |>.withDefault rfl (isExact_text _)
    |>.withDefault rfl (isExact_text _) |>.required rfl (isExact_text _)
    |>.withDefault rfl (isExact_integer _) |>.withDefault rfl (isExact_text _)) (by decide) _

lemma ChallengeItem.isExact : ChallengeItem.codec.IsExact := fun _ =>
  restores_codec (spells_build _ |>.required rfl (isExact_text _) |>.required rfl (isExact_text _)
    |>.required rfl (ShortAnswer.isExact _)
    |>.optional (ShortAnswer.isExact.list.optional isSolid_list _)
    |>.withDefault rfl (isExact_integer _) |>.optional (isExact_integer.optional isSolid_integer _))
    (by decide) _

lemma Challenge.restores (z : Challenge) : fields.Restores z z :=
  restores_fields (spells_build _ |>.withDefault rfl (isExact_text _)
    |>.required rfl (ChallengeItem.isExact.list _) |>.withDefault rfl (isExact_integer _)
    |>.withDefault rfl (isExact_integer _) |>.withDefault rfl (isExact_integer _)) (by decide)

lemma Metadata.isExact : Metadata.codec.IsExact := fun _ =>
  restores_codec (spells_build _ |>.withDefault rfl (isExact_text _)
    |>.withDefault rfl (isExact_text _) |>.withDefault rfl (isExact_text _)
    |>.withDefault rfl (isExact_text _) |>.withDefault rfl (isExact_named _)
    |>.withDefault rfl (isExact_named _) |>.withDefault rfl (isExact_integer _)
    |>.withDefault rfl (isExact_text.list _) |>.withDefault rfl (isExact_text.list _)
    |>.withDefault rfl (isExact_text _)) (by decide) _

lemma Background.isExact : Background.codec.IsExact := fun _ =>
  restores_codec (spells_build _ |>.withDefault rfl (isExact_text _)
    |>.withDefault rfl (isExact_text _)) (by decide) _

lemma Theme.conveys (r : Theme) :
    codec.Conveys ["primaryColor", "secondaryColor", "background", "icon", "mood"] r r :=
  conveys_codec (spells_build _ |>.required rfl (isExact_text _) |>.required rfl (isExact_text _)
    |>.required rfl (Background.isExact _) |>.required rfl (isExact_text _)
    |>.required rfl (isExact_text _)) (by decide) _

lemma Theme.isExact : Theme.codec.IsExact := fun r => r.conveys.restores

/-- The names of the settings. -/
def Config.names : List String :=
  ["gameType", "secondaryTypes", "timeLimit", "questionTimeLimit", "allowSkip", "allowBack",
    "hintsEnabled", "maxHints", "lives", "shuffleContent", "feedbackType", "showCorrectAnswer"]

lemma Config.conveys (r : Config) : codec.Conveys names r r :=
  conveys_codec (spells_build _ |>.required rfl (isExact_text _)
    |>.withDefault rfl (isExact_text.list _) |>.withDefault rfl (isExact_integer _)
    |>.withDefault rfl (isExact_integer _) |>.withDefault rfl (isExact_boolean _)
    |>.withDefault rfl (isExact_boolean _) |>.withDefault rfl (isExact_boolean _)
    |>.withDefault rfl (isExact_integer _) |>.withDefault rfl (isExact_integer _)
    |>.withDefault rfl (isExact_boolean _) |>.withDefault rfl (isExact_text _)
    |>.withDefault rfl (isExact_boolean _)) (by decide) _

lemma Config.isExact : Config.codec.IsExact := fun r => r.conveys.restores

lemma Character.isExact : Character.codec.IsExact := fun _ =>
  restores_codec (spells_build _ |>.required rfl (isExact_text _)
    |>.withDefault rfl (isExact_text _) |>.withDefault rfl (isExact_text _)
    |>.optional (isExact_text.optional isSolid_text _)) (by decide) _

lemma Intro.isExact : Intro.codec.IsExact := fun _ =>
  restores_codec (spells_build _ |>.withDefault rfl (isExact_text _)
    |>.withDefault rfl (isExact_text _) |>.withDefault rfl (isExact_text.list _)
    |>.optional (isExact_text.optional isSolid_text _)
    |>.optional (Character.isExact.optional (isSolid_codec _ _) _)) (by decide) _

lemma Outro.isExact : Outro.codec.IsExact := fun _ =>
  restores_codec (spells_build _ |>.withDefault rfl (isExact_text _)
    |>.withDefault rfl (isExact_text _) |>.withDefault rfl (isExact_text.list _)) (by decide) _

lemma Progression.conveys (r : Progression) :
    codec.Conveys ["type", "sectionOrder", "startSection", "minimumScoreToProgress",
      "showProgress"] r r :=
  conveys_codec (spells_build _ |>.withDefault rfl (isExact_named _)
    |>.optional (isExact_text.list.optional isSolid_list _)
    |>.optional (isExact_text.optional isSolid_text _)
    |>.optional (isExact_integer.optional isSolid_integer _) |>.withDefault rfl (isExact_boolean _))
    (by decide) _

lemma Progression.isExact : Progression.codec.IsExact := fun r => r.conveys.restores

lemma RatingTier.isExact : RatingTier.codec.IsExact := fun _ =>
  restores_codec (spells_build _ |>.required rfl (isExact_float _) |>.required rfl (isExact_text _)
    |>.withDefault rfl (isExact_text _) |>.withDefault rfl (isExact_integer _)) (by decide) _

end LearningGame.Content
