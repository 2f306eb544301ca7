import LearningGame.Schema.Record

/-!
# The frame of a game

What surrounds the sections: metadata, look, settings, the screens before and after, the order of
play, and how the score is rated.
-/

namespace LearningGame.Content

open Schema

/-! ### Metadata -/

/-- For whom a game is. -/
inductive Difficulty where
  | beginner
  | intermediate
  | advanced
  deriving DecidableEq

instance : Named Difficulty where
  all := [.beginner, .intermediate, .advanced]
  name
    | .beginner => "beginner"
    | .intermediate => "intermediate"
    | .advanced => "advanced"

/-- How involved a game is. -/
inductive Complexity where
  | basic
  | standard
  | complex
  deriving DecidableEq

instance : Named Complexity where
  all := [.basic, .standard, .complex]
  name
    | .basic => "basic"
    | .standard => "standard"
    | .complex => "complex"

/-- What a game is about. -/
structure Metadata where
  title : String
  description : String
  subject : String
  topic : String
  difficulty : Difficulty
  complexity : Complexity
  estimatedMinutes : Int
  learningObjectives : List String
  tags : List String
  language : String

/-- How metadata are written. -/
def Metadata.codec : Codec Metadata :=
  RecordOf.build Metadata.mk
    |>.apply (.withDefault "title" .text "Game" (·.title))
    |>.apply (.withDefault "description" .text "" (·.description))
    |>.apply (.withDefault "subject" .text "" (·.subject))
    |>.apply (.withDefault "topic" .text "" (·.topic))
    |>.apply (.withDefault "difficulty" .named .beginner (·.difficulty))
    |>.apply (.withDefault "complexity" .named .basic (·.complexity))
    |>.apply (.withDefault "estimatedMinutes" .integer 10 (·.estimatedMinutes))
    |>.apply (.withDefault "learningObjectives" (Codec.list .text) [] (·.learningObjectives))
    |>.apply (.withDefault "tags" (Codec.list .text) [] (·.tags))
    |>.apply (.withDefault "language" .text "English" (·.language))
    |>.codec "GameMetadata"

/-! ### Look -/

/-- The background of a game. -/
structure Background where
  kind : String
  value : String

/-- How backgrounds are written. -/
def Background.codec : Codec Background :=
  RecordOf.build Background.mk
    |>.apply (.withDefault "type" .text "solid" (·.kind))
    |>.apply (.withDefault "value" .text "" (·.value))
    |>.codec "ThemeBackground"

/-- The look of a game. -/
structure Theme where
  primaryColor : String
  secondaryColor : String
  background : Background
  icon : String
  mood : String

/-- How themes are written. -/
def Theme.codec : Codec Theme :=
  RecordOf.build Theme.mk
    |>.apply (.required "primaryColor" .text (·.primaryColor))
    |>.apply (.required "secondaryColor" .text (·.secondaryColor))
    |>.apply (.required "background" Background.codec (·.background))
    |>.apply (.required "icon" .text (·.icon))
    |>.apply (.required "mood" .text (·.mood))
    |>.codec "GameTheme"

/-! ### Settings -/

/-- The settings of a game. -/
structure Config where
  gameType : String
  secondaryTypes : List String
  timeLimit : Int
  questionTimeLimit : Int
  allowSkip : Bool
  allowBack : Bool
  hintsEnabled : Bool
  maxHints : Int
  lives : Int
  shuffleContent : Bool
  feedbackType : String
  showCorrectAnswer : Bool

/-- How settings are written. -/
def Config.codec : Codec Config :=
  RecordOf.build Config.mk
    |>.apply (.required "gameType" .text (·.gameType))
    |>.apply (.withDefault "secondaryTypes" (Codec.list .text) [] (·.secondaryTypes))
    |>.apply (.withDefault "timeLimit" .integer 0 (·.timeLimit))
    |>.apply (.withDefault "questionTimeLimit" .integer 0 (·.questionTimeLimit))
    |>.apply (.withDefault "allowSkip" .boolean true (·.allowSkip))
    |>.apply (.withDefault "allowBack" .boolean true (·.allowBack))
    |>.apply (.withDefault "hintsEnabled" .boolean true (·.hintsEnabled))
    |>.apply (.withDefault "maxHints" .integer 3 (·.maxHints))
    |>.apply (.withDefault "lives" .integer 0 (·.lives))
    |>.apply (.withDefault "shuffleContent" .boolean false (·.shuffleContent))
    |>.apply (.withDefault "feedbackType" .text "immediate" (·.feedbackType))
    |>.apply (.withDefault "showCorrectAnswer" .boolean true (·.showCorrectAnswer))
    |>.codec "GameConfig"

/-! ### Screens -/

/-- A character that leads through the game. -/
structure Character where
  name : String
  role : String
  description : String
  avatar : Option String

/-- How characters are written. -/
def Character.codec : Codec Character :=
  RecordOf.build Character.mk
    |>.apply (.required "name" .text (·.name))
    |>.apply (.withDefault "role" .text "" (·.role))
    |>.apply (.withDefault "description" .text "" (·.description))
    |>.apply (.optional "avatar" .text (·.avatar))
    |>.codec "CharacterInfo"

/-- The screen before the first section. -/
structure Intro where
  title : String
  description : String
  instructions : List String
  narrative : Option String
  character : Option Character

/-- How opening screens are written. -/
def Intro.codec : Codec Intro :=
  RecordOf.build Intro.mk
    |>.apply (.withDefault "title" .text "" (·.title))
    |>.apply (.withDefault "description" .text "" (·.description))
    |>.apply (.withDefault "instructions" (Codec.list .text) [] (·.instructions))
    |>.apply (.optional "narrative" .text (·.narrative))
    |>.apply (.optional "character" Character.codec (·.character))
    |>.codec "IntroScreen"

/-- The screen after the last section. -/
structure Outro where
  completionMessage : String
  learningSummary : String
  nextSteps : List String

/-- How closing screens are written. -/
def Outro.codec : Codec Outro :=
  RecordOf.build Outro.mk
    |>.apply (.withDefault "completionMessage" .text "" (·.completionMessage))
    |>.apply (.withDefault "learningSummary" .text "" (·.learningSummary))
    |>.apply (.withDefault "nextSteps" (Codec.list .text) [] (·.nextSteps))
    |>.codec "OutroScreen"

/-! ### Order of play -/

/-- How play moves through the sections. -/
inductive ProgressionKind where
  | linear
  | branching
  | adaptive
  | free
  | milestone
  deriving DecidableEq

instance : Named ProgressionKind where
  all := [.linear, .branching, .adaptive, .free, .milestone]
  name
    | .linear => "linear"
    | .branching => "branching"
    | .adaptive => "adaptive"
    | .free => "open"
    | .milestone => "milestone"

/-- The order of play. -/
structure Progression where
  kind : ProgressionKind
  sectionOrder : Option (List String)
  startSection : Option String
  minimumScore : Option Int
  showProgress : Bool

/-- How orders of play are written. -/
def Progression.codec : Codec Progression :=
  RecordOf.build Progression.mk
    |>.apply (.withDefault "type" .named .linear (·.kind))
    |>.apply (.optional "sectionOrder" (Codec.list .text) (·.sectionOrder))
    |>.apply (.optional "startSection" .text (·.startSection))
    |>.apply (.optional "minimumScoreToProgress" .integer (·.minimumScore))
    |>.apply (.withDefault "showProgress" .boolean true (·.showProgress))
    |>.codec "ProgressionConfig"

/-! ### Scoring -/

/-- A tier of the final rating. -/
structure RatingTier where
  minPercentage : Float
  label : String
  message : String
  stars : Int

/-- How rating tiers are written. -/
def RatingTier.codec : Codec RatingTier :=
  RecordOf.build RatingTier.mk
    |>.apply (.required "minPercentage" .float (·.minPercentage))
    |>.apply (.required "label" .text (·.label))
    |>.apply (.withDefault "message" .text "" (·.message))
    |>.apply (.withDefault "stars" .integer 0 (·.stars))
    |>.codec "ScoreRating"

/-- How answers are scored and the score is rated. -/
structure Scoring where
  maxScore : Int
  pointsPerCorrect : Int
  penaltyPerWrong : Int
  timeBonus : Bool
  streakMultiplier : Number
  ratings : List RatingTier

/-- How scorings are written. -/
def Scoring.codec : Codec Scoring :=
  RecordOf.build Scoring.mk
    |>.apply (.withDefault "maxScore" .integer 100 (·.maxScore))
    |>.apply (.withDefault "pointsPerCorrect" .integer 10 (·.pointsPerCorrect))
    |>.apply (.withDefault "penaltyPerWrong" .integer 0 (·.penaltyPerWrong))
    |>.apply (.withDefault "timeBonus" .boolean false (·.timeBonus))
    |>.apply (.withDefault "streakMultiplier" .number (.int 1) (·.streakMultiplier))
    |>.apply (.withDefault "ratings" RatingTier.codec.list [] (·.ratings))
    |>.codec "ScoringConfig"

end LearningGame.Content
