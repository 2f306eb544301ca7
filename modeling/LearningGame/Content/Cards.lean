import LearningGame.Content.Media

/-!
# Cards, pairs and things to sort

Flashcards have a front and a back, matching is about pairs of a left and a right side, and sorting
puts items into categories.
-/

namespace LearningGame.Content

open Schema

/-! ### Flashcards -/

/-- How the back of a card is asked for. -/
inductive TestMode where
  | flipReveal
  | typeAnswer
  | speakAnswer
  deriving DecidableEq

instance : Named TestMode where
  all := [.flipReveal, .typeAnswer, .speakAnswer]
  name
    | .flipReveal => "flip-reveal"
    | .typeAnswer => "type-answer"
    | .speakAnswer => "speak-answer"

/-- One side of a card. -/
structure CardFace where
  text : String
  media : Option Media

/-- How card faces are written. -/
def CardFace.codec : Codec CardFace :=
  RecordOf.build CardFace.mk
    |>.apply (.required "text" .text (·.text))
    |>.apply (.optional "media" Media.codec (·.media))
    |>.codec "CardFace"

/-- A card to learn. -/
structure Flashcard where
  id : String
  front : CardFace
  back : CardFace
  hint : Option String
  category : Option String

/-- How cards are written. -/
def Flashcard.codec : Codec Flashcard :=
  RecordOf.build Flashcard.mk
    |>.apply (.required "id" .text (·.id))
    |>.apply (.required "front" CardFace.codec (·.front))
    |>.apply (.required "back" CardFace.codec (·.back))
    |>.apply (.optional "hint" .text (·.hint))
    |>.apply (.optional "category" .text (·.category))
    |>.codec "Flashcard"

/-- A deck of cards. -/
structure Flashcards where
  cards : List Flashcard
  testMode : TestMode

/-- The fields of a deck. -/
def Flashcards.fields : RecordOf Flashcards Flashcards :=
  RecordOf.build Flashcards.mk
    |>.apply (.required "cards" Flashcard.codec.list (·.cards))
    |>.apply (.withDefault "testMode" .named .flipReveal (·.testMode))

/-! ### Matching -/

/-- One side of a pair. -/
structure PairSide where
  text : String
  image : Option String

/-- How sides of pairs are written. -/
def PairSide.codec : Codec PairSide :=
  RecordOf.build PairSide.mk
    |>.apply (.required "text" .text (·.text))
    |>.apply (.optional "image" .text (·.image))
    |>.codec "PairSide"

/-- Two sides that belong together. -/
structure MatchPair where
  id : String
  left : PairSide
  right : PairSide

/-- How pairs are written. -/
def MatchPair.codec : Codec MatchPair :=
  RecordOf.build MatchPair.mk
    |>.apply (.required "id" .text (·.id))
    |>.apply (.required "left" PairSide.codec (·.left))
    |>.apply (.required "right" PairSide.codec (·.right))
    |>.codec "MatchPair"

/-- Pairs to find. -/
structure Matching where
  pairs : List MatchPair
  style : String
  timeLimit : Option Int

/-- The fields of a matching game. -/
def Matching.fields : RecordOf Matching Matching :=
  RecordOf.build Matching.mk
    |>.apply (.required "pairs" MatchPair.codec.list (·.pairs))
    |>.apply (.withDefault "matchStyle" .text "tap-tap" (·.style))
    |>.apply (.optional "timeLimit" .integer (·.timeLimit))

/-! ### Sorting -/

/-- A thing to sort and the category it belongs to. -/
structure SortItem where
  id : String
  text : String
  image : Option String
  correctCategory : String

/-- How items are written. -/
def SortItem.codec : Codec SortItem :=
  RecordOf.build SortItem.mk
    |>.apply (.required "id" .text (·.id))
    |>.apply (.required "text" .text (·.text))
    |>.apply (.optional "image" .text (·.image))
    |>.apply (.required "correctCategory" .text (·.correctCategory))
    |>.codec "SortItem"

/-- A category to sort into. -/
structure SortCategory where
  id : String
  name : String
  description : Option String
  color : Option String

/-- How categories are written. -/
def SortCategory.codec : Codec SortCategory :=
  RecordOf.build SortCategory.mk
    |>.apply (.required "id" .text (·.id))
    |>.apply (.required "name" .text (·.name))
    |>.apply (.optional "description" .text (·.description))
    |>.apply (.optional "color" .text (·.color))
    |>.codec "SortCategory"

/-- Items to sort into categories. -/
structure Sorting where
  items : List SortItem
  categories : List SortCategory
  instructions : String

/-- The fields of a sorting game. -/
def Sorting.fields : RecordOf Sorting Sorting :=
  RecordOf.build Sorting.mk
    |>.apply (.required "items" SortItem.codec.list (·.items))
    |>.apply (.required "categories" SortCategory.codec.list (·.categories))
    |>.apply (.withDefault "instructions" .text "" (·.instructions))

end LearningGame.Content
