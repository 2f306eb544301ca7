import LearningGame.Completion.Entries
import LearningGame.Content.Cards

/-!
# Filling cards, pairs and things to sort

Sides become maps with a text, and the category of an item may be given by its name.
-/

namespace LearningGame.Completion

open Content Schema

/-- Make the value at a key a side. -/
def fillSide (m : Fields) (key : String) : Fields := m.put key (textSide (m.get key))

/-! ### Flashcards -/

/-- Fill a card. -/
def fillCard (card : Fields) (n : Nat) : Fields :=
  fillSide (fillSide (fillId card ("card" ++ toString n)) "front") "back"

/-- Fill a deck of cards. -/
def fillFlashcards (content : Fields) : Filling Fields := do
  let cards ← objects "flashcard" (content.get "cards")
  let filled := (numbered cards).map fun e => fillCard e.1 e.2
  let mode := content.get "testMode"
  let known := mode.isOneOf (Named.names TestMode)
  return (content.put "cards" (mapList filled)).put "testMode"
    (if known then mode else .str (Named.name TestMode.flipReveal))

/-! ### Matching -/

/-- Fill a pair. -/
def fillPair (pair : Fields) (n : Nat) : Fields :=
  fillSide (fillSide (fillId pair ("pair" ++ toString n)) "left") "right"

/-- Fill a matching game. -/
def fillMatching (content : Fields) : Filling Fields := do
  let pairs ← objects "match pair" (content.get "pairs")
  let filled := (numbered pairs).map fun e => fillPair e.1 e.2
  return (content.put "pairs" (mapList filled)).put "matchStyle"
    ((content.get "matchStyle").orElse "tap-tap")

/-! ### Sorting -/

/-- Fill a category; its name is its id if it has none. -/
def fillCategory (category : Fields) (n : Nat) : Fields :=
  let filled := fillId category ("cat" ++ toString n)
  filled.put "name" (filled.getD "name" (filled.get "id")).text

/-- The id of the last category whose name reads like the text. -/
def categoryNamed? (categories : List Fields) (name : String) : Option String :=
  (categories.reverse.find? fun c => folded (textAt c "name") == folded name).map fun c =>
    textAt c "id"

/-- The category that an item names by id or by name. -/
def categoryOf (categories : List Fields) (target : String) : String :=
  if (categories.map fun c => textAt c "id").contains target then target
  else (categoryNamed? categories target).getD target

/-- Fill an item. -/
def fillItem (categories : List Fields) (item : Fields) (n : Nat) : Fields :=
  let item := fillText (fillId item ("item" ++ toString n)) "text"
  item.put "correctCategory" (categoryOf categories (textAt item "correctCategory"))

/-- Fill a sorting game. -/
def fillSorting (content : Fields) : Filling Fields := do
  let categories ← objects "sort category" (content.get "categories")
  let categories := (numbered categories).map fun e => fillCategory e.1 e.2
  let items ← objects "sort item" (content.get "items")
  let items := (numbered items).map fun e => fillItem categories e.1 e.2
  let content := content.put "items" (mapList items)
  let content := content.put "categories" (mapList categories)
  return content.put "instructions" ((content.get "instructions").orElse "")

end LearningGame.Completion
