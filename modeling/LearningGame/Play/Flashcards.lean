import LearningGame.Play.Sitting
import LearningGame.Play.State
import LearningGame.Rules.Grading

/-!
# Playing flashcards

In one mode the player turns the card over and says whether its back was known; in the other the
back is typed in and graded. Every card is reviewed once, and the section is finished when all are.
-/

namespace LearningGame.Play

open Content Schema Rules

/-- The result of a typed answer. -/
structure CardResult where
  cardId : String
  isCorrect : Bool
  expected : String

/-- A result as a document. -/
def CardResult.toValue (r : CardResult) : Value :=
  .map [("cardId", r.cardId), ("isCorrect", .bool r.isCorrect), ("expected", r.expected)]

/-- Flashcards in play. -/
structure FlashcardSitting extends Sitting where
  /-- The cards in the order in which they are shown. -/
  cards : List Flashcard
  testMode : TestMode
  index : Nat
  flipped : Bool
  /-- The cards that have been reviewed, and whether they were known. -/
  reviewed : List (String × Bool)
  showResult : Bool
  lastResult : Option CardResult
  hintVisible : Bool

instance : Seated FlashcardSitting where
  sitting s := s.toSitting
  seat s t := { s with toSitting := t }

namespace FlashcardSitting

/-- The card that is being shown. -/
def current? (s : FlashcardSitting) : Option Flashcard := s.cards[s.index]?

/-- Whether a card has been reviewed. -/
def isReviewed (s : FlashcardSitting) (id : String) : Bool := (s.reviewed.lookup id).isSome

/-- Sit down to flashcards. -/
def create (c : Setting) (deck : Flashcards) (started : Float) : StateM Dice FlashcardSitting := do
  let cards ← if c.config.shuffleContent then Dice.shuffle deck.cards else pure deck.cards
  return ⟨⟨false, started⟩, cards, deck.testMode, 0, false, [], false, none, false⟩

variable (c : Setting)

/-- Begin to play. -/
def enter : Script FlashcardSitting Unit := do
  let s ← Script.state
  if s.cards.isEmpty then
    Script.warn ("Flashcards '" ++ c.sectionId ++ "' has no cards")
    c.complete
  else pure ()

/-- Turn the card over; tells whether its back is up then. -/
def flip : Script FlashcardSitting Bool := do
  let s ← Script.state
  Script.setState { s with flipped := !s.flipped }
  return !s.flipped

/-- Show a card afresh. -/
def resetCard : Script FlashcardSitting Unit := do
  Script.change fun s =>
    { s with flipped := false, showResult := false, lastResult := none, hintVisible := false }
  Setting.startClock

/-- Move to the next card, or from the last one to the first that has not been reviewed; finish if
all cards have been reviewed. -/
def advance : Script FlashcardSitting Unit := do
  let s ← Script.state
  if s.cards.length ≤ s.reviewed.length then c.complete
  else if s.index + 1 < s.cards.length then
    Script.setState { s with index := s.index + 1 }
    resetCard
  else
    match s.cards.findIdx? fun card => !s.isReviewed card.id with
    | none => Script.lift (.error .noCardLeft)
    | some i =>
      Script.setState { s with index := i }
      resetCard

/-- Do something with the current card if it can be reviewed. -/
def review {α : Type} (action : String) (refused : α)
    (x : Flashcard → Script FlashcardSitting α) : Script FlashcardSitting α :=
  c.unlessCompleted action refused do
    let s ← Script.state
    match s.current? with
    | none => return refused
    | some card =>
      if s.isReviewed card.id then
        Script.warn ("Card '" ++ card.id ++ "' already reviewed")
        return refused
      else x card

/-- Take down that a card has been reviewed, and report it. -/
def record (card : Flashcard) (answer : Value) (known : Bool) : Script FlashcardSitting Unit := do
  Script.change fun s => { s with reviewed := s.reviewed ++ [(card.id, known)] }
  Setting.answer card.id answer known (if known then c.pointsPerCorrect else 0)

/-- Say whether the back of the card was known. -/
def mark (known : Bool) : Script FlashcardSitting Unit := do
  let s ← Script.state
  if s.testMode = .typeAnswer then
    Script.warn ("Self-report is not available in " ++ Named.name s.testMode ++ " mode")
  else
    review c "self-report" () fun card => do
      record c card (if known then "known" else "unknown") known
      advance c

/-- Grade a typed text. -/
def grade (card : Flashcard) (text : String) : Script FlashcardSitting (Option CardResult) := do
  let known := sameAnswer text card.back.text
  let r : CardResult := ⟨card.id, known, card.back.text⟩
  record c card text known
  Script.change fun s => { s with showResult := true, flipped := true, lastResult := some r }
  return some r

/-- Type the back of the card. Anything blank is no answer. -/
def submit (answer : Value) : Script FlashcardSitting (Option CardResult) := do
  let s ← Script.state
  if s.testMode ≠ .typeAnswer then
    Script.warn ("Typed answers are not available in " ++ Named.name s.testMode ++ " mode")
    return none
  else if !answer.truthy then return none
  else
    match answer with
    | .str text =>
      if Text.isBlankText text then return none else review c "submit" none fun card => grade c card text
    | _ => Script.lift (.error .notText)

/-- Go on from a card that has been reviewed. -/
def next : Script FlashcardSitting Unit :=
  c.unlessCompleted "next" () do
    let s ← Script.state
    match s.current? with
    | none => return ()
    | some card =>
      if s.isReviewed card.id then advance c else Script.warn "Cannot skip an unreviewed card"

/-- Go back to the card before. -/
def previous : Script FlashcardSitting Unit :=
  c.unlessCompleted "previous" () do
    let s ← Script.state
    if !c.config.allowBack then Script.warn "Going back is disabled for this game"
    else if 0 < s.index then
      Script.setState { s with index := s.index - 1 }
      resetCard
    else pure ()

/-- Ask for the hint of the current card, which costs a hint. -/
def useHint : Script FlashcardSitting (Option String) := do
  let s ← Script.state
  match s.current?.bind (·.hint) with
  | none => return none
  | some hint =>
    if hint == "" || s.hintVisible then return none
    else
      let granted ← Script.spendHint
      if granted then
        Script.change fun s => { s with hintVisible := true }
        return some hint
      else return none

/-- What the player sees. -/
def view (s : FlashcardSitting) : Fields :=
  [("type", Named.name SectionKind.flashcards),
   ("testMode", Named.name s.testMode),
   ("index", .int s.index),
   ("total", .int s.cards.length),
   ("reviewed", .int s.reviewed.length),
   ("known", .int (s.reviewed.countP (·.2))),
   ("front", optionalText (s.current?.map (·.front.text))),
   ("back", if s.flipped then optionalText (s.current?.map (·.back.text)) else .null),
   ("flipped", .bool s.flipped),
   ("showResult", .bool s.showResult),
   ("result", match s.lastResult with
     | some r => r.toValue
     | none => .null),
   ("hint", if s.hintVisible then optionalText (s.current?.bind (·.hint)) else .null),
   ("canGoBack", .bool (c.config.allowBack && decide (0 < s.index)))]

end FlashcardSitting

end LearningGame.Play
