import LearningGame.Completion.Document

/-!
# Flat content

Older content is flat: a list of questions, or a list of cards that are either flashcards or the
cards of a memory game. It is converted into a document with a single section.
-/

namespace LearningGame.Completion

open Content Schema

/-- The shapes of flat content. -/
inductive FlatShape where
  | quiz
  | flashcards
  | matching
  deriving DecidableEq

namespace FlatShape

/-- The name of a shape. -/
def name : FlatShape → String
  | .quiz => "quiz"
  | .flashcards => "flashcards"
  | .matching => "matching"

/-- The type of the game that a shape becomes. -/
def gameType : FlatShape → String
  | .quiz => "quiz"
  | .flashcards => "flashcard"
  | .matching => "matching"

/-- The title of the section that a shape becomes. -/
def title : FlatShape → String
  | .quiz => "Quiz"
  | .flashcards => "Flashcards"
  | .matching => "Matching"

/-- The shape of cards, told from the first one. -/
def ofCards? : List Value → Option FlatShape
  | .map card :: _ =>
    if Fields.has card "front" then some .flashcards
    else if Fields.has card "matchId" then some .matching
    else none
  | _ => none

/-- The shape of a content. -/
def of? (content : Fields) : Option FlatShape :=
  if (content.get "questions").isList then some .quiz else ofCards? (content.get "cards").items

end FlatShape

/-- The id of the section that flat content becomes. -/
def flatSectionId : String := "main"

/-- Note something about the conversion of flat content. -/
def noteFlat (level : Log.Level) (message : String) : Filling Unit :=
  Traced.note level "edugame.legacy" message

/-! ### Questions -/

/-- An option of a flat question. -/
def flatOption (v : Value) (n : Nat) : Value :=
  .map [("id", "opt" ++ toString n), ("text", v.text)]

/-- The options of a flat question: the elements of whatever is given. -/
def flatOptions (v : Value) : Except Fault Value := do
  let items ← (v.orElse (.list [])).elements
  return .list (items.zipIdx.map fun e => flatOption e.1 e.2)

/-- A flat question at an index as a question of a section. -/
def flatQuestion? (v : Value) (index : Nat) : Filling (Option Value) :=
  match v with
  | .map q => do
    let options ← Traced.lift (flatOptions (Fields.get q "options"))
    return some (.map
      [("id", "q" ++ toString (index + 1)),
       ("question", Fields.getD q "question" ""),
       ("questionType", Named.name QuestionKind.singleChoice),
       ("options", options),
       ("correctAnswer", Fields.getD q "correctAnswer" (.int 0)),
       ("explanation", Fields.get q "explanation"),
       ("points", .int 10)])
  | _ => do
    noteFlat .warning ("Dropping non-object legacy question at index " ++ toString index)
    return none

/-- Flat questions as the content of a section. -/
def flatQuiz (content : Fields) : Filling Fields := do
  let questions ←
    Traced.filterMap (fun e => flatQuestion? e.1 e.2) (content.get "questions").items.zipIdx
  return [("type", Named.name SectionKind.quiz), ("questions", .list questions)]

/-! ### Cards -/

/-- A flat card at an index as a card of a section. -/
def flatCard? (v : Value) (index : Nat) : Option Value :=
  match v with
  | .map card => some (.map
      [("id", "card" ++ toString (index + 1)),
       ("front", .map [("text", textAt card "front")]),
       ("back", .map [("text", textAt card "back")]),
       ("hint", Fields.get card "hint")])
  | _ => none

/-- Flat cards as the content of a section. -/
def flatDeck (content : Fields) : Fields :=
  let cards := (content.get "cards").items.zipIdx.filterMap fun e => flatCard? e.1 e.2
  [("type", Named.name SectionKind.flashcards), ("cards", .list cards),
   ("testMode", Named.name TestMode.flipReveal)]

/-! ### Memory cards -/

/-- Cards with one match key. -/
structure CardGroup where
  key : String
  cards : List Fields

/-- Add a card to the group of its key; a new group goes to the end. -/
def addCard (groups : List CardGroup) (card : Fields) : List CardGroup :=
  let key := (card.get "matchId").text
  if groups.any (·.key == key) then
    groups.map fun g => if g.key == key then { g with cards := g.cards ++ [card] } else g
  else groups ++ [⟨key, [card]⟩]

/-- The cards in groups of one key each, in the order in which the keys occur first. -/
def groupCards (cards : List Value) : List CardGroup :=
  (cards.filterMap Value.fields?).foldl addCard []

/-- The pair that a group makes: its first two cards, or its only card twice. -/
def CardGroup.pair (g : CardGroup) (n : Nat) : Value :=
  let left := match g.cards with
    | first :: _ => someTextAt first "content"
    | [] => ""
  let right := match g.cards with
    | _ :: second :: _ => ((second.get "content").orElse left).text
    | _ => left
  .map [("id", "pair" ++ toString n), ("left", .map [("text", left)]),
    ("right", .map [("text", right)])]

/-- Note a group with a single card, and make its pair. -/
def CardGroup.toPair (g : CardGroup) (n : Nat) : Filling Value := do
  if g.cards.length = 1 then
    noteFlat .warning ("Match key '" ++ g.key ++ "' has a single card; pairing it with itself")
  return g.pair n

/-- The pairs that memory cards make. -/
def pairCards (cards : List Value) : Filling (List Value) :=
  Traced.traverse (fun e => CardGroup.toPair e.1 e.2) (numbered (groupCards cards))

/-- Memory cards as the content of a section. -/
def flatMatching (content : Fields) : Filling Fields := do
  let pairs ← pairCards (content.get "cards").items
  return [("type", Named.name SectionKind.matching), ("pairs", .list pairs),
    ("matchStyle", "tap-tap")]

/-! ### Documents -/

/-- The metadata of a stored game, from what its record shows. -/
def flatMetadata (record : Fields) : Fields :=
  let topic := (record.get "topic").orElse "General"
  [("title", (record.get "title").orElse "Game"),
   ("description", (record.get "description").orElse ""),
   ("subject", topic),
   ("topic", topic),
   ("difficulty", Named.name (difficultyOf .intermediate (record.get "difficulty"))),
   ("complexity", Named.name (complexityOf (record.get "complexity"))),
   ("estimatedMinutes", (record.get "durationMinutes").orElse (.int 10)),
   ("learningObjectives", .list []),
   ("tags", .list (record.get "tags").items),
   ("language", (record.get "language").orElse "English")]

/-- The content of the section that flat content becomes. -/
def flatContent (content : Fields) : FlatShape → Filling Fields
  | .quiz => flatQuiz content
  | .flashcards => pure (flatDeck content)
  | .matching => flatMatching content

/-- Convert flat content of a shape into a document. -/
def convertFlat (shape : FlatShape) (content record : Fields) : Filling Fields := do
  let filled ← flatContent content shape
  noteFlat .info
    ("Converted legacy " ++ shape.name ++ " content into section '" ++ flatSectionId ++ "'")
  let converted : Fields :=
    [("id", flatSectionId), ("title", shape.title), ("type", Fields.get filled "type"),
      ("content", .map filled)]
  return [("version", "1.0"),
    ("metadata", .map (flatMetadata record)),
    ("theme", .map defaultTheme),
    ("config", .map (defaultConfig shape.gameType)),
    ("content", .map [("sections", .list [.map converted])]),
    ("progression", .map (defaultProgression [flatSectionId])),
    ("scoring", .map (defaultScoring 100))]

/-- Convert flat content into a document; other content is refused. -/
def convert (content record : Fields) : Loading Fields :=
  match FlatShape.of? content with
  | some shape => filling (convertFlat shape content record)
  | none => Traced.fail (.unplayable (.noFlatShape content))

end LearningGame.Completion
