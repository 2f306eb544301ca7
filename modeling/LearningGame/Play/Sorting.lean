import LearningGame.Catalogue
import LearningGame.Play.Sitting
import LearningGame.Rules.Grading

/-!
# Playing a sorting game

Every item is put into a category, then all are graded at once. Items in the right place earn their
part of the points.
-/

namespace LearningGame.Play

open Content Schema Rules

/-- The outcome of a sorting game. -/
structure SortingOutcome where
  correct : Nat
  total : Nat
  points : Int
  results : List (String × Bool)

/-- Results as a document. -/
def sortingResults (results : List (String × Bool)) : Value :=
  .map (results.map fun e => (e.1, .bool e.2))

/-- An outcome as a document. -/
def SortingOutcome.toValue (o : SortingOutcome) : Value :=
  .map
    [("correct", .int o.correct), ("total", .int o.total), ("points", .int o.points),
     ("results", sortingResults o.results)]

/-- A sorting game in play. -/
structure SortingSitting extends Sitting where
  items : Catalogue SortItem
  categories : Catalogue SortCategory
  instructions : String
  /-- The category of each item that has been placed, in the order of first placement. -/
  placements : Catalogue String
  submitted : Bool
  results : Option (List (String × Bool))

instance : Seated SortingSitting where
  sitting s := s.toSitting
  seat s t := { s with toSitting := t }

namespace SortingSitting

/-- Sit down to a sorting game. -/
def create (content : Sorting) (started : Float) : SortingSitting :=
  ⟨⟨false, started⟩, Catalogue.ofList SortItem.id content.items,
    Catalogue.ofList SortCategory.id content.categories, content.instructions, [], false, none⟩

/-- The items that have not been placed. -/
def unplaced (s : SortingSitting) : List String := s.items.ids.filter fun id => !s.placements.has id

/-- Whether everything is placed and can be graded. -/
def canSubmit (s : SortingSitting) : Bool := !s.submitted && s.unplaced.isEmpty

/-- Whether each item is in the right place. -/
def graded (s : SortingSitting) : List (String × Bool) :=
  s.items.map fun e => (e.1, s.placements.find? e.1 == some e.2.correctCategory)

/-- The placements as a document. -/
def placementsView (s : SortingSitting) : Value := .map (s.placements.map fun e => (e.1, .str e.2))

variable (c : Setting)

/-- Put an item into a category; tells whether that was possible. -/
def place (itemId categoryId : String) : Script SortingSitting Bool :=
  c.unlessCompleted "place" false do
    let s ← Script.state
    if s.submitted then return false
    else if s.items.has itemId && s.categories.has categoryId then
      Script.setState { s with placements := s.placements.put itemId categoryId }
      return true
    else
      Script.warn
        ("Unknown placement " ++ Text.quoted itemId ++ " -> " ++ Text.quoted categoryId)
      return false

/-- Take an item out of its category. -/
def remove (itemId : String) : Script SortingSitting Unit := do
  let s ← Script.state
  if s.submitted then return ()
  else Script.setState { s with placements := s.placements.erase itemId }

/-- Grade all placements and report the outcome. -/
def grade : Script SortingSitting (Option SortingOutcome) := do
  let s ← Script.state
  let results := s.graded
  Script.setState { s with results := some results }
  let correct := results.countP (·.2)
  let total := s.items.length
  let points ← Script.lift (partialCredit correct total c.pointsPerCorrect)
  Setting.answer c.sectionId s.placementsView (correct == total) points
  Script.change fun s => { s with submitted := true }
  return some ⟨correct, total, points, results⟩

/-- Have the placements graded, once all items are placed. -/
def submit : Script SortingSitting (Option SortingOutcome) :=
  c.unlessCompleted "submit" none do
    let s ← Script.state
    if s.submitted then
      Script.warn "Sorting already submitted"
      return none
    else if s.unplaced.isEmpty then grade c
    else
      Script.warn ("Cannot submit with unplaced items: " ++
        Value.quoted (.list (s.unplaced.map .str)))
      return none

/-- Go on after the grading. -/
def leave : Script SortingSitting Unit := do
  let s ← Script.state
  if !s.submitted && !s.items.isEmpty then Script.warn "Submit before continuing"
  else c.complete

/-- What the player sees. -/
def view (s : SortingSitting) : Fields :=
  [("type", Named.name SectionKind.sorting),
   ("instructions", s.instructions),
   ("items", .list (s.items.things.map fun i => .map [("id", i.id), ("text", i.text)])),
   ("categories", .list (s.categories.things.map fun k => .map [("id", k.id), ("name", k.name)])),
   ("placements", s.placementsView),
   ("unplaced", .list (s.unplaced.map .str)),
   ("canSubmit", .bool s.canSubmit),
   ("submitted", .bool s.submitted),
   ("results", match s.results with
     | some r => sortingResults r
     | none => .null)]

end SortingSitting

end LearningGame.Play
