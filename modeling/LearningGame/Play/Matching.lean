import LearningGame.Catalogue
import LearningGame.Play.Sitting
import LearningGame.Play.State

/-!
# Playing a matching game

Two columns show the two sides of the pairs, each in an order of its own. As soon as an entry is
selected in both columns they are compared, and the selections end. What has been matched cannot be
selected again.
-/

namespace LearningGame.Play

open Content Schema

/-- The two entries of an attempt. -/
structure Attempt where
  left : String
  right : String

/-- An attempt as a document. -/
def Attempt.toValue (a : Attempt) : Value := .map [("left", a.left), ("right", a.right)]

/-- The columns of a matching game. -/
inductive Column where
  | left
  | right
  deriving DecidableEq

/-- A matching game in play. -/
structure MatchingSitting extends Sitting where
  pairs : Catalogue MatchPair
  timeLimit : Option Int
  leftOrder : List String
  rightOrder : List String
  selectedLeft : Option String
  selectedRight : Option String
  /-- The pairs that have been found, in the order in which they were found. -/
  matched : List String
  wrongPair : Option Attempt
  timedOut : Bool

instance : Seated MatchingSitting where
  sitting s := s.toSitting
  seat s t := { s with toSitting := t }

namespace MatchingSitting

/-- Sit down to a matching game. -/
def create (content : Matching) (started : Float) : StateM Dice MatchingSitting := do
  let pairs := Catalogue.ofList MatchPair.id content.pairs
  let left ← Dice.shuffle pairs.ids
  let right ← Dice.shuffle pairs.ids
  return ⟨⟨false, started⟩, pairs, content.timeLimit, left, right, none, none, [], none, false⟩

variable (c : Setting)

/-- Begin to play. -/
def enter : Script MatchingSitting Unit := do
  let s ← Script.state
  if s.pairs.isEmpty then
    Script.warn ("Matching '" ++ c.sectionId ++ "' has no pairs")
    c.complete
  else
    let limit := s.timeLimit.getD 0
    if 0 < limit then Script.arm .matching limit else pure ()

/-- The time has run out. -/
def expire : Script MatchingSitting Unit := do
  Script.note .info ("Matching '" ++ c.sectionId ++ "' ran out of time")
  Script.change fun s => { s with timedOut := true }
  c.complete

/-- Add a pair to those that have been found; with the last one the section is finished. -/
def found (id : String) : Script MatchingSitting Unit := do
  let s ← Script.state
  let matched := s.matched ++ [id]
  Script.setState { s with matched }
  if s.pairs.length ≤ matched.length then
    Script.cancel .matching
    c.complete
  else pure ()

/-- Compare the two selected entries. -/
def attempt (left right : String) : Script MatchingSitting Unit := do
  Script.change fun s => { s with selectedLeft := none, selectedRight := none }
  let correct := left == right
  let a : Attempt := ⟨left, right⟩
  Setting.answer left a.toValue correct (if correct then c.pointsPerCorrect else 0)
  if correct then found c left
  else Script.change fun s => { s with wrongPair := some a }

/-- Make an attempt if an entry is selected in both columns. -/
def resolve : Script MatchingSitting Unit := do
  let s ← Script.state
  match s.selectedLeft, s.selectedRight with
  | some left, some right => attempt c left right
  | _, _ => return ()

/-- Select an entry of a column. -/
def select (column : Column) (id : String) : Script MatchingSitting Unit :=
  c.unlessCompleted "select" () do
    let s ← Script.state
    if !s.pairs.has id then Script.warn ("Unknown pair id '" ++ id ++ "'")
    else if s.matched.contains id then return ()
    else
      Script.setState
        (match column with
        | .left => { s with wrongPair := none, selectedLeft := some id }
        | .right => { s with wrongPair := none, selectedRight := some id })
      resolve c

/-- A column as a document. -/
def columnView (s : MatchingSitting) (side : MatchPair → PairSide) (order : List String) : Value :=
  .list (order.filterMap fun id => (s.pairs.find? id).map fun p =>
    .map [("id", id), ("text", (side p).text), ("matched", .bool (s.matched.contains id))])

/-- What the player sees. -/
def view (s : MatchingSitting) (remaining : Alarm → Option Int) : Fields :=
  [("type", Named.name SectionKind.matching),
   ("left", s.columnView MatchPair.left s.leftOrder),
   ("right", s.columnView MatchPair.right s.rightOrder),
   ("selectedLeft", optionalText s.selectedLeft),
   ("selectedRight", optionalText s.selectedRight),
   ("wrongPair", match s.wrongPair with
     | some a => a.toValue
     | none => .null),
   ("matched", .int s.matched.length),
   ("total", .int s.pairs.length),
   ("timeRemaining", optionalInt (remaining .matching))]

end MatchingSitting

end LearningGame.Play
