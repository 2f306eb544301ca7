import LearningGame.Catalogue
import LearningGame.Play.Sitting
import LearningGame.Play.State

/-!
# Playing an exploration

The player walks between the locations that have been revealed and picks up what lies there. Hidden
locations are revealed as soon as all that have been revealed so far have been visited.
-/

namespace LearningGame.Play

open Content Schema

/-- An exploration in play. -/
structure ExplorationSitting extends Sitting where
  world : World
  locations : Catalogue Location
  collectibles : Catalogue Collectible
  /-- The locations that can be visited. -/
  revealed : List String
  /-- The location at which the player is. -/
  position : String
  visited : List String
  collected : List String

instance : Seated ExplorationSitting where
  sitting s := s.toSitting
  seat s t := { s with toSitting := t }

namespace ExplorationSitting

/-- Sit down to an exploration. -/
def create (content : Exploration) (started : Float) : ExplorationSitting :=
  ⟨⟨false, started⟩, content.world, Catalogue.ofList Location.id content.locations,
    Catalogue.ofList Collectible.id content.collectibles,
    (content.locations.filter (·.visible)).map (·.id), content.startLocation, [], []⟩

/-- The location at which the player is. -/
def current? (s : ExplorationSitting) : Option Location := s.locations.find? s.position

/-- The locations that have not been revealed. -/
def hidden (s : ExplorationSitting) : List String :=
  s.locations.ids.filter fun id => !s.revealed.contains id

/-- Whether all that has been revealed has been visited. -/
def allVisited (s : ExplorationSitting) : Bool := s.revealed.all fun id => s.visited.contains id

/-- What lies where the player is. -/
def here (s : ExplorationSitting) : List String :=
  (s.collectibles.filter fun e =>
    e.2.locationId == s.position && !s.collected.contains e.1).map (·.1)

/-- The item that a location holds ready for its first visitor. -/
def gift? (l : Location) : Option String :=
  match l.onVisit with
  | some e => if e.kind = .item && e.content.truthy then some e.content.text else none
  | none => none

/-- Reveal the hidden locations if all others have been visited. -/
def reveal : Script ExplorationSitting Unit := do
  let s ← Script.state
  if !s.hidden.isEmpty && s.allVisited then
    Script.setState { s with revealed := s.revealed ++ s.hidden }
    Script.note .info ("Revealed hidden locations: " ++ Value.quoted (.list (s.hidden.map .str)))
  else pure ()

/-- Visit a location for the first time. -/
def discover (id : String) : Script ExplorationSitting Unit := do
  Script.change fun s => { s with visited := s.visited ++ [id] }
  let s ← Script.state
  match (s.locations.find? id).bind gift? with
  | some item => Script.addItem item
  | none => pure ()
  reveal

/-- Arrive at a location. -/
def arrive (id : String) : Script ExplorationSitting Unit := do
  Script.change fun s => { s with position := id }
  Setting.startClock
  let s ← Script.state
  if s.visited.contains id then pure () else discover id

variable (c : Setting)

/-- Begin to play. -/
def enter : Script ExplorationSitting Unit := do
  let s ← Script.state
  if s.locations.has s.position then
    if s.revealed.contains s.position then pure ()
    else Script.setState { s with revealed := s.revealed ++ [s.position] }
    arrive s.position
  else
    Script.warn ("Exploration '" ++ c.sectionId ++ "' has no start location")
    c.complete

/-- Walk to a location; tells whether it can be reached. -/
def visit (id : String) : Script ExplorationSitting Bool :=
  c.unlessCompleted "visit" false do
    let s ← Script.state
    if s.revealed.contains id then
      arrive id
      return true
    else
      Script.warn ("Location '" ++ id ++ "' is not reachable")
      return false

/-- Take a thing up and report it; with the last one the section is finished. -/
def pickUp (id : String) (thing : Collectible) : Script ExplorationSitting Unit := do
  Script.change fun s => { s with collected := s.collected ++ [id] }
  Script.addItem id
  Setting.answer id "collected" true thing.points
  let s ← Script.state
  if s.collectibles.length ≤ s.collected.length then c.complete else pure ()

/-- Pick up a thing that lies where the player is; gives what there is to know about it. -/
def collect (id : String) : Script ExplorationSitting (Option String) :=
  c.unlessCompleted "collect" none do
    let s ← Script.state
    match (if s.here.contains id then s.collectibles.find? id else none) with
    | some thing =>
      pickUp c id thing
      return some thing.knowledge
    | none =>
      Script.warn ("Collectible '" ++ id ++ "' is not available at '" ++ s.position ++ "'")
      return none

/-- Stop exploring. -/
def finish : Script ExplorationSitting Unit := c.unlessCompleted "finish" () c.complete

/-- What the player sees. -/
def view (s : ExplorationSitting) : Fields :=
  [("type", Named.name SectionKind.exploration),
   ("world", s.world.name),
   ("location", match s.current? with
     | some l => Location.codec.write true l
     | none => .null),
   ("reachable", .list (s.revealed.filterMap fun id => (s.locations.find? id).map fun l =>
     .map [("id", id), ("name", l.name), ("visited", .bool (s.visited.contains id))])),
   ("collectiblesHere", .list (s.here.map .str)),
   ("collected", .int s.collected.length),
   ("total", .int s.collectibles.length)]

end ExplorationSitting

end LearningGame.Play
