import LearningGame.Schema.Record

/-!
# Explorations

In an exploration the player walks from location to location, meets what happens there and picks
up what lies about.
-/

namespace LearningGame.Content

open Schema

/-- The extent of a world. -/
structure WorldSize where
  width : Int
  height : Int

/-- How extents are written. -/
def WorldSize.codec : Codec WorldSize :=
  RecordOf.build WorldSize.mk
    |>.apply (.withDefault "width" .integer 0 (·.width))
    |>.apply (.withDefault "height" .integer 0 (·.height))
    |>.codec "WorldSize"

/-- The world in which an exploration takes place. -/
structure World where
  name : String
  description : String
  size : WorldSize
  theme : String

/-- How worlds are written. -/
def World.codec : Codec World :=
  RecordOf.build World.mk
    |>.apply (.withDefault "name" .text "" (·.name))
    |>.apply (.withDefault "description" .text "" (·.description))
    |>.apply (.withDefault "size" WorldSize.codec ⟨0, 0⟩ (·.size))
    |>.apply (.withDefault "theme" .text "" (·.theme))
    |>.codec "ExplorationWorld"

/-- What a location can hold ready for a visitor. -/
inductive LocationEventKind where
  | info
  | quiz
  | item
  | narrative
  deriving DecidableEq

instance : Named LocationEventKind where
  all := [.info, .quiz, .item, .narrative]
  name
    | .info => "info"
    | .quiz => "quiz"
    | .item => "item"
    | .narrative => "narrative"

/-- What happens on a visit. -/
structure LocationEvent where
  kind : LocationEventKind
  content : Value

/-- How visit events are written. -/
def LocationEvent.codec : Codec LocationEvent :=
  RecordOf.build LocationEvent.mk
    |>.apply (.required "type" .named (·.kind))
    |>.apply (.withDefault "content" .any .null (·.content))
    |>.codec "LocationEvent"

/-- A place to visit. -/
structure Location where
  id : String
  name : String
  description : String
  position : List (String × Float)
  onVisit : Option LocationEvent
  visible : Bool
  icon : String

/-- How locations are written. -/
def Location.codec : Codec Location :=
  RecordOf.build Location.mk
    |>.apply (.required "id" .text (·.id))
    |>.apply (.withDefault "name" .text "" (·.name))
    |>.apply (.withDefault "description" .text "" (·.description))
    |>.apply (.withDefault "position" (Codec.entries .float) [] (·.position))
    |>.apply (.optional "onVisit" LocationEvent.codec (·.onVisit))
    |>.apply (.withDefault "visible" .boolean true (·.visible))
    |>.apply (.withDefault "icon" .text "" (·.icon))
    |>.codec "ExplorationLocation"

/-- A thing to pick up at a location. -/
structure Collectible where
  id : String
  name : String
  description : String
  icon : String
  locationId : String
  points : Int
  knowledge : String

/-- How collectibles are written. -/
def Collectible.codec : Codec Collectible :=
  RecordOf.build Collectible.mk
    |>.apply (.required "id" .text (·.id))
    |>.apply (.withDefault "name" .text "" (·.name))
    |>.apply (.withDefault "description" .text "" (·.description))
    |>.apply (.withDefault "icon" .text "" (·.icon))
    |>.apply (.required "locationId" .text (·.locationId))
    |>.apply (.withDefault "points" .integer 0 (·.points))
    |>.apply (.withDefault "knowledge" .text "" (·.knowledge))
    |>.codec "Collectible"

/-- An exploration. -/
structure Exploration where
  world : World
  locations : List Location
  collectibles : List Collectible
  startLocation : String

/-- The fields of an exploration. -/
def Exploration.fields : RecordOf Exploration Exploration :=
  RecordOf.build Exploration.mk
    |>.apply (.withDefault "world" World.codec ⟨"", "", ⟨0, 0⟩, ""⟩ (·.world))
    |>.apply (.required "locations" Location.codec.list (·.locations))
    |>.apply (.withDefault "collectibles" Collectible.codec.list [] (·.collectibles))
    |>.apply (.required "startLocation" .text (·.startLocation))

end LearningGame.Content
