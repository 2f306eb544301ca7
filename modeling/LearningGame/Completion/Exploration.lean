import LearningGame.Completion.Narrative
import LearningGame.Content.Exploration

/-!
# Filling explorations

Unknown visit events are ignored, positions keep their numbers only, and the exploration starts in
the first location if the start is not one of the locations.
-/

namespace LearningGame.Completion

open Content Schema

/-- Whether a value is an integer or a float. -/
def isNumber : Value → Bool
  | .int _ => true
  | .float _ => true
  | _ => false

/-- Whether a value is a visit event of a known kind. -/
def isVisitEvent : Value → Bool
  | .map m => (Fields.get m "type").isOneOf (Named.names LocationEventKind)
  | _ => false

/-- Drop a visit event of an unknown kind. -/
def fillVisit (location : Fields) : Filling Fields := do
  let event := location.get "onVisit"
  if event.isNull ∨ isVisitEvent event then
    return location
  else
    warn ("Ignoring unknown onVisit event at location '" ++ textAt location "id" ++ "'")
    return location.put "onVisit" .null

/-- The numbers of a position. -/
def position : Value → Fields
  | .map m => m.filter fun e => isNumber e.2
  | _ => []

/-- Whether a location is visible: unless that is denied. -/
def visibility : Value → Bool
  | .bool false => false
  | _ => true

/-- Fill a location. -/
def fillLocation (location : Fields) (n : Nat) : Filling Fields := do
  let location ← fillVisit (fillId location ("loc" ++ toString n))
  let location := location.put "position" (.map (position (location.get "position")))
  return location.put "visible" (.bool (visibility (location.get "visible")))

/-- Fill a collectible. -/
def fillCollectible (item : Fields) (n : Nat) : Filling Fields :=
  fillWhole (fillText (fillId item ("collect" ++ toString n)) "locationId") "points" 0

/-- Fill an exploration. -/
def fillExploration (content : Fields) : Filling Fields := do
  let locations ← objects "location" (content.get "locations")
  let locations ← Traced.traverse (fun e => fillLocation e.1 e.2) (numbered locations)
  let items ← objects "collectible" (content.get "collectibles")
  let items ← Traced.traverse (fun e => fillCollectible e.1 e.2) (numbered items)
  let ids := locations.map fun l => textAt l "id"
  let content := content.put "locations" (mapList locations)
  let content := content.put "collectibles" (mapList items)
  return content.put "startLocation" (startAmong ids (content.get "startLocation"))

end LearningGame.Completion
