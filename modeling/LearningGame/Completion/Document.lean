import LearningGame.Completion.Section
import LearningGame.Completion.Defaults
import LearningGame.Content.Game
import LearningGame.Unplayable

/-!
# Filling documents

A document with sections gets every part that a game needs: what it gives is kept, what it leaves
out is taken from the defaults, and what cannot be played is dropped.
-/

namespace LearningGame.Completion

open Content Schema

/-- Loading content. It notes what it drops and what it loads. -/
abbrev Loading := Traced LoadError

/-- Note something about a document as a whole. -/
def warnLoader (message : String) : Loading Unit :=
  Traced.note .warning "edugame.loader" message

/-- Entries with defaults for those that are missing or null. -/
def merge (defaults : Fields) : Value → Fields
  | .map m => defaults.putAll (Fields.dropNulls m)
  | _ => defaults

/-! ### Metadata -/

/-- Make the value at a key a text if there is one. -/
def fillGivenText (m : Fields) (key : String) : Fields :=
  match m.find? key with
  | some v => m.put key v.text
  | none => m

/-- Keep minutes that are a number, as a whole number. -/
def fillMinutes (m : Fields) : Except Fault Fields :=
  match m.get "estimatedMinutes" with
  | .int n => .ok (m.put "estimatedMinutes" (.int n))
  | .float x => (Number.float x).toInt.map fun n => m.put "estimatedMinutes" (.int n)
  | _ => .ok (m.erase "estimatedMinutes")

/-- Make the value at a key a list. -/
def fillList (m : Fields) (key : String) : Fields :=
  if (m.get key).isList then m else m.put key (.list [])

/-- Fill the metadata. -/
def fillMetadata (raw : Value) : Except Fault Fields := do
  let m := Fields.dropNulls (fieldsOf raw)
  let m := m.putNew "title" "Game"
  let m := fillGivenText (fillGivenText m "title") "description"
  let m := fillGivenText (fillGivenText m "subject") "topic"
  let m ← fillMinutes (m.putNew "description" "")
  let m := m.put "difficulty" (Named.name (difficultyOf .beginner (m.get "difficulty")))
  let m := m.put "complexity" (Named.name (complexityOf (m.get "complexity")))
  let m := fillList (fillList m "tags") "learningObjectives"
  return if (m.get "language").truthy then m else m.put "language" "English"

/-! ### Scoring -/

/-- A rating tier that can be read; any other is dropped. -/
def validTier? (v : Value) : Loading (Option Value) :=
  match RatingTier.codec.read v with
  | .valid _ => pure (some v)
  | .invalid _ => do
    warnLoader ("Dropping invalid rating tier: " ++ v.quoted)
    return none

/-- The rating tiers that can be read; the default ones if none of those given can. -/
def fillTiers (given : List Value) : Loading (List Value) := do
  let tiers ← Traced.filterMap validTier? given
  return if !given.isEmpty && tiers.isEmpty then defaultTiers else tiers

/-- Fill the scoring. -/
def fillScoring (raw : Value) : Loading Fields := do
  let m := merge (defaultScoring 100) raw
  match m.get "ratings" with
  | .list given => do
    let tiers ← fillTiers given
    return m.put "ratings" (.list tiers)
  | _ => return m.put "ratings" (.list defaultTiers)

/-! ### Sections -/

/-- Take over a filling whose faults end the loading. -/
def filling {α : Type} (x : Filling α) : Loading α := x.mapError .fault

/-- Fill sections from an index on. Of sections with one id the first is kept; `seen` holds the
ids that are taken. -/
def fillSections (points : Int) (seen : List String) (index : Nat) :
    List Value → Loading (List Fields)
  | [] => pure []
  | raw :: rest => do
    match ← filling (fillSection raw index points) with
    | none => fillSections points seen (index + 1) rest
    | some m =>
      let id := textAt m "id"
      if seen.contains id then
        warnLoader ("Dropping duplicate section id '" ++ id ++ "'")
        fillSections points seen (index + 1) rest
      else
        let rest ← fillSections points (id :: seen) (index + 1) rest
        return m :: rest

/-! ### Order of play -/

/-- The first occurrences of the texts in a list. -/
def distinct : List String → List String
  | [] => []
  | s :: rest => s :: (distinct rest).filter (· != s)

/-- Keep the known ids of an order of play; an order without any is none. -/
def fillOrder (ids : List String) : Value → Loading Value
  | .list order => do
    let kept := distinct ((order.map Value.text).filter ids.contains)
    let dropped := order.filter fun v => !ids.contains v.text
    unless dropped.isEmpty do
      warnLoader ("Dropping unknown ids from sectionOrder: " ++ (Value.list dropped).quoted)
    return if kept.isEmpty then .null else .list (kept.map .str)
  | _ => pure .null

/-- Ignore a start that is no section. -/
def fillStart (ids : List String) (m : Fields) : Loading Fields := do
  let start := m.get "startSection"
  if start.isNull ∨ start.isOneOf ids then
    return m
  else
    warnLoader ("Ignoring unknown startSection '" ++ start.text ++ "'")
    return m.put "startSection" .null

/-- Fill an order of play that is given. -/
def fillGivenProgression (ids : List String) (m : Fields) : Loading Fields := do
  let order ← fillOrder ids (m.get "sectionOrder")
  let m ← fillStart ids (m.put "sectionOrder" order)
  return if (m.get "type").isOneOf (Named.names ProgressionKind) then m
    else m.put "type" (Named.name ProgressionKind.linear)

/-- Fill the order of play. -/
def fillProgression (ids : List String) : Value → Loading Fields
  | .map m => fillGivenProgression ids m
  | _ => pure (defaultProgression ids)

/-! ### Documents -/

/-- Fill the settings. -/
def fillConfig (gameType raw : Value) : Fields :=
  let m := merge (defaultConfig gameType) raw
  if (m.get "gameType").truthy then m else m.put "gameType" gameType

/-- Fill a document with sections. -/
def fillDocument (doc : Fields) (gameType : Value) : Loading Fields := do
  let scoring ← fillScoring (doc.get "scoring")
  let points ← Traced.lift ((wholeOr (scoring.get "pointsPerCorrect") 10).mapError .fault)
  let content := fieldsOf (doc.get "content")
  let raw ← Traced.lift ((content.get "sections").elements.mapError .fault)
  let sections ← fillSections points [] 0 raw
  if sections.isEmpty then
    Traced.fail (.unplayable (.noSections raw))
  else
    let ids := sections.map fun m => textAt m "id"
    let doc := doc.put "version" ((doc.get "version").orElse "1.0").text
    let metadata ← Traced.lift ((fillMetadata (doc.get "metadata")).mapError .fault)
    let doc := doc.put "metadata" (.map metadata)
    let doc := doc.put "theme" (.map (merge defaultTheme (doc.get "theme")))
    let doc := doc.put "config" (.map (fillConfig gameType (doc.get "config")))
    let doc := doc.put "content" (.map (content.put "sections" (mapList sections)))
    let progression ← fillProgression ids (doc.get "progression")
    let doc := doc.put "progression" (.map progression)
    return doc.put "scoring" (.map scoring)

end LearningGame.Completion
