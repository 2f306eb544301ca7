import LearningGame.Completion.Flat
import LearningGame.Text.Characters

/-!
# Loading games

A game is loaded from a text, from a document or from the record of a stored game. A text may come
inside a code fence: three backticks, possibly the word `json`, the text, and three backticks again.
Documents with sections are filled, flat content is converted and then filled, and the result is
checked against the shape of a game. Whatever cannot be played is refused with a report.
-/

/-! ### Fenced text -/

namespace LearningGame.Fence

/-- The mark that opens and closes a fence. -/
def mark : List Char := List.replicate 3 (Char.ofNat 0x60)

/-- The text before the next mark, if there is one. -/
def beforeMark? : List Char → Option (List Char)
  | [] => none
  | c :: rest =>
    if mark.isPrefixOf (c :: rest) then some []
    else (beforeMark? rest).map (c :: ·)

/-- The rest of a text after a word that may stand in front of it. -/
def afterWord (word cs : List Char) : List Char :=
  if word.isPrefixOf cs then cs.drop word.length else cs

/-- The text inside a fence without blanks around it; a text without a whole fence stays as it is,
up to the blanks. -/
def stripChars (cs : List Char) : List Char :=
  let trimmed := Text.stripChars cs
  if mark.isPrefixOf trimmed then
    match beforeMark? (afterWord "json".toList (trimmed.drop mark.length)) with
    | some inside => Text.stripChars inside
    | none => trimmed
  else trimmed

/-- The text inside a fence. -/
def strip (s : String) : String := String.ofList (stripChars s.toList)

end LearningGame.Fence

namespace LearningGame

open Completion Content Schema

/-! ### Games -/

/-- Refuse content. -/
def refuse {α : Type} (cause : Unplayable) : Loading α := Traced.fail (.unplayable cause)

/-- Read a text, which may be fenced, as a document. -/
def parseDocument (text : String) : Except LoadError Value :=
  match Json.read (Fence.strip text) with
  | .ok v => .ok v
  | .error e =>
    match e.problem with
    | .tooManyDigits => .error (.fault .tooManyDigits)
    | _ => .error (.unplayable (.notADocument text e))

/-- Whether a document has a list of sections. -/
def hasSections (doc : Fields) : Bool := (Fields.get (fieldsOf (doc.get "content")) "sections").isList

/-- Check a filled document against the shape of a game. -/
def checkGame (doc : Fields) : Loading Game :=
  match Game.codec.read (.map doc) with
  | .valid g => pure g
  | .invalid issues => refuse (.invalid issues)

/-- The document to fill and the name of its shape. -/
def recognize (doc record : Fields) : Loading (String × Fields) :=
  if hasSections doc then pure ("gamespec", doc)
  else
    match FlatShape.of? doc with
    | some shape => do
      let converted ← filling (convertFlat shape doc record)
      return ("legacy", converted)
    | none => refuse (.noShape doc)

/-- Build a game from the entries of a document. -/
def buildGame (doc : Fields) (gameType : Value) (record : Fields) : Loading Game := do
  let (shape, doc) ← recognize doc record
  let filled ← fillDocument doc gameType
  let g ← checkGame filled
  Traced.note .info "edugame.loader"
    ("Loaded " ++ shape ++ " '" ++ g.metadata.title ++ "' with " ++ toString g.sections.length ++
      " section(s): " ++ (Value.list (g.order.map .str)).quoted)
  return g

/-- Build a game from a document. -/
def ofDocument (doc gameType : Value) (record : Fields) : Loading Game :=
  match doc with
  | .map m => buildGame m gameType record
  | v => refuse (.notAnObject v)

/-- Load a game from a text or a document. -/
def load (raw gameType : Value) : Loading Game :=
  match raw with
  | .str text => do
    let doc ← Traced.lift (parseDocument text)
    ofDocument doc gameType []
  | doc => ofDocument doc gameType []

/-- The type of a stored game: the one asked for, else the one in the record, else a quiz. -/
def recordGameType (record : Fields) (gameType : Value) : Value :=
  (gameType.orElse (record.get "gameType")).orElse "quiz"

/-- Load a game from the record of a stored game. -/
def loadRecord (record : Fields) (gameType : Value) : Loading Game :=
  let missing := refuse (.emptyRecord (record.erase "gameContent"))
  match record.get "gameContent" with
  | .str text =>
    if Text.isBlankText text then missing
    else do
      let doc ← Traced.lift (parseDocument text)
      ofDocument doc (recordGameType record gameType) record
  | _ => missing

end LearningGame
