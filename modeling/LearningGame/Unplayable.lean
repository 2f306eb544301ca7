import LearningGame.Schema.Issue
import LearningGame.Json.Reader
import LearningGame.Fault

/-!
# Unplayable content

Why a document cannot be turned into a game.
-/

namespace LearningGame

/-- What is reported about content that is refused. -/
structure ContentReport where
  reason : String
  /-- An excerpt of what was refused. -/
  payload : Value
  details : List String

/-- Why content is refused. -/
inductive Unplayable where
  /-- The text is no document. -/
  | notADocument (text : String) (error : Json.SyntaxError)
  /-- The document is no map. -/
  | notAnObject (document : Value)
  /-- The document has neither sections nor one of the flat shapes. -/
  | noShape (document : Fields)
  /-- The content to be converted has none of the flat shapes. -/
  | noFlatShape (content : Fields)
  /-- No section can be played. -/
  | noSections (sections : List Value)
  /-- The filled document does not have the expected shape. -/
  | invalid (issues : List Schema.Issue)
  /-- The record of a stored game has no content. -/
  | emptyRecord (rest : Fields)
  /-- The text of a record is no document. -/
  | notARecord (text : String)
  /-- The record is no map. -/
  | recordNotAnObject

/-- The name of the kind of a value. -/
def Value.kindName : Value → String
  | .null => "NoneType"
  | .bool _ => "bool"
  | .int _ => "int"
  | .float _ => "float"
  | .str _ => "str"
  | .list _ => "list"
  | .map _ => "dict"

/-- The texts of the keys of a map, in order. -/
def sortedKeys (m : Fields) : Value :=
  .list (((m.map fun e => e.1.toText).mergeSort fun a b => decide (a ≤ b)).map .str)

/-- The kind of a section that was dropped, or the section itself if it is no map. -/
def droppedKind : Value → Value
  | .map m => Fields.get m "type"
  | v => v

/-- So many issues are reported at most. -/
def issueLimit : Nat := 10

/-- What is reported. -/
def Unplayable.report : Unplayable → ContentReport
  | .notADocument text error => ⟨"content is not valid JSON", .str text, [error.message]⟩
  | .notAnObject document => ⟨"document is not a JSON object", .str document.kindName, []⟩
  | .noShape document =>
    ⟨"no recognizable content shape", sortedKeys document,
      ["expected 'content.sections', 'questions' or 'cards'"]⟩
  | .noFlatShape content =>
    ⟨"no recognizable content shape", sortedKeys content,
      ["expected 'questions', 'cards' with 'front', or 'cards' with 'matchId'"]⟩
  | .noSections sections => ⟨"no playable sections", .list (sections.map droppedKind), []⟩
  | .invalid issues =>
    ⟨"invalid GameSpec structure", .null, (issues.take issueLimit).map Schema.Issue.message⟩
  | .emptyRecord rest => ⟨"game record has no playable content", .map rest, []⟩
  | .notARecord text => ⟨"game record is not valid JSON", .str text, []⟩
  | .recordNotAnObject => ⟨"game record is not a JSON object", .null, []⟩

/-- The wording of a refusal. -/
def ContentReport.message (r : ContentReport) : String := "Unplayable game content: " ++ r.reason

/-- Why content cannot be loaded. -/
inductive LoadError where
  | unplayable (cause : Unplayable)
  | fault (fault : Fault)

end LearningGame
