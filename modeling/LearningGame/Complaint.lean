import LearningGame.Json.Writer
import LearningGame.Log
import LearningGame.Unplayable

/-!
# Complaints

What is refused is reported in a block of lines that says when, what and where, and shows what was
refused and the details.
-/

namespace LearningGame

/-- Something that is refused. -/
inductive Complaint where
  /-- Content that cannot be played. -/
  | content (report : ContentReport)
  /-- A change of phase that is not possible. -/
  | transition (phase event : String)
  /-- A section of a kind that cannot be played. -/
  | dispatch (sectionId kind : String)

namespace Complaint

/-- The kind of a complaint as it appears in the log. -/
def kindName : Complaint → String
  | .content _ => "ContentFormatError"
  | .transition _ _ => "InvalidTransitionError"
  | .dispatch _ _ => "UnknownSectionTypeError"

/-- The wording of a complaint. -/
def message : Complaint → String
  | .content r => r.message
  | .transition phase event => "Invalid transition: " ++ event ++ " from " ++ phase
  | .dispatch id kind => "No handler for section '" ++ id ++ "' of type '" ++ kind ++ "'"

/-! ### Blocks -/

/-- What a block says about a complaint. -/
structure Block where
  kind : String
  component : String
  context : List (String × String)
  payload : Value
  details : List String

/-- A text of an excerpt has at most so many characters. -/
def excerptLimit : Nat := 400

/-- The part of a payload that is shown. -/
def excerpt : Value → Value
  | .str s =>
    if excerptLimit < s.length then
      .str (String.ofList (s.toList.take excerptLimit) ++ "...")
    else .str s
  | v => v

/-- The block of a complaint. -/
def toBlock : Complaint → Block
  | .content r =>
    ⟨"CONTENT_FORMAT", "GameSpec loader", [("reason", r.reason)], excerpt r.payload, r.details⟩
  | .transition phase event =>
    ⟨"INVALID_TRANSITION", "Session", [("phase", phase), ("event", event)], .null, []⟩
  | .dispatch id kind =>
    ⟨"UNKNOWN_SECTION_TYPE", "Handler dispatch", [("section_id", id), ("section_type", kind)],
      .null, []⟩

/-- The line above and below a block. -/
def rule : String := String.ofList (List.replicate 64 '=')

/-- The heading of a part of a block. -/
def heading (title : String) : String :=
  " ── " ++ title ++ " " ++ String.ofList (List.replicate 52 '─')

/-- A label, filled up to the column of the values. -/
def label (name : String) : String :=
  let text := name ++ ":"
  text ++ String.ofList (List.replicate (13 - text.length) ' ')

/-- A labelled line. -/
def labelled (name value : String) : String := " " ++ label name ++ " " ++ value

/-- The lines that show a payload. -/
def payloadLines (payload : Value) : List String :=
  if payload.isNull then []
  else
    ["", heading "PAYLOAD",
      " " ++ "\n ".intercalate ((Json.write ⟨true, true⟩ payload).splitOn "\n")]

/-- The lines that show details. -/
def detailLines (details : List String) : List String :=
  if details.isEmpty then []
  else ["", heading "DETAILS"] ++ details.map fun d => " • " ++ d

/-- The lines of a block with the time at which it is written. -/
def Block.lines (time : String) (b : Block) : List String :=
  ["", rule, " GAME ENGINE ERROR", rule, labelled "Timestamp" time, labelled "Error Type" b.kind,
    labelled "Component" b.component] ++
    b.context.map (fun e => labelled e.1 e.2) ++ payloadLines b.payload ++ detailLines b.details ++
    ["", rule, ""]

/-- A complaint as a block. -/
def block (time : String) (c : Complaint) : String := "\n".intercalate (c.toBlock.lines time)

/-- What is logged of a complaint. -/
def record (c : Complaint) : Log.Record :=
  ⟨.error, "edugame", "Engine error: " ++ c.kindName ++ ": " ++ c.message⟩

end Complaint

end LearningGame
