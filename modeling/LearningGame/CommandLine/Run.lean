import LearningGame.CommandLine.Arguments
import LearningGame.Complaint
import LearningGame.Loading
import LearningGame.Log.Line
import LearningGame.Settings
import LearningGame.Summary

/-!
# Running the command line

Content from a file is inspected or normalized without being played. What is printed is worked out
from the arguments, the environment, the files and the time.
-/

namespace LearningGame.CommandLine

open Completion Content

/-- What is found under a path. -/
inductive FileState where
  | missing
  | directory
  /-- The path has a name that is longer than names of files may be. -/
  | nameTooLong
  | bytes (content : ByteArray)

/-- The time of the run, for log lines and for reports. -/
structure Stamp where
  clock : String
  full : String

/-- What a run leaves behind. -/
structure Outcome where
  exit : Nat
  out : String
  err : String

/-- Why a run is broken off. -/
inductive Crash where
  | directory
  | nameTooLong
  /-- The file holds no text. -/
  | notText
  | fault (f : Fault)

/-- The exit code for a file that does not exist. -/
def exitMissing : Nat := 1

/-- The exit code for content that cannot be played, and for wrong arguments. -/
def exitUnplayable : Nat := 2

/-! ### Files -/

/-- The parts of a path, without those that lead nowhere. -/
def pathParts (path : String) : List String :=
  (path.splitOn "/").filter fun p => p != "" && p != "."

/-- The root of a path: two slashes at the start are kept, more are one. -/
def pathRoot (path : String) : String :=
  match path.toList with
  | '/' :: '/' :: '/' :: _ => "/"
  | '/' :: '/' :: _ => "//"
  | '/' :: _ => "/"
  | _ => ""

/-- A path in its plain form. -/
def plainPath (path : String) : String :=
  let s := pathRoot path ++ "/".intercalate (pathParts path)
  if s = "" then "." else s

/-- A text with all ends of lines made alike. -/
def plainLines : List Char → List Char
  | '\r' :: '\n' :: rest => '\n' :: plainLines rest
  | '\r' :: rest => '\n' :: plainLines rest
  | c :: rest => c :: plainLines rest
  | [] => []

/-- The text of a file. -/
def textOf? (content : ByteArray) : Option String :=
  (String.fromUTF8? content).map fun s => String.ofList (plainLines s.toList)

/-! ### Loading -/

/-- The record of a stored game that a text holds. -/
def readRecord (text : String) : Loading Fields :=
  match Json.read text with
  | .ok (.map m) => pure m
  | .ok _ => refuse .recordNotAnObject
  | .error e =>
    match e.problem with
    | .tooManyDigits => Traced.fail (.fault .tooManyDigits)
    | _ => refuse (.notARecord text)

/-- Load the game that a text holds. -/
def loadText (text gameType : String) (asRecord : Bool) : Loading Game :=
  if asRecord then do
    let record ← readRecord text
    loadRecord record gameType
  else load text gameType

/-! ### Running -/

/-- The first text if it is given and not empty, else the second. -/
def given (s : Option String) (otherwise : String) : String :=
  match s with
  | some s => if s = "" then otherwise else s
  | none => otherwise

/-- What is printed about a game. -/
def present (g : Game) : Command → String
  | .inspect => g.summary ++ "\n"
  | .normalize => Json.write ⟨false, true⟩ g.toDocument ++ "\n"

/-- The outcome of loading a game from a file. -/
def conclude (stamp : Stamp) (level : Int) (command : Command) (loaded : Loading Game) :
    Except Crash Outcome :=
  match loaded.result with
  | .ok g =>
    .ok ⟨0, Log.terminalText level stamp.clock loaded.notes ++ present g command, ""⟩
  | .error (.fault f) => .error (.fault f)
  | .error (.unplayable cause) =>
    let c := Complaint.content cause.report
    .ok ⟨exitUnplayable, Log.terminalText level stamp.clock (loaded.notes ++ [c.record]),
      c.block stamp.full ++ "\n"⟩

/-- Carry out an order. Notes on settings that cannot be used are made before there is a log, and
are lost. -/
def run (stamp : Stamp) (settings : Settings) (look : String → FileState) (o : Order) :
    Except Crash Outcome :=
  let level := Log.weightNamed (given o.logLevel settings.logLevel)
  let path := plainPath o.file
  match look path with
  | .missing => .ok ⟨exitMissing, "", "Error: File not found: " ++ path ++ "\n"⟩
  | .directory => .error .directory
  | .nameTooLong => .error .nameTooLong
  | .bytes content =>
    match textOf? content with
    | none => .error .notText
    | some text =>
      conclude stamp level o.command
        (loadText text (given o.gameType settings.defaultGameType) o.asRecord)

end LearningGame.CommandLine
