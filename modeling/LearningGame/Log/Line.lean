import LearningGame.Json.Writer
import LearningGame.Log
import LearningGame.Text.LetterCase

/-!
# Lines of the log

Notes go to the terminal in colour and to a file as documents, one a line, if they are serious
enough.
-/

namespace LearningGame.Log

/-! ### Thresholds -/

/-- The weights of the names of levels. -/
def weights : List (String × Int) :=
  [("CRITICAL", 50), ("FATAL", 50), ("ERROR", 40), ("WARN", 30), ("WARNING", 30), ("INFO", 20),
   ("DEBUG", 10), ("NOTSET", 0)]

/-- The weight that is named in any case; other names stand for ordinary information. -/
def weightNamed (name : String) : Int := (weights.lookup (Text.upper name)).getD 20

/-- The least weight of notes that are written at a level. Where no level is set, warnings are. -/
def leastWeight (level : Int) : Int := if level = 0 then 30 else level

/-- The part of the library that all others belong to. -/
def rootSource : String := "edugame"

/-- Whether a source belongs to the library. -/
def isOwn (source : String) : Bool :=
  source == rootSource || (rootSource ++ ".").toList.isPrefixOf source.toList

/-- Whether a note is written at a level. -/
def isWritten (level : Int) (r : Record) : Bool :=
  isOwn r.source && decide (leastWeight level ≤ r.level.weight)

/-! ### The terminal -/

/-- What ends a colour. -/
def plainCode : String := "\x1b[0m"

/-- The colours of the names of levels. -/
def colours : List (String × String) :=
  [("DEBUG", "\x1b[36m"), ("INFO", "\x1b[32m"), ("WARNING", "\x1b[33m"), ("ERROR", "\x1b[31m"),
   ("CRITICAL", "\x1b[35m")]

/-- The name of a level in its colour. -/
def coloured (levelName : String) : String :=
  (colours.lookup levelName).getD plainCode ++ levelName ++ plainCode

/-- The parts of a line. -/
def joined (parts : List String) : String := " │ ".intercalate parts

/-- A note as a line on the terminal, after the time. -/
def terminalLine (levelName source message : String) : String :=
  joined [coloured levelName, source, message]

/-- The notes that are written at a level, as they appear on the terminal. -/
def terminalText (level : Int) (time : String) (records : List Record) : String :=
  String.join ((records.filter (isWritten level)).map fun r =>
    joined [time, terminalLine r.level.name r.source r.message] ++ "\n")

/-- What the notes of sources outside of the library leave on the error output: the messages of
warnings and of what is more serious. -/
def strayText (records : List Record) : String :=
  String.join ((records.filter fun r =>
    !isOwn r.source && decide (Level.warning.weight ≤ r.level.weight)).map fun r => r.message ++ "\n")

/-! ### The file -/

/-- A note as a document, without the time. -/
def document (levelName source message : String) : Fields :=
  [(.text "level", .str levelName), (.text "logger", .str source), (.text "message", .str message)]

/-- A note as a line of the file. -/
def fileLine (time : String) (r : Record) : String :=
  Json.write ⟨true, false⟩
    (.map ((.text "timestamp", .str time) :: document r.level.name r.source r.message))

/-- The notes that are written at a level, as documents. -/
def documents (level : Int) (records : List Record) : List Fields :=
  (records.filter (isWritten level)).map fun r => document r.level.name r.source r.message

end LearningGame.Log
