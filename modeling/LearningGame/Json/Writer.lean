import LearningGame.Value.Basic
import LearningGame.Number.Layout
import LearningGame.Text.Quoted

/-!
# Writing documents

Documents are written in JSON, one element or entry a line with an indent of two blanks a level, or
on a single line. Characters beyond ASCII are kept or escaped.
-/

namespace LearningGame.Json

/-! ### Texts -/

/-- The escape of a code unit. -/
def unitEscape (n : Nat) : List Char := '\\' :: 'u' :: Text.hexDigits 4 n

/-- A character as it is written in a text. -/
def writeChar (ascii : Bool) (c : Char) : List Char :=
  let n := c.toNat
  if c = '"' then ['\\', '"']
  else if c = '\\' then ['\\', '\\']
  else if c = '\n' then ['\\', 'n']
  else if c = '\r' then ['\\', 'r']
  else if c = '\t' then ['\\', 't']
  else if n = 0x8 then ['\\', 'b']
  else if n = 0xC then ['\\', 'f']
  else if n < 0x20 then unitEscape n
  else if !ascii || n < 0x7F then [c]
  else if n < 0x10000 then unitEscape n
  else unitEscape (0xD800 + (n - 0x10000) / 0x400) ++ unitEscape (0xDC00 + (n - 0x10000) % 0x400)

/-- A text in double quotes. -/
def writeText (ascii : Bool) (s : String) : String :=
  String.ofList ('"' :: s.toList.flatMap (writeChar ascii) ++ ['"'])

/-! ### Documents -/

/-- How a document is laid out. -/
structure Style where
  /-- Escape all characters beyond ASCII. -/
  ascii : Bool
  /-- A line for every element and entry. -/
  lines : Bool

/-- The name of an entry. -/
def keyText : Key → String
  | .text s => s
  | .null => "null"
  | .bool b => if b then "true" else "false"
  | .int n => Number.intText n
  | .float x => Number.documentLayout.render x
  | .nan _ => Number.documentLayout.notANumber

/-- Put the parts of a list or map at some depth between brackets. -/
def bracket (style : Style) (depth : Nat) (opening closing : String) (parts : List String) :
    String :=
  if parts.isEmpty then opening ++ closing
  else if style.lines then
    let pad := fun n => "\n" ++ String.ofList (List.replicate (2 * n) ' ')
    opening ++ pad (depth + 1) ++ ("," ++ pad (depth + 1)).intercalate parts ++ pad depth ++ closing
  else opening ++ ", ".intercalate parts ++ closing

mutual

/-- Write a value at some depth. -/
def writeValue (style : Style) (depth : Nat) : Value → String
  | .null => "null"
  | .bool b => if b then "true" else "false"
  | .int n => Number.intText n
  | .float x => Number.documentLayout.render x
  | .str s => writeText style.ascii s
  | .list items => bracket style depth "[" "]" (writeItems style (depth + 1) items)
  | .map entries => bracket style depth "\x7b" "\x7d" (writeEntries style (depth + 1) entries)

/-- Write the elements of a list. -/
def writeItems (style : Style) (depth : Nat) : List Value → List String
  | [] => []
  | v :: rest => writeValue style depth v :: writeItems style depth rest

/-- Write the entries of a map. -/
def writeEntries (style : Style) (depth : Nat) : List (Key × Value) → List String
  | [] => []
  | (k, v) :: rest =>
    (writeText style.ascii (keyText k) ++ ": " ++ writeValue style depth v) ::
      writeEntries style depth rest

end

/-- Write a document. -/
def write (style : Style) (v : Value) : String := writeValue style 0 v

end LearningGame.Json
