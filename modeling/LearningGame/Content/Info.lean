import LearningGame.Schema.Record

/-!
# Reading matter

An information section is a list of blocks to read.
-/

namespace LearningGame.Content

open Schema

/-- What a block holds. -/
inductive BlockKind where
  | text
  | image
  | list
  | table
  | quote
  | code
  deriving DecidableEq

instance : Named BlockKind where
  all := [.text, .image, .list, .table, .quote, .code]
  name
    | .text => "text"
    | .image => "image"
    | .list => "list"
    | .table => "table"
    | .quote => "quote"
    | .code => "code"

/-- A block to read. -/
structure InfoBlock where
  kind : BlockKind
  content : Value

/-- How blocks are written. -/
def InfoBlock.codec : Codec InfoBlock :=
  RecordOf.build InfoBlock.mk
    |>.apply (.required "type" .named (·.kind))
    |>.apply (.withDefault "content" .any .null (·.content))
    |>.codec "InfoBlock"

/-- Blocks to read under a title. -/
structure Info where
  title : String
  blocks : List InfoBlock

/-- The fields of reading matter. -/
def Info.fields : RecordOf Info Info :=
  RecordOf.build Info.mk
    |>.apply (.withDefault "title" .text "" (·.title))
    |>.apply (.withDefault "content" InfoBlock.codec.list [] (·.blocks))

end LearningGame.Content
