import LearningGame.Completion.Entries
import LearningGame.Content.Info

/-!
# Filling reading matter

Blocks may be given as bare texts, and a single text for the whole content. The title is that of the
section unless there is one.
-/

namespace LearningGame.Completion

open Content Schema

/-- Fill a block. -/
def fillBlock : Value → Fields
  | .map m =>
    if (Fields.get m "type").isOneOf (Named.names BlockKind) then m
    else Fields.put m "type" (Named.name BlockKind.text)
  | v => [("type", Named.name BlockKind.text), ("content", v.text)]

/-- The blocks of a content, a single text being one block. -/
def blocksOf : Value → List Value
  | .str s => [.str s]
  | v => v.items

/-- Fill reading matter. -/
def fillInfo (sectionTitle : Value) (content : Fields) : Fields :=
  let blocks := (blocksOf (content.get "content")).map fillBlock
  (content.put "title" ((content.get "title").orElse sectionTitle)).put "content" (mapList blocks)

end LearningGame.Completion
