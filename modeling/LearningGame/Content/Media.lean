import LearningGame.Schema.Record

/-!
# Media

Pictures, sounds and the like that stand beside a question or on the face of a card.
-/

namespace LearningGame.Content

open Schema

/-- A picture, sound or other medium. -/
structure Media where
  kind : String
  content : String
  caption : Option String

/-- How media are written. -/
def Media.codec : Codec Media :=
  RecordOf.build Media.mk
    |>.apply (.required "type" .text (·.kind))
    |>.apply (.required "content" .text (·.content))
    |>.apply (.optional "caption" .text (·.caption))
    |>.codec "MediaContent"

end LearningGame.Content
