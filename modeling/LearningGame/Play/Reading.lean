import LearningGame.Play.Sitting
import LearningGame.Play.State

/-!
# Reading

An information section is read, and going on earns the points for reading.
-/

namespace LearningGame.Play

open Content Schema

/-- Reading matter in play. -/
structure ReadingSitting extends Sitting where
  scrolledToEnd : Bool

instance : Seated ReadingSitting where
  sitting s := s.toSitting
  seat s t := { s with toSitting := t }

namespace ReadingSitting

/-- Sit down to read. -/
def create (started : Float) : ReadingSitting := ⟨⟨false, started⟩, false⟩

/-- The end has been scrolled to. -/
def markScrolled : Script ReadingSitting Unit := Script.change fun s => { s with scrolledToEnd := true }

variable (c : Setting)

/-- Go on, which finishes the section. -/
def leave : Script ReadingSitting Unit :=
  c.unlessCompleted "continue" () do
    Setting.answer c.sectionId "read" true c.infoPoints
    c.complete

/-- What the player sees. -/
def view (content : Info) (s : ReadingSitting) : Fields :=
  [("type", Named.name SectionKind.info),
   ("title", content.title),
   ("blocks", .list (content.blocks.map (InfoBlock.codec.write true))),
   ("continueLabel", if s.scrolledToEnd then "Continue" else "Skip reading")]

end ReadingSitting

end LearningGame.Play
