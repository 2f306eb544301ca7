import LearningGame.Complaint
import LearningGame.Schema.Codec

/-!
# Phases

A session is in one of three phases. It starts from the introduction, finishes from play, and can be
restarted at any time.
-/

namespace LearningGame.Play

open Schema

/-- The phases of a session. -/
inductive Phase where
  | intro
  | playing
  | outro
  deriving DecidableEq

/-- What moves a session from phase to phase. -/
inductive PhaseEvent where
  | start
  | finish
  | restart
  deriving DecidableEq

instance : Named Phase where
  all := [.intro, .playing, .outro]
  name
    | .intro => "intro"
    | .playing => "playing"
    | .outro => "outro"

instance : Named PhaseEvent where
  all := [.start, .finish, .restart]
  name
    | .start => "START"
    | .finish => "FINISH"
    | .restart => "RESTART"

/-- The phase after an event, if the event is possible. -/
def Phase.after? : Phase → PhaseEvent → Option Phase
  | .intro, .start => some .playing
  | .playing, .finish => some .outro
  | _, .restart => some .intro
  | _, _ => none

/-- The wording of a refusal to change the phase. -/
def Phase.refusal (p : Phase) (e : PhaseEvent) : String :=
  (Complaint.transition (Named.name p) (Named.name e)).message

/-- The wording of a change of phase. -/
def Phase.changeNote (p q : Phase) (e : PhaseEvent) : String :=
  "Phase: " ++ Named.name p ++ " → " ++ Named.name q ++ " (" ++ Named.name e ++ ")"

/-- Who makes the notes on phases. -/
def phaseSource : String := "edugame.phases"

end LearningGame.Play
