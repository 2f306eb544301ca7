import LearningGame.Content.Game
import LearningGame.Play.Countdown
import LearningGame.Play.Player
import LearningGame.Settings

/-!
# Seats

A section that is or has been played in a session, with the epochs at which it was begun: what it
reports is heard as long as these are current.
-/

namespace LearningGame.Play

open Content

/-- What a section knows about a game. -/
def Setting.ofSection (g : Game) (settings : Settings) (s : Section) : Setting where
  sectionId := s.id
  kind := s.kind
  config := g.config
  pointsPerCorrect := g.scoring.pointsPerCorrect
  infoPoints := settings.infoPoints

/-- A section in play and when it was begun. -/
structure Seat where
  setting : Setting
  epochs : Epochs
  player : Player

end LearningGame.Play
