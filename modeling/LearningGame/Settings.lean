import LearningGame.Log
import LearningGame.Number.Layout
import LearningGame.Number.Numeral
import LearningGame.Text.Characters
import LearningGame.Text.LetterCase
import LearningGame.Text.Quoted

/-!
# Settings

What can be set from outside for all games: how much is logged and where, how long a game goes on
after the last life is lost, and what reading is worth.
-/

namespace LearningGame

/-- Settings for all games. -/
structure Settings where
  logLevel : String
  logFile : String
  /-- The seconds for which a game goes on after the last life is lost. -/
  graceSeconds : Int
  /-- The points for reading. -/
  infoPoints : Int
  defaultGameType : String

namespace Settings

/-- The settings where nothing is set. -/
def default : Settings := ⟨"INFO", "edugame.log", 1, 10, "quiz"⟩

/-- The variables of the environment. -/
abbrev Environment := List (String × String)

/-- What the names of all variables begin with. -/
def envPrefix : String := "EDUGAME_"

/-- The value of a variable. -/
def find? (env : Environment) (name : String) : Option String := env.lookup (envPrefix ++ name)

/-- Who makes the notes on settings. -/
def source : String := "edugame.config"

/-- A number that cannot be used is ignored with a note. -/
def ignore {ε : Type} (complaint name shown : String) (default : Int) : Traced ε Int := do
  Traced.note .warning source
    ("Ignoring " ++ complaint ++ " " ++ envPrefix ++ name ++ "=" ++ shown)
  return default

/-- Read a natural number; the default stands for one that is missing, blank or cannot be used. -/
def readNumber {ε : Type} (env : Environment) (name : String) (default : Int) : Traced ε Int :=
  match find? env name with
  | none => pure default
  | some text =>
    if Text.isBlankText text then pure default
    else
      match Number.readInt? text with
      | none => ignore "non-integer" name (Text.quoted text) default
      | some n =>
        if n < 0 then ignore "negative" name (Number.intText n) default else pure n

/-- The settings of an environment. -/
def load {ε : Type} (env : Environment) : Traced ε Settings := do
  let grace ← readNumber env "LIFE_LOSS_GRACE_SECONDS" default.graceSeconds
  let points ← readNumber env "INFO_POINTS" default.infoPoints
  return {
    logLevel := Text.upper ((find? env "LOG_LEVEL").getD default.logLevel)
    logFile := (find? env "LOG_FILE").getD default.logFile
    graceSeconds := grace
    infoPoints := points
    defaultGameType := (find? env "DEFAULT_GAME_TYPE").getD default.defaultGameType }

end Settings

end LearningGame
