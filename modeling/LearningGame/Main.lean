import LearningGame.CommandLine.Run
import Std.Time.Format

/-!
The command line: reads the arguments, the environment, the clock and the file, and prints what the
run leaves behind.
-/

namespace LearningGame.CommandLine

/-- The variables of the environment that are looked at. -/
def settingNames : List String :=
  ["LOG_LEVEL", "LOG_FILE", "LIFE_LOSS_GRACE_SECONDS", "INFO_POINTS", "DEFAULT_GAME_TYPE"]

/-- The environment. -/
def readEnvironment : IO Settings.Environment := do
  let pairs ← settingNames.mapM fun name => do
    let value ← IO.getEnv (Settings.envPrefix ++ name)
    return value.map fun v => (Settings.envPrefix ++ name, v)
  return pairs.filterMap id

/-- A number with at least so many digits. -/
def digits (least : Nat) (n : Int) : String :=
  let s := toString n
  String.ofList (List.replicate (least - s.length) '0') ++ s

/-- The time now. -/
def readStamp : IO Stamp := do
  let here ← Std.Time.PlainDateTime.now
  let now ← Std.Time.Timestamp.now
  let there := Std.Time.PlainDateTime.ofWallTime (now.toWallTime .zero)
  let time (t : Std.Time.PlainDateTime) : String :=
    digits 2 t.hour.val ++ ":" ++ digits 2 t.minute.val ++ ":" ++ digits 2 t.second.val
  let day := digits 4 there.year ++ "-" ++ digits 2 there.month.val ++ "-" ++ digits 2 there.day.val
  return ⟨time here,
    day ++ "T" ++ time there ++ "." ++ digits 3 (there.nanosecond.val / 1000000) ++ "Z"⟩

/-- The code with which a system tells that a part of a path is no directory. -/
def notADirectory : UInt32 := 20

/-- What is found under a path. No path that holds the null character leads anywhere. -/
def readPath (path : String) : IO FileState := do
  if path.toList.contains '\x00' then return .missing
  try
    let content ← IO.FS.readBinFile path
    return .bytes content
  catch
    | .noFileOrDirectory .. => return .missing
    | .inappropriateType _ code _ =>
      return if code = notADirectory then .missing else .directory
    | .invalidArgument .. => return .nameTooLong
    | _ => return .directory

/-- Print what a run leaves behind. -/
def finishRun : Except Crash Outcome → IO UInt32
  | .ok o => do
    (← IO.getStderr).putStr o.err
    (← IO.getStdout).putStr o.out
    return o.exit.toUInt32
  | .error _ => do
    (← IO.getStderr).putStrLn "edugame: the file cannot be read"
    return 1

end LearningGame.CommandLine

open LearningGame LearningGame.CommandLine

/-- The command line. -/
def main (args : List String) : IO UInt32 := do
  match parse args with
  | .error .help => return 0
  | .error .usage => do
    (← IO.getStderr).putStrLn "usage: edugame [--log-level LEVEL] inspect|normalize FILE"
    return exitUnplayable.toUInt32
  | .ok order => do
    let env ← readEnvironment
    let stamp ← readStamp
    let found ← readPath (plainPath order.file)
    match (Settings.load env : Traced Fault Settings).result with
    | .error _ => return 1
    | .ok settings => finishRun (run stamp settings (fun _ => found) order)
