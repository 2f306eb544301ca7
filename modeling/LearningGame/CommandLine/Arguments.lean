import LearningGame.Text.Characters

/-!
# Arguments

The arguments of the command line: options, then a command with its file and its own options.
Options may be shortened to any beginning that fits only one of them. After two dashes nothing more
is taken for an option.
-/

namespace LearningGame.CommandLine

/-- What can be done with a file. -/
inductive Command where
  | inspect
  | normalize
  deriving DecidableEq

/-- The command with a name. -/
def Command.ofName? (name : String) : Option Command :=
  if name = "inspect" then some .inspect
  else if name = "normalize" then some .normalize
  else none

/-- What is asked for. -/
structure Order where
  command : Command
  file : String
  gameType : Option String
  /-- Whether the file holds the record of a stored game. -/
  asRecord : Bool
  logLevel : Option String

/-- Why nothing is done. -/
inductive Refusal where
  /-- The arguments are wrong. -/
  | usage
  /-- Help is asked for. -/
  | help
  deriving DecidableEq

/-- The options. -/
inductive Switch where
  | help
  | logLevel
  | gameType
  | asRecord
  deriving DecidableEq

/-- The name of an option. -/
def Switch.name : Switch → String
  | .help => "--help"
  | .logLevel => "--log-level"
  | .gameType => "--game-type"
  | .asRecord => "--record"

/-- What an argument is. -/
inductive Argument where
  /-- Two dashes. -/
  | separator
  | plain (text : String)
  /-- An option, with a value that is attached to it. -/
  | switch (s : Switch) (value : Option String)
  /-- An option that is not known. -/
  | unknown
  deriving DecidableEq

/-! ### Recognizing options -/

/-- A text before and after its first equals sign, if it has one. -/
def splitValue (s : String) : String × Option String :=
  let before := s.toList.takeWhile (· ≠ '=')
  match s.toList.drop before.length with
  | [] => (s, none)
  | _ :: after => (String.ofList before, some (String.ofList after))

/-- Whether a character is a decimal digit of any script. -/
def isDigit (c : Char) : Bool := (Text.digitValue? c).isSome

/-- Whether a text after a dash makes a negative number. -/
def isNumberBody (cs : List Char) : Bool :=
  let whole := cs.takeWhile isDigit
  match cs.drop whole.length with
  | [] => !whole.isEmpty
  | '.' :: places => !places.isEmpty && places.all isDigit
  | _ => false

/-- The option that a text with two dashes names. -/
def longSwitch? (switches : List Switch) (name : String) : Option Switch :=
  match switches.find? fun s => s.name == name with
  | some s => some s
  | none =>
    match switches.filter fun s => name.toList.isPrefixOf s.name.toList with
    | [s] => some s
    | _ => none

/-- What a text with one or two dashes is. -/
def dashed (switches : List Switch) (s : String) : Argument :=
  let otherwise := if s.toList.contains ' ' then .plain s else .unknown
  match s.toList with
  | '-' :: '-' :: _ =>
    let (name, value) := splitValue s
    match longSwitch? switches name with
    | some x => .switch x value
    | none => otherwise
  | '-' :: 'h' :: [] => .switch .help none
  | '-' :: 'h' :: '=' :: rest => .switch .help (some (String.ofList rest))
  | '-' :: 'h' :: rest => .switch .help (some (String.ofList rest))
  | '-' :: rest => if isNumberBody rest then .plain s else otherwise
  | _ => otherwise

/-- What an argument is, where some options are known. -/
def recognize (switches : List Switch) (s : String) : Argument :=
  match s.toList with
  | ['-', '-'] => .separator
  | ['-'] => .plain s
  | '-' :: _ => dashed switches s
  | _ => .plain s

/-- Whether help is asked for by an argument with an attached value: the letters of a short option
may be repeated, but a long option takes no value. -/
def isHelp (given : String) : Option String → Bool
  | none => true
  | some letters =>
    !(given.toList.take 2 == ['-', '-']) && letters != "" && letters.toList.all (· = 'h')

/-- Whether a text fits all options. -/
def isAmbiguous (s : String) : Bool := "--=".toList.isPrefixOf s.toList

/-! ### Reading the arguments -/

/-- The options after the command. -/
def commandSwitches : List Switch := [.help, .gameType, .asRecord]

/-- The options before the command. -/
def mainSwitches : List Switch := [.help, .logLevel]

/-- What has been read after the command. -/
structure Reading where
  file : Option String
  gameType : Option String
  asRecord : Bool
  /-- Whether there was anything that does not belong there. -/
  excess : Bool
  /-- Whether the file was the last argument. -/
  fileLast : Bool

/-- Take the arguments after two dashes. -/
def Reading.takePlain (r : Reading) (rest : List String) : Reading :=
  match r.file, rest with
  | none, [] => r
  | none, file :: more => { r with file := some file, excess := r.excess || !more.isEmpty }
  | some _, more => { r with excess := r.excess || !r.fileLast || !more.isEmpty }

/-- Take an argument that is no option. -/
def Reading.takeFile (r : Reading) (s : String) : Reading :=
  match r.file with
  | none => { r with file := some s, fileLast := true }
  | some _ => { r with excess := true, fileLast := false }

/-- Read the arguments after the command. -/
def readCommand (r : Reading) : List String → Except Refusal Reading
  | [] => .ok r
  | s :: rest =>
    match recognize commandSwitches s with
    | .separator => .ok (r.takePlain rest)
    | .plain s => readCommand (r.takeFile s) rest
    | .unknown => readCommand { r with excess := true, fileLast := false } rest
    | .switch .help value => .error (if isHelp s value then .help else .usage)
    | .switch .asRecord (some _) => .error .usage
    | .switch .asRecord none => readCommand { r with asRecord := true, fileLast := false } rest
    | .switch _ (some value) =>
      readCommand { r with gameType := some value, fileLast := false } rest
    | .switch _ none =>
      match rest with
      | [] => .error .usage
      | value :: rest =>
        match recognize commandSwitches value with
        | .plain value => readCommand { r with gameType := some value, fileLast := false } rest
        | _ => .error .usage

/-- The order that a command with its arguments makes. -/
def orderOf (command : Command) (logLevel : Option String) (excess : Bool)
    (args : List String) : Except Refusal Order := do
  let r ← readCommand ⟨none, none, false, excess, false⟩ args
  match r.file with
  | none => throw .usage
  | some file =>
    if r.excess then throw .usage else return ⟨command, file, r.gameType, r.asRecord, logLevel⟩

/-- Read the arguments from the first one. -/
def readMain (logLevel : Option String) (excess : Bool) : List String → Except Refusal Order
  | [] => .error .usage
  | s :: rest =>
    match recognize mainSwitches s with
    | .separator => .error .usage
    | .unknown => readMain logLevel true rest
    | .plain name =>
      match Command.ofName? name with
      | none => .error .usage
      | some command => orderOf command logLevel excess rest
    | .switch .help value => .error (if isHelp s value then .help else .usage)
    | .switch _ (some value) => readMain (some value) excess rest
    | .switch _ none =>
      match rest with
      | [] => .error .usage
      | value :: rest =>
        match recognize mainSwitches value with
        | .plain value => readMain (some value) excess rest
        | _ => .error .usage

/-- What the arguments ask for. -/
def parse (args : List String) : Except Refusal Order :=
  if (args.takeWhile (· ≠ "--")).any isAmbiguous then .error .usage else readMain none false args

end LearningGame.CommandLine
