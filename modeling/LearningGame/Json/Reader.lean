import LearningGame.Value.Fields
import LearningGame.Number.Numeral

/-!
# Reading documents

The reader takes a document in JSON, with `NaN` and `Infinity` as further numbers. A text that is no
document is refused with the place and the reason of the first fault.
-/

namespace LearningGame.Json

/-- Why a text is no document. -/
inductive Problem where
  | value
  | name
  | colon
  | comma
  | extra
  | unterminated
  | control
  | escape
  | unicodeEscape
  | byteOrderMark
  /-- An integer with more digits than are read. -/
  | tooManyDigits

/-- The wording of a fault. -/
def Problem.message : Problem → String
  | .value => "Expecting value"
  | .name => "Expecting property name enclosed in double quotes"
  | .colon => "Expecting ':' delimiter"
  | .comma => "Expecting ',' delimiter"
  | .extra => "Extra data"
  | .unterminated => "Unterminated string starting at"
  | .control => "Invalid control character at"
  | .escape => "Invalid \\escape"
  | .unicodeEscape => "Invalid \\uXXXX escape"
  | .byteOrderMark => "Unexpected UTF-8 BOM (decode using utf-8-sig)"
  | .tooManyDigits => "Too many digits"

/-- A fault and the number of characters from its place to the end of the text. -/
structure Failure where
  problem : Problem
  remaining : Nat

/-- The result of reading a part: what was read and the rest of the text. -/
abbrev Result (α : Type) := Except Failure (α × List Char)

/-- The fault at the start of a rest. -/
def fail {α : Type} (problem : Problem) (rest : List Char) : Result α :=
  .error ⟨problem, rest.length⟩

/-- Whether a character may stand between the parts of a document. -/
def isSpace (c : Char) : Bool := c = ' ' || c = '\t' || c = '\n' || c = '\r'

/-- Drop the space at the start of a rest. -/
def skipSpace (cs : List Char) : List Char := cs.dropWhile isSpace

/-! ### Texts -/

/-- The character named by a single escape letter. -/
def escaped? (c : Char) : Option Char :=
  match c with
  | '"' => some '"'
  | '\\' => some '\\'
  | '/' => some '/'
  | 'b' => some '\x08'
  | 'f' => some '\x0c'
  | 'n' => some '\n'
  | 'r' => some '\r'
  | 't' => some '\t'
  | _ => none

/-- The value of a hexadecimal digit. -/
def hexValue? (c : Char) : Option Nat :=
  if '0' ≤ c ∧ c ≤ '9' then some (c.toNat - '0'.toNat)
  else if 'a' ≤ c ∧ c ≤ 'f' then some (c.toNat - 'a'.toNat + 10)
  else if 'A' ≤ c ∧ c ≤ 'F' then some (c.toNat - 'A'.toNat + 10)
  else none

/-- The value of four hexadecimal digits. -/
def hexUnit? (a b c d : Char) : Option Nat := do
  let a ← hexValue? a
  let b ← hexValue? b
  let c ← hexValue? c
  let d ← hexValue? d
  return ((a * 16 + b) * 16 + c) * 16 + d

/-- Put a unit in front of the units read from the rest. -/
def consUnit (unit : Nat) : Result (List Nat) → Result (List Nat)
  | .ok (units, rest) => .ok (unit :: units, rest)
  | .error e => .error e

/-- Read the inside of a text up to its closing quote, as code points and halves of escaped pairs;
`opening` is the number of characters from its opening quote to the end. -/
def readUnits (opening : Nat) : List Char → Result (List Nat)
  | [] => .error ⟨.unterminated, opening⟩
  | '"' :: rest => .ok ([], rest)
  | ['\\'] => .error ⟨.unterminated, opening⟩
  | '\\' :: 'u' :: a :: b :: c :: d :: rest =>
    match hexUnit? a b c d with
    | some unit =>
      if rest.isEmpty then fail .unicodeEscape ['u', a, b, c, d]
      else consUnit unit (readUnits opening rest)
    | none => fail .unicodeEscape ('u' :: a :: b :: c :: d :: rest)
  | '\\' :: 'u' :: rest => fail .unicodeEscape ('u' :: rest)
  | '\\' :: c :: rest =>
    match escaped? c with
    | some e => consUnit e.toNat (readUnits opening rest)
    | none => fail .escape ('\\' :: c :: rest)
  | c :: rest =>
    if c.toNat < 0x20 then fail .control (c :: rest)
    else consUnit c.toNat (readUnits opening rest)

/-- Put the two halves of escaped pairs together. -/
def joinUnits : List Nat → List Char
  | high :: low :: rest =>
    if 0xD800 ≤ high ∧ high < 0xDC00 ∧ 0xDC00 ≤ low ∧ low < 0xE000 then
      Char.ofNat (0x10000 + (high - 0xD800) * 0x400 + (low - 0xDC00)) :: joinUnits rest
    else Char.ofNat high :: joinUnits (low :: rest)
  | [unit] => [Char.ofNat unit]
  | [] => []

/-- Read a text after its opening quote. -/
def readText (rest : List Char) : Result String :=
  match readUnits (rest.length + 1) rest with
  | .ok (units, rest) => .ok (String.ofList (joinUnits units), rest)
  | .error e => .error e

/-! ### Numbers -/

/-- The whole part of a number: no digit may follow a leading zero. -/
def wholeDigits : List Char → List Char × List Char
  | '0' :: rest => (['0'], rest)
  | cs => cs.span Char.isDigit

/-- The places after a point; a point without a digit is left alone. -/
def places : List Char → List Char × List Char
  | '.' :: rest =>
    let (digits, tail) := rest.span Char.isDigit
    if digits.isEmpty then ([], '.' :: rest) else (digits, tail)
  | cs => ([], cs)

/-- The exponent; a letter without a digit behind it is left alone. -/
def exponent : List Char → Option Int × List Char
  | [] => (none, [])
  | c :: rest =>
    if c = 'e' ∨ c = 'E' then
      let (negative, body) := Number.takeSign rest
      let (digits, tail) := body.span Char.isDigit
      if digits.isEmpty then (none, c :: rest)
      else (some (Number.signed negative (Number.takeDigits 0 0 digits).1), tail)
    else (none, c :: rest)

/-- Read a number; `start` is the rest from its sign on. -/
def readNumber (start : List Char) : Result Value :=
  let (negative, body) := match start with
    | '-' :: rest => (true, rest)
    | _ => (false, start)
  let (whole, rest) := wholeDigits body
  if whole.isEmpty then fail .value start
  else
    let (fraction, rest) := places rest
    let (power, rest) := exponent rest
    let digits := (Number.takeDigits 0 0 (whole ++ fraction)).1
    if fraction.isEmpty ∧ power = none then
      if Number.digitLimit < whole.length then fail .tooManyDigits start
      else .ok (.int (Number.signed negative digits), rest)
    else .ok (.float (Number.ofDecimal negative digits (power.getD 0 - fraction.length)), rest)

/-! ### Documents -/

mutual

/-- Read a value at the start of a rest. -/
def readValue : Nat → List Char → Result Value
  | 0, cs => fail .value cs
  | fuel + 1, cs =>
    match cs with
    | '"' :: rest => (readText rest).map fun r => (.str r.1, r.2)
    | '\x7b' :: rest =>
      match skipSpace rest with
      | '\x7d' :: rest => .ok (.map [], rest)
      | rest => readEntries fuel [] rest
    | '[' :: rest =>
      match skipSpace rest with
      | ']' :: rest => .ok (.list [], rest)
      | rest => readItems fuel [] rest
    | 'n' :: 'u' :: 'l' :: 'l' :: rest => .ok (.null, rest)
    | 't' :: 'r' :: 'u' :: 'e' :: rest => .ok (.bool true, rest)
    | 'f' :: 'a' :: 'l' :: 's' :: 'e' :: rest => .ok (.bool false, rest)
    | 'N' :: 'a' :: 'N' :: rest => .ok (.float (Float.ofBits 0x7FF8000000000000), rest)
    | 'I' :: 'n' :: 'f' :: 'i' :: 'n' :: 'i' :: 't' :: 'y' :: rest =>
      .ok (.float (Number.infinity false), rest)
    | '-' :: 'I' :: 'n' :: 'f' :: 'i' :: 'n' :: 'i' :: 't' :: 'y' :: rest =>
      .ok (.float (Number.infinity true), rest)
    | cs => readNumber cs

/-- Read the elements of a list from the next one on; `done` holds the earlier ones, the last
first. -/
def readItems : Nat → List Value → List Char → Result Value
  | 0, _, cs => fail .value cs
  | fuel + 1, done, cs =>
    match readValue fuel cs with
    | .error e => .error e
    | .ok (v, rest) =>
      match skipSpace rest with
      | ']' :: rest => .ok (.list (v :: done).reverse, rest)
      | ',' :: rest => readItems fuel (v :: done) (skipSpace rest)
      | rest => fail .comma rest

/-- Read the entries of a map from the next one on. Of two entries with one name the first gives
the place and the last the value. -/
def readEntries : Nat → Fields → List Char → Result Value
  | 0, _, cs => fail .value cs
  | fuel + 1, done, cs =>
    match cs with
    | '"' :: rest =>
      match readText rest with
      | .error e => .error e
      | .ok (name, rest) =>
        match skipSpace rest with
        | ':' :: rest =>
          match readValue fuel (skipSpace rest) with
          | .error e => .error e
          | .ok (v, rest) =>
            let done := done.put name v
            match skipSpace rest with
            | '\x7d' :: rest => .ok (.map done, rest)
            | ',' :: rest => readEntries fuel done (skipSpace rest)
            | rest => fail .comma rest
        | rest => fail .colon rest
    | cs => fail .name cs

end

/-- Read a whole text as a document. -/
def readAll (cs : List Char) : Except Failure Value :=
  match cs with
  | '\uFEFF' :: _ => .error ⟨.byteOrderMark, cs.length⟩
  | _ =>
    match readValue (2 * cs.length + 1) (skipSpace cs) with
    | .error e => .error e
    | .ok (v, rest) =>
      match skipSpace rest with
      | [] => .ok v
      | rest => .error ⟨.extra, rest.length⟩

/-- The line and column, both from one, of the place after some characters. -/
def position (before : List Char) : Nat × Nat :=
  (before.count '\n' + 1, (before.reverse.takeWhile (· != '\n')).length + 1)

/-- Where and why a text is no document. -/
structure SyntaxError where
  problem : Problem
  line : Nat
  column : Nat

/-- The wording of an error. -/
def SyntaxError.message (e : SyntaxError) : String :=
  s!"line {e.line}, column {e.column}: {e.problem.message}"

/-- Read a text as a document. -/
def read (text : String) : Except SyntaxError Value :=
  let cs := text.toList
  match readAll cs with
  | .ok v => .ok v
  | .error e =>
    let (line, column) := position (cs.take (cs.length - e.remaining))
    .error ⟨e.problem, line, column⟩

end LearningGame.Json
