import LearningGame.Log
import LearningGame.Value.Sequence
import LearningGame.Value.Text
import LearningGame.Text.Characters
import LearningGame.Text.LetterCase

/-!
# Filling entries

Documents come incomplete: ids are missing, texts are given as numbers, lists hold what does not
belong there. The operations here fill or mend single entries; the modules beside this one apply
them to each kind of section.
-/

namespace LearningGame.Completion

/-- Filling in what is missing. It notes what it drops, and breaks off at a float that should be a
whole number and at pairs that are none. -/
abbrev Filling := Traced Fault

/-- Note that something was dropped or replaced. -/
def warn (message : String) : Filling Unit := Traced.note .warning "edugame.normalizer" message

/-- An entry of a list that has to be a map; anything else is dropped. -/
def object? (what : String) : Value → Filling (Option Fields)
  | .map m => pure (some m)
  | v => do
    warn ("Dropping non-object " ++ what ++ ": " ++ v.quoted)
    return none

/-- The maps in a list. -/
def objects (what : String) (v : Value) : Filling (List Fields) :=
  Traced.filterMap (object? what) v.items

/-- Number the elements of a list from one on. -/
def numbered {α : Type} (items : List α) : List (α × Nat) := items.zipIdx 1

/-- The id of an entry, a fallback if it is missing or blank. -/
def idOf (m : Fields) (fallback : String) : String :=
  match m.get "id" with
  | .null => fallback
  | .str s => if Text.isBlankText s then fallback else s
  | v => v.text

/-- Give an entry its id as a text. -/
def fillId (m : Fields) (fallback : String) : Fields := m.put "id" (idOf m fallback)

/-- The text at a key, empty if there is none. -/
def textAt (m : Fields) (key : String) : String := (m.getD key "").text

/-- The text at a key, empty if there is none or what is there counts as false. -/
def someTextAt (m : Fields) (key : String) : String := ((m.get key).orElse "").text

/-- Make the value at a key a text. -/
def fillText (m : Fields) (key : String) : Fields := m.put key (textAt m key)

/-- Make the value at a key a text, empty if it counts as false. -/
def fillSomeText (m : Fields) (key : String) : Fields := m.put key (someTextAt m key)

/-- A text that stands for a side of a card or pair, as a side. -/
def textSide : Value → Value
  | .map m => .map (fillText m "text")
  | .null => .map [("text", "")]
  | v => .map [("text", v.text)]

/-- The whole part of a number, a default for what is none. -/
def wholeOr (v : Value) (default : Int) : Except Fault Int :=
  match v with
  | .int n => .ok n
  | .float x => (Number.float x).toInt
  | _ => .ok default

/-- Make the value at a key a whole number. -/
def fillWhole (m : Fields) (key : String) (default : Int) : Filling Fields := do
  let n ← Traced.lift (wholeOr (m.get key) default)
  return m.put key (.int n)

/-- A list of maps as a value. -/
def mapList (ms : List Fields) : Value := .list (ms.map .map)

/-- The text by which names are compared: without blanks around it and in lower case. -/
def folded (s : String) : String := Text.lower (Text.strip s)

end LearningGame.Completion
