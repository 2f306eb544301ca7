import LearningGame.Value.Text

/-!
# Issues

Checking a document against the expected shape collects every issue, each with the place where it
was found, instead of stopping at the first one.
-/

namespace LearningGame.Schema

/-- What is wrong with a part of a document. -/
inductive Problem where
  | missing
  | notText
  | notInteger
  | unreadableInteger
  | fraction
  | notFinite
  | tooLarge
  | notNumber
  | unreadableNumber
  | notBoolean
  | unreadableBoolean
  | notList
  | notMap
  /-- A part that is no record of the named kind. -/
  | notRecord (kind : String)
  /-- A part that is none of the expected texts. -/
  | notOneOf (expected : List String)
  /-- A tagged part that is no map. -/
  | notTagged
  /-- A tagged part without the entry that holds its tag. -/
  | noTag (key : String)
  | unknownTag (tag key : String) (expected : List String)

/-- Texts in quotes with commas between them and a word before the last one. -/
def listing (word : String) : List String → String
  | [] => ""
  | [a] => Text.quoted a
  | [a, b] => Text.quoted a ++ " " ++ word ++ " " ++ Text.quoted b
  | a :: rest => Text.quoted a ++ ", " ++ listing word rest

/-- The wording of a problem. -/
def Problem.message : Problem → String
  | .missing => "Field required"
  | .notText => "Input should be a valid string"
  | .notInteger => "Input should be a valid integer"
  | .unreadableInteger => "Input should be a valid integer, unable to parse string as an integer"
  | .fraction => "Input should be a valid integer, got a number with a fractional part"
  | .notFinite => "Input should be a finite number"
  | .tooLarge => "Unable to parse input string as an integer, exceeded maximum size"
  | .notNumber => "Input should be a valid number"
  | .unreadableNumber => "Input should be a valid number, unable to parse string as a number"
  | .notBoolean => "Input should be a valid boolean"
  | .unreadableBoolean => "Input should be a valid boolean, unable to interpret input"
  | .notList => "Input should be a valid list"
  | .notMap => "Input should be a valid dictionary"
  | .notRecord kind => "Input should be a valid dictionary or instance of " ++ kind
  | .notOneOf expected => "Input should be " ++ listing "or" expected
  | .notTagged => "Input should be a valid dictionary or object to extract fields from"
  | .noTag key => "Unable to extract tag using discriminator " ++ Text.quoted key
  | .unknownTag tag key expected =>
    "Input tag '" ++ tag ++ "' found using " ++ Text.quoted key ++
      " does not match any of the expected tags: " ++ ", ".intercalate (expected.map Text.quoted)

/-- A problem and the names and indices that lead to it. -/
structure Issue where
  path : List String
  problem : Problem

/-- The wording of an issue. -/
def Issue.message (i : Issue) : String := ".".intercalate i.path ++ ": " ++ i.problem.message

/-- A part of the expected shape, or all issues found in it. -/
inductive Checked (α : Type) where
  | valid (a : α)
  | invalid (issues : List Issue)

namespace Checked

variable {α β : Type}

/-- A single problem at the place itself. -/
def refuse (problem : Problem) : Checked α := .invalid [⟨[], problem⟩]

/-- Apply a function to a valid part. -/
def map (f : α → β) : Checked α → Checked β
  | .valid a => .valid (f a)
  | .invalid issues => .invalid issues

/-- Combine two parts; the issues of both are kept. -/
def both (f : Checked (α → β)) (a : Checked α) : Checked β :=
  match f, a with
  | .valid f, .valid a => .valid (f a)
  | .valid _, .invalid issues => .invalid issues
  | .invalid issues, .valid _ => .invalid issues
  | .invalid first, .invalid second => .invalid (first ++ second)

/-- Place the issues of a part below a name or index. -/
def under (step : String) : Checked α → Checked α
  | .valid a => .valid a
  | .invalid issues => .invalid (issues.map fun i => { i with path := step :: i.path })

/-- The issues found. -/
def issues : Checked α → List Issue
  | .valid _ => []
  | .invalid issues => issues

/-- The valid part, if there is no issue. -/
def toOption : Checked α → Option α
  | .valid a => some a
  | .invalid _ => none

@[simp] theorem map_valid (f : α → β) (a : α) : (valid a).map f = valid (f a) := rfl

@[simp] theorem both_valid (f : α → β) (a : α) : both (valid f) (valid a) = valid (f a) := rfl

@[simp] theorem under_valid (step : String) (a : α) : (valid a).under step = valid a := rfl

end Checked

end LearningGame.Schema
