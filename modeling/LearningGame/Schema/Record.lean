import LearningGame.Schema.Codec

/-!
# Records

The codec of a record is put together from its fields: each field is declared once, with its name,
its codec and the way to get at it, and reading, writing and comparing follow from that. A field
may also be given under its name in lower case with underscores; the plain name wins.
-/

namespace LearningGame.Schema

/-- The other name of a field: each capital becomes an underscore and the small letter. -/
def underscored (name : String) : String :=
  String.ofList (name.toList.flatMap fun c => if c.isUpper then ['_', c.toLower] else [c])

/-- The value of a field and the name under which it is given. -/
def fieldOf? (m : Fields) (name : String) : Option (String × Value) :=
  match m.find? name with
  | some v => some (name, v)
  | none => (m.find? (underscored name)).map fun v => (underscored name, v)

/-- Fields of a record `ρ` that make up an `α`. -/
structure RecordOf (ρ α : Type) where
  /-- Read the fields. -/
  read : Fields → Checked α
  /-- Write the fields, in full or as part of a document. -/
  write : Bool → ρ → Fields
  /-- Whether the fields of two records are equal. -/
  same : ρ → ρ → Bool

namespace RecordOf

variable {ρ α β : Type}

/-- A record without fields. -/
def build (a : α) : RecordOf ρ α := ⟨fun _ => .valid a, fun _ _ => [], fun _ _ => true⟩

/-- Fields and further fields. -/
def apply (f : RecordOf ρ (α → β)) (a : RecordOf ρ α) : RecordOf ρ β where
  read m := (f.read m).both (a.read m)
  write full r := f.write full r ++ a.write full r
  same r s := f.same r s && a.same r s

/-- A field with its way of being read when it is not given. A document is written without the
fields that are absent. -/
def field (name : String) (c : Codec α) (missing : Checked α) (get : ρ → α) : RecordOf ρ α where
  read m :=
    match fieldOf? m name with
    | some (given, v) => (c.read v).under given
    | none => missing
  write full r := if !full && c.absent (get r) then [] else [(.text name, c.write full (get r))]
  same r s := c.same (get r) (get s)

/-- A field that has to be given. -/
def required (name : String) (c : Codec α) (get : ρ → α) : RecordOf ρ α :=
  field name c (.invalid [⟨[name], .missing⟩]) get

/-- A field with a default. -/
def withDefault (name : String) (c : Codec α) (default : α) (get : ρ → α) : RecordOf ρ α :=
  field name c (.valid default) get

/-- A field that may be absent or null. -/
def optional (name : String) (c : Codec α) (get : ρ → Option α) : RecordOf ρ (Option α) :=
  field name c.optional (.valid none) get

/-- The codec of a record of the named kind. -/
def codec (kind : String) (r : RecordOf ρ ρ) : Codec ρ where
  read
    | .map m => r.read m
    | _ => .refuse (.notRecord kind)
  write full a := .map (r.write full a)
  same := r.same

end RecordOf

end LearningGame.Schema
