/-!
# Catalogues

Things by their ids. Of several things with one id the last counts, at the place of the first.
-/

namespace LearningGame

/-- Things by id, in order, without two of one id. -/
abbrev Catalogue (α : Type) := List (String × α)

namespace Catalogue

variable {α : Type}

/-- Put a thing in, at the place of the one with its id if there is one. -/
def put : Catalogue α → String → α → Catalogue α
  | [], id, a => [(id, a)]
  | (k, b) :: rest, id, a => if k == id then (k, a) :: rest else (k, b) :: put rest id a

/-- The catalogue of a list of things. -/
def ofList (id : α → String) (things : List α) : Catalogue α :=
  things.foldl (fun c a => c.put (id a) a) []

/-- The thing with an id. -/
def find? (c : Catalogue α) (id : String) : Option α := c.lookup id

/-- Whether there is a thing with an id. -/
def has (c : Catalogue α) (id : String) : Bool := (c.find? id).isSome

/-- The ids. -/
def ids (c : Catalogue α) : List String := c.map (·.1)

/-- The things. -/
def things (c : Catalogue α) : List α := c.map (·.2)

/-- Take the thing with an id out. -/
def erase (c : Catalogue α) (id : String) : Catalogue α := c.filter fun e => !(e.1 == id)

@[simp] theorem ids_put (c : Catalogue α) (id : String) (a : α) :
    (c.put id a).ids = if id ∈ c.ids then c.ids else c.ids ++ [id] := by
  induction c with
  | nil => simp [put, ids]
  | cons e rest ih =>
    obtain ⟨k, b⟩ := e
    simp only [ids] at ih
    by_cases h : k = id
    · subst h; simp [put, ids]
    · have h' : ¬id = k := fun e => h e.symm
      simp only [put, ids, beq_iff_eq, h, if_false, List.map_cons, ih, List.mem_cons, h', false_or]
      split <;> simp_all

end Catalogue

end LearningGame
