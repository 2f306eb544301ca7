import LearningGame.Proofs.Value.Fields
import Mathlib.Data.List.Forall2

/-!
# Deleted entries

What is left of a value when entries of maps are deleted from it, at any depth. Lists keep all of
their elements, and whatever is neither a list nor a map stays as it is.
-/

namespace LearningGame

mutual

/-- A value and what is left of it when entries of maps in it are deleted. -/
inductive Value.Reduces : Value → Value → Prop where
  | refl (v : Value) : Value.Reduces v v
  | list {vs ws : List Value} (h : List.Forall₂ Value.Reduces vs ws) :
    Value.Reduces (.list vs) (.list ws)
  | map {m n : Fields} (h : Fields.Reduces m n) : Value.Reduces (.map m) (.map n)

/-- Entries and what is left of them. No entry is left for a key that is deleted. -/
inductive Fields.Reduces : Fields → Fields → Prop where
  | nil : Fields.Reduces [] []
  | keep {k : Key} {v w : Value} {m n : Fields} (hv : Value.Reduces v w) (h : Fields.Reduces m n) :
    Fields.Reduces ((k, v) :: m) ((k, w) :: n)
  | delete {k : Key} {v : Value} {m n : Fields} (hk : n.find? k = none) (h : Fields.Reduces m n) :
    Fields.Reduces ((k, v) :: m) n

end

/-! ### Shapes -/

lemma Fields.Reduces.refl (m : Fields) : m.Reduces m := by
  induction m with
  | nil => exact .nil
  | cons e m ih => exact .keep (.refl e.2) ih

namespace Value

variable {v w : Value}

lemma reduces_map_iff (m : Fields) : (Value.map m).Reduces w ↔ ∃ n, w = .map n ∧ m.Reduces n := by
  constructor
  · intro h
    cases h with
    | refl => exact ⟨m, rfl, .refl m⟩
    | map h => exact ⟨_, rfl, h⟩
  · rintro ⟨n, rfl, h⟩
    exact .map h

lemma reduces_list_iff (vs : List Value) :
    (Value.list vs).Reduces w ↔ ∃ ws, w = .list ws ∧ List.Forall₂ Reduces vs ws := by
  constructor
  · intro h
    cases h with
    | refl => exact ⟨vs, rfl, List.forall₂_same.mpr fun v _ => .refl v⟩
    | list h => exact ⟨_, rfl, h⟩
  · rintro ⟨ws, rfl, h⟩
    exact .list h

/-- Only lists and maps have anything in them that can be deleted. -/
lemma Reduces.eq_or (h : v.Reduces w) : w = v ∨ (∃ vs, v = .list vs) ∨ ∃ m, v = .map m := by
  cases h with
  | refl => exact .inl rfl
  | list h => exact .inr (.inl ⟨_, rfl⟩)
  | map h => exact .inr (.inr ⟨_, rfl⟩)

lemma Reduces.items (h : v.Reduces w) : List.Forall₂ Reduces v.items w.items := by
  cases h with
  | refl => exact List.forall₂_same.mpr fun v _ => .refl v
  | list h => exact h
  | map h => exact .nil

lemma Reduces.truthy (h : v.Reduces w) (hw : w.truthy = true) : v.truthy = true := by
  cases h with
  | refl => exact hw
  | list h =>
    cases h with
    | nil => exact hw
    | cons _ _ => rfl
  | map h =>
    cases h with
    | nil => exact hw
    | _ => rfl

end Value

/-! ### Entries -/

namespace Fields

variable {m n : Fields} {a : String}

/-- What is found among the entries that are left is left of what was found before. -/
lemma Reduces.find? {w : Value} (h : m.Reduces n) (hw : n.find? (.text a) = some w) :
    ∃ v, m.find? (.text a) = some v ∧ v.Reduces w := by
  induction m generalizing n with
  | nil =>
    cases h
    simp at hw
  | cons e m ih =>
    cases h with
    | @keep k v w' _ n hv h =>
      rw [find?_cons] at hw ⊢
      split_ifs at hw ⊢ with hk
      · cases hw
        exact ⟨v, rfl, hv⟩
      · exact ih h hw
    | @delete k v _ _ hk h =>
      have hne : k.same (.text a) ≠ true := by
        intro hsame
        rw [(Key.same_text_iff k a).mp hsame, hw] at hk
        exact Option.some_ne_none _ hk
      rw [find?_cons, if_neg hne]
      exact ih h hw

lemma Reduces.get (h : m.Reduces n) (a : String) :
    n.get (.text a) = .null ∨ (m.get (.text a)).Reduces (n.get (.text a)) := by
  rw [get_eq, get_eq]
  cases hw : n.find? (.text a) with
  | none => exact .inl rfl
  | some w =>
    obtain ⟨v, hv, hvw⟩ := h.find? hw
    rw [hv]
    exact .inr hvw

/-- Each entry that is left has the key of an entry that was there before. -/
lemma Reduces.exists_of_mem (h : m.Reduces n) {e : Key × Value} (he : e ∈ n) :
    ∃ v, (e.1, v) ∈ m ∧ v.Reduces e.2 := by
  induction m generalizing n with
  | nil =>
    cases h
    simp at he
  | cons d m ih =>
    have hrest {n : Fields} (h : Reduces m n) (he : e ∈ n) :
        ∃ v, (e.1, v) ∈ d :: m ∧ v.Reduces e.2 := by
      obtain ⟨v, hv, hvw⟩ := ih h he
      exact ⟨v, List.mem_cons_of_mem _ hv, hvw⟩
    cases h with
    | keep hv h =>
      rcases List.mem_cons.mp he with rfl | he
      · exact ⟨_, List.mem_cons_self, hv⟩
      · exact hrest h he
    | delete hk h => exact hrest h he

/-- The keys that are left are some of those that were there before, in their order. -/
lemma Reduces.keys (h : m.Reduces n) : (n.map (·.1)).Sublist (m.map (·.1)) := by
  induction m generalizing n with
  | nil =>
    cases h
    exact .slnil
  | cons e m ih =>
    cases h with
    | keep _ h => exact (ih h).cons_cons _
    | delete _ h => exact (ih h).cons _

end Fields

end LearningGame
