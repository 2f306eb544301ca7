import LearningGame.Log
import Mathlib.Data.List.Forall2

/-!
# Results of noted computations

When a computation that makes notes yields a result, and when it breaks off, step by step: joined
computations, lists of them, and computations taken over from elsewhere.
-/

/-- A changed reason is no result. -/
lemma Except.mapError_eq_ok {ε δ α : Type} (f : ε → δ) (x : Except ε α) (a : α) :
    x.mapError f = .ok a ↔ x = .ok a := by
  cases x <;> simp [Except.mapError]

lemma List.Forall₂.exists_of_mem_right {α β : Type} {r : α → β → Prop} {as : List α} {bs : List β}
    (h : List.Forall₂ r as bs) {b : β} (hb : b ∈ bs) : ∃ a ∈ as, r a b := by
  induction h with
  | nil => simp at hb
  | cons hab _ ih =>
    rcases List.mem_cons.mp hb with rfl | hb
    · exact ⟨_, List.mem_cons_self, hab⟩
    · obtain ⟨a, ha, har⟩ := ih hb
      exact ⟨a, List.mem_cons_of_mem _ ha, har⟩

/-- Elements that correspond do so with the numbers they are counted by. -/
lemma List.Forall₂.zipIdx {α β : Type} {r : α → β → Prop} {as : List α} {bs : List β}
    (h : List.Forall₂ r as bs) (start : Nat) :
    List.Forall₂ (fun a b => r a.1 b.1 ∧ a.2 = b.2) (as.zipIdx start) (bs.zipIdx start) := by
  induction h generalizing start with
  | nil => exact .nil
  | cons hab _ ih => exact .cons ⟨hab, rfl⟩ (ih (start + 1))

namespace LearningGame.Traced

variable {ε δ α β : Type}

@[simp] lemma result_ok (a : α) : (ok a : Traced ε α).result = .ok a := rfl

@[simp] lemma result_fail (e : ε) : (fail e : Traced ε α).result = .error e := rfl

@[simp] lemma result_mapError (f : ε → δ) (x : Traced ε α) :
    (x.mapError f).result = x.result.mapError f := rfl

lemma bind_eq_ok (x : Traced ε α) (f : α → Traced ε β) (b : β) :
    (x >>= f).result = .ok b ↔ ∃ a, x.result = .ok a ∧ (f a).result = .ok b := by
  rw [result_bind]
  cases x.result <;> simp [Except.bind]

lemma andThen_eq_ok (x : Traced ε α) (f : α → Traced ε β) (b : β) :
    (x.andThen f).result = .ok b ↔ ∃ a, x.result = .ok a ∧ (f a).result = .ok b :=
  bind_eq_ok x f b

lemma mapError_eq_ok (f : ε → δ) (x : Traced ε α) (a : α) :
    (x.mapError f).result = .ok a ↔ x.result = .ok a :=
  Except.mapError_eq_ok f x.result a

lemma traverse_map {γ : Type} (f : β → Traced ε γ) (g : α → β) (l : List α) :
    traverse f (l.map g) = traverse (fun a => f (g a)) l := by
  induction l with
  | nil => rfl
  | cons a l ih => rw [List.map_cons, traverse, traverse, ih]

/-- A computation that goes through a list yields the results for its elements. -/
lemma traverse_eq_ok (f : α → Traced ε β) (l : List α) (bs : List β) :
    (traverse f l).result = .ok bs ↔ List.Forall₂ (fun a b => (f a).result = .ok b) l bs := by
  induction l generalizing bs with
  | nil => simp [traverse, eq_comm]
  | cons a l ih =>
    rw [traverse, List.forall₂_cons_left_iff]
    simp only [andThen_eq_ok, ih, result_ok, Except.ok.injEq]
    constructor
    · rintro ⟨b, hb, cs, hcs, rfl⟩
      exact ⟨b, cs, hb, hcs, rfl⟩
    · rintro ⟨b, cs, hb, hcs, rfl⟩
      exact ⟨b, hb, cs, hcs, rfl⟩

/-- A computation that keeps what it yields for the elements of a list. -/
lemma filterMap_eq_ok (f : α → Traced ε (Option β)) (l : List α) (bs : List β) :
    (filterMap f l).result = .ok bs ↔
      ∃ os, List.Forall₂ (fun a o => (f a).result = .ok o) l os ∧ os.filterMap id = bs := by
  induction l generalizing bs with
  | nil => simp [filterMap]
  | cons a l ih =>
    rw [filterMap]
    simp only [andThen_eq_ok, ih, result_ok, Except.ok.injEq, List.forall₂_cons_left_iff]
    constructor
    · rintro ⟨o, ho, cs, ⟨os, hos, rfl⟩, rfl⟩
      exact ⟨o :: os, ⟨o, os, ho, hos, rfl⟩, by cases o <;> simp⟩
    · rintro ⟨-, ⟨o, os, ho, hos, rfl⟩, rfl⟩
      exact ⟨o, ho, _, ⟨os, hos, rfl⟩, by cases o <;> simp⟩

lemma exists_ok_of_isOk {x : Traced ε α} (h : x.result.isOk = true) : ∃ a, x.result = .ok a := by
  cases hx : x.result with
  | ok a => exact ⟨a, rfl⟩
  | error e => simp [hx, Except.isOk, Except.toBool] at h

lemma exists_ok_of_any {x : Traced ε α} {p : α → Bool} (h : x.result.toOption.any p = true) :
    ∃ a, x.result = .ok a ∧ p a = true := by
  cases hx : x.result with
  | ok a => exact ⟨a, rfl, by simpa [hx, Except.toOption] using h⟩
  | error e => simp [hx, Except.toOption] at h

/-! ### Breaking off -/

/-- Whether a computation breaks off. -/
def Breaks (x : Traced ε α) : Prop := ∃ e, x.result = .error e

@[simp] lemma not_breaks_pure (a : α) : ¬(pure a : Traced ε α).Breaks := by simp [Breaks]

@[simp] lemma not_breaks_ok (a : α) : ¬(ok a : Traced ε α).Breaks := by simp [Breaks]

@[simp] lemma not_breaks_note (level : Log.Level) (source message : String) :
    ¬(note level source message : Traced ε Unit).Breaks := by simp [Breaks]

lemma breaks_lift (r : Except ε α) : (lift r).Breaks ↔ ¬∃ a, r = .ok a := by
  cases r <;> simp [Breaks]

lemma breaks_bind (x : Traced ε α) (f : α → Traced ε β) :
    (x >>= f).Breaks ↔ x.Breaks ∨ ∃ a, x.result = .ok a ∧ (f a).Breaks := by
  unfold Breaks
  rw [result_bind]
  cases x.result <;> simp [Except.bind]

lemma breaks_andThen (x : Traced ε α) (f : α → Traced ε β) :
    (x.andThen f).Breaks ↔ x.Breaks ∨ ∃ a, x.result = .ok a ∧ (f a).Breaks :=
  breaks_bind x f

lemma exists_ok_of_not_breaks {x : Traced ε α} (h : ¬x.Breaks) : ∃ a, x.result = .ok a := by
  unfold Breaks at h
  cases hx : x.result with
  | ok a => exact ⟨a, rfl⟩
  | error e => exact absurd ⟨e, hx⟩ h

/-- Going through a list breaks off exactly if it does so at one of the elements. -/
lemma breaks_traverse (f : α → Traced ε β) (l : List α) :
    (traverse f l).Breaks ↔ ∃ a ∈ l, (f a).Breaks := by
  induction l with
  | nil => simp [traverse]
  | cons a l ih =>
    rw [traverse, breaks_andThen]
    simp only [breaks_andThen, ih, not_breaks_ok, and_false, exists_false, or_false,
      List.exists_mem_cons_iff]
    by_cases ha : (f a).Breaks
    · simp [ha]
    · obtain ⟨b, hb⟩ := exists_ok_of_not_breaks ha
      simp [hb]

lemma breaks_filterMap (f : α → Traced ε (Option β)) (l : List α) :
    (filterMap f l).Breaks ↔ ∃ a ∈ l, (f a).Breaks := by
  induction l with
  | nil => simp [filterMap]
  | cons a l ih =>
    rw [filterMap, breaks_andThen]
    simp only [breaks_andThen, ih, not_breaks_ok, and_false, exists_false, or_false,
      List.exists_mem_cons_iff]
    by_cases ha : (f a).Breaks
    · simp [ha]
    · obtain ⟨b, hb⟩ := exists_ok_of_not_breaks ha
      simp [hb]

end LearningGame.Traced
