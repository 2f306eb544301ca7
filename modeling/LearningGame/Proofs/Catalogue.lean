import LearningGame.Catalogue
import Mathlib.Data.List.Nodup
import Mathlib.Data.List.Perm.Subperm
import Mathlib.Tactic.Common

/-!
# Looking up in catalogues

What is found in a catalogue after something has been put in, and what stands in the catalogue of a
list of things.
-/

namespace LearningGame.Catalogue

variable {α : Type} {id : α → String} {things : List α}

lemma find?_cons (k : String) (a : α) (c : Catalogue α) (name : String) :
    find? ((k, a) :: c) name = if k = name then some a else c.find? name := by
  by_cases h : k = name
  · simp [find?, h]
  · simp [find?, h, List.lookup_cons, beq_false_of_ne (Ne.symm h)]

lemma find?_put (c : Catalogue α) (k : String) (a : α) (name : String) :
    (c.put k a).find? name = if k = name then some a else c.find? name := by
  induction c with
  | nil => rw [put, find?_cons]
  | cons e rest ih =>
    obtain ⟨l, b⟩ := e
    rw [put]
    by_cases hl : l = k
    · rw [if_pos (beq_iff_eq.2 hl), find?_cons, find?_cons, hl]
      split_ifs <;> rfl
    · rw [if_neg (by simpa using hl), find?_cons, find?_cons, ih]
      split_ifs with hln hkn
      · exact absurd (hln.trans hkn.symm) hl
      all_goals rfl

lemma mem_put {c : Catalogue α} {k : String} {a : α} {e : String × α} (he : e ∈ c.put k a) :
    e = (k, a) ∨ e ∈ c := by
  induction c with
  | nil => exact .inl (List.mem_singleton.1 he)
  | cons f rest ih =>
    obtain ⟨l, b⟩ := f
    rw [put] at he
    split_ifs at he with hl
    · rw [beq_iff_eq] at hl
      rcases List.mem_cons.1 he with rfl | he
      · exact .inl (by rw [hl])
      · exact .inr (List.mem_cons_of_mem _ he)
    · rcases List.mem_cons.1 he with rfl | he
      · exact .inr List.mem_cons_self
      · exact (ih he).imp_right (List.mem_cons_of_mem _)

lemma find?_erase (c : Catalogue α) (k name : String) :
    (c.erase k).find? name = if k = name then none else c.find? name := by
  induction c with
  | nil => exact (ite_self none).symm
  | cons e rest ih =>
    obtain ⟨l, b⟩ := e
    rw [find?_cons, erase, List.filter_cons]
    by_cases hl : l = k
    · rw [if_neg (by simpa using hl), hl]
      refine ih.trans ?_
      split_ifs <;> rfl
    · rw [if_pos (by simpa using hl), find?_cons]
      refine (if_congr Iff.rfl rfl ih).trans ?_
      split_ifs with hln hkn
      · exact absurd (hln.trans hkn.symm) hl
      all_goals rfl

lemma nodup_ids_put {c : Catalogue α} (h : c.ids.Nodup) (k : String) (a : α) :
    (c.put k a).ids.Nodup := by
  rw [ids_put]
  split_ifs with hmem
  · exact h
  · rw [← List.concat_eq_append]
    exact h.concat hmem

lemma nodup_ids_erase {c : Catalogue α} (h : c.ids.Nodup) (k : String) : (c.erase k).ids.Nodup :=
  h.sublist (List.filter_sublist.map _)

/-- In the catalogue of a list the things of the list stand under their own ids. -/
lemma mem_ofList {e : String × α} (he : e ∈ ofList id things) :
    e.1 = id e.2 ∧ e.2 ∈ things := by
  have hfold (xs : List α) (c : Catalogue α)
      (he : e ∈ xs.foldl (fun c a => c.put (id a) a) c) : e.1 = id e.2 ∧ e.2 ∈ xs ∨ e ∈ c := by
    induction xs generalizing c with
    | nil => exact .inr he
    | cons x xs ih =>
      rcases ih _ he with ⟨hid, hmem⟩ | hmem
      · exact .inl ⟨hid, List.mem_cons_of_mem _ hmem⟩
      · rcases mem_put hmem with rfl | hmem
        · exact .inl ⟨rfl, List.mem_cons_self⟩
        · exact .inr hmem
  exact (hfold things [] he).resolve_right List.not_mem_nil

lemma mem_of_find? {c : Catalogue α} {name : String} {a : α} (h : c.find? name = some a) :
    (name, a) ∈ c := by
  obtain ⟨before, after, hsplit, -⟩ := List.lookup_eq_some_iff.1 h
  rw [hsplit]
  exact List.mem_append_right _ List.mem_cons_self

lemma mem_of_find?_ofList {name : String} {a : α} (h : (ofList id things).find? name = some a) :
    a ∈ things :=
  (mem_ofList (mem_of_find? h)).2

lemma mem_ids_ofList {name : String} :
    name ∈ (ofList id things).ids ↔ name ∈ things.map id := by
  have hfold (xs : List α) (c : Catalogue α) :
      name ∈ (xs.foldl (fun c a => c.put (id a) a) c).ids ↔ name ∈ c.ids ∨ name ∈ xs.map id := by
    induction xs generalizing c with
    | nil => simp
    | cons x xs ih =>
      rw [List.foldl_cons, ih, ids_put, List.map_cons, List.mem_cons, ← or_assoc]
      refine or_congr_left ?_
      split_ifs with hmem
      · refine (or_iff_left_of_imp ?_).symm
        rintro rfl
        exact hmem
      · rw [List.mem_append, List.mem_singleton]
  exact (hfold things []).trans (or_iff_right List.not_mem_nil)

lemma nodup_ids_ofList : (ofList id things).ids.Nodup := by
  have hfold (xs : List α) (c : Catalogue α) (hc : c.ids.Nodup) :
      (xs.foldl (fun c a => c.put (id a) a) c).ids.Nodup := by
    induction xs generalizing c with
    | nil => exact hc
    | cons x xs ih => exact ih _ (nodup_ids_put hc _ _)
  exact hfold things [] List.nodup_nil

lemma length_ofList_le : (ofList id things).length ≤ things.length := by
  have hsubperm : (ofList id things).ids.Subperm (things.map id) :=
    List.subperm_of_subset nodup_ids_ofList fun _ => mem_ids_ofList.1
  simpa [ids] using hsubperm.length_le

lemma find?_of_mem {c : Catalogue α} (hc : c.ids.Nodup) {e : String × α} (he : e ∈ c) :
    c.find? e.1 = some e.2 := by
  induction c with
  | nil => exact absurd he List.not_mem_nil
  | cons f rest ih =>
    obtain ⟨l, b⟩ := f
    obtain ⟨hnew, hrest⟩ := List.nodup_cons.1 hc
    rw [find?_cons]
    rcases List.mem_cons.1 he with rfl | he
    · rw [if_pos rfl]
    · have hne : l ≠ e.1 := fun h => hnew (by
        show l ∈ rest.map (·.1)
        rw [h]
        exact List.mem_map_of_mem he)
      rw [if_neg hne, ih hrest he]

lemma has_ofList_iff {name : String} :
    (ofList id things).has name = true ↔ name ∈ things.map id := by
  rw [← mem_ids_ofList, has, Option.isSome_iff_exists]
  constructor
  · rintro ⟨a, ha⟩
    exact List.mem_map_of_mem (mem_of_find? ha)
  · intro h
    obtain ⟨e, he, rfl⟩ := List.mem_map.1 h
    exact ⟨e.2, find?_of_mem nodup_ids_ofList he⟩

lemma isEmpty_ofList : (ofList id things).isEmpty = things.isEmpty := by
  cases things with
  | nil => rfl
  | cons a rest =>
    have hmem : id a ∈ (ofList id (a :: rest)).ids :=
      mem_ids_ofList.2 (List.mem_map_of_mem List.mem_cons_self)
    have hne : ofList id (a :: rest) ≠ [] := fun hnil => by simp [hnil, ids] at hmem
    simpa using hne

lemma has_ofList_of_mem {name : String} (h : things ≠ [] → name ∈ things.map id) :
    (ofList id things).has name = !things.isEmpty := by
  cases things with
  | nil => rfl
  | cons a rest => exact has_ofList_iff.2 (h (List.cons_ne_nil a rest))

/-- Ids of some of the things are the ids of all of them if they are as many as there are. -/
lemma length_ofList_le_iff {names : List String} (hnodup : names.Nodup)
    (hsubset : names ⊆ things.map id) :
    (ofList id things).length ≤ names.length ↔ ∀ a ∈ things, id a ∈ names := by
  rw [show (ofList id things).length = (ofList id things).ids.length from (List.length_map ..).symm]
  constructor
  · intro hlength a ha
    have hsubperm : names.Subperm (ofList id things).ids :=
      List.subperm_of_subset hnodup fun name hname => mem_ids_ofList.2 (hsubset hname)
    exact (hsubperm.perm_of_length_le hlength).mem_iff.2
      (mem_ids_ofList.2 (List.mem_map_of_mem ha))
  · intro hall
    refine (List.subperm_of_subset nodup_ids_ofList fun name hname => ?_).length_le
    obtain ⟨a, ha, rfl⟩ := List.mem_map.1 (mem_ids_ofList.1 hname)
    exact hall a ha

end LearningGame.Catalogue
