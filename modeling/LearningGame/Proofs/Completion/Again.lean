import LearningGame.Proofs.Completion.Entries
import LearningGame.Proofs.Schema.Writing

/-!
# Filling entries again

Entries that have their texts and numbers already are left as they are, and so are lists of them.
What is filled once more is what has been written of data that were read from filled entries.
-/

namespace LearningGame

lemma Value.text_ne_empty {v : Value} (h : v.truthy = true) : v.text ≠ "" := by
  intro ht
  have hblank : Text.isBlankText v.text = true := by rw [ht]; rfl
  cases v with
  | str s =>
    change s = "" at ht
    simp [truthy, ht] at h
  | _ => simp [text, isBlankText_quoted] at hblank

namespace Completion

open Schema

variable {m : Fields} {key : String}

/-! ### Single entries -/

lemma fillId_of_find? {s : String} (h : m.find? "id" = some (.str s))
    (hs : Text.isBlankText s = false) (fallback : String) : fillId m fallback = m := by
  unfold fillId idOf
  rw [Fields.get_eq, h]
  simp only [Option.getD_some, hs, Bool.false_eq_true, if_false]
  exact Fields.put_of_find? h

lemma isBlankText_idOf_append (m : Fields) {word : String} (h : Text.isBlankText word = false)
    (s : String) : Text.isBlankText (idOf m (word ++ s)) = false :=
  isBlankText_idOf m (Text.isBlankText_append_left s h)

/-- Entries with an id that is not blank. -/
def HasId (m : Fields) : Prop :=
  ∃ id, m.find? "id" = some (.str id) ∧ Text.isBlankText id = false

lemma hasId_fillId (m : Fields) (word s : String) (h : Text.isBlankText word = false) :
    HasId (fillId m (word ++ s)) :=
  ⟨_, find?_fillId_id m _, isBlankText_idOf_append m h s⟩

lemma HasId.put (h : HasId m) (hkey : key ≠ "id") (v : Value) : HasId (m.put key v) := by
  obtain ⟨id, hid, hblank⟩ := h
  exact ⟨id, by rw [Fields.find?_put, if_neg hkey, hid], hblank⟩

lemma HasId.isBlankText {id : String} (h : HasId m)
    (hid : ∀ s, m.find? "id" = some (.str s) → s = id) : Text.isBlankText id = false := by
  obtain ⟨s, hs, hblank⟩ := h
  exact hid s hs ▸ hblank

lemma fillText_of_find? {s : String} (h : m.find? (.text key) = some (.str s)) :
    fillText m key = m := by
  unfold fillText
  rw [textAt_of_find? h]
  exact Fields.put_of_find? h

lemma someTextAt_of_find? {s : String} (h : m.find? (.text key) = some (.str s)) :
    someTextAt m key = s := by
  unfold someTextAt Value.orElse Value.truthy
  rw [Fields.get_eq, h]
  by_cases hs : s = "" <;> simp [hs, Value.text]

lemma fillSomeText_of_find? {s : String} (h : m.find? (.text key) = some (.str s)) :
    fillSomeText m key = m := by
  unfold fillSomeText
  rw [someTextAt_of_find? h]
  exact Fields.put_of_find? h

lemma fillWhole_of_find? {n : Int} (h : m.find? (.text key) = some (.int n)) (default : Int) :
    (fillWhole m key default).result = .ok m := by
  rw [fillWhole_eq_ok]
  refine ⟨n, ?_, Fields.put_of_find? h⟩
  rw [Fields.get_eq, h]
  rfl

lemma orElse_of_truthy {v : Value} (h : v.truthy = true) (other : Value) : v.orElse other = v := by
  simp [Value.orElse, h]

lemma orElse_str {s : String} (h : s ≠ "") (other : Value) : (Value.str s).orElse other = .str s :=
  orElse_of_truthy (by simp [Value.truthy, h]) other

lemma truthy_orElse (v other : Value) (h : other.truthy = true) :
    (v.orElse other).truthy = true := by
  unfold Value.orElse
  split_ifs with hv
  · exact hv
  · exact h

/-- A text that stands in for what counts as false is not empty. -/
lemma ne_empty_of_orElse {v : Value} {default s : String} (hdefault : default ≠ "")
    (h : v.orElse (.str default) = .str s) : s ≠ "" := by
  have htruthy := truthy_orElse v (.str default) (by simp [Value.truthy, hdefault])
  rw [h] at htruthy
  simpa [Value.truthy] using htruthy

/-- A value that is put in unless there is one that counts as true leaves one that does. -/
lemma exists_truthy_of_put (m : Fields) (key : String) {v : Value} (hv : v.truthy = true) :
    ∃ w, Fields.find? (if (m.get key).truthy then m else m.put key v) key = some w ∧
      w.truthy = true := by
  split_ifs with h
  · rw [Fields.get_eq] at h
    cases hfind : m.find? (.text key) with
    | none =>
      rw [hfind] at h
      cases h
    | some w =>
      rw [hfind] at h
      exact ⟨w, rfl, h⟩
  · exact ⟨v, by simp, hv⟩

/-! ### Lists -/

lemma mem_of_objects {what : String} {v : Value} {ms : List Fields}
    (h : (objects what v).result = .ok ms) (hm : m ∈ ms) : .map m ∈ v.items := by
  obtain ⟨os, hos, rfl⟩ := (Traced.filterMap_eq_ok _ _ _).mp h
  obtain ⟨o, ho, hom⟩ := List.mem_filterMap.mp hm
  obtain ⟨w, hw, hwo⟩ := hos.exists_of_mem_right ho
  cases w with
  | map n =>
    cases hwo
    cases hom
    exact hw
  | _ =>
    cases hwo
    cases hom

lemma objects_mapList (what : String) (ms : List Fields) :
    (objects what (mapList ms)).result = .ok ms := by
  refine (Traced.filterMap_eq_ok _ _ _).mpr ⟨ms.map some, ?_, by simp⟩
  show List.Forall₂ _ (ms.map Value.map) _
  rw [List.forall₂_map_left_iff, List.forall₂_map_right_iff, List.forall₂_same]
  exact fun _ _ => rfl

lemma objects_of_find? {ms : List Fields} (h : m.find? (.text key) = some (mapList ms))
    (what : String) : (objects what (m.get key)).result = .ok ms := by
  rw [Fields.get_eq, h]
  exact objects_mapList what ms

section Numbered

variable {ε α β γ : Type} {l : List α} {as : List γ} {w : γ → α} {g : γ → β}

/-- What is made of counted elements is made of the elements, whatever their numbers. -/
lemma map_zipIdx_of {f : α → Nat → β} (h : ∀ a ∈ as, ∀ n, f (w a) n = g a) (start : Nat) :
    ((as.map w).zipIdx start).map (fun e => f e.1 e.2) = as.map g := by
  calc ((as.map w).zipIdx start).map (fun e => f e.1 e.2)
      = (as.zipIdx start).map (fun e => f (w e.1) e.2) := by
        rw [List.zipIdx_map, List.map_map]
        rfl
    _ = (as.zipIdx start).map (g ∘ Prod.fst) :=
        List.map_congr_left fun e he => h e.1 (List.fst_mem_of_mem_zipIdx he) e.2
    _ = ((as.zipIdx start).map Prod.fst).map g := List.map_map.symm
    _ = as.map g := by rw [List.zipIdx_map_fst]

lemma map_numbered {f : α → Nat → β} (h : ∀ a ∈ as, ∀ n, f (w a) n = g a) :
    (numbered (as.map w)).map (fun e => f e.1 e.2) = as.map g :=
  map_zipIdx_of h 1

lemma exists_of_mem_map_numbered {g : α → Nat → β} {b : β}
    (h : b ∈ (numbered l).map fun e => g e.1 e.2) : ∃ a ∈ l, ∃ n, g a n = b := by
  obtain ⟨e, he, rfl⟩ := List.mem_map.mp h
  exact ⟨e.1, List.fst_mem_of_mem_zipIdx he, e.2, rfl⟩

lemma forall₂_numbered {f : α → Nat → Traced ε β}
    (h : ∀ a ∈ as, ∀ n, (f (w a) n).result = .ok (g a)) :
    List.Forall₂ (fun e b => (f e.1 e.2).result = .ok b) (numbered (as.map w)) (as.map g) := by
  have hg : as.map g = (numbered as).map fun e => g e.1 := by
    rw [numbered, ← List.zipIdx_map_fst 1 as, List.map_map, List.zipIdx_map_fst]
    rfl
  rw [hg, numbered, List.zipIdx_map, List.forall₂_map_left_iff, numbered,
    List.forall₂_map_right_iff, List.forall₂_same]
  exact fun e he => h e.1 (List.fst_mem_of_mem_zipIdx he) e.2

lemma traverse_numbered {f : α → Nat → Traced ε β}
    (h : ∀ a ∈ as, ∀ n, (f (w a) n).result = .ok (g a)) :
    (Traced.traverse (fun e => f e.1 e.2) (numbered (as.map w))).result = .ok (as.map g) :=
  (Traced.traverse_eq_ok _ _ _).mpr (forall₂_numbered h)

lemma exists_of_mem_traverse {f : α → Nat → Traced ε β} {bs : List β}
    (h : (Traced.traverse (fun e => f e.1 e.2) (numbered l)).result = .ok bs) {b : β}
    (hb : b ∈ bs) : ∃ a ∈ l, ∃ n, (f a n).result = .ok b := by
  obtain ⟨e, he, hf⟩ := ((Traced.traverse_eq_ok _ _ _).mp h).exists_of_mem_right hb
  exact ⟨e.1, List.fst_mem_of_mem_zipIdx he, e.2, hf⟩

lemma filterMap_numbered {f : α → Nat → Traced ε (Option β)}
    (h : ∀ a ∈ as, ∀ n, (f (w a) n).result = .ok (some (g a))) :
    (Traced.filterMap (fun e => f e.1 e.2) (numbered (as.map w))).result = .ok (as.map g) :=
  (Traced.filterMap_eq_ok _ _ _).mpr ⟨as.map fun a => some (g a), forall₂_numbered h, by simp⟩

lemma exists_of_mem_filterMap {f : α → Traced ε (Option β)} {bs : List β}
    (h : (Traced.filterMap f l).result = .ok bs) {b : β} (hb : b ∈ bs) :
    ∃ a ∈ l, (f a).result = .ok (some b) := by
  obtain ⟨os, hos, rfl⟩ := (Traced.filterMap_eq_ok _ _ _).mp h
  obtain ⟨o, ho, rfl⟩ := List.mem_filterMap.mp hb
  exact hos.exists_of_mem_right ho

end Numbered

/-! ### Finite documents -/

section Finite

lemma isFinite_orElse {v w : Value} (hv : v.IsFinite) (hw : w.IsFinite) :
    (v.orElse w).IsFinite := by
  unfold Value.orElse
  split_ifs
  · exact hv
  · exact hw

lemma isFinite_fillId (h : m.IsFinite) (fallback : String) : (fillId m fallback).IsFinite :=
  h.put (.str _)

lemma isFinite_fillText (h : m.IsFinite) (key : String) : (fillText m key).IsFinite :=
  h.put (.str _)

lemma isFinite_fillSomeText (h : m.IsFinite) (key : String) : (fillSomeText m key).IsFinite :=
  h.put (.str _)

lemma isFinite_mapList {ms : List Fields} (h : ∀ m ∈ ms, m.IsFinite) : (mapList ms).IsFinite := by
  refine (Value.isDocumentOf_list _).mpr fun v hv => ?_
  obtain ⟨m, hm, rfl⟩ := List.mem_map.mp hv
  exact (Value.isDocumentOf_map m).mpr (h m hm)

lemma isFinite_of_objects {what : String} {v : Value} {ms : List Fields} (hv : v.IsFinite)
    (h : (objects what v).result = .ok ms) : ∀ m ∈ ms, m.IsFinite := fun m hm =>
  (Value.isDocumentOf_map m).mp (hv.items _ (mem_of_objects h hm))

end Finite

/-! ### Reading what has been filled -/

section Reading

variable {ρ : Type} {c : Codec ρ}

lemma exists_of_read_mapList {ms : List Fields} {as : List ρ}
    (h : c.list.read (mapList ms) = .valid as) {a : ρ} (ha : a ∈ as) :
    ∃ m ∈ ms, c.read (.map m) = .valid a := by
  obtain ⟨items, hitems, hall⟩ := (Codec.read_list_eq_valid c _ as).mp h
  cases hitems
  obtain ⟨v, hv, hread⟩ := hall.exists_of_mem_right ha
  obtain ⟨m, hm, rfl⟩ := List.mem_map.mp hv
  exact ⟨m, hm, hread⟩

lemma read_mapList {as : List ρ} {w : ρ → Fields} {g : ρ → ρ}
    (h : ∀ a ∈ as, c.read (.map (w a)) = .valid (g a)) :
    c.list.read (mapList (as.map w)) = .valid (as.map g) := by
  refine (Codec.read_list_eq_valid c _ _).mpr ⟨_, rfl, ?_⟩
  simp only [List.forall₂_map_left_iff, List.forall₂_map_right_iff, List.forall₂_same]
  exact h

/-- Filled entries are read with the ids that they have. -/
lemma ids_of_read {ms : List Fields} {as : List ρ} {k : ρ → String}
    (h : c.list.read (mapList ms) = .valid as)
    (hid : ∀ m ∈ ms, ∀ a, c.read (.map m) = .valid a → m.find? "id" = some (.str (k a))) :
    (ms.map fun m => textAt m "id") = as.map k := by
  obtain ⟨items, hitems, hall⟩ := (Codec.read_list_eq_valid c _ as).mp h
  cases hitems
  rw [List.forall₂_map_left_iff] at hall
  rw [← List.forall₂_eq_eq_eq, List.forall₂_map_left_iff, List.forall₂_map_right_iff]
  exact (List.forall₂_and_left _ _ |>.mpr ⟨fun m hm => hm, hall⟩).imp fun m a hma =>
    textAt_of_find? (hid m hma.1 a hma.2)

/-- Entries that have ids and are finite are read as data with ids that are restored. -/
lemma of_read_hasId {ms : List Fields} {as : List ρ} {k : ρ → String} {g : ρ → ρ}
    (h : c.list.read (mapList ms) = .valid as) (hms : ∀ m ∈ ms, m.IsFinite ∧ HasId m)
    (hk : ∀ {m : Fields} {a}, c.read (.map m) = .valid a →
      ∀ {s}, m.find? "id" = some (.str s) → s = k a)
    (hc : c.IsSound g) :
    (∀ a ∈ as, Text.isBlankText (k a) = false) ∧ c.list.Restores as (as.map g) := by
  refine ⟨fun a ha => ?_, hc.list _ as (isFinite_mapList fun m hm => (hms m hm).1) h⟩
  obtain ⟨m, hm, hread⟩ := exists_of_read_mapList h ha
  exact (hms m hm).2.isBlankText fun s hs => hk hread hs

lemma write_list_eq (hc : ∀ a, c.write false a = .map (c.written a)) (as : List ρ) :
    c.list.write false as = mapList (as.map c.written) := by
  show Value.list _ = Value.list _
  rw [List.map_map]
  exact congrArg Value.list (List.map_congr_left fun a _ => hc a)

end Reading

end Completion

end LearningGame
