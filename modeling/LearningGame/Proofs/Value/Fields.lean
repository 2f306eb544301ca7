import LearningGame.Value.Fields
import Mathlib.Tactic.Common

/-!
# Entries of a map

What looking up finds after putting in, joining and filtering entries. Documents name their entries
by texts, so the keys looked up here are texts, while the maps may hold keys of any kind.
-/

namespace LearningGame

/-- Only a text names the same entry as a text. -/
@[simp] lemma Key.same_text_iff (k : Key) (s : String) : k.same (.text s) = true ↔ k = .text s := by
  cases k <;> simp [Key.same, Key.toValue, Value.number?]

lemma Key.same_text (s t : String) : (Key.text s).same (.text t) = decide (s = t) := by
  by_cases h : s = t
  · simp [h]
  · have hne : (Key.text s).same (.text t) ≠ true := fun hs =>
      h (Key.text.inj ((same_text_iff _ t).mp hs))
    rw [Bool.eq_false_iff.mpr hne, decide_eq_false h]

namespace Fields

variable {m n : Fields} {v w : Value} {a b : String}

/-! ### Looking up -/

@[simp] lemma find?_nil (k : Key) : find? [] k = none := rfl

lemma find?_cons (e : Key × Value) (m : Fields) (k : Key) :
    find? (e :: m) k = if e.1.same k then some e.2 else find? m k := by
  unfold find?
  rw [List.find?_cons]
  cases e.1.same k <;> rfl

@[simp] lemma find?_cons_text (a b : String) (v : Value) (m : Fields) :
    find? ((.text a, v) :: m) (.text b) = if a = b then some v else find? m (.text b) := by
  rw [find?_cons, Key.same_text]
  simp

@[simp] lemma find?_append (m n : Fields) (k : Key) :
    find? (m ++ n) k = (find? m k).or (find? n k) := by
  induction m with
  | nil => rfl
  | cons e m ih =>
    rw [List.cons_append, find?_cons, find?_cons, ih]
    split <;> rfl

lemma mem_of_find? (h : find? m (.text a) = some v) : (.text a, v) ∈ m := by
  obtain ⟨e, he, rfl⟩ := Option.map_eq_some_iff.mp h
  have hk : e.1 = .text a := by simpa using List.find?_some he
  rw [← hk]
  exact List.mem_of_find?_eq_some he

lemma get_eq (m : Fields) (k : Key) : m.get k = (m.find? k).getD .null := rfl

lemma get_of_find? (h : find? m (.text a) = some v) : m.get (.text a) = v := by
  rw [get_eq, h]
  rfl

/-- Whatever is looked up and is not null is found. -/
lemma find?_of_get {k : Key} (h : m.get k = v) (hv : v ≠ .null) : m.find? k = some v := by
  rw [get_eq] at h
  cases hfind : m.find? k with
  | none => exact absurd (by rw [← h, hfind, Option.getD_none]) hv
  | some w => rw [← h, hfind, Option.getD_some]

lemma getD_eq (m : Fields) (k : Key) (d : Value) : m.getD k d = (m.find? k).getD d := rfl

/-! ### Putting in -/

@[simp] lemma find?_put (m : Fields) (a b : String) (v : Value) :
    find? (m.put (.text a) v) (.text b) = if a = b then some v else find? m (.text b) := by
  induction m with
  | nil => simp [put]
  | cons e m ih =>
    obtain ⟨k, w⟩ := e
    rw [put]
    by_cases hk : k.same (.text a) = true
    · rw [if_pos hk, (Key.same_text_iff k a).mp hk]
      simp only [find?_cons_text]
      split <;> rfl
    · rw [if_neg hk, find?_cons, ih, find?_cons]
      by_cases hab : a = b
      · subst hab
        simp [hk]
      · simp [hab]

@[simp] lemma get_put (m : Fields) (a b : String) (v : Value) :
    (m.put (.text a) v).get (.text b) = if a = b then v else m.get (.text b) := by
  rw [get_eq, find?_put]
  split_ifs <;> rfl

/-- Putting in what is there changes nothing. -/
lemma put_of_find? (h : find? m (.text a) = some v) : m.put (.text a) v = m := by
  induction m with
  | nil => simp at h
  | cons e m ih =>
    obtain ⟨k, w⟩ := e
    rw [find?_cons] at h
    rw [put]
    split_ifs at h ⊢ with hk
    · cases h
      rfl
    · rw [ih h]

/-- Of two values put in one after the other the second counts. -/
@[simp] lemma put_put (m : Fields) (a : String) (v w : Value) :
    (m.put (.text a) v).put (.text a) w = m.put (.text a) w := by
  induction m with
  | nil => simp [put, Key.same_text]
  | cons e m ih =>
    obtain ⟨k, x⟩ := e
    by_cases hk : k.same (.text a) = true
    · simp [put, hk]
    · simp [put, hk, ih]

@[simp] lemma find?_putNew (m : Fields) (a b : String) (v : Value) :
    find? (m.putNew (.text a) v) (.text b) =
      if a = b then some ((m.find? (.text a)).getD v) else find? m (.text b) := by
  unfold putNew has
  by_cases hab : a = b
  · subst hab
    cases h : find? m (.text a) <;> simp [h]
  · cases find? m (.text a) <;> simp [hab]

lemma putNew_of_find? (h : find? m (.text a) = some v) : m.putNew (.text a) w = m := by
  simp [putNew, has, h]

/-! ### Records -/

/-- Entries named by texts, no two by the same one. -/
def IsRecord (m : Fields) : Prop := ∃ names : List String, names.Nodup ∧ m.map (·.1) = names.map .text

@[simp] lemma isRecord_nil : IsRecord [] := ⟨[], List.nodup_nil, rfl⟩

lemma isRecord_cons (e : Key × Value) (m : Fields) :
    IsRecord (e :: m) ↔ ∃ a, e.1 = .text a ∧ find? m (.text a) = none ∧ IsRecord m := by
  constructor
  · rintro ⟨_ | ⟨a, names⟩, hn, hm⟩
    · simp at hm
    · simp only [List.map_cons, List.cons.injEq] at hm
      refine ⟨a, hm.1, ?_, names, hn.of_cons, hm.2⟩
      by_contra hf
      obtain ⟨v, hv⟩ := Option.ne_none_iff_exists'.mp hf
      have : Key.text a ∈ m.map (·.1) := List.mem_map.mpr ⟨_, mem_of_find? hv, rfl⟩
      rw [hm.2, List.mem_map] at this
      obtain ⟨b, hb, hab⟩ := this
      cases hab
      exact (List.nodup_cons.mp hn).1 hb
  · rintro ⟨a, ha, hf, names, hn, hm⟩
    refine ⟨a :: names, List.nodup_cons.mpr ⟨fun hmem => ?_, hn⟩, by simp [ha, hm]⟩
    have : Key.text a ∈ m.map (·.1) := hm ▸ List.mem_map_of_mem hmem
    obtain ⟨⟨k, v⟩, hkv, rfl : k = .text a⟩ := List.mem_map.mp this
    unfold find? at hf
    rw [Option.map_eq_none_iff, List.find?_eq_none] at hf
    exact hf _ hkv (by simp)

lemma IsRecord.find?_of_mem (h : IsRecord m) (hm : (.text a, v) ∈ m) :
    find? m (.text a) = some v := by
  induction m with
  | nil => simp at hm
  | cons e m ih =>
    obtain ⟨b, hb, hf, hr⟩ := (isRecord_cons e m).mp h
    obtain ⟨k, w⟩ := e
    cases hb
    rcases List.mem_cons.mp hm with heq | hmem
    · cases heq
      simp
    · have hne : b ≠ a := by
        rintro rfl
        rw [ih hr hmem] at hf
        exact Option.some_ne_none _ hf
      simpa [hne] using ih hr hmem

lemma IsRecord.put (h : IsRecord m) (a : String) (v : Value) : IsRecord (m.put (.text a) v) := by
  induction m with
  | nil => exact ⟨[a], by simp, rfl⟩
  | cons e m ih =>
    obtain ⟨b, hb, hf, hr⟩ := (isRecord_cons e m).mp h
    obtain ⟨k, w⟩ := e
    cases hb
    rw [Fields.put, Key.same_text]
    by_cases hab : b = a
    · simpa [hab, isRecord_cons, hr] using hab ▸ hf
    · simpa [hab, isRecord_cons, ih hr, Ne.symm hab] using hf

lemma IsRecord.filter (h : IsRecord m) (p : Key × Value → Bool) : IsRecord (List.filter p m) := by
  induction m with
  | nil => exact h
  | cons e m ih =>
    obtain ⟨a, ha, hf, hr⟩ := (isRecord_cons e m).mp h
    rw [List.filter_cons]
    split
    · refine (isRecord_cons _ _).mpr ⟨a, ha, ?_, ih hr⟩
      by_contra hne
      obtain ⟨v, hv⟩ := Option.ne_none_iff_exists'.mp hne
      have hmem := (List.mem_filter.mp (mem_of_find? hv)).1
      rw [hr.find?_of_mem hmem] at hf
      exact Option.some_ne_none _ hf
    · exact ih hr

lemma IsRecord.dropNulls (h : IsRecord m) : IsRecord (dropNulls m) := h.filter _

/-- Of the entries of a record those that are not null stay. -/
lemma IsRecord.find?_dropNulls (h : IsRecord m) (a : String) :
    (Fields.dropNulls m).find? (.text a) = (m.find? (.text a)).filter fun v => !v.isNull := by
  induction m with
  | nil => rfl
  | cons e m ih =>
    obtain ⟨b, hb, hf, hr⟩ := (isRecord_cons e m).mp h
    obtain ⟨k, w⟩ := e
    cases hb
    simp only [Fields.dropNulls] at ih ⊢
    rw [List.filter_cons]
    by_cases hab : b = a
    · subst hab
      cases hw : w.isNull <;> simp [hw, ih hr, hf, Option.filter]
    · cases hw : w.isNull <;> simp [hab, ih hr]

/-- Of two entries with one name the one put in later counts. -/
lemma find?_putAll (m : Fields) (h : IsRecord n) (a : String) :
    (m.putAll n).find? (.text a) = (n.find? (.text a)).or (m.find? (.text a)) := by
  induction n generalizing m with
  | nil => rfl
  | cons e n ih =>
    obtain ⟨b, hb, hf, hr⟩ := (isRecord_cons e n).mp h
    obtain ⟨k, w⟩ := e
    cases hb
    rw [putAll, List.foldl_cons]
    have := ih (m.put (.text b) w) hr
    rw [putAll] at this
    rw [this, find?_put, find?_cons_text]
    by_cases hab : b = a
    · subst hab
      simp [hf]
    · simp [hab]

/-! ### Keys of any kind -/

section

variable {P : Key → Prop} {k : Key}

/-- A new entry goes to the end. -/
lemma put_of_find?_eq_none (h : find? m k = none) : m.put k v = m ++ [(k, v)] := by
  induction m with
  | nil => rfl
  | cons e m ih =>
    obtain ⟨j, w⟩ := e
    rw [find?_cons] at h
    split_ifs at h with hj
    rw [put, if_neg hj, ih h, List.cons_append]

lemma forall_keys_put (hm : ∀ e ∈ m, P e.1) (hk : P k) : ∀ e ∈ m.put k v, P e.1 := by
  induction m with
  | nil => simpa [put] using hk
  | cons e m ih =>
    obtain ⟨j, w⟩ := e
    have hrest : ∀ e ∈ m, P e.1 := fun e he => hm e (List.mem_cons_of_mem _ he)
    have hj : P j := hm (j, w) List.mem_cons_self
    rw [put]
    split_ifs
    · exact List.forall_mem_cons.2 ⟨hj, hrest⟩
    · exact List.forall_mem_cons.2 ⟨hj, ih hrest⟩

lemma forall_keys_putAll (hm : ∀ e ∈ m, P e.1) (hn : ∀ e ∈ n, P e.1) :
    ∀ e ∈ m.putAll n, P e.1 := by
  induction n generalizing m with
  | nil => exact hm
  | cons e n ih =>
    exact ih (forall_keys_put hm (hn e List.mem_cons_self))
      fun e he => hn e (List.mem_cons_of_mem _ he)

/-- No two entries have the same key. -/
def IsDistinct (m : Fields) : Prop := m.Pairwise fun a b => a.1.same b.1 = false

lemma IsDistinct.put (h : m.IsDistinct) (k : Key) (v : Value) : (m.put k v).IsDistinct := by
  induction m with
  | nil => exact List.pairwise_singleton _ _
  | cons e m ih =>
    obtain ⟨j, w⟩ := e
    obtain ⟨hj, hrest⟩ := List.pairwise_cons.1 h
    rw [Fields.put]
    split_ifs with hsame
    · exact List.pairwise_cons.2 ⟨hj, hrest⟩
    · rw [Bool.not_eq_true] at hsame
      exact List.pairwise_cons.2
        ⟨forall_keys_put (P := fun l => j.same l = false) hj hsame, ih hrest⟩

lemma IsDistinct.putAll (h : m.IsDistinct) (n : Fields) : (m.putAll n).IsDistinct := by
  induction n generalizing m with
  | nil => exact h
  | cons e n ih => exact ih (h.put e.1 e.2)

/-- Distinct keys that are texts name the entries of a record. -/
lemma IsDistinct.isRecord (h : m.IsDistinct) (hm : ∀ e ∈ m, ∃ a : String, e.1 = .text a) :
    IsRecord m := by
  induction m with
  | nil => exact isRecord_nil
  | cons e m ih =>
    obtain ⟨he, hrest⟩ := List.pairwise_cons.1 h
    obtain ⟨a, ha⟩ := hm e List.mem_cons_self
    refine (isRecord_cons e m).2 ⟨a, ha, ?_, ih hrest fun e he => hm e (List.mem_cons_of_mem _ he)⟩
    by_contra hfound
    obtain ⟨w, hw⟩ := Option.ne_none_iff_exists'.1 hfound
    have hsame := he _ (mem_of_find? hw)
    rw [ha, Key.same_text] at hsame
    simp at hsame

lemma IsRecord.exists_text (h : IsRecord m) : ∀ e ∈ m, ∃ a : String, e.1 = .text a := by
  obtain ⟨names, -, hnames⟩ := h
  intro e he
  have hmem : e.1 ∈ names.map Key.text := hnames ▸ List.mem_map_of_mem he
  obtain ⟨a, -, ha⟩ := List.mem_map.1 hmem
  exact ⟨a, ha.symm⟩

end

end Fields

end LearningGame
