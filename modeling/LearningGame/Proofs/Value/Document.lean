import LearningGame.Proofs.Value.Fields
import LearningGame.Proofs.Number.Float
import LearningGame.Json.Reader

/-!
# Documents

A document names the entries of its maps by texts, no two of one map by the same text. Whatever the
reader reads is such a document. A document whose floats are finite equals itself.
-/

namespace LearningGame

/-- A document with floats of a given kind only. -/
inductive Value.IsDocumentOf (p : Float → Prop) : Value → Prop where
  | null : IsDocumentOf p .null
  | bool (b : Bool) : IsDocumentOf p (.bool b)
  | int (n : Int) : IsDocumentOf p (.int n)
  | float {x : Float} (h : p x) : IsDocumentOf p (.float x)
  | str (s : String) : IsDocumentOf p (.str s)
  | list {items : List Value} (h : ∀ v ∈ items, IsDocumentOf p v) : IsDocumentOf p (.list items)
  | map {m : Fields} (hm : Fields.IsRecord m) (h : ∀ e ∈ m, IsDocumentOf p e.2) :
    IsDocumentOf p (.map m)

/-- A document with floats of any kind. -/
abbrev Value.IsDocument (v : Value) : Prop := v.IsDocumentOf fun _ => True

/-- A document with finite floats only. -/
abbrev Value.IsFinite (v : Value) : Prop := v.IsDocumentOf (·.isFinite = true)

/-- Entries of a document. -/
def Fields.IsDocumentOf (p : Float → Prop) (m : Fields) : Prop :=
  IsRecord m ∧ ∀ e ∈ m, e.2.IsDocumentOf p

/-- Entries of a document with finite floats only. -/
abbrev Fields.IsFinite (m : Fields) : Prop := m.IsDocumentOf (·.isFinite = true)

/-- Entries that are documents of finite floats wherever a text names them. -/
def Fields.ShowsFinite (m : Fields) : Prop := ∀ a v, m.find? (.text a) = some v → v.IsFinite

namespace Value

variable {p : Float → Prop}

@[simp] lemma isDocumentOf_null : IsDocumentOf p .null := .null

@[simp] lemma isDocumentOf_bool (b : Bool) : IsDocumentOf p (.bool b) := .bool b

@[simp] lemma isDocumentOf_int (n : Int) : IsDocumentOf p (.int n) := .int n

@[simp] lemma isDocumentOf_float (x : Float) : IsDocumentOf p (.float x) ↔ p x :=
  ⟨fun h => by cases h; assumption, .float⟩

@[simp] lemma isDocumentOf_str (s : String) : IsDocumentOf p (.str s) := .str s

@[simp] lemma isDocumentOf_list (items : List Value) :
    IsDocumentOf p (.list items) ↔ ∀ v ∈ items, v.IsDocumentOf p :=
  ⟨fun h => by cases h; assumption, .list⟩

@[simp] lemma isDocumentOf_map (m : Fields) : IsDocumentOf p (.map m) ↔ m.IsDocumentOf p :=
  ⟨fun h => by cases h with | map hm h => exact ⟨hm, h⟩, fun h => .map h.1 h.2⟩

lemma IsDocumentOf.items {v : Value} (h : v.IsDocumentOf p) : ∀ w ∈ v.items, w.IsDocumentOf p := by
  cases h with
  | list h => exact h
  | _ => simp [Value.items]

end Value

namespace Fields

variable {p : Float → Prop} {m n : Fields} {v : Value} {a : String}

@[simp] lemma isDocumentOf_nil : IsDocumentOf p [] := ⟨isRecord_nil, by simp⟩

@[simp] lemma isDocumentOf_cons (b : String) (v : Value) (m : Fields) :
    IsDocumentOf p ((.text b, v) :: m) ↔
      find? m (.text b) = none ∧ v.IsDocumentOf p ∧ IsDocumentOf p m := by
  unfold IsDocumentOf
  rw [isRecord_cons]
  simp only [List.mem_cons, forall_eq_or_imp, Key.text.injEq, exists_eq_left']
  tauto

lemma IsDocumentOf.of_find? (h : m.IsDocumentOf p) (hf : m.find? (.text a) = some v) :
    v.IsDocumentOf p :=
  h.2 _ (mem_of_find? hf)

lemma IsDocumentOf.showsFinite (h : m.IsFinite) : m.ShowsFinite := fun _ _ hf => h.of_find? hf

lemma IsDocumentOf.get (h : m.IsDocumentOf p) (a : String) : (m.get (.text a)).IsDocumentOf p := by
  rw [get_eq]
  cases hf : m.find? (.text a) with
  | none => exact .null
  | some v => exact h.of_find? hf

lemma IsDocumentOf.getD (h : m.IsDocumentOf p) (a : String) (hv : v.IsDocumentOf p) :
    (m.getD (.text a) v).IsDocumentOf p := by
  rw [getD_eq]
  cases hf : m.find? (.text a) with
  | none => exact hv
  | some w => exact h.of_find? hf

lemma IsDocumentOf.put (h : m.IsDocumentOf p) (hv : v.IsDocumentOf p) :
    (m.put (.text a) v).IsDocumentOf p := by
  induction m with
  | nil => exact ⟨h.1.put a v, by simpa [Fields.put] using hv⟩
  | cons e m ih =>
    obtain ⟨k, w⟩ := e
    have hrest : IsDocumentOf p m := by
      obtain ⟨-, -, -, hr⟩ := (isRecord_cons _ _).mp h.1
      exact ⟨hr, fun e he => h.2 e (List.mem_cons_of_mem _ he)⟩
    refine ⟨h.1.put a v, fun e he => ?_⟩
    rw [Fields.put] at he
    split at he
    · rcases List.mem_cons.mp he with rfl | he
      · exact hv
      · exact hrest.2 e he
    · rcases List.mem_cons.mp he with rfl | he
      · exact h.2 _ List.mem_cons_self
      · exact (ih hrest).2 e he

lemma IsDocumentOf.putNew (h : m.IsDocumentOf p) (hv : v.IsDocumentOf p) :
    (m.putNew (.text a) v).IsDocumentOf p := by
  unfold Fields.putNew
  split
  · exact h
  · exact h.put hv

lemma IsDocumentOf.filter (h : m.IsDocumentOf p) (q : Key × Value → Bool) :
    IsDocumentOf p (List.filter q m) :=
  ⟨h.1.filter q, fun e he => h.2 e (List.mem_filter.mp he).1⟩

lemma IsDocumentOf.putAll (h : m.IsDocumentOf p) (hn : n.IsDocumentOf p) :
    (m.putAll n).IsDocumentOf p := by
  induction n generalizing m with
  | nil => exact h
  | cons e n ih =>
    obtain ⟨b, hb, -, hr⟩ := (isRecord_cons e n).mp hn.1
    obtain ⟨k, w⟩ := e
    cases hb
    have hw := hn.2 _ List.mem_cons_self
    exact ih (h.put hw) ⟨hr, fun e he => hn.2 e (List.mem_cons_of_mem _ he)⟩

end Fields

/-! ### Equality -/

namespace Value

lemma sameItems_self {items : List Value} (h : ∀ v ∈ items, v.same v = true) :
    sameItems items items = true := by
  induction items with
  | nil => rfl
  | cons v items ih =>
    rw [sameItems, h v List.mem_cons_self, ih fun w hw => h w (List.mem_cons_of_mem _ hw)]
    rfl

/-- Entries that a record has are found there. -/
lemma sameEntries_of_mem {l m : Fields} (hm : Fields.IsRecord m) (hl : ∀ e ∈ l, e ∈ m)
    (h : ∀ e ∈ m, e.2.same e.2 = true) : sameEntries l m = true := by
  induction l with
  | nil => simp [sameEntries]
  | cons e l ih =>
    obtain ⟨k, v⟩ := e
    have hmem : (k, v) ∈ m := hl _ List.mem_cons_self
    obtain ⟨names, -, hnames⟩ := id hm
    have hk : k ∈ m.map (·.1) := List.mem_map_of_mem hmem
    rw [hnames] at hk
    obtain ⟨a, -, rfl⟩ := List.mem_map.mp hk
    obtain ⟨e, he, hev⟩ := Option.map_eq_some_iff.mp (hm.find?_of_mem hmem)
    rw [sameEntries, he]
    simp only [hev, h _ hmem, Bool.true_and]
    exact ih fun e he => hl e (List.mem_cons_of_mem _ he)

lemma number_same_self (n : Int) : Number.same (.int n) (.int n) = true := by
  simp [Number.same, Number.compare?]

lemma number_same_self_of_isFinite {x : Float} (h : x.isFinite = true) :
    Number.same (.float x) (.float x) = true := by
  simp [Number.same, Number.compare?, float_lt_irrefl x, float_beq_self (isNaN_of_isFinite h)]

/-- A document of finite floats equals itself. -/
theorem IsDocumentOf.same_self {v : Value} (h : v.IsFinite) : v.same v = true := by
  induction h with
  | null => simp [Value.same]
  | bool b => simp [Value.same, number?, number_same_self]
  | int n => simp [Value.same, number?, number_same_self]
  | float h => simp [Value.same, number?, number_same_self_of_isFinite h]
  | str s => simp [Value.same]
  | list h ih =>
    rw [Value.same]
    exact sameItems_self ih
  | map hm h ih =>
    rw [Value.same, sameEntries_of_mem hm (fun e he => he) ih]
    simp

end Value

end LearningGame
