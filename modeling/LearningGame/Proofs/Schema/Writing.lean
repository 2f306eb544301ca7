import LearningGame.Proofs.Schema.Reading
import LearningGame.Proofs.Traced
import LearningGame.Proofs.Value.Document

/-!
# Reading what has been written

A codec restores data if it reads back from a document what it has written there. Numbers, texts
and truth values are always restored; lists, maps and records are if their parts are.
-/

lemma List.lookup_of_mem {α β : Type} [BEq α] [LawfulBEq α] {l : List (α × β)}
    (hn : (l.map (·.1)).Nodup) {e : α × β} (he : e ∈ l) : l.lookup e.1 = some e.2 := by
  induction l with
  | nil => cases he
  | cons d l ih =>
    obtain ⟨hd, hl⟩ := List.nodup_cons.mp hn
    rcases List.mem_cons.mp he with rfl | he
    · rw [List.lookup_cons_self]
    · have hne : (e.1 == d.1) = false := by
        rw [beq_eq_false_iff_ne]
        exact fun h => hd (List.mem_map.mpr ⟨e, he, h⟩)
      rw [List.lookup_cons, hne]
      exact ih hl he

namespace LearningGame.Schema

open Checked

/-- Types whose values are told apart by their names. -/
class LawfulNamed (α : Type) [Named α] : Prop where
  find?_name (a : α) : Named.find? (Named.name a) = some a

/-! ### Any values -/

namespace Codec

mutual

/-- A document of finite floats is written as it is. -/
lemma finitePart_eq (v : Value) (h : v.IsFinite) : finitePart v = v := by
  match v with
  | .float x =>
    rw [finitePart, if_pos ((Value.isDocumentOf_float x).mp h)]
  | .list items =>
    rw [finitePart, finiteItems_eq items ((Value.isDocumentOf_list items).mp h)]
  | .map m =>
    rw [finitePart, finiteEntries_eq m ((Value.isDocumentOf_map m).mp h).2]
  | .null | .bool _ | .int _ | .str _ => rfl

lemma finiteItems_eq (items : List Value) (h : ∀ v ∈ items, v.IsFinite) :
    finiteItems items = items := by
  match items with
  | [] => rfl
  | v :: rest =>
    rw [finiteItems, finitePart_eq v (h v List.mem_cons_self),
      finiteItems_eq rest fun w hw => h w (List.mem_cons_of_mem v hw)]

lemma finiteEntries_eq (m : List (Key × Value))
    (h : ∀ e ∈ m, e.2.IsFinite) : finiteEntries m = m := by
  match m with
  | [] => rfl
  | (k, v) :: rest =>
    rw [finiteEntries, finitePart_eq v (h (k, v) List.mem_cons_self),
      finiteEntries_eq rest fun e he => h e (List.mem_cons_of_mem _ he)]

end

/-! ### Restoring -/

variable {α : Type} {c : Codec α} {a b : α}

/-- What is written of some data is read as other data that are equal to them. -/
structure Restores (c : Codec α) (a b : α) : Prop where
  read : c.read (c.write false a) = .valid b
  same : c.same a b = true

/-- A codec that restores everything. -/
def IsExact (c : Codec α) : Prop := ∀ a, c.Restores a a

/-- A codec that always writes something. -/
structure IsSolid (c : Codec α) : Prop where
  absent (a : α) : c.absent a = false
  write_ne (a : α) : c.write false a ≠ .null

lemma isExact_text : text.IsExact := fun s => ⟨rfl, beq_self_eq_true s⟩

lemma isSolid_text : text.IsSolid := ⟨fun _ => rfl, nofun⟩

lemma isExact_integer : integer.IsExact := fun n => ⟨rfl, beq_self_eq_true n⟩

lemma isSolid_integer : integer.IsSolid := ⟨fun _ => rfl, nofun⟩

lemma isExact_boolean : boolean.IsExact := fun b => ⟨rfl, beq_self_eq_true b⟩

lemma sameFloat_self (x : Float) : sameFloat x x = true := by
  unfold sameFloat
  cases hx : x.isNaN with
  | true => simp
  | false => simp [float_beq_self hx]

lemma isExact_float : float.IsExact := fun x => ⟨rfl, sameFloat_self x⟩

lemma isExact_named [Named α] [LawfulNamed α] : (named : Codec α).IsExact := by
  refine fun a => ⟨?_, beq_self_eq_true _⟩
  rw [read_named_eq_valid]
  exact ⟨Named.name a, rfl, LawfulNamed.find?_name a⟩

lemma isSolid_named [Named α] : (named : Codec α).IsSolid := ⟨fun _ => rfl, nofun⟩

lemma restores_any {v : Value} (h : v.IsFinite) : any.Restores v v where
  read := by
    show Checked.valid (finitePart v) = .valid v
    rw [finitePart_eq v h]
  same := h.same_self

section Written

variable {γ : Type} (d : Codec γ) (full : Bool)

@[simp] lemma absent_text (s : String) : text.absent s = false := rfl

@[simp] lemma write_text (s : String) : text.write full s = .str s := rfl

@[simp] lemma absent_integer (n : Int) : integer.absent n = false := rfl

@[simp] lemma write_integer (n : Int) : integer.write full n = .int n := rfl

@[simp] lemma absent_boolean (b : Bool) : boolean.absent b = false := rfl

@[simp] lemma write_boolean (b : Bool) : boolean.write full b = .bool b := rfl

@[simp] lemma absent_float (x : Float) : float.absent x = false := rfl

@[simp] lemma write_float (x : Float) : float.write full x = .float x := rfl

@[simp] lemma absent_named [Named γ] (a : γ) : (named : Codec γ).absent a = false := rfl

@[simp] lemma write_named [Named γ] (a : γ) :
    (named : Codec γ).write full a = .str (Named.name a) := rfl

@[simp] lemma absent_list (as : List γ) : d.list.absent as = false := rfl

@[simp] lemma write_list (as : List γ) : d.list.write full as = .list (as.map (d.write full)) := rfl

@[simp] lemma absent_entries (as : List (String × γ)) : d.entries.absent as = false := rfl

end Written

/-! ### Numbers -/

/-- A number as it is read back: as a float. -/
def settledNumber (n : Number) : Number :=
  match n.toFloat? with
  | some x => .float x
  | none => n

/-- The floats, and the integers that stand for numbers that are not given. -/
def IsPlainNumber (n : Number) : Prop :=
  (∃ x, n = .float x) ∨ n = .int 0 ∨ n = .int 1 ∨ n = .int 100

lemma isPlainNumber_of_read {v : Value} {n : Number} (h : number.read v = .valid n) :
    IsPlainNumber n := by
  obtain ⟨x, -, rfl⟩ := (map_eq_valid _ _ _).mp h
  exact .inl ⟨x, rfl⟩

lemma restores_number {n : Number} (h : IsPlainNumber n) : number.Restores n (settledNumber n) := by
  rcases h with ⟨x, rfl⟩ | rfl | rfl | rfl
  · exact ⟨rfl, sameFloat_self x⟩
  · exact ⟨rfl, by decide +kernel⟩
  · exact ⟨rfl, by decide +kernel⟩
  · exact ⟨rfl, by decide +kernel⟩

/-! ### Containers -/

lemma restores_optional_none : c.optional.Restores none none := ⟨rfl, rfl⟩

lemma restores_optional_some (hc : c.IsSolid) (h : c.Restores a b) :
    c.optional.Restores (some a) (some b) where
  read := (read_optional_eq_some _ _ _).mpr ⟨hc.write_ne a, h.read⟩
  same := h.same

lemma IsExact.optional (h : c.IsExact) (hc : c.IsSolid) : c.optional.IsExact
  | none => restores_optional_none
  | some a => restores_optional_some hc (h a)

lemma restores_list {as bs : List α} (h : List.Forall₂ c.Restores as bs) :
    c.list.Restores as bs where
  read := by
    rw [read_list_eq_valid]
    refine ⟨as.map (c.write false), rfl, ?_⟩
    rw [List.forall₂_map_left_iff]
    exact h.imp fun _ _ h => h.read
  same := by
    show sameItems c as bs = true
    induction h with
    | nil => rfl
    | cons h _ ih => rw [sameItems, h.same, ih, Bool.true_and]

lemma IsExact.list (h : c.IsExact) : c.list.IsExact :=
  fun _ => restores_list (List.forall₂_same.mpr fun a _ => h a)

lemma isSolid_list : c.list.IsSolid := ⟨fun _ => rfl, nofun⟩

lemma sameItems_map {as : List α} {g : α → α} :
    sameItems c as (as.map g) = true ↔ ∀ a ∈ as, c.same a (g a) = true := by
  induction as with
  | nil => simp [sameItems]
  | cons a as ih => simp [sameItems, ih]

/-- Entries with distinct names are restored if what they hold is. -/
lemma restores_entries {as : List (String × α)} (hn : (as.map (·.1)).Nodup)
    (h : ∀ e ∈ as, c.Restores e.2 e.2) : c.entries.Restores as as where
  read := by
    rw [read_entries_eq_valid]
    refine ⟨as.map fun e => (.text e.1, c.write false e.2), rfl, ?_⟩
    rw [List.forall₂_map_left_iff, List.forall₂_same]
    exact fun e he => ⟨rfl, (h e he).read⟩
  same := by
    show sameEntries c as as = true
    unfold sameEntries
    rw [beq_self_eq_true, Bool.true_and, List.all_eq_true]
    intro e he
    rw [List.lookup_of_mem hn he]
    exact (h e he).same

end Codec

/-! ### Records -/

/-- Entries of which some are left out. -/
def sparse (t : List (String × Option Value)) : Fields :=
  t.filterMap fun e => e.2.map fun v => (.text e.1, v)

/-- Names of fields of which none is another one in lower case with underscores. -/
def Apart (names : List String) : Prop :=
  names.Nodup ∧ ∀ a ∈ names, ∀ b ∈ names, underscored a = b → a = b

instance (names : List String) : Decidable (Apart names) :=
  inferInstanceAs (Decidable (_ ∧ _))

/-- What is found in entries of a field that is written or left out; null counts as left out. -/
def Tells (m : Fields) (name : String) : Option Value → Prop
  | some v => given? m name = some v
  | none => given? m name = none ∨ given? m name = some .null

lemma find?_sparse_eq_none {t : List (String × Option Value)} {name : String}
    (h : ∀ e ∈ t, e.1 = name → e.2 = none) : (sparse t).find? (.text name) = none := by
  induction t with
  | nil => rfl
  | cons e t ih =>
    have hrest := ih fun d hd => h d (List.mem_cons_of_mem e hd)
    obtain ⟨a, o⟩ := e
    cases o with
    | none => exact hrest
    | some v =>
      have hne : a ≠ name := fun ha => by cases h (a, some v) List.mem_cons_self ha
      show Fields.find? ((.text a, v) :: sparse t) (.text name) = none
      rw [Fields.find?_cons_text, if_neg hne, hrest]

lemma isRecord_sparse {t : List (String × Option Value)} (hn : (t.map (·.1)).Nodup) :
    (sparse t).IsRecord := by
  induction t with
  | nil => exact Fields.isRecord_nil
  | cons e t ih =>
    obtain ⟨he, ht⟩ := List.nodup_cons.mp hn
    obtain ⟨a, o⟩ := e
    cases o with
    | none => exact ih ht
    | some v =>
      refine (Fields.isRecord_cons _ _).mpr ⟨a, rfl, find?_sparse_eq_none fun d hd ha => ?_, ih ht⟩
      exact absurd (List.mem_map.mpr ⟨d, hd, ha⟩) he

lemma find?_sparse {t : List (String × Option Value)} (hn : (t.map (·.1)).Nodup)
    {e : String × Option Value} (he : e ∈ t) : (sparse t).find? (.text e.1) = e.2 := by
  induction t with
  | nil => cases he
  | cons d t ih =>
    obtain ⟨hd, ht⟩ := List.nodup_cons.mp hn
    have hold (f : String × Option Value) (hf : f ∈ t) : f.1 ≠ d.1 := fun h =>
      hd (List.mem_map.mpr ⟨f, hf, h⟩)
    obtain ⟨a, o⟩ := d
    cases o with
    | none =>
      rcases List.mem_cons.mp he with rfl | he
      · show (sparse t).find? (.text a) = none
        exact find?_sparse_eq_none fun f hf h => absurd h (hold f hf)
      · exact ih ht he
    | some v =>
      show Fields.find? ((.text a, v) :: sparse t) _ = _
      rw [Fields.find?_cons_text]
      rcases List.mem_cons.mp he with rfl | he
      · rw [if_pos rfl]
      · rw [if_neg (hold e he).symm]
        exact ih ht he

lemma given?_sparse {t : List (String × Option Value)} (h : Apart (t.map (·.1)))
    {e : String × Option Value} (he : e ∈ t) : given? (sparse t) e.1 = e.2 := by
  obtain ⟨hn, hunder⟩ := h
  have hfind := find?_sparse hn he
  unfold given?
  rw [hfind]
  cases ho : e.2 with
  | some v => rfl
  | none =>
    rw [Option.none_or]
    refine find?_sparse_eq_none fun d hd hname => ?_
    have heq := hunder e.1 (List.mem_map_of_mem he) d.1 (List.mem_map_of_mem hd) hname.symm
    have hd' := find?_sparse hn hd
    rw [← heq, hfind, ho] at hd'
    exact hd'.symm

lemma tells_of_eq {m : Fields} {name : String} {o : Option Value} (h : given? m name = o) :
    Tells m name o := by
  cases o with
  | some v => exact h
  | none => exact .inl h

namespace RecordOf

variable {ρ α β : Type} {f : RecordOf ρ (α → β)} {c : Codec α} {name : String}

/-- Fields are read as given data from whatever tells them by a table. -/
def ReadsFrom (f : RecordOf ρ α) (t : List (String × Option Value)) (a : α) : Prop :=
  ∀ m, (∀ e ∈ t, Tells m e.1 e.2) → f.read m = .valid a

lemma readsFrom_build (a : α) : (build a : RecordOf ρ α).ReadsFrom [] a := fun _ _ => rfl

lemma ReadsFrom.apply {x : RecordOf ρ α} {t u : List (String × Option Value)} {g : α → β} {a : α}
    (hf : f.ReadsFrom t g) (hx : x.ReadsFrom u a) : (f.apply x).ReadsFrom (t ++ u) (g a) := by
  intro m hm
  have hg := hf m fun e he => hm e (List.mem_append_left u he)
  have ha := hx m fun e he => hm e (List.mem_append_right t he)
  exact (both_eq_valid _ _ _).mpr ⟨g, a, hg, ha, rfl⟩

lemma readsFrom_some {missing : Checked α} {get : ρ → α} {v : Value} {a : α}
    (h : c.read v = .valid a) : (field name c missing get).ReadsFrom [(name, some v)] a :=
  fun m hm =>
    (read_field_eq_valid name c m missing get a).mpr (.inl ⟨v, hm _ List.mem_cons_self, h⟩)

lemma readsFrom_none {missing : Checked α} {get : ρ → α} {a : α} (h : missing = .valid a)
    (hnull : c.read .null = .valid a) : (field name c missing get).ReadsFrom [(name, none)] a := by
  intro m hm
  rw [read_field_eq_valid]
  rcases hm _ List.mem_cons_self with hnone | hsome
  · exact .inr ⟨hnone, h⟩
  · exact .inl ⟨.null, hsome, hnull⟩

/-- Fields with some names that are written by a table, and that are read from it as equal ones. -/
structure Spells (f : RecordOf ρ α) (r s : ρ) (names : List String)
    (t : List (String × Option Value)) (a : α) : Prop where
  names : t.map (·.1) = names
  write : f.write false r = sparse t
  same : f.same r s = true
  reads : f.ReadsFrom t a

section Spells

variable {r s : ρ} {names : List String} {t : List (String × Option Value)} {g : α → β}

lemma spells_build (a : α) : (build a : RecordOf ρ α).Spells r s [] [] a :=
  ⟨rfl, rfl, rfl, readsFrom_build a⟩

lemma Spells.apply {x : RecordOf ρ α} {more : List String} {u : List (String × Option Value)}
    {a : α} (hf : f.Spells r s names t g) (hx : x.Spells r s more u a) :
    (f.apply x).Spells r s (names ++ more) (t ++ u) (g a) where
  names := by rw [List.map_append, hf.names, hx.names]
  write := by
    show f.write false r ++ x.write false r = _
    rw [hf.write, hx.write]
    exact List.filterMap_append.symm
  same := by
    show (f.same r s && x.same r s) = true
    rw [hf.same, hx.same, Bool.true_and]
  reads := hf.reads.apply hx.reads

lemma spells_field {missing : Checked α} {get : ρ → α} (ha : c.absent (get r) = false)
    (h : c.Restores (get r) (get s)) :
    (field name c missing get).Spells r s [name] [(name, some (c.write false (get r)))]
      (get s) where
  names := rfl
  write := by
    show (if !false && c.absent (get r) then _ else _) = _
    rw [ha]
    rfl
  same := h.same
  reads := readsFrom_some h.read

/-- A field that is always written. -/
lemma Spells.required {get : ρ → α} (hf : f.Spells r s names t g) (ha : c.absent (get r) = false)
    (h : c.Restores (get r) (get s)) :
    (f.apply (required name c get)).Spells r s (names ++ [name]) (t ++ [(name, some (c.write false (get r)))])
      (g (get s)) :=
  hf.apply (spells_field ha h)

/-- A field that is always written, although it has a default. -/
lemma Spells.withDefault {default : α} {get : ρ → α} (hf : f.Spells r s names t g)
    (ha : c.absent (get r) = false) (h : c.Restores (get r) (get s)) :
    (f.apply (withDefault name c default get)).Spells r s (names ++ [name])
      (t ++ [(name, some (c.write false (get r)))]) (g (get s)) :=
  hf.apply (spells_field ha h)

/-- A field that is written if it is there. -/
lemma Spells.optional {get : ρ → Option α} {f : RecordOf ρ (Option α → β)} {g : Option α → β}
    (hf : f.Spells r s names t g) (h : c.optional.Restores (get r) (get s)) :
    (f.apply (optional name c get)).Spells r s (names ++ [name])
      (t ++ [(name, (get r).map (c.write false))]) (g (get s)) := by
  refine hf.apply ?_
  cases hr : get r with
  | some a =>
    have hfield : (field name c.optional (.valid none) get).Spells r s [name]
        [(name, some (c.optional.write false (get r)))] (get s) :=
      spells_field (by rw [hr]; rfl) h
    rw [hr] at hfield
    exact hfield
  | none =>
    have hs : get s = none := by
      have hread := h.read
      rw [hr] at hread
      exact (valid.inj hread).symm
    refine ⟨rfl, ?_, h.same, ?_⟩
    · show (if !false && c.optional.absent (get r) then _ else _) = _
      rw [hr]
      rfl
    · rw [hs]
      exact readsFrom_none rfl rfl

/-- A field that holds any value and is written unless it is null. -/
lemma Spells.any {get : ρ → Value} {f : RecordOf ρ (Value → β)} {g : Value → β}
    (hf : f.Spells r s names t g) (h : Codec.any.Restores (get r) (get s)) :
    (f.apply (RecordOf.withDefault name Codec.any .null get)).Spells r s (names ++ [name])
      (t ++ [(name, if (get r).isNull then none else some (Codec.any.write false (get r)))])
      (g (get s)) := by
  refine hf.apply ?_
  cases hr : (get r).isNull with
  | false => exact spells_field hr h
  | true =>
    have hnull : get r = .null := by
      cases hv : get r <;> simp_all [Value.isNull]
    have hs : get s = .null := by
      have hread := h.read
      rw [hnull] at hread
      exact (valid.inj hread).symm
    refine ⟨rfl, ?_, h.same, ?_⟩
    · show (if !false && (get r).isNull then _ else _) = _
      rw [hr]
      rfl
    · rw [hs]
      exact readsFrom_none rfl rfl

end Spells

/-- Fields are read back from whatever tells what has been written of them. -/
lemma Spells.read {f : RecordOf ρ α} {r s : ρ} {names : List String}
    {t : List (String × Option Value)} {a : α} (h : f.Spells r s names t a) (hn : Apart names)
    {m : Fields} (hm : ∀ name ∈ names, Tells m name ((f.write false r).find? (.text name))) :
    f.read m = .valid a := by
  refine h.reads m fun e he => ?_
  have hname := hm e.1 (h.names ▸ List.mem_map_of_mem he)
  rw [h.write, find?_sparse (h.names ▸ hn.1) he] at hname
  exact hname

lemma Spells.given?_write {f : RecordOf ρ α} {r s : ρ} {names : List String}
    {t : List (String × Option Value)} {a : α} (h : f.Spells r s names t a) (hn : Apart names)
    {name : String} (hname : name ∈ names) :
    given? (f.write false r) name = (f.write false r).find? (.text name) := by
  rw [← h.names] at hname hn
  obtain ⟨e, he, rfl⟩ := List.mem_map.mp hname
  rw [h.write, given?_sparse hn he, find?_sparse hn.1 he]

end RecordOf

/-- What is written of some fields is read as other data that are equal to them. -/
structure RecordOf.Restores {ρ : Type} (f : RecordOf ρ ρ) (r s : ρ) : Prop where
  read : f.read (f.write false r) = .valid s
  same : f.same r s = true

/-! ### Records as a whole -/

namespace Codec

variable {ρ : Type}

/-- The entries that are written of a record. -/
def written (c : Codec ρ) (r : ρ) : Fields :=
  match c.write false r with
  | .map m => m
  | _ => []

/-- A record that is restored, also from entries that only tell what has been written. -/
structure Conveys (c : Codec ρ) (names : List String) (r s : ρ) : Prop where
  restores : c.Restores r s
  isRecord : (c.written r).IsRecord
  read (m : Fields) : (∀ name ∈ names, Tells m name ((c.written r).find? (.text name))) →
    c.read (.map m) = .valid s

end Codec

namespace RecordOf

variable {ρ α β : Type} {f : RecordOf ρ ρ} {r s : ρ}

@[simp] lemma written_codec (kind : String) : (f.codec kind).written r = f.write false r := rfl

@[simp] lemma absent_codec (f : RecordOf ρ ρ) (kind : String) (r : ρ) :
    (f.codec kind).absent r = false := rfl

lemma write_codec (kind : String) : (f.codec kind).write false r = .map ((f.codec kind).written r) :=
  rfl

lemma restores_fields {names : List String} {t : List (String × Option Value)}
    (h : f.Spells r s names t s) (hn : Apart names) : f.Restores r s :=
  ⟨h.read hn fun _ hname => tells_of_eq (h.given?_write hn hname), h.same⟩

lemma conveys_codec {names : List String} {t : List (String × Option Value)}
    (h : f.Spells r s names t s) (hn : Apart names) (kind : String) :
    (f.codec kind).Conveys names r s where
  restores := ⟨(restores_fields h hn).read, h.same⟩
  isRecord := by
    rw [written_codec, h.write]
    exact isRecord_sparse (h.names ▸ hn.1)
  read _ hm := h.read hn hm

lemma restores_codec {names : List String} {t : List (String × Option Value)}
    (h : f.Spells r s names t s) (hn : Apart names) (kind : String) : (f.codec kind).Restores r s :=
  (conveys_codec h hn kind).restores

lemma isSolid_codec (f : RecordOf ρ ρ) (kind : String) : (f.codec kind).IsSolid :=
  ⟨fun _ => rfl, nofun⟩

/-! ### Looking up what is written -/

section Written

variable {c : Codec α} {get : ρ → α}

@[simp] lemma find?_write_build (a : α) (k : Key) :
    ((build a : RecordOf ρ α).write false r).find? k = none := rfl

@[simp] lemma find?_write_apply (f : RecordOf ρ (α → β)) (x : RecordOf ρ α) (k : Key) :
    ((f.apply x).write false r).find? k =
      ((f.write false r).find? k).or ((x.write false r).find? k) :=
  Fields.find?_append _ _ _

@[simp] lemma find?_write_field (name key : String) (missing : Checked α) :
    ((field name c missing get).write false r).find? (.text key) =
      if name = key then if c.absent (get r) then none else some (c.write false (get r))
      else none := by
  show Fields.find? (if !false && c.absent (get r) then _ else _) _ = _
  cases c.absent (get r) <;> simp

@[simp] lemma find?_write_required (name key : String) :
    ((required name c get).write false r).find? (.text key) =
      if name = key then if c.absent (get r) then none else some (c.write false (get r))
      else none :=
  find?_write_field name key _

@[simp] lemma find?_write_withDefault (name key : String) (default : α) :
    ((withDefault name c default get).write false r).find? (.text key) =
      if name = key then if c.absent (get r) then none else some (c.write false (get r))
      else none :=
  find?_write_field name key _

@[simp] lemma find?_write_optional (name key : String) {get : ρ → Option α} :
    ((optional name c get).write false r).find? (.text key) =
      if name = key then (get r).map (c.write false) else none := by
  rw [optional, find?_write_field]
  cases get r <;> rfl

end Written

end RecordOf

/-! ### Data that have been read -/

/-- A codec that restores, up to settling, what it reads from documents of finite floats. -/
def Codec.IsSound {α : Type} (c : Codec α) (settle : α → α) : Prop :=
  ∀ v a, v.IsFinite → c.read v = .valid a → c.Restores a (settle a)

/-- A codec that restores what it reads from documents of finite floats. -/
abbrev Codec.IsFaithful {α : Type} (c : Codec α) : Prop := c.IsSound fun a => a

namespace Codec

variable {α : Type} {c : Codec α} {settle : α → α}

lemma IsExact.isFaithful (h : c.IsExact) : c.IsFaithful := fun _ a _ _ => h a

lemma isFaithful_any : any.IsFaithful := by
  intro v a hv h
  cases h
  exact restores_any hv

lemma IsSound.optional (h : c.IsSound settle) (hc : c.IsSolid) :
    c.optional.IsSound (Option.map settle) := by
  intro v o hv ho
  cases o with
  | none => exact restores_optional_none
  | some a => exact restores_optional_some hc (h v a hv ((read_optional_eq_some c v a).mp ho).2)

lemma IsSound.list (h : c.IsSound settle) : c.list.IsSound (List.map settle) := by
  intro v as hv has
  obtain ⟨items, rfl, hitems⟩ := (read_list_eq_valid c v as).mp has
  refine restores_list ?_
  rw [List.forall₂_map_right_iff, List.forall₂_same]
  intro a ha
  obtain ⟨w, hw, hread⟩ := hitems.exists_of_mem_right ha
  exact h w a ((Value.isDocumentOf_list items).mp hv w hw) hread

lemma IsFaithful.optional (h : c.IsFaithful) (hc : c.IsSolid) : c.optional.IsFaithful := by
  have hmap := IsSound.optional h hc
  rwa [Option.map_id_fun'] at hmap

lemma IsFaithful.list (h : c.IsFaithful) : c.list.IsFaithful := by
  have hmap := IsSound.list h
  rwa [List.map_id_fun'] at hmap

lemma IsFaithful.entries (h : c.IsFaithful) : c.entries.IsFaithful := by
  intro v as hv has
  obtain ⟨m, rfl, hm⟩ := (read_entries_eq_valid c v as).mp has
  obtain ⟨⟨names, hnames, hkeys⟩, hdocs⟩ := (Value.isDocumentOf_map m).mp hv
  have hsame : as.map (·.1) = names := by
    have hmap : m.map (·.1) = (as.map (·.1)).map Key.text := by
      rw [List.map_map]
      exact List.forall₂_eq_eq_eq ▸ (List.forall₂_map_left_iff.mpr
        (List.forall₂_map_right_iff.mpr (hm.imp fun _ _ h => h.1)))
    exact (List.map_injective_iff.mpr fun _ _ h => Key.text.inj h) (hmap.symm.trans hkeys)
  refine restores_entries (hsame ▸ hnames) fun e he => ?_
  obtain ⟨d, hd, -, hread⟩ := hm.exists_of_mem_right he
  exact h d.2 e.2 (hdocs d hd) hread

end Codec

namespace RecordOf

variable {ρ α : Type} {c : Codec α} {settle : α → α} {name : String} {m : Fields} {a : α}

lemma isFinite_given? {v : Value} (hm : m.ShowsFinite)
    (h : given? m name = some v) : v.IsFinite := by
  unfold given? at h
  rcases Option.or_eq_some_iff.mp h with h | ⟨-, h⟩
  · exact hm _ _ h
  · exact hm _ _ h

lemma restores_of_withDefault (hm : m.ShowsFinite) {default : α} {get : ρ → α}
    (h : (withDefault name c default get).read m = .valid a) (hc : c.IsSound settle)
    (hdefault : c.Restores default (settle default)) : c.Restores a (settle a) := by
  rcases (read_withDefault_eq_valid name c m default get a).mp h with ⟨v, hv, hread⟩ | ⟨-, rfl⟩
  · exact hc v a (isFinite_given? hm hv) hread
  · exact hdefault

lemma restores_of_optional (hm : m.ShowsFinite) {o : Option α}
    {get : ρ → Option α} (h : (optional name c get).read m = .valid o) (hc : c.IsFaithful)
    (hsolid : c.IsSolid) : c.optional.Restores o o := by
  cases o with
  | none => exact Codec.restores_optional_none
  | some a =>
    obtain ⟨v, hv, -, hread⟩ := (read_optional_eq_some name c m get a).mp h
    exact Codec.restores_optional_some hsolid (hc v a (isFinite_given? hm hv) hread)

lemma isSound_codec {f : RecordOf ρ ρ} {kind : String} {settle : ρ → ρ}
    (h : ∀ m r, m.ShowsFinite → ReadsAs m f (· = r) →
      (f.codec kind).Restores r (settle r)) : (f.codec kind).IsSound settle := by
  intro v r hv hr
  obtain ⟨m, rfl, hm⟩ := (read_codec_eq_valid kind f v r).mp hr
  exact h m r ((Value.isDocumentOf_map m).mp hv).showsFinite hm

end RecordOf

end LearningGame.Schema
