import LearningGame.Proofs.Schema.Writing
import LearningGame.Proofs.Value.Reduced

/-!
# What codecs accept

A codec accepts what it reads as some data. A record is accepted if each of its fields is given what
its codec accepts, and most codecs still accept what is left of a value when entries are deleted
from it.
-/

lemma List.exists_forall₂_iff {α β : Type} (r : α → β → Prop) (as : List α) :
    (∃ bs, List.Forall₂ r as bs) ↔ ∀ a ∈ as, ∃ b, r a b := by
  induction as with
  | nil => simp
  | cons a as ih =>
    rw [List.forall_mem_cons, ← ih]
    constructor
    · rintro ⟨_, h⟩
      cases h with
      | cons hab hbs => exact ⟨⟨_, hab⟩, _, hbs⟩
    · rintro ⟨⟨b, hab⟩, bs, hbs⟩
      exact ⟨b :: bs, .cons hab hbs⟩

namespace LearningGame.Schema

open Checked

/-- Whether a value is read as some data. -/
def Codec.Accepts {α : Type} (c : Codec α) (v : Value) : Prop := ∃ a, c.read v = .valid a

/-- Whether entries are read as some data. -/
def RecordOf.Accepts {ρ α : Type} (f : RecordOf ρ α) (m : Fields) : Prop := ∃ a, f.read m = .valid a

/-- What a field is given, under either of its names, is accepted. -/
def Fits {α : Type} (c : Codec α) (m : Fields) (name : String) : Prop :=
  ∀ v, given? m name = some v → c.Accepts v

/-- What a field is given under its other name only is accepted. -/
def FitsOtherwise {α : Type} (c : Codec α) (m : Fields) (name : String) : Prop :=
  m.find? name = none → ∀ v, m.find? (underscored name) = some v → c.Accepts v

/-! ### Codecs -/

namespace Codec

variable {α : Type} {c : Codec α} {v : Value}

@[simp] lemma accepts_text : text.Accepts v ↔ ∃ s, v = .str s := by simp [Accepts]

@[simp] lemma accepts_any : any.Accepts v := ⟨v, rfl⟩

@[simp] lemma accepts_integer_int (n : Int) : integer.Accepts (.int n) := ⟨n, rfl⟩

@[simp] lemma accepts_boolean_bool (b : Bool) : boolean.Accepts (.bool b) := ⟨b, rfl⟩

@[simp] lemma accepts_number : number.Accepts v ↔ float.Accepts v := by
  simp [Accepts, number, float, map_eq_valid]

@[simp] lemma accepts_named_name [Named α] [LawfulNamed α] (a : α) :
    (named : Codec α).Accepts (.str (Named.name a)) :=
  ⟨a, (read_named_eq_valid _ _).mpr ⟨_, rfl, LawfulNamed.find?_name a⟩⟩

lemma accepts_named_of_isOneOf [Named α] (h : v.isOneOf (Named.names α) = true) :
    (named : Codec α).Accepts v := by
  cases v with
  | str s =>
    obtain ⟨a, ha, hs⟩ := List.mem_map.mp (by simpa [Value.isOneOf, Named.names] using h)
    cases hfind : (Named.find? s : Option α) with
    | none => exact absurd (List.find?_eq_none.mp hfind a ha) (by simp [hs])
    | some b => exact ⟨b, (read_named_eq_valid _ _).mpr ⟨s, rfl, hfind⟩⟩
  | _ => simp [Value.isOneOf] at h

@[simp] lemma accepts_optional : c.optional.Accepts v ↔ v = .null ∨ c.Accepts v := by
  unfold Accepts optional
  cases v <;> simp [map_eq_valid]

lemma accepts_list_iff :
    c.list.Accepts v ↔ ∃ items, v = .list items ∧ ∀ w ∈ items, c.Accepts w := by
  unfold Accepts
  simp only [read_list_eq_valid, ← List.exists_forall₂_iff]
  rw [exists_comm]
  simp

lemma accepts_entries_iff :
    c.entries.Accepts v ↔
      ∃ m, v = .map m ∧ ∀ e ∈ m, (∃ name, e.1 = .text name) ∧ c.Accepts e.2 := by
  unfold Accepts
  simp only [read_entries_eq_valid]
  rw [exists_comm]
  simp only [exists_and_left, List.exists_forall₂_iff, Prod.exists, exists_and_right]

end Codec

/-! ### Records -/

namespace RecordOf

variable {ρ α β : Type} (name : String) (c : Codec α) (m : Fields)

@[simp] lemma accepts_build (a : α) : (build a : RecordOf ρ α).Accepts m := ⟨a, rfl⟩

@[simp] lemma accepts_apply (f : RecordOf ρ (α → β)) (x : RecordOf ρ α) :
    (f.apply x).Accepts m ↔ f.Accepts m ∧ x.Accepts m := by
  unfold Accepts apply
  simp only [both_eq_valid]
  constructor
  · rintro ⟨-, g, a, hg, ha, rfl⟩
    exact ⟨⟨g, hg⟩, a, ha⟩
  · rintro ⟨⟨g, hg⟩, a, ha⟩
    exact ⟨_, g, a, hg, ha, rfl⟩

@[simp] lemma accepts_required (get : ρ → α) :
    (required name c get).Accepts m ↔ (∃ v, given? m name = some v) ∧ Fits c m name := by
  unfold Accepts Fits Codec.Accepts
  simp only [read_required_eq_valid]
  constructor
  · rintro ⟨a, v, hv, ha⟩
    refine ⟨⟨v, hv⟩, fun w hw => ?_⟩
    cases hv.symm.trans hw
    exact ⟨a, ha⟩
  · rintro ⟨⟨v, hv⟩, h⟩
    obtain ⟨a, ha⟩ := h v hv
    exact ⟨a, v, hv, ha⟩

@[simp] lemma accepts_withDefault (default : α) (get : ρ → α) :
    (withDefault name c default get).Accepts m ↔ Fits c m name := by
  unfold Accepts Fits Codec.Accepts
  simp only [read_withDefault_eq_valid]
  cases given? m name <;> simp

@[simp] lemma accepts_optional (get : ρ → Option α) :
    (RecordOf.optional name c get).Accepts m ↔ Fits c.optional m name :=
  accepts_withDefault name c.optional m none get

@[simp] lemma accepts_codec (kind : String) (r : RecordOf ρ ρ) :
    (r.codec kind).Accepts (.map m) ↔ r.Accepts m := Iff.rfl

lemma accepts_codec_iff (kind : String) (r : RecordOf ρ ρ) (v : Value) :
    (r.codec kind).Accepts v ↔ ∃ m, v = .map m ∧ r.Accepts m := by
  cases v <;> simp [Codec.Accepts, codec, Accepts]

end RecordOf

/-! ### Fields -/

section Fields

variable {α : Type} {c : Codec α} {m n : Fields} {name a : String} {v : Value}

lemma given?_put_of_ne (h : a ≠ name) (hunder : a ≠ underscored name) :
    given? (m.put a v) name = given? m name := by
  simp [given?, h, hunder]

lemma fits_put_of_ne (h : a ≠ name) (hunder : a ≠ underscored name) :
    Fits c (m.put a v) name ↔ Fits c m name := by
  rw [Fits, given?_put_of_ne h hunder, Fits]

@[simp] lemma given?_put_self : given? (m.put name v) name = some v := by simp [given?]

@[simp] lemma fits_put_self : Fits c (m.put name v) name ↔ c.Accepts v := by simp [Fits]

@[simp] lemma given?_cons_self : given? ((.text name, v) :: m) name = some v := by simp [given?]

@[simp] lemma fits_cons_self : Fits c ((.text name, v) :: m) name ↔ c.Accepts v := by simp [Fits]

lemma given?_cons_of_ne (h : a ≠ name) (hunder : a ≠ underscored name) :
    given? ((.text a, v) :: m) name = given? m name := by
  simp [given?, h, hunder]

@[simp] lemma fits_nil : Fits c [] name := by simp [Fits, given?]

lemma fits_cons_of_ne (h : a ≠ name) (hunder : a ≠ underscored name) :
    Fits c ((.text a, v) :: m) name ↔ Fits c m name := by
  rw [Fits, given?_cons_of_ne h hunder, Fits]

@[simp] lemma fits_any : Fits Codec.any m name := fun _ _ => Codec.accepts_any

lemma fits_of_find? (h : m.find? name = some v) : Fits c m name ↔ c.Accepts v := by
  simp [Fits, given?_of_find? h]

lemma given?_of_has (h : m.has name = true) : ∃ v, given? m name = some v := by
  obtain ⟨v, hv⟩ := Option.isSome_iff_exists.mp h
  exact ⟨v, given?_of_find? hv⟩

/-- Under which name a field without capitals is given can be told. -/
lemma has_of_given? (h : given? m name = some v) (hname : underscored name = name) :
    m.has name = true := by
  unfold given? at h
  rw [hname, Option.or_self] at h
  rw [Fields.has, h]
  rfl

/-- What a field is given under its plain name is looked at first. -/
lemma fits_iff :
    Fits c m name ↔ (∀ v, m.find? name = some v → c.Accepts v) ∧ FitsOtherwise c m name := by
  unfold Fits FitsOtherwise given?
  cases m.find? name <;> simp

lemma fitsOtherwise_put_of_ne (h : a ≠ name) (hunder : a ≠ underscored name) :
    FitsOtherwise c (m.put a v) name ↔ FitsOtherwise c m name := by
  simp [FitsOtherwise, h, hunder]

lemma fitsOtherwise_of_find? (h : m.find? name = some v) : FitsOtherwise c m name := by
  intro hnone
  rw [h] at hnone
  cases hnone

/-- A field without capitals in its name has no other name. -/
lemma fitsOtherwise_of_plain (h : underscored name = name) : FitsOtherwise c m name := by
  intro hnone v hv
  rw [h, hnone] at hv
  cases hv

end Fields

/-! ### Deleted entries -/

namespace Codec

variable {α : Type} {c : Codec α}

/-- What is left of something that is accepted is accepted. -/
def IsSteady (c : Codec α) : Prop := ∀ v w, Value.Reduces v w → c.Accepts v → c.Accepts w

/-- What accepts neither lists nor maps only accepts what nothing can be deleted from. -/
lemma isSteady_of_scalar (hlist : ∀ vs, ¬c.Accepts (.list vs)) (hmap : ∀ m, ¬c.Accepts (.map m)) :
    c.IsSteady := by
  intro v w h hv
  rcases h.eq_or with rfl | ⟨vs, rfl⟩ | ⟨m, rfl⟩
  · exact hv
  · exact absurd hv (hlist vs)
  · exact absurd hv (hmap m)

@[simp] lemma isSteady_text : text.IsSteady := isSteady_of_scalar (by simp) (by simp)

@[simp] lemma isSteady_integer : integer.IsSteady :=
  isSteady_of_scalar (by simp [Accepts, integer, readInteger])
    (by simp [Accepts, integer, readInteger])

@[simp] lemma isSteady_float : float.IsSteady :=
  isSteady_of_scalar (by simp [Accepts, float, readFloat]) (by simp [Accepts, float, readFloat])

@[simp] lemma isSteady_number : number.IsSteady := by
  intro v w h hv
  rw [accepts_number] at hv ⊢
  exact isSteady_float v w h hv

@[simp] lemma isSteady_boolean : boolean.IsSteady :=
  isSteady_of_scalar (by simp [Accepts, boolean, readBoolean])
    (by simp [Accepts, boolean, readBoolean])

@[simp] lemma isSteady_any : any.IsSteady := fun _ _ _ _ => accepts_any

lemma IsSteady.optional (h : c.IsSteady) : c.optional.IsSteady := by
  intro v w hvw hv
  rw [accepts_optional] at hv ⊢
  rcases hv with rfl | hv
  · left
    cases hvw
    rfl
  · exact .inr (h v w hvw hv)

lemma IsSteady.list (h : c.IsSteady) : c.list.IsSteady := by
  intro v w hvw hv
  obtain ⟨vs, rfl, hvs⟩ := accepts_list_iff.mp hv
  obtain ⟨ws, rfl, hws⟩ := (Value.reduces_list_iff vs).mp hvw
  refine accepts_list_iff.mpr ⟨ws, rfl, fun w hw => ?_⟩
  obtain ⟨v, hv, hvw⟩ := hws.exists_of_mem_right hw
  exact h v w hvw (hvs v hv)

lemma IsSteady.entries (h : c.IsSteady) : c.entries.IsSteady := by
  intro v w hvw hv
  obtain ⟨m, rfl, hm⟩ := accepts_entries_iff.mp hv
  obtain ⟨n, rfl, hn⟩ := (Value.reduces_map_iff m).mp hvw
  refine accepts_entries_iff.mpr ⟨n, rfl, fun e he => ?_⟩
  obtain ⟨v, hv, hvw⟩ := hn.exists_of_mem he
  obtain ⟨hname, hv⟩ := hm _ hv
  exact ⟨hname, h v e.2 hvw hv⟩

end Codec

section Fields

variable {α : Type} {c : Codec α} {m n : Fields} {name : String}

/-- A field that is left is given what is left, or what it is given under its other name only. -/
lemma Fits.reduces (h : Fits c m name) (hc : c.IsSteady) (hmn : m.Reduces n)
    (hother : FitsOtherwise c n name) : Fits c n name := by
  refine fits_iff.mpr ⟨fun w hw => ?_, hother⟩
  obtain ⟨v, hv, hvw⟩ := hmn.find? hw
  exact hc v w hvw ((fits_iff.mp h).1 v hv)

lemma Fits.reduces_plain (h : Fits c m name) (hc : c.IsSteady) (hmn : m.Reduces n)
    (hname : underscored name = name) : Fits c n name :=
  h.reduces hc hmn (fitsOtherwise_of_plain hname)

end Fields

end LearningGame.Schema
