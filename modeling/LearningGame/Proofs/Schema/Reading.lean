import LearningGame.Proofs.Value.Fields
import LearningGame.Schema.Record
import Mathlib.Data.List.Forall2

/-!
# Reading data

When a codec reads a part of a document as given data: one equivalence for each way of putting
codecs and records together. Reading a record comes down to what its fields are given.
-/

namespace LearningGame.Schema

namespace Checked

variable {α β : Type}

lemma map_eq_valid (f : α → β) (x : Checked α) (b : β) :
    x.map f = .valid b ↔ ∃ a, x = .valid a ∧ f a = b := by
  cases x <;> simp [map]

lemma both_eq_valid (f : Checked (α → β)) (x : Checked α) (b : β) :
    both f x = .valid b ↔ ∃ g a, f = .valid g ∧ x = .valid a ∧ g a = b := by
  cases f <;> cases x <;> simp [both]

lemma under_eq_valid (step : String) (x : Checked α) (a : α) :
    x.under step = .valid a ↔ x = .valid a := by
  cases x <;> simp [under]

@[simp] lemma refuse_ne_valid (p : Problem) (a : α) : (refuse p : Checked α) ≠ .valid a := nofun

end Checked

open Checked

/-! ### Codecs -/

namespace Codec

variable {α : Type} (c : Codec α)

@[simp] lemma read_text_eq_valid (v : Value) (s : String) :
    text.read v = .valid s ↔ v = .str s := by
  cases v <;> simp [text, readText]

lemma read_named_eq_valid [Named α] (v : Value) (a : α) :
    named.read v = .valid a ↔ ∃ s, v = .str s ∧ Named.find? s = some a := by
  unfold named
  cases v with
  | str s => cases h : (Named.find? s : Option α) <;> simp [h]
  | _ => simp

lemma read_optional_eq_none (v : Value) : c.optional.read v = .valid none ↔ v = .null := by
  cases v <;> simp [optional, map_eq_valid]

lemma read_optional_eq_some (v : Value) (a : α) :
    c.optional.read v = .valid (some a) ↔ v ≠ .null ∧ c.read v = .valid a := by
  cases v <;> simp [optional, map_eq_valid]

lemma readItems_eq_valid (index : Nat) (items : List Value) (as : List α) :
    readItems c index items = .valid as ↔
      List.Forall₂ (fun v a => c.read v = .valid a) items as := by
  induction items generalizing index as with
  | nil => simp [readItems, eq_comm]
  | cons v items ih =>
    rw [readItems, both_eq_valid, List.forall₂_cons_left_iff]
    simp only [map_eq_valid, under_eq_valid, ih]
    constructor
    · rintro ⟨-, as, ⟨a, ha, rfl⟩, has, rfl⟩
      exact ⟨a, as, ha, has, rfl⟩
    · rintro ⟨a, as, ha, has, rfl⟩
      exact ⟨_, as, ⟨a, ha, rfl⟩, has, rfl⟩

lemma read_list_eq_valid (v : Value) (as : List α) :
    c.list.read v = .valid as ↔
      ∃ items, v = .list items ∧ List.Forall₂ (fun v a => c.read v = .valid a) items as := by
  cases v <;> simp [list, readItems_eq_valid]

lemma readEntries_eq_valid (m : Fields) (as : List (String × α)) :
    readEntries c m = .valid as ↔
      List.Forall₂ (fun e a => e.1 = .text a.1 ∧ c.read e.2 = .valid a.2) m as := by
  induction m generalizing as with
  | nil => simp [readEntries, eq_comm]
  | cons e m ih =>
    obtain ⟨k, v⟩ := e
    rw [readEntries, both_eq_valid, List.forall₂_cons_left_iff]
    simp only [map_eq_valid, both_eq_valid, under_eq_valid, ih]
    constructor
    · rintro ⟨-, as, ⟨-, ⟨-, a, ⟨name, hname, rfl⟩, ha, rfl⟩, rfl⟩, has, rfl⟩
      refine ⟨(name, a), as, ⟨?_, ha⟩, has, rfl⟩
      cases k <;> simp_all [readName]
    · rintro ⟨⟨name, a⟩, as, ⟨rfl, ha⟩, has, rfl⟩
      exact ⟨_, as, ⟨_, ⟨_, a, ⟨name, rfl, rfl⟩, ha, rfl⟩, rfl⟩, has, rfl⟩

lemma read_entries_eq_valid (v : Value) (as : List (String × α)) :
    c.entries.read v = .valid as ↔
      ∃ m, v = .map m ∧
        List.Forall₂ (fun e a => e.1 = .text a.1 ∧ c.read e.2 = .valid a.2) m as := by
  cases v <;> simp [entries, readEntries_eq_valid]

end Codec

/-! ### Records -/

/-- The value that a field is given under one of its names; the plain name wins. -/
def given? (m : Fields) (name : String) : Option Value :=
  (m.find? name).or (m.find? (underscored name))

lemma map_fieldOf? (m : Fields) (name : String) : (fieldOf? m name).map (·.2) = given? m name := by
  unfold fieldOf? given?
  cases m.find? name <;> cases m.find? (underscored name) <;> simp

lemma given?_of_find? {m : Fields} {name : String} {v : Value} (h : m.find? name = some v) :
    given? m name = some v := by
  simp [given?, h]

namespace RecordOf

variable {ρ α β : Type} (name : String) (c : Codec α) (m : Fields)

/-- Whether fields are read as data with a property. -/
def ReadsAs (f : RecordOf ρ α) (p : α → Prop) : Prop := ∃ a, f.read m = .valid a ∧ p a

lemma readsAs_build (a : α) (p : α → Prop) : ReadsAs m (build a : RecordOf ρ α) p ↔ p a := by
  simp [ReadsAs, build]

lemma readsAs_apply (f : RecordOf ρ (α → β)) (x : RecordOf ρ α) (p : β → Prop) :
    ReadsAs m (f.apply x) p ↔ ReadsAs m f fun g => ∃ a, x.read m = .valid a ∧ p (g a) := by
  unfold ReadsAs apply
  simp only [both_eq_valid]
  constructor
  · rintro ⟨-, ⟨g, a, hg, ha, rfl⟩, h⟩
    exact ⟨g, hg, a, ha, h⟩
  · rintro ⟨g, hg, a, ha, h⟩
    exact ⟨_, ⟨g, a, hg, ha, rfl⟩, h⟩

lemma read_eq_valid_iff (f : RecordOf ρ α) (a : α) :
    f.read m = .valid a ↔ ReadsAs m f (· = a) := by
  simp [ReadsAs]

lemma read_field_eq_valid (missing : Checked α) (get : ρ → α) (a : α) :
    (field name c missing get).read m = .valid a ↔
      (∃ v, given? m name = some v ∧ c.read v = .valid a) ∨
        given? m name = none ∧ missing = .valid a := by
  rw [← map_fieldOf?]
  unfold field
  dsimp only
  cases h : fieldOf? m name with
  | none => simp
  | some e => simp [under_eq_valid]

lemma read_required_eq_valid (get : ρ → α) (a : α) :
    (required name c get).read m = .valid a ↔
      ∃ v, given? m name = some v ∧ c.read v = .valid a := by
  simp [required, read_field_eq_valid]

lemma read_withDefault_eq_valid (default : α) (get : ρ → α) (a : α) :
    (withDefault name c default get).read m = .valid a ↔
      (∃ v, given? m name = some v ∧ c.read v = .valid a) ∨
        given? m name = none ∧ default = a := by
  simp [withDefault, read_field_eq_valid]

lemma read_optional_eq_none (get : ρ → Option α) :
    (optional name c get).read m = .valid none ↔ (given? m name).getD .null = .null := by
  rw [optional, read_field_eq_valid]
  simp only [Codec.read_optional_eq_none]
  cases given? m name <;> simp

lemma read_optional_eq_some (get : ρ → Option α) (a : α) :
    (optional name c get).read m = .valid (some a) ↔
      ∃ v, given? m name = some v ∧ v ≠ .null ∧ c.read v = .valid a := by
  simp [optional, read_field_eq_valid, Codec.read_optional_eq_some]

lemma read_codec_eq_valid (kind : String) (r : RecordOf ρ ρ) (v : Value) (a : ρ) :
    (r.codec kind).read v = .valid a ↔ ∃ m, v = .map m ∧ ReadsAs m r (· = a) := by
  cases v <;> simp [codec, read_eq_valid_iff]

/-! ### Other entries -/

variable {m} {missing : Checked α} {get : ρ → α} {a : String} {v : Value}

lemma read_field_of_find? (h : m.find? name = some v) (x : α) :
    (field name c missing get).read m = .valid x ↔ c.read v = .valid x := by
  simp [read_field_eq_valid, given?_of_find? h]

lemma read_field_cons_of_ne (h : a ≠ name) (hunder : a ≠ underscored name) :
    (field name c missing get).read ((.text a, v) :: m) = (field name c missing get).read m := by
  simp [field, fieldOf?, h, hunder]

lemma read_field_put_of_ne (h : a ≠ name) (hunder : a ≠ underscored name) :
    (field name c missing get).read (m.put a v) = (field name c missing get).read m := by
  simp [field, fieldOf?, h, hunder]

lemma read_field_put_self {x : α} (h : c.read v = .valid x) :
    (field name c missing get).read (m.put name v) = .valid x :=
  (read_field_of_find? name c (by simp) x).mpr h

end RecordOf

end LearningGame.Schema
