import LearningGame.Proofs.Text.Folded
import LearningGame.Proofs.Traced
import LearningGame.Proofs.Value.Fields
import LearningGame.Completion.Entries

/-!
# Filled entries

What is found in entries after an id or a text has been filled in, and that ids are never blank.
-/

namespace LearningGame.Completion

variable {m : Fields} {key fallback : String}

@[simp] lemma result_warn (message : String) : (warn message).result = .ok () := rfl

/-! ### Ids -/

/-- Only a fallback can make an id blank. -/
lemma isBlankText_idOf (m : Fields) (h : Text.isBlankText fallback = false) :
    Text.isBlankText (idOf m fallback) = false := by
  unfold idOf
  cases m.get "id" with
  | null => exact h
  | str s =>
    dsimp only
    split_ifs with hs
    · exact h
    · simpa using hs
  | _ => exact Value.isBlankText_quoted (by simp)

/-- Numbered words differ in their numbers. -/
lemma append_toString_inj (word : String) {a b : Nat} :
    word ++ toString a = word ++ toString b ↔ a = b := by
  refine ⟨fun h => ?_, fun h => by rw [h]⟩
  have hrepr : a.repr = b.repr := (String.append_right_inj word).mp h
  have hdigits : Nat.toDigits 10 a = Nat.toDigits 10 b := by
    rwa [Nat.repr_eq_ofList_toDigits, Nat.repr_eq_ofList_toDigits, String.ofList_inj] at hrepr
  calc a = Nat.ofDigitChars 10 (Nat.toDigits 10 a) 0 :=
        (Nat.ofDigitChars_toDigits (by decide) (by decide)).symm
    _ = b := by rw [hdigits, Nat.ofDigitChars_toDigits (by decide) (by decide)]

lemma find?_fillId (m : Fields) (fallback : String) (b : String) :
    (fillId m fallback).find? (.text b) =
      if "id" = b then some (.str (idOf m fallback)) else m.find? (.text b) := by
  unfold fillId
  exact Fields.find?_put m "id" b _

@[simp] lemma find?_fillId_id (m : Fields) (fallback : String) :
    (fillId m fallback).find? (.text "id") = some (.str (idOf m fallback)) := by
  simp [find?_fillId]

/-! ### Texts -/

lemma textAt_of_find? {s : String} (h : m.find? (.text key) = some (.str s)) : textAt m key = s := by
  simp [textAt, Fields.getD_eq, h, Value.text]

lemma find?_fillText (m : Fields) (key b : String) :
    (fillText m key).find? (.text b) =
      if key = b then some (.str (textAt m key)) else m.find? (.text b) :=
  Fields.find?_put m key b _

/-! ### Whole numbers -/

lemma fillWhole_eq_ok (m m' : Fields) (key : String) (default : Int) :
    (fillWhole m key default).result = .ok m' ↔
      ∃ n, wholeOr (m.get key) default = .ok n ∧ m.put key (.int n) = m' := by
  simp [fillWhole, Traced.bind_eq_ok, -Traced.result_bind]

end LearningGame.Completion
