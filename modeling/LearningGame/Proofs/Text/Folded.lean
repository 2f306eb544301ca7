import LearningGame.Completion.Entries
import LearningGame.Value.Text
import Mathlib.Data.List.TakeWhile
import Mathlib.Tactic.Common

/-!
# Blank and folded texts

A text with a character that is not blank is not blank. The text of a value that is no text is
such a text: numbers have digits or a name, truth values and null a word, lists and maps brackets.
Signs such as points and brackets stay when a text is folded, that is, trimmed and put in lower
case. The text of a float or a map has such a sign unless it names what is not finite, so it never
folds to a plain word.
-/

namespace LearningGame

/-! ### Texts that are not blank -/

namespace Text

lemma isBlankText_eq_false {s : String} {c : Char} (hc : c ∈ s.toList) (hb : isBlank c = false) :
    isBlankText s = false := by
  rw [isBlankText, List.all_eq_false]
  exact ⟨c, hc, by simp [hb]⟩

lemma isBlankText_append_left {s : String} (t : String) (h : isBlankText s = false) :
    isBlankText (s ++ t) = false := by
  rw [isBlankText, List.all_eq_false] at *
  obtain ⟨c, hc, hb⟩ := h
  exact ⟨c, by simp [hc], hb⟩

lemma isBlank_of_isDigit {c : Char} (h : c.isDigit = true) : isBlank c = false := by
  simp only [Char.isDigit, Bool.and_eq_true, decide_eq_true_eq] at h
  have h1 : 48 ≤ c.toNat := h.1
  have h2 : c.toNat ≤ 57 := h.2
  rw [isBlank, Ranges.mem, List.any_eq_false]
  simp only [blankRanges, List.mem_cons, List.not_mem_nil, or_false]
  rintro r hr
  rcases hr with rfl | rfl | rfl | rfl | rfl | rfl | rfl | rfl | rfl | rfl <;> simp <;> omega

end Text

namespace Number

open Text

lemma isBlankText_natText (n : Nat) : isBlankText (toString n) = false := by
  obtain ⟨c, hc⟩ := List.exists_mem_of_ne_nil _ (Nat.toDigits_ne_nil (n := n) (b := 10))
  refine isBlankText_eq_false (c := c) ?_ ?_
  · simpa [Nat.repr] using hc
  · exact isBlank_of_isDigit (Nat.isDigit_of_mem_toDigits (by decide) (by decide) hc)

lemma isBlankText_intText (n : Int) : isBlankText (intText n) = false := by
  unfold intText
  cases n with
  | ofNat n => exact isBlankText_natText n
  | negSucc n => exact isBlankText_append_left _ (s := "-") (by decide)

/-- A point or the letter of an exponent is part of every finite float. -/
lemma exists_not_blank_mem (layout : Layout) (digits : List Char) (point : Int) (p : Prop)
    [Decidable p] :
    ∃ c ∈ if p then positional digits point else exponential layout digits (point - 1),
      isBlank c = false := by
  split_ifs
  · refine ⟨'.', ?_, by decide⟩
    unfold positional
    split <;> simp
  · exact ⟨'e', by simp [exponential], by decide⟩

lemma isBlankText_signed (negative : Bool) {body : List Char} (h : ∃ c ∈ body, isBlank c = false) :
    isBlankText (String.ofList (if negative then '-' :: body else body)) = false := by
  obtain ⟨c, hc, hb⟩ := h
  refine isBlankText_eq_false (c := c) ?_ hb
  rw [String.toList_ofList]
  cases negative
  · exact hc
  · exact List.mem_cons_of_mem _ hc

lemma isBlankText_floatText (x : Float) : isBlankText (floatText x) = false := by
  unfold floatText Layout.render
  cases parts x with
  | nan => decide
  | infinite negative => cases negative <;> decide
  | finite negative m e => exact isBlankText_signed negative (exists_not_blank_mem _ _ _ _)

end Number

open Text in
lemma Value.isBlankText_quoted {v : Value} (h : ∀ s, v ≠ .str s) :
    isBlankText v.quoted = false := by
  cases v with
  | null => decide
  | bool b => cases b <;> decide
  | int n => exact Number.isBlankText_intText n
  | float x => exact Number.isBlankText_floatText x
  | str s => exact absurd rfl (h s)
  | list items =>
    rw [Value.quoted]
    exact isBlankText_append_left _ (isBlankText_append_left _ (by decide))
  | map entries =>
    rw [Value.quoted]
    exact isBlankText_append_left _ (isBlankText_append_left _ (by decide))

/-! ### Folded texts -/

namespace Text

variable {c : Char} {s : String}

lemma mem_dropWhile {l : List Char} (hc : c ∈ l) (hb : isBlank c = false) :
    c ∈ l.dropWhile isBlank := by
  rw [← List.takeWhile_append_dropWhile (p := isBlank) (l := l), List.mem_append] at hc
  rcases hc with hc | hc
  · rw [List.mem_takeWhile_imp hc] at hb
    cases hb
  · exact hc

lemma mem_strip (hc : c ∈ s.toList) (hb : isBlank c = false) : c ∈ (strip s).toList := by
  rw [strip, String.toList_ofList, stripChars, List.mem_reverse]
  exact mem_dropWhile (List.mem_reverse.mpr (mem_dropWhile hc hb)) hb

lemma mem_lowerFrom {before l : List Char} (hc : c ∈ l) (hσ : c.toNat ≠ 0x3A3)
    (h : lowerLetter c = [c]) : c ∈ lowerFrom before l := by
  induction l generalizing before with
  | nil => cases hc
  | cons d l ih =>
    rw [lowerFrom, List.mem_append]
    rcases List.mem_cons.mp hc with rfl | hc
    · left
      rw [if_neg (by simpa using hσ), h]
      exact List.mem_cons_self
    · exact .inr (ih hc)

/-- A sign is neither blank nor a letter. -/
structure IsSign (c : Char) : Prop where
  isBlank : isBlank c = false
  ne_sigma : c.toNat ≠ 0x3A3
  lowerLetter : lowerLetter c = [c]

lemma IsSign.mem_folded (h : IsSign c) (hc : c ∈ s.toList) :
    c ∈ (Completion.folded s).toList := by
  rw [Completion.folded, lower, String.toList_ofList]
  exact mem_lowerFrom (mem_strip hc h.isBlank) h.ne_sigma h.lowerLetter

/-- A text with a sign does not fold to a text without it. -/
lemma IsSign.folded_ne (h : IsSign c) (hc : c ∈ s.toList) {t : String} (ht : c ∉ t.toList) :
    Completion.folded s ≠ t := by
  rintro rfl
  exact ht (h.mem_folded hc)

lemma isSign_point : IsSign '.' := ⟨by decide, by decide, by decide⟩

lemma isSign_plus : IsSign '+' := ⟨by decide, by decide, by decide⟩

lemma isSign_minus : IsSign '-' := ⟨by decide, by decide, by decide⟩

lemma isSign_brace : IsSign '\x7b' := ⟨by decide, by decide, by decide⟩

end Text

open Text Number

/-- A point or the sign of an exponent is part of every finite float. -/
lemma exists_sign_mem (layout : Layout) (digits : List Char) (point : Int) (p : Prop)
    [Decidable p] :
    ∃ c ∈ if p then positional digits point else exponential layout digits (point - 1),
      c = '.' ∨ c = '+' ∨ c = '-' := by
  split_ifs
  · refine ⟨'.', ?_, by simp⟩
    unfold positional
    split <;> simp
  · refine ⟨if point - 1 < 0 then '-' else '+', by simp [exponential], ?_⟩
    split_ifs <;> simp

variable {word : String}

lemma folded_signed_ne (negative : Bool) {body : List Char}
    (h : ∃ c ∈ body, c = '.' ∨ c = '+' ∨ c = '-') (hpoint : '.' ∉ word.toList)
    (hplus : '+' ∉ word.toList) (hminus : '-' ∉ word.toList) :
    Completion.folded (String.ofList (if negative then '-' :: body else body)) ≠ word := by
  obtain ⟨c, hc, hsign⟩ := h
  have hmem : c ∈ (String.ofList (if negative then '-' :: body else body)).toList := by
    rw [String.toList_ofList]
    cases negative
    · exact hc
    · exact List.mem_cons_of_mem _ hc
  rcases hsign with rfl | rfl | rfl
  · exact isSign_point.folded_ne hmem hpoint
  · exact isSign_plus.folded_ne hmem hplus
  · exact isSign_minus.folded_ne hmem hminus

/-- The text of a float does not fold to a word without signs. -/
lemma folded_floatText_ne (x : Float)
    (hpoint : '.' ∉ word.toList) (hplus : '+' ∉ word.toList) (hminus : '-' ∉ word.toList)
    (hnan : word ≠ "nan") (hinf : word ≠ "inf") : Completion.folded (floatText x) ≠ word := by
  unfold floatText Layout.render
  cases parts x with
  | nan =>
    have h : Completion.folded plainLayout.notANumber = "nan" := by decide +kernel
    exact fun hw => hnan (hw.symm.trans h)
  | infinite negative =>
    cases negative with
    | true => exact isSign_minus.folded_ne (by decide) hminus
    | false =>
      have h : Completion.folded plainLayout.positiveInfinity = "inf" := by decide +kernel
      exact fun hw => hinf (hw.symm.trans h)
  | finite negative m e =>
    exact folded_signed_ne negative (exists_sign_mem _ _ _ _) hpoint hplus hminus

lemma folded_map_ne (m : Fields) (h : '\x7b' ∉ word.toList) :
    Completion.folded (Value.map m).text ≠ word := by
  refine isSign_brace.folded_ne ?_ h
  show '\x7b' ∈ ("\x7b" ++ _ ++ "\x7d" : String).toList
  simp

end LearningGame
