import LearningGame.Json.Reader
import LearningGame.Json.Writer
import LearningGame.Proofs.Value.Fields

/-!
# Names that are written and read

A text that is written in JSON is read back as it was, whether the characters beyond ASCII are
escaped or kept. So an object whose names are texts comes back with the same names.
-/

namespace LearningGame.Json

/-! ### Escapes -/

lemma hexValue?_digitChar : ∀ d < 16, hexValue? (Nat.digitChar d) = some d := by decide

/-- Four hexadecimal digits. -/
lemma hexDigits_four {n : Nat} (h : n < 0x10000) :
    Text.hexDigits 4 n = [Nat.digitChar (n / 4096), Nat.digitChar (n / 256 % 16),
      Nat.digitChar (n / 16 % 16), Nat.digitChar (n % 16)] := by
  have hdigit : Nat.digitChar 0 = '0' := rfl
  unfold Text.hexDigits
  by_cases h1 : n < 16
  · rw [Nat.toDigits_of_lt_base h1]
    simp [Nat.div_eq_of_lt, Nat.mod_eq_of_lt, h1, show n < 256 by omega, show n < 4096 by omega,
      List.replicate]
  rw [Nat.toDigits_of_base_le (by decide) (by omega)]
  by_cases h2 : n / 16 < 16
  · rw [Nat.toDigits_of_lt_base h2]
    simp [Nat.div_eq_of_lt, Nat.mod_eq_of_lt, h2, show n < 256 by omega, show n < 4096 by omega,
      List.replicate]
  rw [Nat.toDigits_of_base_le (by decide) (by omega), Nat.div_div_eq_div_mul]
  by_cases h3 : n / 256 < 16
  · rw [Nat.toDigits_of_lt_base h3]
    simp [Nat.div_eq_of_lt, Nat.mod_eq_of_lt, h3, show n < 4096 by omega]
  rw [Nat.toDigits_of_base_le (by decide) (by omega), Nat.div_div_eq_div_mul,
    Nat.toDigits_of_lt_base (by omega)]
  simp

/-- The unit that an escape names. -/
lemma readUnits_unitEscape {n : Nat} (h : n < 0x10000) (opening : Nat) {rest : List Char}
    (hrest : rest ≠ []) :
    readUnits opening (unitEscape n ++ rest) = consUnit n (readUnits opening rest) := by
  have hunit : hexUnit? (Nat.digitChar (n / 4096)) (Nat.digitChar (n / 256 % 16))
      (Nat.digitChar (n / 16 % 16)) (Nat.digitChar (n % 16)) = some n := by
    unfold hexUnit?
    rw [hexValue?_digitChar _ (by omega), hexValue?_digitChar _ (by omega),
      hexValue?_digitChar _ (by omega), hexValue?_digitChar _ (by omega)]
    show some (((n / 4096 * 16 + n / 256 % 16) * 16 + n / 16 % 16) * 16 + n % 16) = some n
    congr 1
    omega
  rw [unitEscape, hexDigits_four h]
  show readUnits opening ('\\' :: 'u' :: _ :: _ :: _ :: _ :: rest) = _
  rw [readUnits, hunit]
  simp [hrest]

/-! ### Characters -/

/-- The units in which a character is written. -/
def unitsOf (ascii : Bool) (c : Char) : List Nat :=
  if ascii ∧ 0x10000 ≤ c.toNat then
    [0xD800 + (c.toNat - 0x10000) / 0x400, 0xDC00 + (c.toNat - 0x10000) % 0x400]
  else [c.toNat]

/-- Put units in front of the units read from the rest. -/
def consUnits (units : List Nat) (r : Result (List Nat)) : Result (List Nat) :=
  units.foldr consUnit r

/-- A character that is written as it is. -/
lemma readUnits_cons {c : Char} (hquote : c ≠ '"') (hslash : c ≠ '\\') (hcontrol : ¬c.toNat < 0x20)
    (opening : Nat) (rest : List Char) :
    readUnits opening (c :: rest) = consUnit c.toNat (readUnits opening rest) := by
  rw [readUnits, if_neg hcontrol] <;> simp_all

/-- A character that is written by a letter. -/
lemma readUnits_escaped {letter c : Char} (hletter : letter ≠ 'u') (h : escaped? letter = some c)
    (opening : Nat) (rest : List Char) :
    readUnits opening ('\\' :: letter :: rest) = consUnit c.toNat (readUnits opening rest) := by
  rw [readUnits, h] <;> simp_all

/-- A character that is written by an escaped pair. -/
lemma readUnits_pair {high low : Nat} (hhigh : high < 0x10000) (hlow : low < 0x10000)
    (opening : Nat) {rest : List Char} (hrest : rest ≠ []) :
    readUnits opening (unitEscape high ++ unitEscape low ++ rest) =
      consUnits [high, low] (readUnits opening rest) := by
  rw [List.append_assoc, readUnits_unitEscape hhigh opening (by simp [unitEscape]),
    readUnits_unitEscape hlow opening hrest]
  rfl

lemma readUnits_writeChar (ascii : Bool) (c : Char) (opening : Nat) {rest : List Char}
    (hrest : rest ≠ []) :
    readUnits opening (writeChar ascii c ++ rest) =
      consUnits (unitsOf ascii c) (readUnits opening rest) := by
  have hsmall (h : c.toNat < 0x10000) : unitsOf ascii c = [c.toNat] :=
    if_neg fun hc => absurd hc.2 (by omega)
  have hletter (letter : Char) (hu : letter ≠ 'u') (h : escaped? letter = some c)
      (hc : c.toNat < 0x10000) : readUnits opening (['\\', letter] ++ rest) =
        consUnits (unitsOf ascii c) (readUnits opening rest) := by
    rw [hsmall hc]
    exact readUnits_escaped hu h opening rest
  have hescape (hc : c.toNat < 0x10000) : readUnits opening (unitEscape c.toNat ++ rest) =
      consUnits (unitsOf ascii c) (readUnits opening rest) := by
    rw [hsmall hc]
    exact readUnits_unitEscape hc opening hrest
  unfold writeChar
  dsimp only
  split_ifs with h1 h2 h3 h4 h5 h6 h7 h8 h9 h10
  · subst h1
    exact hletter '"' (by decide) rfl (by decide)
  · subst h2
    exact hletter '\\' (by decide) rfl (by decide)
  · subst h3
    exact hletter 'n' (by decide) rfl (by decide)
  · subst h4
    exact hletter 'r' (by decide) rfl (by decide)
  · subst h5
    exact hletter 't' (by decide) rfl (by decide)
  · obtain rfl : c = '\x08' := Char.toNat_inj.1 h6
    exact hletter 'b' (by decide) rfl (by decide)
  · obtain rfl : c = '\x0c' := Char.toNat_inj.1 h7
    exact hletter 'f' (by decide) rfl (by decide)
  · exact hescape (by omega)
  · have hunits : unitsOf ascii c = [c.toNat] := by
      refine if_neg fun hc => ?_
      simp only [hc.1, Bool.not_true, Bool.false_or, decide_eq_true_eq] at h9
      omega
    rw [hunits]
    exact readUnits_cons h1 h2 h8 opening rest
  · exact hescape h10
  · have hunits : unitsOf ascii c =
        [0xD800 + (c.toNat - 0x10000) / 0x400, 0xDC00 + (c.toNat - 0x10000) % 0x400] := by
      refine if_pos ⟨?_, by omega⟩
      cases ascii with
      | false => exact absurd rfl h9
      | true => rfl
    have hmax : c.toNat < 0xD800 ∨ 0xDFFF < c.toNat ∧ c.toNat < 0x110000 := c.valid
    have hhigh : 0xD800 + (c.toNat - 0x10000) / 0x400 < 0x10000 := by omega
    have hlow : 0xDC00 + (c.toNat - 0x10000) % 0x400 < 0x10000 := by omega
    rw [hunits]
    exact readUnits_pair hhigh hlow opening hrest

/-! ### Texts -/

/-- Units that are put together again after a character. -/
lemma joinUnits_unitsOf (ascii : Bool) (c : Char) (units : List Nat) :
    joinUnits (unitsOf ascii c ++ units) = c :: joinUnits units := by
  have hmax : c.toNat < 0xD800 ∨ 0xDFFF < c.toNat ∧ c.toNat < 0x110000 := c.valid
  unfold unitsOf
  split_ifs with h
  · have hwhole : 0x10000 + (0xD800 + (c.toNat - 0x10000) / 0x400 - 0xD800) * 0x400 +
        (0xDC00 + (c.toNat - 0x10000) % 0x400 - 0xDC00) = c.toNat := by omega
    rw [List.cons_append, List.cons_append, List.nil_append, joinUnits, if_pos (by omega), hwhole,
      Char.ofNat_toNat]
  · cases units with
    | nil => simp [joinUnits, Char.ofNat_toNat]
    | cons u units =>
      rw [List.cons_append, List.nil_append, joinUnits, if_neg (by omega), Char.ofNat_toNat]

/-- A text that is written is read back. -/
lemma readText_writeText (ascii : Bool) (s : String) (rest : List Char) :
    readText ((writeText ascii s).toList.tail ++ rest) = .ok (s, rest) := by
  have hread (opening : Nat) (cs : List Char) :
      ∃ units, readUnits opening (cs.flatMap (writeChar ascii) ++ '"' :: rest) = .ok (units, rest) ∧
        joinUnits units = cs := by
    induction cs with
    | nil => exact ⟨[], by simp [readUnits], rfl⟩
    | cons c cs ih =>
      obtain ⟨units, hunits, hjoin⟩ := ih
      refine ⟨unitsOf ascii c ++ units, ?_, by rw [joinUnits_unitsOf, hjoin]⟩
      rw [List.flatMap_cons, List.append_assoc, readUnits_writeChar ascii c opening (by simp),
        hunits]
      unfold consUnits unitsOf
      split_ifs <;> rfl
  have htail : (writeText ascii s).toList.tail ++ rest =
      s.toList.flatMap (writeChar ascii) ++ '"' :: rest := by
    simp [writeText]
  obtain ⟨units, hunits, hjoin⟩ :=
    hread (((writeText ascii s).toList.tail ++ rest).length + 1) s.toList
  rw [← htail] at hunits
  rw [readText, hunits]
  simp [hjoin]

/-! ### Objects -/

/-- What becomes of entries that are written in an object and read back, as far as their names are
concerned: each of them is put at the text that is written for its name. -/
def reread (m : Fields) : Fields := m.foldl (fun done e => done.put (keyText e.1) e.2) []

/-- Whatever the names were, those that are read are different texts. -/
lemma isRecord_reread (m : Fields) : (reread m).IsRecord := by
  have hput (done : Fields) (h : done.IsRecord) :
      (m.foldl (fun done e => done.put (keyText e.1) e.2) done).IsRecord := by
    induction m generalizing done with
    | nil => exact h
    | cons e m ih => exact ih _ (h.put (keyText e.1) e.2)
  exact hput [] Fields.isRecord_nil

/-- Entries come back as they were just if they are named by different texts. -/
lemma reread_eq_self_iff (m : Fields) : reread m = m ↔ m.IsRecord := by
  constructor
  · intro h
    rw [← h]
    exact isRecord_reread m
  · intro h
    have hput (done : Fields) (hdone : ∀ e ∈ m, done.find? e.1 = none) :
        m.foldl (fun done e => done.put (keyText e.1) e.2) done = done ++ m := by
      induction m generalizing done with
      | nil => exact (List.append_nil done).symm
      | cons e m ih =>
        obtain ⟨k, v⟩ := e
        obtain ⟨a, ha, hfresh, hrest⟩ := (Fields.isRecord_cons _ m).1 h
        obtain rfl : k = .text a := ha
        have hnew : done.find? (.text a) = none := hdone (.text a, v) List.mem_cons_self
        rw [List.foldl_cons, keyText, Fields.put_of_find?_eq_none hnew, ih hrest]
        · simp
        · rintro ⟨l, w⟩ he
          obtain ⟨b, rfl⟩ : ∃ b : String, l = .text b := hrest.exists_text (l, w) he
          have hne : a ≠ b := by
            rintro rfl
            rw [hrest.find?_of_mem he] at hfresh
            cases hfresh
          rw [Fields.find?_append, hdone _ (List.mem_cons_of_mem _ he)]
          simp [hne]
    exact hput [] fun _ _ => rfl

end LearningGame.Json
