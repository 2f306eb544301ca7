import LearningGame.Proofs.Json.Names
import Mathlib.Data.List.TakeDrop
import Mathlib.Data.List.TakeWhile

/-!
# How far the reader reads

A value takes up a part of the text at its start, and only that part decides what is read: with other
characters after it the same value is read and they are left over, unless they go on with a numeral.
So the fuel of the readers plays no role once it is as large as the part that they read, and a text
that is read as a list or map is not cut short by anything in it.
-/

namespace LearningGame.Json

/-! ### What follows -/

/-- Whether a rest does not begin with a character of some sort. -/
def EndsAt (p : Char → Bool) (rest : List Char) : Prop := ∀ c ∈ rest.head?, p c = false

lemma endsAt_cons {p : Char → Bool} {c : Char} {rest : List Char} :
    EndsAt p (c :: rest) ↔ p c = false := by simp [EndsAt]

lemma EndsAt.mono {p q : Char → Bool} {rest : List Char} (h : EndsAt p rest)
    (hpq : ∀ c, p c = false → q c = false) : EndsAt q rest := fun c hc => hpq c (h c hc)

/-- Whether a numeral can go on with a character. -/
def continuesNumeral (c : Char) : Bool := c.isDigit || c = '.' || c = 'e' || c = 'E'

/-- Whether the places of a numeral, or the point in front of them, can go on with a character. -/
def continuesPlaces (c : Char) : Bool := c.isDigit || c = '.'

lemma continuesPlaces_of_continuesNumeral {c : Char} (h : continuesNumeral c = false) :
    continuesPlaces c = false := by
  simp only [continuesNumeral, Bool.or_eq_false_iff] at h
  simp only [continuesPlaces, Bool.or_eq_false_iff]
  exact h.1.1

lemma isDigit_of_continuesPlaces {c : Char} (h : continuesPlaces c = false) : c.isDigit = false :=
  (Bool.or_eq_false_iff.mp h).1

lemma continuesNumeral_of_isSpace {c : Char} (h : isSpace c = true) :
    continuesNumeral c = false := by
  simp only [isSpace, Bool.or_eq_true, decide_eq_true_eq] at h
  rcases h with ((rfl | rfl) | rfl) | rfl <;> decide

/-- Space and a character after it are found in the same way whatever comes after them. -/
lemma exists_of_skipSpace {cs tail : List Char} {c : Char} (h : skipSpace cs = c :: tail) :
    ∃ space, cs = space ++ c :: tail ∧ (∀ rest, skipSpace (space ++ c :: rest) = c :: rest) ∧
      (continuesNumeral c = false → ∀ rest, EndsAt continuesNumeral (space ++ c :: rest)) := by
  have hc : isSpace c = false := by
    have hhead := List.head?_dropWhile_not isSpace cs
    rw [← skipSpace, h] at hhead
    simpa using hhead
  have hspace : ∀ d ∈ cs.takeWhile isSpace, isSpace d = true := fun d hd => List.mem_takeWhile_imp hd
  refine ⟨cs.takeWhile isSpace, ?_, fun rest => ?_, fun hends rest => ?_⟩
  · rw [← h, skipSpace, List.takeWhile_append_dropWhile]
  · rw [skipSpace, List.dropWhile_append_of_pos hspace, List.dropWhile_cons_of_neg (by simp [hc])]
  · cases hs : cs.takeWhile isSpace with
    | nil => exact endsAt_cons.mpr hends
    | cons d space =>
      exact endsAt_cons.mpr (continuesNumeral_of_isSpace (hspace d (by simp [hs])))

/-! ### Texts -/

lemma consUnit_eq_ok {unit : Nat} {r : Result (List Nat)} {units : List Nat} {rest : List Char} :
    consUnit unit r = .ok (units, rest) ↔
      ∃ others, r = .ok (others, rest) ∧ unit :: others = units := by
  rcases r with e | ⟨others, tail⟩
  · simp [consUnit]
  · simp [consUnit, and_comm]

/-- The inside of a text is read up to its closing quote, whatever comes after it. -/
lemma exists_of_readUnits {opening : Nat} {cs rest : List Char} {units : List Nat}
    (h : readUnits opening cs = .ok (units, rest)) :
    ∃ used, used ≠ [] ∧ cs = used ++ rest ∧
      ∀ opening rest, readUnits opening (used ++ rest) = .ok (units, rest) := by
  fun_induction readUnits opening cs generalizing units with
  | case2 tail =>
    cases h
    exact ⟨['"'], by simp, rfl, fun _ _ => by simp [readUnits]⟩
  | case5 a b c d tail unit hunit hempty ih =>
    obtain ⟨others, hothers, rfl⟩ := consUnit_eq_ok.mp h
    obtain ⟨used, hne, rfl, hread⟩ := ih hothers
    refine ⟨'\\' :: 'u' :: a :: b :: c :: d :: used, by simp, by simp, fun opening rest => ?_⟩
    have hmore : (used ++ rest).isEmpty = false := by simp [hne]
    simp only [List.cons_append, readUnits, hunit, hmore, hread, consUnit, Bool.false_eq_true,
      if_false]
  | case8 c tail hshort hletter e he ih =>
    obtain ⟨others, hothers, rfl⟩ := consUnit_eq_ok.mp h
    obtain ⟨used, -, rfl, hread⟩ := ih hothers
    refine ⟨'\\' :: c :: used, by simp, by simp, fun opening rest => ?_⟩
    rw [List.cons_append, List.cons_append, readUnits_escaped (by simpa using hletter) he, hread]
    rfl
  | case11 c tail hquote hlone hunit hletter hescape hcontrol ih =>
    have hslash : c ≠ '\\' := by
      rintro rfl
      cases tail with
      | nil => exact hlone rfl rfl
      | cons d tail => exact hescape d tail rfl rfl
    obtain ⟨others, hothers, rfl⟩ := consUnit_eq_ok.mp h
    obtain ⟨used, -, rfl, hread⟩ := ih hothers
    refine ⟨c :: used, by simp, by simp, fun opening rest => ?_⟩
    rw [List.cons_append, readUnits_cons (by simpa using hquote) hslash hcontrol, hread]
    rfl
  | _ => cases h

lemma exists_of_readText {cs rest : List Char} {s : String} (h : readText cs = .ok (s, rest)) :
    ∃ used, used ≠ [] ∧ cs = used ++ rest ∧ ∀ rest, readText (used ++ rest) = .ok (s, rest) := by
  unfold readText at h
  split at h
  · next units tail hunits =>
    cases h
    obtain ⟨used, hne, hcs, hread⟩ := exists_of_readUnits hunits
    exact ⟨used, hne, hcs, fun rest => by rw [readText, hread]⟩
  · cases h

/-- Whether a value is a list or a map. -/
def IsCompound : Value → Prop
  | .list _ | .map _ => True
  | _ => False

/-! ### Numbers -/

lemma span_append {p : Char → Bool} {cs digits rest : List Char}
    (h : cs.span p = (digits, rest)) :
    cs = digits ++ rest ∧ (∀ c ∈ digits, p c = true) ∧
      ∀ rest, EndsAt p rest → (digits ++ rest).span p = (digits, rest) := by
  rw [List.span_eq_takeWhile_dropWhile, Prod.mk.injEq] at h
  obtain ⟨rfl, rfl⟩ := h
  have hall : ∀ c ∈ cs.takeWhile p, p c = true := fun c hc => List.mem_takeWhile_imp hc
  refine ⟨List.takeWhile_append_dropWhile.symm, hall, fun rest hrest => ?_⟩
  rw [List.span_eq_takeWhile_dropWhile, List.takeWhile_append_of_pos hall,
    List.dropWhile_append_of_pos hall]
  cases rest with
  | nil => simp
  | cons c rest =>
    have hc : ¬p c = true := by simpa using endsAt_cons.mp hrest
    rw [List.takeWhile_cons_of_neg hc, List.dropWhile_cons_of_neg hc, List.append_nil]

lemma takeSign_append {cs body : List Char} {negative : Bool}
    (h : Number.takeSign cs = (negative, body)) :
    ∃ sign, cs = sign ++ body ∧ ∀ other, other.head? = body.head? →
      Number.takeSign (sign ++ other) = (negative, other) := by
  unfold Number.takeSign at h
  split at h
  · cases h
    exact ⟨['-'], rfl, fun _ _ => rfl⟩
  · cases h
    exact ⟨['+'], rfl, fun _ _ => rfl⟩
  · next hminus hplus =>
    cases h
    refine ⟨[], rfl, fun other hother => ?_⟩
    rw [List.nil_append, Number.takeSign]
    · rintro rest rfl
      cases cs with
      | nil => cases hother
      | cons c cs =>
        cases hother
        exact hminus cs rfl
    · rintro rest rfl
      cases cs with
      | nil => cases hother
      | cons c cs =>
        cases hother
        exact hplus cs rfl

lemma exponent_of_endsAt {rest : List Char} (h : EndsAt continuesNumeral rest) :
    exponent rest = (none, rest) := by
  cases rest with
  | nil => rfl
  | cons c rest =>
    have hc := endsAt_cons.mp h
    simp only [continuesNumeral, Bool.or_eq_false_iff, decide_eq_false_iff_not] at hc
    rw [exponent, if_neg (by simp [hc])]

/-- An exponent is read up to the last of its digits. -/
lemma exists_of_exponent {cs rest : List Char} {power : Option Int}
    (h : exponent cs = (power, rest)) :
    ∃ used, cs = used ++ rest ∧ ∀ rest, EndsAt continuesNumeral rest →
      exponent (used ++ rest) = (power, rest) ∧ EndsAt continuesPlaces (used ++ rest) := by
  have hnone : (none, cs) = (power, rest) → ∃ used, cs = used ++ rest ∧
      ∀ rest, EndsAt continuesNumeral rest →
        exponent (used ++ rest) = (power, rest) ∧ EndsAt continuesPlaces (used ++ rest) := by
    intro heq
    cases heq
    exact ⟨[], rfl, fun rest hrest => ⟨exponent_of_endsAt hrest,
      hrest.mono fun _ => continuesPlaces_of_continuesNumeral⟩⟩
  cases cs with
  | nil => exact hnone h
  | cons c cs =>
    rw [exponent] at h
    split_ifs at h with hc
    · rcases hsign : Number.takeSign cs with ⟨negative, body⟩
      rcases hspan : body.span Char.isDigit with ⟨digits, tail⟩
      simp only [hsign, hspan] at h
      split_ifs at h with hempty
      · exact hnone h
      · cases h
        obtain ⟨sign, rfl, htake⟩ := takeSign_append hsign
        obtain ⟨rfl, -, hdigits⟩ := span_append hspan
        refine ⟨c :: (sign ++ digits), by simp, fun other hother => ⟨?_, ?_⟩⟩
        · have hhead : (digits ++ other).head? = (digits ++ rest).head? := by
            cases digits with
            | nil => exact absurd rfl hempty
            | cons d digits => rfl
          have hend := hother.mono fun _ hc =>
            isDigit_of_continuesPlaces (continuesPlaces_of_continuesNumeral hc)
          rw [List.cons_append, List.append_assoc, exponent, if_pos hc, htake _ hhead]
          simp only [hdigits other hend, if_neg hempty]
        · refine endsAt_cons.mpr ?_
          rcases hc with rfl | rfl <;> decide
    · exact hnone h

lemma places_of_endsAt {rest : List Char} (h : EndsAt continuesPlaces rest) :
    places rest = ([], rest) := by
  unfold places
  split
  · cases endsAt_cons.mp h
  · rfl

/-- The places of a number are read up to the last one. -/
lemma exists_of_places {cs rest digits : List Char} (h : places cs = (digits, rest)) :
    ∃ used, cs = used ++ rest ∧ ∀ rest, EndsAt continuesPlaces rest →
      places (used ++ rest) = (digits, rest) ∧ EndsAt Char.isDigit (used ++ rest) := by
  have hnone : ([], cs) = (digits, rest) → ∃ used, cs = used ++ rest ∧
      ∀ rest, EndsAt continuesPlaces rest →
        places (used ++ rest) = (digits, rest) ∧ EndsAt Char.isDigit (used ++ rest) := by
    intro heq
    cases heq
    exact ⟨[], rfl, fun rest hrest => ⟨places_of_endsAt hrest,
      hrest.mono fun _ => isDigit_of_continuesPlaces⟩⟩
  unfold places at h
  split at h
  · next tail =>
    rcases hspan : tail.span Char.isDigit with ⟨places, after⟩
    simp only [hspan] at h
    split_ifs at h with hempty
    · exact hnone h
    · cases h
      obtain ⟨rfl, -, hdigits⟩ := span_append hspan
      refine ⟨'.' :: digits, rfl, fun rest hrest => ⟨?_, endsAt_cons.mpr (by decide)⟩⟩
      rw [List.cons_append, Json.places]
      simp only [hdigits rest (hrest.mono fun _ => isDigit_of_continuesPlaces), if_neg hempty]
  · exact hnone h

/-- The whole part of a number is read up to its last digit. -/
lemma wholeDigits_append {cs digits rest : List Char} (h : wholeDigits cs = (digits, rest)) :
    cs = digits ++ rest ∧ (∀ c ∈ digits, c.isDigit = true) ∧
      ∀ rest, digits ≠ [] → EndsAt Char.isDigit rest →
        wholeDigits (digits ++ rest) = (digits, rest) := by
  unfold wholeDigits at h
  split at h
  · cases h
    exact ⟨rfl, by simp, fun _ _ _ => rfl⟩
  · next hzero =>
    obtain ⟨rfl, hall, hspan⟩ := span_append h
    refine ⟨rfl, hall, fun other hne hother => ?_⟩
    rw [wholeDigits]
    · exact hspan other hother
    · intro tail heq
      cases digits with
      | nil => exact hne rfl
      | cons c digits =>
        cases heq
        exact hzero (digits ++ rest) rfl

/-- The minus sign at the start of a number, and what comes after it. -/
def minusSign (cs : List Char) : Bool × List Char :=
  if cs.head? = some '-' then (true, cs.tail) else (false, cs)

/-- The number that a sign and the parts of a numeral stand for. -/
def numberOf? (negative : Bool) (whole fraction : List Char) (power : Option Int) : Option Value :=
  let digits := (Number.takeDigits 0 0 (whole ++ fraction)).1
  if whole = [] then none
  else if fraction = [] ∧ power = none then
    if Number.digitLimit < whole.length then none else some (.int (Number.signed negative digits))
  else some (.float (Number.ofDecimal negative digits (power.getD 0 - fraction.length)))

/-- A number is read part by part. -/
lemma readNumber_eq_ok {cs rest : List Char} {v : Value} :
    readNumber cs = .ok (v, rest) ↔ ∃ whole fraction power afterWhole afterPlaces,
      wholeDigits (minusSign cs).2 = (whole, afterWhole) ∧
        places afterWhole = (fraction, afterPlaces) ∧ exponent afterPlaces = (power, rest) ∧
        numberOf? (minusSign cs).1 whole fraction power = some v := by
  unfold readNumber
  split
  next negative body hmatch =>
  have hsign : minusSign cs = (negative, body) := by
    split at hmatch
    · exact hmatch
    · next hminus =>
      rw [minusSign, if_neg, hmatch]
      rw [List.head?_eq_some_iff]
      rintro ⟨tail, htail⟩
      exact hminus tail htail
  rcases hwhole : wholeDigits body with ⟨whole, afterWhole⟩
  rcases hplaces : places afterWhole with ⟨fraction, afterPlaces⟩
  rcases hpower : exponent afterPlaces with ⟨power, tail⟩
  have hparts : (∃ whole fraction power afterWhole afterPlaces,
      wholeDigits (minusSign cs).2 = (whole, afterWhole) ∧
        places afterWhole = (fraction, afterPlaces) ∧ exponent afterPlaces = (power, rest) ∧
        numberOf? (minusSign cs).1 whole fraction power = some v) ↔
      numberOf? negative whole fraction power = some v ∧ tail = rest := by
    rw [hsign]
    constructor
    · rintro ⟨_, _, _, _, _, h1, h2, h3, h⟩
      cases hwhole.symm.trans h1
      cases hplaces.symm.trans h2
      cases hpower.symm.trans h3
      exact ⟨h, rfl⟩
    · rintro ⟨h, rfl⟩
      exact ⟨_, _, _, _, _, hwhole, hplaces, hpower, h⟩
  rw [hparts]
  simp only [hplaces, hpower, numberOf?, List.isEmpty_iff]
  split_ifs <;> simp [fail]

/-- The digits of a number are read up to the last one, and so are its places and its exponent. -/
lemma exists_of_wholeDigits {body afterWhole afterPlaces rest whole fraction : List Char}
    {power : Option Int} (hwhole : wholeDigits body = (whole, afterWhole)) (hne : whole ≠ [])
    (hplaces : places afterWhole = (fraction, afterPlaces))
    (hpower : exponent afterPlaces = (power, rest)) :
    ∃ c used, c.isDigit = true ∧ body = c :: used ++ rest ∧
      ∀ rest, EndsAt continuesNumeral rest → ∃ afterWhole afterPlaces,
        wholeDigits (c :: used ++ rest) = (whole, afterWhole) ∧
          places afterWhole = (fraction, afterPlaces) ∧ exponent afterPlaces = (power, rest) := by
  obtain ⟨rfl, hall, hdigits⟩ := wholeDigits_append hwhole
  obtain ⟨usedPlaces, rfl, hfraction⟩ := exists_of_places hplaces
  obtain ⟨usedPower, rfl, hexponent⟩ := exists_of_exponent hpower
  obtain ⟨c, others, rfl⟩ := List.exists_cons_of_ne_nil hne
  refine ⟨c, others ++ usedPlaces ++ usedPower, hall c List.mem_cons_self, by simp,
    fun other hother => ?_⟩
  obtain ⟨hpower, hend⟩ := hexponent other hother
  obtain ⟨hplaces, hend⟩ := hfraction _ hend
  exact ⟨_, _, by simpa using hdigits _ hne hend, hplaces, hpower⟩

/-- Whether a text begins with a digit, or with a minus sign and a digit. -/
def OpensNumeral (cs : List Char) : Prop :=
  ∃ c rest, c.isDigit = true ∧ (cs = c :: rest ∨ cs = '-' :: c :: rest)

/-- A number is read up to the end of its numeral. -/
lemma exists_of_readNumber {cs rest : List Char} {v : Value} (h : readNumber cs = .ok (v, rest)) :
    ∃ used, used ≠ [] ∧ cs = used ++ rest ∧ (∀ rest, OpensNumeral (used ++ rest)) ∧
      ∀ rest, EndsAt continuesNumeral rest → readNumber (used ++ rest) = .ok (v, rest) := by
  obtain ⟨whole, fraction, power, afterWhole, afterPlaces, hwhole, hplaces, hpower, hv⟩ :=
    readNumber_eq_ok.mp h
  have hne : whole ≠ [] := by
    rintro rfl
    simp [numberOf?] at hv
  obtain ⟨negative, hnegative⟩ : ∃ negative, (minusSign cs).1 = negative := ⟨_, rfl⟩
  rw [hnegative] at hv
  obtain ⟨c, used, hc, hbody, hread⟩ := exists_of_wholeDigits hwhole hne hplaces hpower
  have hread (cs other : List Char) (hother : EndsAt continuesNumeral other)
      (hsign : (minusSign cs).1 = negative) (hbody : (minusSign cs).2 = c :: used ++ other) :
      readNumber cs = .ok (v, other) := by
    obtain ⟨_, _, hwhole, hplaces, hpower⟩ := hread other hother
    rw [← hbody] at hwhole
    rw [← hsign] at hv
    exact readNumber_eq_ok.mpr ⟨_, _, _, _, _, hwhole, hplaces, hpower, hv⟩
  have hminus : c ≠ '-' := by
    rintro rfl
    cases hc
  unfold minusSign at hnegative hbody
  split_ifs at hnegative hbody with hhead
  · obtain ⟨tail, rfl⟩ := List.head?_eq_some_iff.mp hhead
    cases hbody
    exact ⟨'-' :: c :: used, by simp, by simp, fun rest => ⟨c, _, hc, .inr rfl⟩, fun other hother =>
      hread _ _ hother hnegative rfl⟩
  · have hsign (other : List Char) : minusSign (c :: used ++ other) = (false, c :: used ++ other) :=
      if_neg (by simpa using hminus)
    refine ⟨c :: used, by simp, hbody, fun rest => ⟨c, _, hc, .inl rfl⟩, fun other hother =>
      hread _ _ hother ?_ (by rw [hsign])⟩
    rw [hsign, ← hnegative]

/-! ### Documents -/

lemma not_isCompound_of_readNumber {cs rest : List Char} {v : Value}
    (h : readNumber cs = .ok (v, rest)) : ¬IsCompound v := by
  obtain ⟨whole, fraction, power, -, -, -, -, -, hv⟩ := readNumber_eq_ok.mp h
  unfold numberOf? at hv
  dsimp only at hv
  split_ifs at hv <;> cases hv <;> simp [IsCompound]

/-- Whether a text is enclosed in brackets. -/
def IsBracketed (cs : List Char) : Prop :=
  ∃ opening inner closing, cs = opening :: inner ++ [closing] ∧
    (opening = '[' ∨ opening = '\x7b') ∧ (closing = ']' ∨ closing = '\x7d')

/-- Whether a text is read as a value, whatever comes after it but does not go on with a numeral. -/
structure Spells (used : List Char) (v : Value) : Prop where
  ne_nil : used ≠ []
  read : ∀ {fuel rest}, used.length ≤ fuel → EndsAt continuesNumeral rest →
    readValue fuel (used ++ rest) = .ok (v, rest)
  bracketed : IsCompound v → IsBracketed used

/-- Whether a text is read up to a closing bracket, whatever comes after that. -/
structure Closes (closing : Char) (reader : Nat → List Char → Result Value) (inner : List Char)
    (v : Value) : Prop where
  ne_nil : inner ≠ []
  read : ∀ {fuel rest}, inner.length < fuel → reader fuel (inner ++ closing :: rest) = .ok (v, rest)

/-- What the three readers of one fuel take up of a text. -/
structure TakesUp (fuel : Nat) : Prop where
  value : ∀ {cs v rest}, readValue fuel cs = .ok (v, rest) →
    ∃ used, cs = used ++ rest ∧ Spells used v
  items : ∀ {done cs v rest}, readItems fuel done cs = .ok (v, rest) →
    ∃ inner, cs = inner ++ ']' :: rest ∧ Closes ']' (readItems · done) inner v
  entries : ∀ {done cs v rest}, readEntries fuel done cs = .ok (v, rest) →
    ∃ inner, cs = inner ++ '\x7d' :: rest ∧ Closes '\x7d' (readEntries · done) inner v

/-- What is read with any fuel but none is read with as much as the text is long. -/
lemma spells_of_eq {used : List Char} {v : Value} (hne : used ≠ [])
    (h : ∀ {fuel rest}, EndsAt continuesNumeral rest →
      readValue (fuel + 1) (used ++ rest) = .ok (v, rest)) (hv : ¬IsCompound v) : Spells used v where
  ne_nil := hne
  read := by
    intro fuel rest hfuel hrest
    cases fuel with
    | zero => exact absurd (List.length_eq_zero_iff.mp (Nat.le_zero.mp hfuel)) hne
    | succ fuel => exact h hrest
  bracketed := fun h => absurd h hv

lemma readValue_of_opensNumeral {cs : List Char} (h : OpensNumeral cs) (fuel : Nat) :
    readValue (fuel + 1) cs = readNumber cs := by
  obtain ⟨c, rest, hc, rfl | rfl⟩ := h
  all_goals
    unfold readValue
    split <;> first | rfl | simp_all

/-- The brackets around what is read in between. -/
lemma spells_bracketed {opening closing : Char} {inner : List Char} {v : Value}
    (hopening : opening = '[' ∨ opening = '\x7b') (hclosing : closing = ']' ∨ closing = '\x7d')
    (h : ∀ {fuel rest}, inner.length < fuel →
      readValue (fuel + 1) (opening :: inner ++ closing :: rest) = .ok (v, rest)) :
    Spells (opening :: inner ++ [closing]) v where
  ne_nil := by simp
  read := by
    intro fuel rest hfuel _
    simp only [List.cons_append, List.length_cons, List.length_append, List.length_nil] at hfuel
    obtain ⟨fuel, rfl⟩ : ∃ n, fuel = n + 1 := ⟨fuel - 1, by omega⟩
    simpa using @h fuel rest (by omega)
  bracketed := fun _ => ⟨opening, inner, closing, rfl, hopening, hclosing⟩

lemma readValue_list {cs tail : List Char} {c : Char} (hskip : skipSpace cs = c :: tail)
    (hc : c ≠ ']') (fuel : Nat) :
    readValue (fuel + 1) ('[' :: cs) = readItems fuel [] (c :: tail) := by
  rw [readValue, hskip]
  split
  · next heq => exact absurd (List.cons.inj heq).1 hc
  · rfl

lemma readValue_map {cs tail : List Char} {c : Char} (hskip : skipSpace cs = c :: tail)
    (hc : c ≠ '\x7d') (fuel : Nat) :
    readValue (fuel + 1) ('\x7b' :: cs) = readEntries fuel [] (c :: tail) := by
  rw [readValue, hskip]
  split
  · next heq => exact absurd (List.cons.inj heq).1 hc
  · rfl

/-- What is read of a list or map with something in it, by one of the two readers. -/
lemma exists_spells_of_closes {opening closing : Char} {cs inner rest : List Char} {v : Value}
    {reader : Nat → List Char → Result Value}
    (hopening : opening = '[' ∨ opening = '\x7b') (hclosing : closing = ']' ∨ closing = '\x7d')
    (hvalue : ∀ {cs tail : List Char} {c : Char}, skipSpace cs = c :: tail → c ≠ closing →
      ∀ fuel, readValue (fuel + 1) (opening :: cs) = reader fuel (c :: tail))
    (hcs : skipSpace cs = inner ++ closing :: rest) (hinner : Closes closing reader inner v)
    (hfull : ∀ tail, skipSpace cs ≠ closing :: tail) :
    ∃ used, opening :: cs = used ++ rest ∧ Spells used v := by
  obtain ⟨c, inner, rfl⟩ := List.exists_cons_of_ne_nil hinner.ne_nil
  obtain ⟨space, rfl, hspace, -⟩ := exists_of_skipSpace hcs
  have hc : c ≠ closing := by
    rintro rfl
    exact hfull _ hcs
  refine ⟨opening :: (space ++ c :: inner) ++ [closing], by simp,
    spells_bracketed hopening hclosing fun {fuel rest} hfuel => ?_⟩
  have hmore := @hinner.read fuel rest (by simp only [List.length_append] at hfuel; omega)
  rw [List.cons_append, List.append_assoc, List.cons_append, hvalue (hspace _) hc]
  exact hmore

lemma exists_of_readValue {fuel : Nat} (ih : TakesUp fuel) {cs rest : List Char} {v : Value}
    (h : readValue (fuel + 1) cs = .ok (v, rest)) : ∃ used, cs = used ++ rest ∧ Spells used v := by
  have hempty {opening closing : Char} {cs : List Char} {v : Value} {rest : List Char}
      (hopening : opening = '[' ∨ opening = '\x7b') (hclosing : closing = ']' ∨ closing = '\x7d')
      (hskip : skipSpace cs = closing :: rest)
      (hvalue : ∀ {cs rest : List Char}, skipSpace cs = closing :: rest →
        ∀ fuel, readValue (fuel + 1) (opening :: cs) = .ok (v, rest)) :
      ∃ used, opening :: cs = used ++ rest ∧ Spells used v := by
    obtain ⟨space, rfl, hspace, -⟩ := exists_of_skipSpace hskip
    exact ⟨opening :: space ++ [closing], by simp,
      spells_bracketed hopening hclosing fun _ => hvalue (hspace _) _⟩
  unfold readValue at h
  split at h
  · next tail =>
    cases ht : readText tail with
    | error e => simp [ht, Except.map] at h
    | ok r =>
      simp only [ht, Except.map, Except.ok.injEq, Prod.mk.injEq] at h
      obtain ⟨rfl, rfl⟩ := h
      obtain ⟨used, -, rfl, hread⟩ := exists_of_readText ht
      refine ⟨'"' :: used, rfl, spells_of_eq (by simp) (fun {fuel rest} _ => ?_) (by simp [IsCompound])⟩
      rw [List.cons_append, readValue, hread]
      rfl
  · split at h
    · next tail hskip =>
      cases h
      exact hempty (.inr rfl) (.inr rfl) hskip fun hskip fuel => by rw [readValue, hskip]; rfl
    · next hfull =>
      obtain ⟨inner, hinner, hcloses⟩ := ih.entries h
      exact exists_spells_of_closes (.inr rfl) (.inr rfl) readValue_map hinner hcloses
        fun tail => hfull tail
  · split at h
    · next tail hskip =>
      cases h
      exact hempty (.inl rfl) (.inl rfl) hskip fun hskip fuel => by rw [readValue, hskip]; rfl
    · next hfull =>
      obtain ⟨inner, hinner, hcloses⟩ := ih.items h
      exact exists_spells_of_closes (.inl rfl) (.inl rfl) readValue_list hinner hcloses
        fun tail => hfull tail
  · cases h
    exact ⟨['n', 'u', 'l', 'l'], rfl, spells_of_eq (by simp) (fun _ => by simp [readValue])
      (by simp [IsCompound])⟩
  · cases h
    exact ⟨['t', 'r', 'u', 'e'], rfl, spells_of_eq (by simp) (fun _ => by simp [readValue])
      (by simp [IsCompound])⟩
  · cases h
    exact ⟨['f', 'a', 'l', 's', 'e'], rfl, spells_of_eq (by simp) (fun _ => by simp [readValue])
      (by simp [IsCompound])⟩
  · cases h
    exact ⟨['N', 'a', 'N'], rfl, spells_of_eq (by simp) (fun _ => by simp [readValue])
      (by simp [IsCompound])⟩
  · cases h
    exact ⟨['I', 'n', 'f', 'i', 'n', 'i', 't', 'y'], rfl,
      spells_of_eq (by simp) (fun _ => by simp [readValue]) (by simp [IsCompound])⟩
  · cases h
    exact ⟨['-', 'I', 'n', 'f', 'i', 'n', 'i', 't', 'y'], rfl,
      spells_of_eq (by simp) (fun _ => by simp [readValue]) (by simp [IsCompound])⟩
  · obtain ⟨used, hne, rfl, hopens, hread⟩ := exists_of_readNumber h
    refine ⟨used, rfl, spells_of_eq hne (fun {fuel rest} hrest => ?_) (not_isCompound_of_readNumber h)⟩
    rw [readValue_of_opensNumeral (hopens rest), hread rest hrest]

/-- What comes after an element or an entry: the end of the whole, or a comma and the next one. -/
def readOn (closing : Char) (whole : Value) (next : List Char → Result Value) :
    List Char → Result Value
  | [] => fail .comma []
  | c :: rest =>
    if c = closing then .ok (whole, rest)
    else if c = ',' then next (skipSpace rest)
    else fail .comma (c :: rest)

lemma readOn_of_ne {closing : Char} {whole : Value} {next : List Char → Result Value}
    {cs : List Char} (hclosing : ∀ rest, cs ≠ closing :: rest) (hcomma : ∀ rest, cs ≠ ',' :: rest) :
    readOn closing whole next cs = fail .comma cs := by
  cases cs with
  | nil => rfl
  | cons c rest =>
    rw [readOn, if_neg, if_neg]
    · rintro rfl
      exact hcomma rest rfl
    · rintro rfl
      exact hclosing rest rfl

/-- What is read after an element or entry ends with the bracket up to which the next ones are
read. -/
lemma exists_closes_append {closing : Char} {δ : Type} {reader : Nat → δ → List Char → Result Value}
    {fuel : Nat} {done done' : δ} {used after rest : List Char} {whole v : Value}
    (hclosing : closing = ']' ∨ closing = '\x7d') (hne : used ≠ [])
    (hread : ∀ {fuel other}, used.length ≤ fuel → EndsAt continuesNumeral other →
      reader (fuel + 1) done (used ++ other) =
        readOn closing whole (reader fuel done') (skipSpace other))
    (ih : ∀ {cs v rest}, reader fuel done' cs = .ok (v, rest) →
      ∃ inner, cs = inner ++ closing :: rest ∧ Closes closing (reader · done') inner v)
    (h : readOn closing whole (reader fuel done') (skipSpace after) = .ok (v, rest)) :
    ∃ inner, used ++ after = inner ++ closing :: rest ∧ Closes closing (reader · done) inner v := by
  have hends : continuesNumeral closing = false := by rcases hclosing with rfl | rfl <;> rfl
  cases hskip : skipSpace after with
  | nil =>
    rw [hskip] at h
    cases h
  | cons c tail =>
    obtain ⟨space, rfl, hspace, hrest⟩ := exists_of_skipSpace hskip
    rw [hskip, readOn] at h
    split_ifs at h with hc hc'
    · cases h
      subst hc
      refine ⟨used ++ space, by simp, by simp [hne], fun {fuel rest} hfuel => ?_⟩
      obtain ⟨fuel, rfl⟩ : ∃ n, fuel = n + 1 := ⟨fuel - 1, by omega⟩
      rw [List.length_append] at hfuel
      rw [List.append_assoc, hread (by omega) (hrest hends rest), hspace, readOn, if_pos rfl]
    · subst hc'
      obtain ⟨inner, hinner, hcloses⟩ := ih h
      obtain ⟨d, inner, rfl⟩ := List.exists_cons_of_ne_nil hcloses.ne_nil
      obtain ⟨space', rfl, hspace', -⟩ := exists_of_skipSpace hinner
      refine ⟨used ++ space ++ ',' :: space' ++ d :: inner, by simp, by simp,
        fun {fuel rest} hfuel => ?_⟩
      obtain ⟨fuel, rfl⟩ : ∃ n, fuel = n + 1 := ⟨fuel - 1, by omega⟩
      simp only [List.length_append, List.length_cons] at hfuel
      have hmore := @hcloses.read fuel rest (by simp only [List.length_cons]; omega)
      simp only [List.append_assoc, List.cons_append] at hmore ⊢
      rw [hread (by omega) (hrest (by decide) _), hspace, readOn, if_neg hc, if_pos rfl, hspace']
      exact hmore
    · cases h

lemma readItems_of_value {fuel : Nat} {cs rest : List Char} {v : Value} (done : List Value)
    (hvalue : readValue fuel cs = .ok (v, rest)) :
    readItems (fuel + 1) done cs =
      readOn ']' (.list (v :: done).reverse) (readItems fuel (v :: done)) (skipSpace rest) := by
  rw [readItems, hvalue]
  dsimp only
  split
  · next h => rw [h, readOn, if_pos rfl]
  · next h => rw [h, readOn, if_neg (by decide), if_pos rfl]
  · next hclosing hcomma => rw [readOn_of_ne hclosing hcomma]

lemma readEntries_of_value {fuel : Nat} {cs afterName afterColon rest : List Char} {name : String}
    {v : Value} (done : Fields) (hname : readText cs = .ok (name, afterName))
    (hcolon : skipSpace afterName = ':' :: afterColon)
    (hvalue : readValue fuel (skipSpace afterColon) = .ok (v, rest)) :
    readEntries (fuel + 1) done ('"' :: cs) = readOn '\x7d' (.map (done.put name v))
      (readEntries fuel (done.put name v)) (skipSpace rest) := by
  rw [readEntries, hname]
  simp only [hcolon, hvalue]
  split
  · next h => rw [h, readOn, if_pos rfl]
  · next h => rw [h, readOn, if_neg (by decide), if_pos rfl]
  · next hclosing hcomma => rw [readOn_of_ne hclosing hcomma]

lemma exists_of_readItems {fuel : Nat} (ih : TakesUp fuel) {done : List Value}
    {cs rest : List Char} {v : Value} (h : readItems (fuel + 1) done cs = .ok (v, rest)) :
    ∃ inner, cs = inner ++ ']' :: rest ∧ Closes ']' (readItems · done) inner v := by
  rcases hvalue : readValue fuel cs with e | ⟨w, after⟩
  · rw [readItems, hvalue] at h
    cases h
  · rw [readItems_of_value done hvalue] at h
    obtain ⟨used, rfl, hused⟩ := ih.value hvalue
    exact exists_closes_append (.inl rfl) hused.ne_nil
      (fun hfuel hother => readItems_of_value done (hused.read hfuel hother)) ih.items h

lemma exists_of_readEntries {fuel : Nat} (ih : TakesUp fuel) {done : Fields}
    {cs rest : List Char} {v : Value} (h : readEntries (fuel + 1) done cs = .ok (v, rest)) :
    ∃ inner, cs = inner ++ '\x7d' :: rest ∧ Closes '\x7d' (readEntries · done) inner v := by
  have hparts := h
  unfold readEntries at hparts
  split at hparts
  · next tail =>
    split at hparts
    · cases hparts
    · next name afterName hname =>
      split at hparts
      · next afterColon hcolon =>
        split at hparts
        · cases hparts
        · next w after hvalue =>
          rw [readEntries_of_value done hname hcolon hvalue] at h
          obtain ⟨quoted, -, rfl, hquoted⟩ := exists_of_readText hname
          obtain ⟨space, rfl, hspace, -⟩ := exists_of_skipSpace hcolon
          obtain ⟨used, hused, hspells⟩ := ih.value hvalue
          obtain ⟨d, others, rfl⟩ := List.exists_cons_of_ne_nil hspells.ne_nil
          obtain ⟨space', rfl, hspace', -⟩ := exists_of_skipSpace hused
          have hentry : ∃ inner, '"' :: quoted ++ space ++ ':' :: space' ++ d :: others ++ after =
              inner ++ '\x7d' :: rest ∧ Closes '\x7d' (readEntries · done) inner v := by
            refine exists_closes_append (.inr rfl) (by simp) (fun {fuel other} hfuel hother => ?_)
              ih.entries h
            simp only [List.length_append, List.length_cons] at hfuel
            have hread := @hspells.read fuel other (by simp only [List.length_cons]; omega) hother
            simp only [List.append_assoc, List.cons_append] at hread ⊢
            exact readEntries_of_value done (hquoted _) (hspace _) (by rw [hspace', hread])
          simpa using hentry
      · cases hparts
  · cases hparts

/-- What the readers read depends on the part of the text that they take up, and on nothing else. -/
theorem takesUp (fuel : Nat) : TakesUp fuel := by
  induction fuel with
  | zero =>
    constructor
    · intro cs v rest h
      simp [readValue, fail] at h
    · intro done cs v rest h
      simp [readItems, fail] at h
    · intro done cs v rest h
      simp [readEntries, fail] at h
  | succ fuel ih =>
    exact ⟨exists_of_readValue ih, exists_of_readItems ih, exists_of_readEntries ih⟩

/-! ### Whole texts -/

variable {cs used rest : List Char} {v w : Value}

/-- A part of the text at its start is read as one value only. -/
lemma Spells.unique {others rest' : List Char} (hv : Spells used v) (hw : Spells others w)
    (heq : used ++ rest = others ++ rest') (hrest : EndsAt continuesNumeral rest)
    (hrest' : EndsAt continuesNumeral rest') : v = w ∧ rest = rest' := by
  have h := @hv.read (used.length + others.length) _ (by omega) hrest
  rw [heq, hw.read (by omega) hrest', Except.ok.injEq, Prod.mk.injEq] at h
  exact ⟨h.1.symm, h.2.symm⟩

lemma isSpace_of_bracket {c : Char} (h : c = '[' ∨ c = '\x7b') : isSpace c = false := by
  rcases h with rfl | rfl <;> rfl

lemma endsAt_of_isSpace (h : ∀ c ∈ rest, isSpace c = true) : EndsAt continuesNumeral rest :=
  fun c hc => continuesNumeral_of_isSpace (h c (List.mem_of_mem_head? hc))

/-- A whole text is read as a list or map if that is spelt in it, with space around. -/
lemma readAll_eq_ok_iff (hv : IsCompound v) :
    readAll cs = .ok v ↔ ∃ before used after, cs = before ++ used ++ after ∧
      (∀ c ∈ before ++ after, isSpace c = true) ∧ Spells used v := by
  constructor
  · intro h
    unfold readAll at h
    split at h
    · cases h
    split at h
    · cases h
    next u rest hread =>
    split at h
    · next hafter =>
      cases h
      obtain ⟨used, hused, hspells⟩ := (takesUp _).value hread
      refine ⟨cs.takeWhile isSpace, used, rest, ?_, fun c hc => ?_, hspells⟩
      · rw [List.append_assoc, ← hused, skipSpace, List.takeWhile_append_dropWhile]
      · rcases List.mem_append.mp hc with hc | hc
        · exact List.mem_takeWhile_imp hc
        · exact List.dropWhile_eq_nil_iff.mp hafter c hc
    · cases h
  · rintro ⟨before, used, after, rfl, hspace, hspells⟩
    have hbefore : ∀ c ∈ before, isSpace c = true := fun c hc => hspace c (by simp [hc])
    have hafter : ∀ c ∈ after, isSpace c = true := fun c hc => hspace c (by simp [hc])
    obtain ⟨opening, inner, closing, hused, hopening, -⟩ := hspells.bracketed hv
    have hskip : skipSpace (before ++ used ++ after) = used ++ after := by
      rw [skipSpace, List.append_assoc, List.dropWhile_append_of_pos hbefore, hused,
        List.cons_append, List.cons_append,
        List.dropWhile_cons_of_neg (by simp [isSpace_of_bracket hopening])]
    have hrest : skipSpace after = [] := List.dropWhile_eq_nil_iff.mpr hafter
    unfold readAll
    split
    · next tail hmark =>
      cases before with
      | nil =>
        rw [hused] at hmark
        cases hmark
        rcases hopening with h | h <;> cases h
      | cons c before =>
        cases hmark
        cases hbefore _ List.mem_cons_self
    · rw [hskip, hspells.read (by simp only [List.length_append]; omega)
        (endsAt_of_isSpace hafter)]
      simp only [hrest]

end LearningGame.Json
