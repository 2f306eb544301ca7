import LearningGame.Proofs.Json.Extent
import LearningGame.Proofs.Text.Folded
import LearningGame.Loading
import Mathlib

/-!
# Fenced documents

A list or map that is written in a text is parsed in the same way with a fence around the text, as
long as the mark of a fence is not part of the text. The first mark after the opening one closes the
fence, even inside a text of the document; the list or map is cut off there and is not read any more.
-/

namespace LearningGame

open Json

/-! ### Blanks -/

namespace Text

lemma isBlank_of_isSpace {c : Char} (h : isSpace c = true) : isBlank c = true := by
  simp only [isSpace, Bool.or_eq_true, decide_eq_true_eq] at h
  rcases h with ((rfl | rfl) | rfl) | rfl <;> decide

lemma continuesNumeral_of_isBlank {c : Char} (h : isBlank c = true) :
    continuesNumeral c = false := by
  rw [continuesNumeral, Bool.or_eq_false_iff, Bool.or_eq_false_iff, Bool.or_eq_false_iff]
  refine ⟨⟨⟨?_, ?_⟩, ?_⟩, ?_⟩
  · by_contra hd
    rw [isBlank_of_isDigit (by simpa using hd)] at h
    cases h
  all_goals
    rw [decide_eq_false_iff_not]
    rintro rfl
    exact absurd h (by decide)

/-- Blanks around a text that neither begins nor ends with one are dropped. -/
lemma stripChars_of_isBlank {before inner after : List Char} {c d : Char}
    (hbefore : ∀ b ∈ before, isBlank b = true) (hafter : ∀ b ∈ after, isBlank b = true)
    (hc : isBlank c = false) (hd : isBlank d = false) :
    stripChars (before ++ (c :: inner ++ [d]) ++ after) = c :: inner ++ [d] := by
  have hreverse : (before ++ (c :: inner ++ [d]) ++ after).dropWhile isBlank =
      c :: inner ++ [d] ++ after := by
    rw [List.append_assoc, List.dropWhile_append_of_pos hbefore, List.cons_append,
      List.cons_append, List.dropWhile_cons_of_neg (by simp [hc])]
  rw [stripChars, hreverse, List.reverse_append, List.dropWhile_append_of_pos (by simpa using hafter),
    List.reverse_append, List.reverse_singleton, List.singleton_append,
    List.dropWhile_cons_of_neg (by simp [hd]), List.reverse_cons, List.reverse_reverse]

/-- What is dropped from a text is blank. -/
lemma exists_of_stripChars (cs : List Char) :
    ∃ before after, cs = before ++ stripChars cs ++ after ∧
      (∀ b ∈ before, isBlank b = true) ∧ ∀ b ∈ after, isBlank b = true := by
  refine ⟨cs.takeWhile isBlank, ((cs.dropWhile isBlank).reverse.takeWhile isBlank).reverse, ?_,
    fun b hb => List.mem_takeWhile_imp hb,
    fun b hb => List.mem_takeWhile_imp (List.mem_reverse.mp hb)⟩
  rw [stripChars, List.append_assoc, ← List.reverse_append, List.takeWhile_append_dropWhile,
    List.reverse_reverse, List.takeWhile_append_dropWhile]

end Text

namespace Fence

open Text

/-! ### Marks -/

lemma mark_eq : mark = ['\x60', '\x60', '\x60'] := rfl

lemma not_mem_mark_of_isBlank {c : Char} (h : Text.isBlank c = true) : c ∉ mark := by
  intro hmem
  simp only [mark_eq, List.mem_cons, List.not_mem_nil, or_false, or_self] at hmem
  subst hmem
  cases h

lemma mark_infix_append_left {cs before : List Char} (h : ∀ c ∈ before, c ∉ mark) :
    mark <:+: before ++ cs ↔ mark <:+: cs := by
  induction before with
  | nil => simp
  | cons c before ih =>
    have hc : ¬mark <+: c :: (before ++ cs) := by
      intro hp
      rw [mark_eq, List.cons_prefix_cons] at hp
      exact h c List.mem_cons_self (by simp [mark_eq, ← hp.1])
    rw [List.cons_append, List.infix_cons_iff, or_iff_right hc,
      ih fun d hd => h d (List.mem_cons_of_mem _ hd)]

/-- No mark reaches beyond a text into characters that are not part of marks. -/
lemma mark_infix_append_iff {cs before after : List Char} (hbefore : ∀ c ∈ before, c ∉ mark)
    (hafter : ∀ c ∈ after, c ∉ mark) : mark <:+: before ++ cs ++ after ↔ mark <:+: cs := by
  have hreverse (l : List Char) : mark <:+: l.reverse ↔ mark <:+: l := @List.reverse_infix _ mark l
  rw [List.append_assoc, mark_infix_append_left hbefore, ← hreverse, List.reverse_append,
    mark_infix_append_left (by simpa using hafter), hreverse]

/-- A text without a mark stands before the mark that is put after it. -/
lemma beforeMark?_append_mark {cs : List Char} (h : ¬mark <:+: cs)
    (hlast : ∀ c ∈ cs.getLast?, c ∉ mark) : beforeMark? (cs ++ mark) = some cs := by
  induction cs with
  | nil => rfl
  | cons c cs ih =>
    have hprefix : ¬mark <+: c :: (cs ++ mark) := by
      intro hp
      match cs with
      | [] =>
        obtain ⟨rest, hrest⟩ := hp
        cases hrest
        exact hlast _ rfl (by decide)
      | [d] =>
        obtain ⟨rest, hrest⟩ := hp
        cases hrest
        exact hlast _ rfl (by decide)
      | d :: e :: cs =>
        obtain ⟨rest, hrest⟩ := hp
        cases hrest
        exact h ⟨[], cs, rfl⟩
    have hrest : beforeMark? (cs ++ mark) = some cs := by
      refine ih (fun hmark => h (hmark.trans (List.suffix_cons c cs).isInfix)) fun d hd => hlast d ?_
      cases cs with
      | nil => cases hd
      | cons e cs => rwa [List.getLast?_cons_cons]
    rw [List.cons_append, beforeMark?, if_neg (by simpa using hprefix), hrest, Option.map_some]

/-- The first mark of a text is found, whatever comes after the text. -/
lemma exists_beforeMark? {cs : List Char} (h : mark <:+: cs) (rest : List Char) :
    ∃ before, beforeMark? (cs ++ rest) = some before ∧ before ++ mark <+: cs := by
  induction cs with
  | nil => cases List.infix_nil.mp h
  | cons c cs ih =>
    by_cases hp : mark <+: c :: cs
    · refine ⟨[], ?_, hp⟩
      rw [List.cons_append, beforeMark?, if_pos]
      simpa using hp.trans (List.prefix_append (c :: cs) rest)
    · have hmark : mark <:+: cs := (List.infix_cons_iff.mp h).resolve_left hp
      obtain ⟨before, hbefore, hprefix⟩ := ih hmark
      refine ⟨c :: before, ?_, by simpa using hprefix⟩
      rw [List.cons_append, beforeMark?, if_neg, hbefore, Option.map_some]
      intro hlong
      refine hp (List.prefix_of_prefix_length_le (by simpa using hlong)
        (List.prefix_append (c :: cs) rest) ?_)
      exact hmark.length_le.trans (Nat.le_succ _)

/-! ### Fences -/

/-- What stands around a text in a fence, besides the marks: blanks around the whole, perhaps the
word `json` after the first mark, and a line break or other blanks on both sides of the text. -/
structure Surrounding where
  before : String
  named : Bool
  opening : String
  closing : String
  after : String
  isBlank : ∀ s ∈ [before, opening, closing, after], isBlankText s = true

lemma Surrounding.isBlank_opening (w : Surrounding) : ∀ c ∈ w.opening.toList, Text.isBlank c = true :=
  List.all_eq_true.mp (w.isBlank w.opening (by simp))

lemma Surrounding.isBlank_closing (w : Surrounding) : ∀ c ∈ w.closing.toList, Text.isBlank c = true :=
  List.all_eq_true.mp (w.isBlank w.closing (by simp))

/-- A text with a fence around it. -/
def Surrounding.fence (w : Surrounding) (t : String) : String :=
  w.before ++ String.ofList mark ++ (if w.named then "json" else "") ++ w.opening ++ t ++
    w.closing ++ String.ofList mark ++ w.after

variable {w : Surrounding} {t : String}

/-- What is inside a fence, if the text does not go on with the word for the kind of its content. -/
lemma stripChars_fence {inside : List Char}
    (hword : ¬"json".toList <+: w.opening.toList ++ t.toList ++ w.closing.toList ++ mark)
    (h : beforeMark? (w.opening.toList ++ t.toList ++ w.closing.toList ++ mark) = some inside) :
    stripChars (w.fence t).toList = Text.stripChars inside := by
  obtain ⟨body, hbody⟩ : ∃ body, w.opening.toList ++ t.toList ++ w.closing.toList = body := ⟨_, rfl⟩
  rw [hbody] at hword h
  obtain ⟨word, hnamed⟩ : ∃ word, (if w.named then "json" else "").toList = word := ⟨_, rfl⟩
  have hblank {s : String} (hs : s ∈ [w.before, w.opening, w.closing, w.after]) :
      ∀ c ∈ s.toList, Text.isBlank c = true := List.all_eq_true.mp (w.isBlank s hs)
  have htrim : Text.stripChars (w.fence t).toList = mark ++ (word ++ (body ++ mark)) := by
    have hsplit : (w.fence t).toList = w.before.toList ++
        ('\x60' :: ('\x60' :: '\x60' :: (word ++ (body ++ ['\x60', '\x60']))) ++ ['\x60']) ++
          w.after.toList := by
      simp [Surrounding.fence, ← hbody, ← hnamed, mark_eq]
    rw [hsplit, Text.stripChars_of_isBlank (hblank (by simp)) (hblank (by simp)) (by decide)
      (by decide)]
    simp [mark_eq]
  have hafter : afterWord "json".toList (word ++ (body ++ mark)) = body ++ mark := by
    rw [afterWord, ← hnamed]
    cases w.named with
    | true => simp
    | false => exact if_neg (by simpa using hword)
  unfold stripChars
  simp only [htrim]
  rw [if_pos (by simp), List.drop_left, hafter, h]

end Fence

/-! ### Documents in fences -/

lemma read_eq_ok {t : String} {v : Value} : Json.read t = .ok v ↔ readAll t.toList = .ok v := by
  unfold Json.read
  cases h : readAll t.toList <;> simp [h]

lemma parseDocument_eq_ok {t : String} {v : Value} :
    parseDocument t = .ok v ↔ readAll (Fence.stripChars t.toList) = .ok v := by
  have hstrip : (Fence.strip t).toList = Fence.stripChars t.toList := String.toList_ofList
  rw [← hstrip, ← read_eq_ok]
  unfold parseDocument
  cases Json.read (Fence.strip t) with
  | ok u => simp
  | error e => cases hp : e.problem <;> simp [hp]

/-- A text that spells a list or map, with blanks around it. -/
structure Holds (before used after : List Char) (v : Value) : Prop where
  isBlank_before : ∀ c ∈ before, Text.isBlank c = true
  isBlank_after : ∀ c ∈ after, Text.isBlank c = true
  spells : Spells used v
  compound : IsCompound v

section Holds

variable {before used after : List Char} {v : Value}

/-- What is spelt begins and ends with brackets. -/
lemma Holds.exists_brackets (h : Holds before used after v) :
    ∃ c inner d, used = c :: inner ++ [d] ∧ (Text.isBlank c = false ∧ c ∉ Fence.mark ∧ c ≠ 'j') ∧
      Text.isBlank d = false ∧ d ∉ Fence.mark := by
  obtain ⟨c, inner, d, hused, hc, hd⟩ := h.spells.bracketed h.compound
  refine ⟨c, inner, d, hused, ?_, ?_⟩
  · rcases hc with rfl | rfl <;> decide
  · rcases hd with rfl | rfl <;> decide

lemma Holds.stripChars_eq (h : Holds before used after v) :
    Text.stripChars (before ++ used ++ after) = used := by
  obtain ⟨c, inner, d, rfl, hc, hd⟩ := h.exists_brackets
  exact Text.stripChars_of_isBlank h.isBlank_before h.isBlank_after hc.1 hd.1

lemma Holds.dropWhile_eq (h : Holds before used after v) (rest : List Char) :
    (before ++ (used ++ rest)).dropWhile Text.isBlank = used ++ rest := by
  obtain ⟨c, inner, d, rfl, hc, -⟩ := h.exists_brackets
  rw [List.dropWhile_append_of_pos h.isBlank_before, List.cons_append, List.cons_append,
    List.dropWhile_cons_of_neg (by simp [hc.1])]

/-- A mark in the text is part of the list or map. -/
lemma Holds.mark_infix_iff (h : Holds before used after v) :
    Fence.mark <:+: before ++ used ++ after ↔ Fence.mark <:+: used := by
  exact Fence.mark_infix_append_iff
    (fun c hc => Fence.not_mem_mark_of_isBlank (h.isBlank_before c hc))
    fun c hc => Fence.not_mem_mark_of_isBlank (h.isBlank_after c hc)

/-- The list or map is read once the blanks around it are dropped. -/
lemma Holds.readAll_stripChars (h : Holds before used after v) :
    readAll (Text.stripChars (before ++ used ++ after)) = .ok v := by
  rw [h.stripChars_eq]
  exact (readAll_eq_ok_iff h.compound).mpr ⟨[], used, [], by simp, by simp, h.spells⟩

/-- More blanks around a list or map. -/
lemma Holds.extend (h : Holds before used after v) {blank blank' : List Char}
    (hblank : ∀ c ∈ blank, Text.isBlank c = true) (hblank' : ∀ c ∈ blank', Text.isBlank c = true) :
    Holds (blank ++ before) used (after ++ blank') v where
  isBlank_before c hc := (List.mem_append.mp hc).elim (hblank c) (h.isBlank_before c)
  isBlank_after c hc := (List.mem_append.mp hc).elim (h.isBlank_after c) (hblank' c)
  spells := h.spells
  compound := h.compound

lemma exists_holds_of_readAll {cs : List Char} (h : readAll cs = .ok v) (hv : IsCompound v) :
    ∃ before used after, cs = before ++ used ++ after ∧ Holds before used after v := by
  obtain ⟨before, used, after, rfl, hspace, hspells⟩ := (readAll_eq_ok_iff hv).mp h
  exact ⟨before, used, after, rfl, fun c hc => Text.isBlank_of_isSpace (hspace c (by simp [hc])),
    fun c hc => Text.isBlank_of_isSpace (hspace c (by simp [hc])), hspells, hv⟩

/-- No list or map is read from what stands before a mark in the text. -/
lemma Holds.readAll_stripChars_ne (h : Holds before used after v) {inside : List Char} {w : Value}
    (hinside : inside ++ Fence.mark <+: before ++ used ++ after) (hw : IsCompound w) :
    readAll (Text.stripChars inside) ≠ .ok w := by
  intro hread
  obtain ⟨before', used', after', hstrip, hcut⟩ := exists_holds_of_readAll hread hw
  obtain ⟨blank, blank', hdropped, hblank, hblank'⟩ := Text.exists_of_stripChars inside
  obtain ⟨rest, hrest⟩ := hinside
  have hcut := hcut.extend hblank hblank'
  -- Both are spelt at the same place, so the mark would have to be among the blanks.
  have heq : used ++ after = used' ++ (after' ++ blank' ++ (Fence.mark ++ rest)) := by
    rw [← h.dropWhile_eq, ← hcut.dropWhile_eq, ← List.append_assoc before, ← hrest, hdropped, hstrip]
    simp
  have hends : EndsAt continuesNumeral (after' ++ blank' ++ (Fence.mark ++ rest)) := by
    cases hblanks : after' ++ blank' with
    | nil => exact endsAt_cons.mpr (by decide)
    | cons c blanks =>
      have hc := hcut.isBlank_after c (by simp [hblanks])
      exact endsAt_cons.mpr (Text.continuesNumeral_of_isBlank hc)
  obtain ⟨-, hafter⟩ := h.spells.unique hcut.spells heq
    (fun c hc => Text.continuesNumeral_of_isBlank (h.isBlank_after c (List.mem_of_mem_head? hc))) hends
  have hmark := h.isBlank_after '\x60' (by simp [hafter, Fence.mark_eq])
  cases hmark

/-- The text stands before a mark that follows it. -/
lemma Holds.beforeMark?_eq (h : Holds before used after v) (hmark : ¬Fence.mark <:+: used) :
    Fence.beforeMark? (before ++ used ++ after ++ Fence.mark) = some (before ++ used ++ after) := by
  refine Fence.beforeMark?_append_mark (h.mark_infix_iff.not.mpr hmark) fun c hc => ?_
  obtain ⟨c', inner, d, rfl, -, hd⟩ := h.exists_brackets
  rw [List.getLast?_append, List.getLast?_append, List.getLast?_append, List.getLast?_singleton] at hc
  cases hlast : after.getLast? with
  | none =>
    rw [hlast] at hc
    cases hc
    exact hd.2
  | some e =>
    rw [hlast] at hc
    cases hc
    exact Fence.not_mem_mark_of_isBlank (h.isBlank_after c (List.mem_of_getLast? hlast))

/-- A list or map that is not fenced is parsed as it is. -/
lemma Holds.parseDocument_eq (h : Holds before used after v) {t : String}
    (ht : t.toList = before ++ used ++ after) : parseDocument t = .ok v := by
  obtain ⟨c, inner, d, rfl, hc, -⟩ := h.exists_brackets
  have hopen : ¬Fence.mark <+: c :: inner ++ [d] := by
    intro hp
    rw [Fence.mark_eq, List.cons_append, List.cons_prefix_cons] at hp
    exact hc.2.1 (by simp [Fence.mark_eq, ← hp.1])
  have hstrip : Fence.stripChars t.toList = c :: inner ++ [d] := by
    unfold Fence.stripChars
    simp only [ht, h.stripChars_eq]
    exact if_neg (by simpa using hopen)
  rw [parseDocument_eq_ok, hstrip, ← h.stripChars_eq]
  exact h.readAll_stripChars

/-- A list or map with blanks around it does not begin with the word for the kind of its content. -/
lemma Holds.not_opens_with_json (h : Holds before used after v) (rest : List Char) :
    ¬"json".toList <+: before ++ used ++ after ++ rest := by
  have hjson : "json".toList = ['j', 's', 'o', 'n'] := by decide
  rw [hjson]
  rintro ⟨tail, htail⟩
  obtain ⟨c, inner, d, rfl, hc, -⟩ := h.exists_brackets
  cases before with
  | nil => exact hc.2.2 (List.cons.inj htail).1.symm
  | cons e before =>
    have hj := h.isBlank_before e List.mem_cons_self
    rw [← (List.cons.inj htail).1] at hj
    cases hj

/-- What is inside a fence around a list or map ends at the first mark that follows. -/
lemma Holds.stripChars_fence (h : Holds before used after v) {t : String}
    (ht : t.toList = before ++ used ++ after) {w : Fence.Surrounding} {inside : List Char}
    (hinside : Fence.beforeMark? (w.opening.toList ++ before ++ used ++ (after ++ w.closing.toList) ++
      Fence.mark) = some inside) :
    Fence.stripChars (w.fence t).toList = Text.stripChars inside := by
  have hbody : w.opening.toList ++ t.toList ++ w.closing.toList =
      w.opening.toList ++ before ++ used ++ (after ++ w.closing.toList) := by
    rw [ht]
    simp
  refine Fence.stripChars_fence ?_ (by rw [hbody, hinside])
  rw [hbody]
  exact (h.extend w.isBlank_opening w.isBlank_closing).not_opens_with_json Fence.mark

end Holds

/-- A text in a fence is parsed as the list or map that it holds exactly if the mark of a fence is
not part of it. -/
theorem parseDocument_fence_iff {t : String} {v : Value} (h : Json.read t = .ok v)
    (hv : IsCompound v) (w : Fence.Surrounding) :
    parseDocument t = .ok v ∧
      (parseDocument (w.fence t) = parseDocument t ↔ ¬Fence.mark <:+: t.toList) := by
  obtain ⟨before, used, after, ht, hholds⟩ := exists_holds_of_readAll (read_eq_ok.mp h) hv
  have hparse := hholds.parseDocument_eq ht
  have hwide := hholds.extend w.isBlank_opening w.isBlank_closing
  refine ⟨hparse, ?_⟩
  rw [hparse, parseDocument_eq_ok, ht, hholds.mark_infix_iff]
  constructor
  · intro hread hmark
    obtain ⟨inside, hinside, hprefix⟩ :=
      Fence.exists_beforeMark? (hwide.mark_infix_iff.mpr hmark) Fence.mark
    rw [hholds.stripChars_fence ht hinside] at hread
    exact hwide.readAll_stripChars_ne hprefix hv hread
  · intro hmark
    rw [hholds.stripChars_fence ht (hwide.beforeMark?_eq hmark)]
    exact hwide.readAll_stripChars

/-- A list with blanks and brackets inside a text, in a fence that names its content. -/
theorem parseDocument_fence_list :
    parseDocument " \x60\x60\x60json\n [1, \"] \x60\x60\"]\r\n\x60\x60\x60\n" =
      .ok (.list [.int 1, .str "] \x60\x60"]) := by
  have h := parseDocument_fence_iff (t := "[1, \"] \x60\x60\"]")
    (v := .list [.int 1, .str "] \x60\x60"]) (by cbv) trivial
    ⟨" ", true, "\n ", "\r\n", "\n", by decide⟩
  exact (h.2.mpr (by decide)).trans h.1

/-- A map with a sample of code is parsed on its own but not in a fence. -/
theorem parseDocument_fence_sample_ne :
    let t := "\x7b\"content\": \"\x60\x60\x60\\nprint(1)\\n\x60\x60\x60\"\x7d"
    let v := Value.map [("content", .str "\x60\x60\x60\nprint(1)\n\x60\x60\x60")]
    Json.read t = .ok v ∧ parseDocument t = .ok v ∧
      parseDocument (Fence.Surrounding.fence ⟨"", true, "\n", "\n", "", by decide⟩ t) ≠ .ok v := by
  refine ⟨by cbv, by cbv, fun h => ?_⟩
  have hread := parseDocument_eq_ok.mp h
  cbv at hread
  cases hread

end LearningGame
