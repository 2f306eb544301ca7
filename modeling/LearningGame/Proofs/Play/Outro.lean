import LearningGame.Play.Outro
import LearningGame.Proofs.Traced
import LearningGame.Proofs.Value.Fields
import Mathlib.Data.List.Induction
import Mathlib.Data.List.Infix
import Mathlib.Data.List.Nodup

/-!
# Figures in the closing message

Figures are put into a message one after the other, each time into all of the text that the ones
before have left. A figure that begins with a sign that no placeholder has behind its opening brace,
and that has no opening brace itself, is never part of a placeholder once it has been put in. Hence
it is as if the message had been read once from left to right, and all figures put in on the way, in
whatever order they come.

The figures of a game are integers and a time, all of which begin with a digit or a minus sign,
while a placeholder has small letters between its braces. So the closing screen shows the message of
the game with all of them put in at once.
-/

namespace LearningGame.Play

open Content Rules

/-! ### Reading a message once -/

lemma toList_placeholder (name : String) :
    (placeholder name).toList = '\x7b' :: (name.toList ++ ['\x7d']) := by
  simp [placeholder]

lemma placeholder_append (name : String) (rest : List Char) :
    '\x7b' :: (name.toList ++ ['\x7d'] ++ rest) = (placeholder name).toList ++ rest := by
  rw [toList_placeholder, List.cons_append]

lemma length_placeholder (name : String) : (placeholder name).length = name.length + 2 := by
  rw [← String.length_toList, toList_placeholder]
  simp [String.length_toList]

/-- The figure whose placeholder stands at the beginning. -/
def figureAt? (figures : List (String × String)) (cs : List Char) : Option (String × String) :=
  figures.find? fun f => (placeholder f.1).toList.isPrefixOf cs

/-- Put figures into a text that is read once from left to right: every placeholder that is come
upon is replaced, and every other sign is kept. -/
def substitute (figures : List (String × String)) : List Char → List Char
  | [] => []
  | c :: rest =>
    match figureAt? figures (c :: rest) with
    | some f => f.2.toList ++ substitute figures ((c :: rest).drop (placeholder f.1).length)
    | none => c :: substitute figures rest
termination_by cs => cs.length
decreasing_by
  · simp only [length_placeholder, List.length_drop, List.length_cons]
    omega
  · simp

/-- How often the placeholder of a name occurs in a text. -/
def occurrences (name : String) (cs : List Char) : Nat :=
  cs.tails.countP fun t => (placeholder name).toList.isPrefixOf t

section

variable {figures : List (String × String)} {f : String × String} {c : Char} {cs rest : List Char}

lemma figureAt?_eq_none_iff :
    figureAt? figures cs = none ↔ ∀ f ∈ figures, ¬(placeholder f.1).toList <+: cs := by
  simp [figureAt?]

/-- What stands at the beginning is a placeholder of the figures. -/
lemma exists_of_figureAt?_eq_some (h : figureAt? figures cs = some f) :
    f ∈ figures ∧ ∃ rest, cs = (placeholder f.1).toList ++ rest := by
  refine ⟨List.mem_of_find?_eq_some h, ?_⟩
  obtain ⟨rest, hrest⟩ : (placeholder f.1).toList <+: cs := by simpa using List.find?_some h
  exact ⟨rest, hrest.symm⟩

lemma figureAt?_concat (f : String × String) (cs : List Char) :
    figureAt? (figures ++ [f]) cs = (figureAt? figures cs).or (figureAt? [f] cs) :=
  List.find?_append

/-- No placeholder begins with another sign than an opening brace. -/
lemma figureAt?_cons_of_ne (hc : c ≠ '\x7b') : figureAt? figures (c :: rest) = none := by
  rw [figureAt?_eq_none_iff]
  intro f _ hprefix
  rw [toList_placeholder, List.cons_prefix_cons] at hprefix
  exact hc hprefix.1.symm

lemma figureAt?_placeholder (f : String × String) (rest : List Char) :
    figureAt? [f] ((placeholder f.1).toList ++ rest) = some f := by
  rw [figureAt?, List.find?_singleton, if_pos]
  simp

@[simp] lemma substitute_nil (figures : List (String × String)) : substitute figures [] = [] := by
  rw [substitute]

lemma substitute_cons (h : figureAt? figures (c :: rest) = none) :
    substitute figures (c :: rest) = c :: substitute figures rest := by
  rw [substitute, h]

lemma drop_placeholder (name : String) (rest : List Char) :
    ((placeholder name).toList ++ rest).drop (placeholder name).length = rest := by
  rw [← String.length_toList, List.drop_left]

lemma substitute_placeholder (h : figureAt? figures ((placeholder f.1).toList ++ rest) = some f) :
    substitute figures ((placeholder f.1).toList ++ rest) =
      f.2.toList ++ substitute figures rest := by
  have hdrop := drop_placeholder f.1 rest
  rw [toList_placeholder, List.cons_append] at h hdrop ⊢
  rw [substitute, h]
  simp only [hdrop]

/-- A text without an opening brace is kept. -/
lemma substitute_append {u : List Char} (hu : '\x7b' ∉ u) (rest : List Char) :
    substitute figures (u ++ rest) = u ++ substitute figures rest := by
  induction u with
  | nil => rfl
  | cons c u ih =>
    rw [List.mem_cons, not_or] at hu
    rw [List.cons_append, substitute_cons (figureAt?_cons_of_ne (Ne.symm hu.1)), ih hu.2,
      List.cons_append]

end

/-! ### Replacing one placeholder -/

lemma replaceFrom_eq_drop (pattern new : List Char) (skip : Nat) (cs : List Char) :
    Text.replaceFrom pattern new skip cs = Text.replaceFrom pattern new 0 (cs.drop skip) := by
  induction cs generalizing skip with
  | nil => cases skip <;> rfl
  | cons c cs ih =>
    cases skip with
    | zero => rfl
    | succ skip => exact ih skip

/-- Replacing a placeholder is reading the text for this one figure. -/
lemma replaceFrom_eq_substitute (f : String × String) (cs : List Char) :
    Text.replaceFrom (placeholder f.1).toList f.2.toList 0 cs = substitute [f] cs := by
  fun_induction substitute [f] cs with
  | case1 => rfl
  | case2 c rest g hg ih =>
    obtain ⟨hmem, tail, htail⟩ := exists_of_figureAt?_eq_some hg
    obtain rfl := List.mem_singleton.1 hmem
    have hprefix : (placeholder g.1).toList.isPrefixOf (c :: rest) = true := by
      rw [List.isPrefixOf_iff_prefix, htail]
      exact List.prefix_append _ _
    have hdrop : rest.drop ((placeholder g.1).toList.length - 1) =
        (c :: rest).drop (placeholder g.1).length := by
      rw [String.length_toList, length_placeholder]
      rfl
    rw [Text.replaceFrom, if_pos hprefix, replaceFrom_eq_drop, hdrop, ih]
  | case3 c rest hnone ih =>
    have hprefix : ¬(placeholder f.1).toList.isPrefixOf (c :: rest) = true := by
      rw [List.isPrefixOf_iff_prefix]
      exact figureAt?_eq_none_iff.1 hnone f List.mem_cons_self
    rw [Text.replaceFrom, if_neg hprefix, ih]

/-! ### Figures that are told apart -/

/-- Whether a sign stands behind the opening brace of a placeholder. -/
def IsInner (figures : List (String × String)) (c : Char) : Prop :=
  c = '\x7d' ∨ ∃ f ∈ figures, c ∈ f.1.toList

/-- Figures of different names without braces, whose values are told from placeholders by their
first sign. -/
structure Apart (figures : List (String × String)) : Prop where
  name_inj : ∀ f ∈ figures, ∀ g ∈ figures, f.1 = g.1 → f = g
  closing_not_mem : ∀ f ∈ figures, '\x7d' ∉ f.1.toList
  not_isInner_opening : ¬IsInner figures '\x7b'
  opening_not_mem : ∀ f ∈ figures, '\x7b' ∉ f.2.toList
  exists_head : ∀ f ∈ figures, ∃ c rest, f.2.toList = c :: rest ∧ ¬IsInner figures c

section

variable {figures done : List (String × String)} {f g : String × String} {cs : List Char}

/-- The rest of a placeholder behind the opening brace. -/
lemma Apart.isInner_of_mem (hf : f ∈ figures) {c : Char} (hc : c ∈ f.1.toList ++ ['\x7d']) :
    IsInner figures c := by
  rcases List.mem_append.1 hc with hc | hc
  · exact .inr ⟨f, hf, hc⟩
  · exact .inl (List.mem_singleton.1 hc)

lemma Apart.opening_not_mem_rest (h : Apart figures) (hf : f ∈ figures) :
    '\x7b' ∉ f.1.toList ++ ['\x7d'] :=
  fun hmem => h.not_isInner_opening (Apart.isInner_of_mem hf hmem)

/-- What stands before the first closing brace is given by the text. -/
lemma eq_of_append_closing {a b s t : List Char} (ha : '\x7d' ∉ a) (hb : '\x7d' ∉ b)
    (h : a ++ '\x7d' :: s = b ++ '\x7d' :: t) : a = b := by
  induction a generalizing b with
  | nil =>
    cases b with
    | nil => rfl
    | cons d b => simp_all
  | cons c a ih =>
    cases b with
    | nil => simp_all
    | cons d b =>
      simp only [List.cons_append, List.cons.injEq, List.mem_cons, not_or] at h ha hb
      rw [h.1, ih ha.2 hb.2 h.2]

/-- Only one placeholder stands at the beginning of a text. -/
lemma Apart.eq_of_prefix (h : Apart figures) (hf : f ∈ figures) (hg : g ∈ figures)
    (hfc : (placeholder f.1).toList <+: cs) (hgc : (placeholder g.1).toList <+: cs) : f = g := by
  obtain ⟨s, hs⟩ := hfc
  obtain ⟨t, ht⟩ := hgc
  have heq := hs.trans ht.symm
  simp only [toList_placeholder, List.cons_append, List.append_assoc, List.nil_append,
    List.cons.injEq, true_and] at heq
  have hname := eq_of_append_closing (h.closing_not_mem f hf) (h.closing_not_mem g hg) heq
  exact h.name_inj f hf g hg (String.toList_inj.1 hname)

lemma Apart.figureAt?_eq_some_iff (h : Apart figures) (hdone : done ⊆ figures) :
    figureAt? done cs = some f ↔ f ∈ done ∧ (placeholder f.1).toList <+: cs := by
  constructor
  · intro hfigure
    obtain ⟨hf, rest, rfl⟩ := exists_of_figureAt?_eq_some hfigure
    exact ⟨hf, List.prefix_append _ _⟩
  · rintro ⟨hf, hprefix⟩
    cases hfigure : figureAt? done cs with
    | none => exact absurd hprefix (figureAt?_eq_none_iff.1 hfigure f hf)
    | some g =>
      obtain ⟨hg, rest, rfl⟩ := exists_of_figureAt?_eq_some hfigure
      rw [h.eq_of_prefix (hdone hf) (hdone hg) hprefix (List.prefix_append _ _)]

/-- What is put in does not depend on the order of the figures. -/
lemma Apart.substitute_congr (h : Apart figures) {some all : List (String × String)}
    (hsome : some ⊆ figures) (hmem : ∀ f, f ∈ some ↔ f ∈ all) (cs : List Char) :
    substitute some cs = substitute all cs := by
  have hall : all ⊆ figures := fun f hf => hsome ((hmem f).2 hf)
  have hfigure (cs : List Char) : figureAt? some cs = figureAt? all cs := by
    refine Option.ext fun f => ?_
    rw [h.figureAt?_eq_some_iff hsome, h.figureAt?_eq_some_iff hall, hmem]
  fun_induction substitute some cs with
  | case1 => rw [substitute_nil]
  | case2 c rest f hf ih =>
    rw [hfigure] at hf
    rw [substitute, hf, ih]
  | case3 c rest hnone ih =>
    rw [hfigure] at hnone
    rw [substitute_cons hnone, ih]

/-- The rest of a placeholder stands at the beginning of what has been put in only if it stood there
before. -/
lemma Apart.prefix_substitute_iff (h : Apart figures) (hdone : done ⊆ figures) {w : List Char}
    (hw : ∀ c ∈ w, IsInner figures c) (cs : List Char) : w <+: substitute done cs ↔ w <+: cs := by
  induction w generalizing cs with
  | nil => simp
  | cons a w ih =>
    cases cs with
    | nil => simp
    | cons c rest =>
      have ha : IsInner figures a := hw a List.mem_cons_self
      cases hfigure : figureAt? done (c :: rest) with
      | none =>
        rw [substitute_cons hfigure, List.cons_prefix_cons, List.cons_prefix_cons,
          ih fun d hd => hw d (List.mem_cons_of_mem _ hd)]
      | some f =>
        obtain ⟨hf, tail, htail⟩ := exists_of_figureAt?_eq_some hfigure
        obtain ⟨d, value, hvalue, hd⟩ := h.exists_head f (hdone hf)
        rw [htail] at hfigure ⊢
        rw [substitute_placeholder hfigure, hvalue, toList_placeholder]
        simp only [List.cons_append, List.cons_prefix_cons]
        refine iff_of_false ?_ ?_
        · rintro ⟨rfl, -⟩
          exact hd ha
        · rintro ⟨rfl, -⟩
          exact h.not_isInner_opening ha

/-- Behind a sign that was kept, no placeholder arises from what has been put in and none is lost. -/
lemma Apart.prefix_cons_substitute_iff (h : Apart figures) (hdone : done ⊆ figures)
    (hf : f ∈ figures) (c : Char) (rest : List Char) :
    (placeholder f.1).toList <+: c :: substitute done rest ↔
      (placeholder f.1).toList <+: c :: rest := by
  rw [toList_placeholder, List.cons_prefix_cons, List.cons_prefix_cons,
    h.prefix_substitute_iff hdone fun _ => Apart.isInner_of_mem hf]

/-! ### One figure after the other -/

/-- Putting in one more figure is reading the text once for one more figure. -/
lemma Apart.substitute_concat (h : Apart figures) (hdone : done ⊆ figures) (hf : f ∈ figures)
    (cs : List Char) : substitute [f] (substitute done cs) = substitute (done ++ [f]) cs := by
  fun_induction substitute done cs with
  | case1 => rw [substitute_nil, substitute_nil]
  | case2 c rest g hg ih =>
    have hgf : figureAt? (done ++ [f]) (c :: rest) = some g := by
      rw [figureAt?_concat, hg, Option.some_or]
    obtain ⟨hmem, tail, htail⟩ := exists_of_figureAt?_eq_some hg
    rw [htail, drop_placeholder] at ih ⊢
    rw [htail] at hgf
    rw [substitute_append (h.opening_not_mem g (hdone hmem)), ih, substitute_placeholder hgf]
  | case3 c rest hnone ih =>
    by_cases hprefix : (placeholder f.1).toList <+: c :: rest
    · obtain ⟨tail, htail⟩ := hprefix
      have hhere : figureAt? (done ++ [f]) ((placeholder f.1).toList ++ tail) = some f := by
        rw [figureAt?_concat, htail, hnone, Option.none_or, ← htail, figureAt?_placeholder]
      -- the rest of the placeholder has been kept, as no other one begins within it
      have hopening := h.opening_not_mem_rest hf
      rw [← placeholder_append] at htail
      obtain ⟨rfl, rfl⟩ := List.cons.inj htail
      rw [substitute_append hopening, substitute_append hopening, substitute_append hopening,
        List.append_right_inj] at ih
      rw [substitute_append hopening, placeholder_append, placeholder_append,
        substitute_placeholder (figureAt?_placeholder f _), substitute_placeholder hhere, ih]
    · have hafter : figureAt? [f] (c :: substitute done rest) = none := by
        rw [figureAt?_eq_none_iff, List.forall_mem_singleton,
          h.prefix_cons_substitute_iff hdone hf]
        exact hprefix
      have hhere : figureAt? (done ++ [f]) (c :: rest) = none := by
        rw [figureAt?_concat, hnone, Option.none_or, figureAt?_eq_none_iff,
          List.forall_mem_singleton]
        exact hprefix
      rw [substitute_cons hafter, ih, substitute_cons hhere]

lemma substitute_without (cs : List Char) : substitute [] cs = cs := by
  induction cs with
  | nil => rw [substitute_nil]
  | cons c cs ih => rw [substitute_cons rfl, ih]

/-- Putting in figures one after the other is reading the text once for all of them. -/
lemma Apart.fillMessage_eq (h : Apart figures) (hdone : done ⊆ figures) (message : String) :
    fillMessage message done = String.ofList (substitute done message.toList) := by
  induction done using List.reverseRecOn with
  | nil => rw [substitute_without, String.ofList_toList]; rfl
  | append_singleton done f ih =>
    obtain ⟨hbefore, hf⟩ := List.append_subset.1 hdone
    have hlast : fillMessage message (done ++ [f]) =
        Text.replace (fillMessage message done) (placeholder f.1) f.2 := List.foldl_concat ..
    rw [hlast, ih hbefore, Text.replace, String.toList_ofList, replaceFrom_eq_substitute,
      h.substitute_concat hbefore (hf (List.mem_singleton_self f))]

/-! ### Occurrences of placeholders -/

lemma occurrences_nil (name : String) : occurrences name [] = 0 := by
  simp [occurrences, toList_placeholder]

lemma occurrences_cons (name : String) (c : Char) (rest : List Char) :
    occurrences name (c :: rest) = occurrences name rest +
      if (placeholder name).toList.isPrefixOf (c :: rest) = true then 1 else 0 := by
  rw [occurrences, List.tails_cons, List.countP_cons]
  rfl

lemma occurrences_append (name : String) {u : List Char} (hu : '\x7b' ∉ u) (rest : List Char) :
    occurrences name (u ++ rest) = occurrences name rest := by
  induction u with
  | nil => rfl
  | cons c u ih =>
    rw [List.mem_cons, not_or] at hu
    have hne : ¬(placeholder name).toList.isPrefixOf (c :: (u ++ rest)) = true := by
      rw [List.isPrefixOf_iff_prefix, toList_placeholder, List.cons_prefix_cons]
      exact fun hprefix => hu.1 hprefix.1
    rw [List.cons_append, occurrences_cons, if_neg hne, Nat.add_zero, ih hu.2]

/-- A placeholder is one occurrence of its own name, and none of another one. -/
lemma Apart.occurrences_placeholder (h : Apart figures) (hf : f ∈ figures) (hg : g ∈ figures)
    (rest : List Char) : occurrences g.1 ((placeholder f.1).toList ++ rest) =
      occurrences g.1 rest + if g = f then 1 else 0 := by
  have hhere : (placeholder g.1).toList.isPrefixOf ((placeholder f.1).toList ++ rest) = true ↔
      g = f := by
    rw [List.isPrefixOf_iff_prefix]
    refine ⟨fun hprefix => h.eq_of_prefix hg hf hprefix (List.prefix_append _ _), ?_⟩
    rintro rfl
    exact List.prefix_append _ _
  simp only [← hhere]
  rw [toList_placeholder f.1, List.cons_append, occurrences_cons,
    occurrences_append _ (h.opening_not_mem_rest hf)]

/-- Of the figures that have been put in no placeholder is left, and those of the others are neither
more nor fewer than before. -/
lemma Apart.occurrences_substitute (h : Apart figures) (hdone : done ⊆ figures) (hg : g ∈ figures)
    (cs : List Char) :
    occurrences g.1 (substitute done cs) = if g ∈ done then 0 else occurrences g.1 cs := by
  fun_induction substitute done cs with
  | case1 => simp [occurrences_nil]
  | case2 c rest f hf ih =>
    obtain ⟨hmem, tail, htail⟩ := exists_of_figureAt?_eq_some hf
    rw [htail, drop_placeholder] at ih ⊢
    rw [occurrences_append _ (h.opening_not_mem f (hdone hmem)), ih,
      h.occurrences_placeholder (hdone hmem) hg]
    by_cases hgf : g = f
    · subst hgf
      rw [if_pos hmem, if_pos hmem]
    · rw [if_neg hgf, Nat.add_zero]
  | case3 c rest hnone ih =>
    simp only [occurrences_cons, List.isPrefixOf_iff_prefix,
      h.prefix_cons_substitute_iff hdone hg, ih]
    by_cases hgd : g ∈ done
    · rw [if_pos hgd, if_pos hgd, if_neg (figureAt?_eq_none_iff.1 hnone g hgd)]
    · rw [if_neg hgd, if_neg hgd]

end

/-! ### All figures at once -/

/-- A text is a message with figures put in all at once. Put in one after the other they give the
same text in any order: none of them makes or removes an occurrence of another one's placeholder. -/
structure FilledAtOnce (message : String) (figures : List (String × String)) (filled : String) :
    Prop where
  eq_substitute : filled = String.ofList (substitute figures message.toList)
  of_perm : ∀ order, order.Perm figures → fillMessage message order = filled
  of_subset : ∀ done, done ⊆ figures →
    fillMessage message done = String.ofList (substitute done message.toList)
  occurrences_eq : ∀ done, done ⊆ figures → ∀ f ∈ figures,
    occurrences f.1 (fillMessage message done).toList =
      if f ∈ done then 0 else occurrences f.1 message.toList

lemma Apart.filledAtOnce {figures : List (String × String)} (h : Apart figures)
    (message : String) : FilledAtOnce message figures (fillMessage message figures) where
  eq_substitute := h.fillMessage_eq (List.Subset.refl _) message
  of_perm order horder := by
    rw [h.fillMessage_eq horder.subset, h.fillMessage_eq (List.Subset.refl _),
      h.substitute_congr horder.subset fun f => horder.mem_iff]
  of_subset done hdone := h.fillMessage_eq hdone message
  occurrences_eq done hdone f hf := by
    rw [h.fillMessage_eq hdone, String.toList_ofList, h.occurrences_substitute hdone hf]

/-! ### The figures of a game -/

/-- A text that begins like a number and has no opening brace. -/
structure IsFigureText (s : String) : Prop where
  exists_head : ∃ c rest, s.toList = c :: rest ∧ (c.isDigit = true ∨ c = '-')
  opening_not_mem : '\x7b' ∉ s.toList

lemma IsFigureText.append {s : String} (h : IsFigureText s) {t : String}
    (ht : '\x7b' ∉ t.toList) : IsFigureText (s ++ t) where
  exists_head := by
    obtain ⟨c, rest, hs, hc⟩ := h.exists_head
    exact ⟨c, rest ++ t.toList, by rw [String.toList_append, hs, List.cons_append], hc⟩
  opening_not_mem := by
    rw [String.toList_append, List.mem_append, not_or]
    exact ⟨h.opening_not_mem, ht⟩

lemma isFigureText_natText (n : Nat) : IsFigureText (toString n) := by
  have hdigits : (toString n).toList = Nat.toDigits 10 n := by simp [Nat.repr]
  have hall {c : Char} (hc : c ∈ Nat.toDigits 10 n) : c.isDigit = true :=
    Nat.isDigit_of_mem_toDigits (by decide) (by decide) hc
  constructor
  · obtain ⟨c, rest, hcons⟩ := List.exists_cons_of_ne_nil (Nat.toDigits_ne_nil (n := n) (b := 10))
    exact ⟨c, rest, hdigits.trans hcons, .inl (hall (hcons ▸ List.mem_cons_self))⟩
  · intro hopening
    rw [hdigits] at hopening
    exact absurd (hall hopening) (by decide)

lemma isFigureText_intText (n : Int) : IsFigureText (Number.intText n) := by
  cases n with
  | ofNat n => exact isFigureText_natText n
  | negSucc n =>
    have hminus : IsFigureText "-" := ⟨⟨'-', [], rfl, .inr rfl⟩, by decide⟩
    exact hminus.append (isFigureText_natText (n + 1)).opening_not_mem

lemma isFigureText_formatTime (seconds : Int) : IsFigureText (formatTime seconds) := by
  unfold formatTime
  exact ((((isFigureText_natText _).append (by decide)).append
    (isFigureText_natText _).opening_not_mem).append (by decide))

/-- The figures that a closing message may name. -/
def outroFigures (score maxScore percent seconds : Int) : List (String × String) :=
  [("score", Number.intText score), ("total", Number.intText maxScore),
   ("percentage", Number.intText percent), ("time", formatTime seconds)]

section

variable {score maxScore percent seconds : Int}

lemma mem_names_of_mem {f : String × String}
    (hf : f ∈ outroFigures score maxScore percent seconds) :
    f.1 ∈ ["score", "total", "percentage", "time"] :=
  List.mem_map_of_mem (f := Prod.fst) hf

lemma isFigureText_of_mem {f : String × String}
    (hf : f ∈ outroFigures score maxScore percent seconds) : IsFigureText f.2 := by
  simp only [outroFigures, List.mem_cons, List.not_mem_nil, or_false] at hf
  rcases hf with rfl | rfl | rfl | rfl
  · exact isFigureText_intText score
  · exact isFigureText_intText maxScore
  · exact isFigureText_intText percent
  · exact isFigureText_formatTime seconds

/-- Behind the opening brace of a placeholder stand small letters and the closing brace. -/
lemma not_isInner {c : Char} (hc : c.isDigit = true ∨ c = '-' ∨ c = '\x7b') :
    ¬IsInner (outroFigures score maxScore percent seconds) c := by
  have hletters : ["score", "total", "percentage", "time"].all (fun name =>
      name.toList.all fun d => !(d.isDigit || d == '-' || d == '\x7b')) = true := rfl
  rintro (rfl | ⟨f, hf, hmem⟩)
  · exact absurd hc (by decide)
  · have hsign : (c.isDigit || c == '-' || c == '\x7b') = true := by simpa [or_assoc] using hc
    have hletter := List.all_eq_true.1
      (List.all_eq_true.1 hletters f.1 (mem_names_of_mem hf)) c hmem
    simp [hsign] at hletter

lemma apart_outroFigures : Apart (outroFigures score maxScore percent seconds) where
  name_inj := by
    have hnodup : ((outroFigures score maxScore percent seconds).map Prod.fst).Nodup :=
      show ["score", "total", "percentage", "time"].Nodup by decide
    exact fun f hf g hg => List.inj_on_of_nodup_map hnodup hf hg
  closing_not_mem f hf := by
    have hnames : ∀ name ∈ ["score", "total", "percentage", "time"], '\x7d' ∉ name.toList := by
      decide
    exact hnames f.1 (mem_names_of_mem hf)
  not_isInner_opening := not_isInner (.inr (.inr rfl))
  opening_not_mem f hf := (isFigureText_of_mem hf).opening_not_mem
  exists_head f hf := by
    obtain ⟨c, rest, hvalue, hc⟩ := (isFigureText_of_mem hf).exists_head
    exact ⟨c, rest, hvalue, not_isInner (hc.imp_right .inl)⟩

end

/-! ### The closing screen -/

/-- The message that a game closes with, before figures are put in. -/
def closingMessage (g : Game) : String := (g.content.outro.map (·.completionMessage)).getD ""

/-- A closing screen shows the message with all figures put in. -/
lemma exists_of_outroSummary_eq_ok {g : Game} {s : GameState} {summary : Value}
    (h : (outroSummary g s).result = .ok summary) : ∃ share percent, ∃ fields : Fields,
      percentage s.score g.scoring.maxScore = .ok share ∧
      (Number.float share).toNearest = .ok percent ∧ summary = .map fields ∧
      fields.get "completionMessage" = .str (fillMessage (closingMessage g)
        [("score", s.score.text), ("total", Number.intText g.scoring.maxScore),
         ("percentage", Number.intText percent), ("time", formatTime s.timeElapsed)]) := by
  have hmessage : (g.content.outro.getD ⟨"", "", []⟩).completionMessage = closingMessage g := by
    unfold closingMessage
    cases g.content.outro <;> rfl
  unfold outroSummary at h
  simp only [Traced.bind_eq_ok, Traced.result_lift] at h
  obtain ⟨share, hshare, percent, hpercent, correct, -, tier, -, h⟩ := h
  cases h
  refine ⟨share, percent, _, hshare, hpercent, rfl, ?_⟩
  rw [← hmessage]
  rfl

/-- The message on the closing screen of a game with an integer score is the one of the game, read
once from left to right with all placeholders of figures replaced on the way. -/
theorem filledAtOnce_of_outroSummary {g : Game} {s : GameState} {score : Int} {summary : Value}
    (hscore : s.score = .int score) (h : (outroSummary g s).result = .ok summary) :
    ∃ share percent, ∃ fields : Fields, ∃ filled,
      percentage s.score g.scoring.maxScore = .ok share ∧
      (Number.float share).toNearest = .ok percent ∧
      summary = .map fields ∧ fields.get "completionMessage" = .str filled ∧
      FilledAtOnce (closingMessage g)
        (outroFigures score g.scoring.maxScore percent s.timeElapsed) filled := by
  obtain ⟨share, percent, fields, hshare, hpercent, hsummary, hmessage⟩ :=
    exists_of_outroSummary_eq_ok h
  rw [hscore] at hmessage
  exact ⟨share, percent, fields, _, hshare, hpercent, hsummary, hmessage,
    apart_outroFigures.filledAtOnce _⟩

/-- A game whose closing message has a placeholder between braces and one within another one. -/
def nestedGame : Game where
  version := "1.0"
  metadata := ⟨"", "", "", "", .beginner, .basic, 10, [], [], ""⟩
  theme := ⟨"", "", ⟨"", ""⟩, "", ""⟩
  config := ⟨"quiz", [], 0, 0, true, true, true, 3, 0, false, "", true⟩
  content := ⟨none, [], some ⟨
    "\x7b\x7bscore\x7d\x7d of \x7btotal\x7d in \x7bsc\x7btime\x7dore\x7d, \x7bwho\x7d", "", []⟩⟩
  progression := ⟨.linear, none, none, none, true⟩
  scoring := ⟨4, 1, 0, false, .int 1, []⟩

/-- The end of a game with three of four points. -/
def nestedEnd : GameState :=
  { GameState.initial nestedGame with
    score := .int 3, timeElapsed := 75, rating := some fallbackTier }

/-- Only the four placeholders are replaced. -/
theorem filledAtOnce_of_nestedEnd :
    nestedEnd.score = .int 3 ∧
    ∃ summary, (outroSummary nestedGame nestedEnd).result = .ok summary ∧
      ∃ share percent, ∃ fields : Fields, ∃ filled,
        percentage nestedEnd.score nestedGame.scoring.maxScore = .ok share ∧
        (Number.float share).toNearest = .ok percent ∧
        summary = .map fields ∧ fields.get "completionMessage" = .str filled ∧
        FilledAtOnce (closingMessage nestedGame)
          (outroFigures 3 nestedGame.scoring.maxScore percent nestedEnd.timeElapsed) filled := by
  have hsummary : ∃ summary, (outroSummary nestedGame nestedEnd).result = .ok summary := ⟨_, rfl⟩
  obtain ⟨summary, h⟩ := hsummary
  exact ⟨rfl, summary, h, filledAtOnce_of_outroSummary rfl h⟩

example : fillMessage (closingMessage nestedGame) (outroFigures 3 4 75 75) =
    "\x7b3\x7d of 4 in \x7bsc1m 15sore\x7d, \x7bwho\x7d" := rfl

end LearningGame.Play
