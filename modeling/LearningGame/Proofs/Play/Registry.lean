import LearningGame.Proofs.Play.Countdown
import Mathlib.Data.List.Pairwise

/-!
# The countdowns that there are

Countdowns are numbered in the order in which they are armed. Those that there are have names and
serial numbers of their own and are all valid, since arming a countdown drops the one with its name
and an epoch takes its countdowns along. So a countdown is found by its name or its serial number
just if it is there.
-/

namespace LearningGame.Play

/-- Two countdowns are told apart by their names and by their serial numbers. -/
structure Countdown.Apart {α : Type} (c d : Countdown α) : Prop where
  name : c.name ≠ d.name
  serial : c.serial ≠ d.serial

instance {α : Type} : Std.Symm (Countdown.Apart (α := α)) where
  symm _ _ h := ⟨h.name.symm, h.serial.symm⟩

namespace Registry

variable {α : Type} {r : Registry α} {name : String} {seconds : Int} {scope : Scope} {alarm : α}

/-! ### Placing -/

lemma mem_place_self (c : Countdown α) (cs : List (Countdown α)) : c ∈ place c cs := by
  induction cs with
  | nil => exact List.mem_singleton_self c
  | cons first rest ih =>
    unfold place
    split_ifs
    · exact List.mem_cons_self
    · exact List.mem_cons_of_mem first ih

/-- Countdowns of other names stay where they are. -/
lemma mem_place_of_ne {c d : Countdown α} {cs : List (Countdown α)} (hd : d ∈ cs)
    (hname : d.name ≠ c.name) : d ∈ place c cs := by
  induction cs with
  | nil => cases hd
  | cons first rest ih =>
    unfold place
    rcases List.mem_cons.1 hd with rfl | hd
    · rw [if_neg (by simpa using hname)]
      exact List.mem_cons_self
    · split_ifs
      · exact List.mem_cons_of_mem c hd
      · exact List.mem_cons_of_mem first (ih hd)

/-- A countdown with a new serial number is told apart from those whose names it does not have. -/
lemma pairwise_place {c : Countdown α} {cs : List (Countdown α)} (hcs : cs.Pairwise Countdown.Apart)
    (hc : ∀ d ∈ cs, d.serial ≠ c.serial) : (place c cs).Pairwise Countdown.Apart := by
  induction cs with
  | nil => simp [place]
  | cons first rest ih =>
    obtain ⟨hfirst, hrest⟩ := List.pairwise_cons.1 hcs
    obtain ⟨hc, hcrest⟩ := List.forall_mem_cons.1 hc
    unfold place
    split_ifs with hname
    · have hname : first.name = c.name := by simpa using hname
      refine List.pairwise_cons.2 ⟨fun d hd => ⟨?_, (hcrest d hd).symm⟩, hrest⟩
      rw [← hname]
      exact (hfirst d hd).name
    · refine List.pairwise_cons.2 ⟨forall_place ⟨by simpa using hname, hc⟩ hfirst, ih hrest hcrest⟩

/-- A countdown takes the place of the one with its name. -/
lemma mem_place_iff {c d : Countdown α} {cs : List (Countdown α)}
    (hcs : cs.Pairwise Countdown.Apart) :
    d ∈ place c cs ↔ d = c ∨ d ∈ cs ∧ d.name ≠ c.name := by
  constructor
  · intro hd
    induction cs with
    | nil => exact .inl (List.mem_singleton.1 hd)
    | cons first rest ih =>
      obtain ⟨hfirst, hrest⟩ := List.pairwise_cons.1 hcs
      unfold place at hd
      split_ifs at hd with hname
      · have hname : first.name = c.name := by simpa using hname
        refine (List.mem_cons.1 hd).imp_right fun hd => ⟨List.mem_cons_of_mem first hd, ?_⟩
        rw [← hname]
        exact (hfirst d hd).name.symm
      · rcases List.mem_cons.1 hd with rfl | hd
        · exact .inr ⟨List.mem_cons_self, by simpa using hname⟩
        · exact (ih hrest hd).imp_right fun h => ⟨List.mem_cons_of_mem first h.1, h.2⟩
  · rintro (rfl | ⟨hd, hname⟩)
    · exact mem_place_self d cs
    · exact mem_place_of_ne hd hname

/-! ### Taking out -/

/-- To take out a countdown that is not there changes nothing. -/
lemma cancel_of_find?_eq_none (h : r.find? name = none) : r.cancel name = r := by
  have hall : r.countdowns.filter (·.name != name) = r.countdowns := by
    rw [List.filter_eq_self]
    intro c hc
    have hne := List.find?_eq_none.1 h c hc
    simpa using hne
  rw [cancel, hall]

/-! ### Seconds -/

lemma mem_step_self {c : Countdown α} (hc : c ∈ r.countdowns) :
    { c with remaining := c.remaining - 1 } ∈ (r.step c).countdowns :=
  List.mem_map.2 ⟨c, hc, if_pos (by simp)⟩

/-- Other countdowns lose nothing. -/
lemma mem_step_of_ne {c d : Countdown α} (hserial : d.serial ≠ c.serial) :
    d ∈ (r.step c).countdowns ↔ d ∈ r.countdowns := by
  constructor
  · intro hd
    obtain ⟨old, hold, rfl⟩ := List.mem_map.1 hd
    split_ifs at hserial ⊢ with heq
    · exact absurd (by simpa using heq) hserial
    · exact hold
  · intro hd
    exact List.mem_map.2 ⟨d, hd, if_neg (by simpa using hserial)⟩

/-! ### Countdowns are numbered -/

/-- Countdowns that are there, and those that have lost a second, have been armed. -/
structure Numbered (r : Registry α) : Prop where
  countdowns : ∀ c ∈ r.countdowns, c.serial < r.armed
  lefts : ∀ x ∈ r.lefts, x.1 < r.armed

namespace Numbered

lemma arm (h : r.Numbered) (name : String) (seconds : Int) (scope : Scope) (alarm : α) :
    (r.arm name seconds scope alarm).Numbered where
  countdowns := forall_arm (fun d hd => Nat.lt_succ_of_lt (h.countdowns d hd)) (Nat.lt_succ_self _)
  lefts x hx := Nat.lt_succ_of_lt (h.lefts x hx)

lemma cancel (h : r.Numbered) (name : String) : (r.cancel name).Numbered where
  countdowns := forall_cancel h.countdowns name
  lefts := h.lefts

lemma nextSection (h : r.Numbered) : r.nextSection.Numbered where
  countdowns := forall_nextSection h.countdowns
  lefts := h.lefts

lemma nextPhase (h : r.Numbered) : r.nextPhase.Numbered where
  countdowns := forall_nextPhase
  lefts := h.lefts

lemma step (h : r.Numbered) {c : Countdown α} (hc : c ∈ r.countdowns) : (r.step c).Numbered where
  countdowns := forall_step (fun _ _ hd => hd) h.countdowns c
  lefts := by
    rintro x (_ | ⟨_, hx⟩)
    · exact h.countdowns c hc
    · exact h.lefts x (List.mem_of_mem_filter hx)

end Numbered

/-! ### Countdowns are told apart -/

/-- Countdowns have been armed, have names and serial numbers of their own, and are valid. -/
structure Sound (r : Registry α) : Prop extends Numbered r where
  distinct : r.countdowns.Pairwise Countdown.Apart
  valid : ∀ c ∈ r.countdowns, r.isCurrent c = true

namespace Sound

lemma empty : (empty : Registry α).Sound where
  countdowns := by rintro c ⟨⟩
  lefts := by rintro x ⟨⟩
  distinct := .nil
  valid := by rintro c ⟨⟩

lemma arm (h : r.Sound) (name : String) (seconds : Int) (scope : Scope) (alarm : α) :
    (r.arm name seconds scope alarm).Sound where
  toNumbered := h.toNumbered.arm name seconds scope alarm
  distinct := pairwise_place h.distinct fun d hd => Nat.ne_of_lt (h.countdowns d hd)
  valid := forall_arm (P := fun c => (r.arm name seconds scope alarm).isCurrent c = true)
    h.valid (by
    cases scope <;> simp [isCurrent, Epochs.current, Registry.arm])

lemma cancel (h : r.Sound) (name : String) : (r.cancel name).Sound where
  toNumbered := h.toNumbered.cancel name
  distinct := h.distinct.filter _
  valid := forall_cancel h.valid name

/-- A new section drops the countdowns that it would make void. -/
lemma nextSection (h : r.Sound) : r.nextSection.Sound where
  toNumbered := h.toNumbered.nextSection
  distinct := h.distinct.filter _
  valid c hc := by
    obtain ⟨hc, hscope⟩ := List.mem_filter.1 hc
    have hvalid := h.valid c hc
    cases hc : c.scope with
    | ofSection => simp [hc] at hscope
    | ofPlay =>
      simp only [isCurrent, Epochs.current, hc] at hvalid ⊢
      exact hvalid

lemma nextPhase (h : r.Sound) : r.nextPhase.Sound where
  toNumbered := h.toNumbered.nextPhase
  distinct := .nil
  valid := forall_nextPhase

lemma clear (h : r.Sound) : r.clear.Sound where
  countdowns := by rintro c ⟨⟩
  lefts := h.lefts
  distinct := .nil
  valid := by rintro c ⟨⟩

lemma step (h : r.Sound) {c : Countdown α} (hc : c ∈ r.countdowns) : (r.step c).Sound where
  toNumbered := h.toNumbered.step hc
  distinct := by
    refine List.pairwise_map.2 (h.distinct.imp fun {d e} hde => ?_)
    split_ifs <;> exact ⟨hde.name, hde.serial⟩
  valid := forall_step (P := fun c => (r.step c).isCurrent c = true) (fun _ _ hd => hd) h.valid c

/-! ### Finding countdowns -/

variable (h : r.Sound) {c d : Countdown α} {serial : Nat}

include h

lemma eq_of_name (hc : c ∈ r.countdowns) (hd : d ∈ r.countdowns) (hname : c.name = d.name) :
    c = d := by
  by_contra hne
  exact (h.distinct.forall hc hd hne).name hname

lemma eq_of_serial (hc : c ∈ r.countdowns) (hd : d ∈ r.countdowns) (hserial : c.serial = d.serial) :
    c = d := by
  by_contra hne
  exact (h.distinct.forall hc hd hne).serial hserial

lemma nodup_serials : r.serials.Nodup :=
  List.pairwise_map.2 (h.distinct.imp fun hcd => hcd.serial)

lemma find?_eq_some_iff : r.find? name = some c ↔ c ∈ r.countdowns ∧ c.name = name := by
  constructor
  · intro hc
    exact ⟨List.mem_of_find?_eq_some hc, by simpa using List.find?_some hc⟩
  · rintro ⟨hc, rfl⟩
    obtain ⟨d, hd⟩ := Option.isSome_iff_exists.1
      (List.find?_isSome.2 ⟨c, hc, by simp⟩ : (r.find? c.name).isSome = true)
    obtain rfl := h.eq_of_name (List.mem_of_find?_eq_some hd) hc (by simpa using List.find?_some hd)
    exact hd

lemma live?_eq_some_iff : r.live? serial = some c ↔ c ∈ r.countdowns ∧ c.serial = serial := by
  constructor
  · exact mem_of_live?
  · rintro ⟨hc, rfl⟩
    obtain ⟨d, hd⟩ := Option.isSome_iff_exists.1
      (List.find?_isSome.2 ⟨c, hc, by simp⟩ :
        (r.countdowns.find? (·.serial == c.serial)).isSome = true)
    obtain rfl := h.eq_of_serial (List.mem_of_find?_eq_some hd) hc
      (by simpa using List.find?_some hd)
    simp [live?, hd, h.valid d hc]

lemma live?_eq_none_iff : r.live? serial = none ↔ ∀ c ∈ r.countdowns, c.serial ≠ serial := by
  constructor
  · intro hnone c hc hserial
    rw [h.live?_eq_some_iff.2 ⟨hc, hserial⟩] at hnone
    cases hnone
  · intro hall
    rw [Option.eq_none_iff_forall_ne_some]
    intro c hc
    obtain ⟨hmem, hserial⟩ := mem_of_live? hc
    exact hall c hmem hserial

/-- The seconds that are left to a countdown are those of the one with its name. -/
lemma remaining?_eq_some_iff {left : Int} : r.remaining? name = some left ↔
    ∃ c ∈ r.countdowns, c.name = name ∧ c.remaining = left := by
  constructor
  · intro hleft
    unfold Registry.remaining? at hleft
    split at hleft
    case h_1 c hc =>
      obtain ⟨hmem, hname⟩ := h.find?_eq_some_iff.1 hc
      rw [if_pos (h.valid c hmem)] at hleft
      exact ⟨c, hmem, hname, Option.some.inj hleft⟩
    case h_2 => cases hleft
  · rintro ⟨c, hc, hname, rfl⟩
    simp [Registry.remaining?, h.find?_eq_some_iff.2 ⟨hc, hname⟩, h.valid c hc]

/-- Nothing is left just of names that no countdown has. -/
lemma remaining?_eq_none_iff : r.remaining? name = none ↔ ∀ c ∈ r.countdowns, c.name ≠ name := by
  rw [Option.eq_none_iff_forall_ne_some]
  constructor
  · intro hnone c hc hname
    exact hnone c.remaining (h.remaining?_eq_some_iff.2 ⟨c, hc, hname, rfl⟩)
  · intro hall left hleft
    obtain ⟨c, hc, hname, -⟩ := h.remaining?_eq_some_iff.1 hleft
    exact hall c hc hname

end Sound

end Registry

end LearningGame.Play
