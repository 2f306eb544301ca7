import LearningGame.Proofs.Number.Units
import LearningGame.Proofs.Play.Simulating

/-!
# Keeping a value

An objective of keeping a value is looked at whenever an action has been performed or a turn
completed, and is complete once the turns are over if the value has never been missed then. What
there was at the beginning is not looked at.
-/

namespace LearningGame.Play.SimulationSitting

open Content Schema Script Rehearsal Number
open Schema.Codec (IsPlainNumber)

variable {c : Setting} {z : Simulation} {T : Float → Prop} {s t : SimulationSitting}
  {x : Surroundings} {p q : Stage SimulationSitting} {o : Objective}

/-! ### Looking at an objective -/

lemma mem_insert {xs : List String} {x y : String} : y ∈ insert xs x ↔ y = x ∨ y ∈ xs := by
  unfold insert
  split_ifs with h
  · have hx : x ∈ xs := List.contains_iff_mem.1 h
    exact ⟨.inr, fun hy => hy.elim (fun heq => heq ▸ hx) id⟩
  · rw [List.mem_append, List.mem_singleton, or_comm]

/-- An objective has no part in what becomes of another one. -/
lemma mem_assess_of_ne {id : String} (s : SimulationSitting) {o : Objective} (hne : o.id ≠ id) :
    (id ∈ (s.assess o).brokenMaintains ↔ id ∈ s.brokenMaintains) ∧
      (id ∈ (s.assess o).completedObjectives ↔ id ∈ s.completedObjectives) := by
  unfold assess
  dsimp only
  split_ifs <;> simp [mem_insert, Ne.symm hne]

lemma mem_foldl_assess_of_notMem {id : String} {os : List Objective}
    (hnot : id ∉ os.map (·.id)) (s : SimulationSitting) :
    (id ∈ (os.foldl assess s).brokenMaintains ↔ id ∈ s.brokenMaintains) ∧
      (id ∈ (os.foldl assess s).completedObjectives ↔ id ∈ s.completedObjectives) := by
  induction os generalizing s with
  | nil => exact ⟨Iff.rfl, Iff.rfl⟩
  | cons o rest ih =>
    rw [List.map_cons, List.mem_cons, not_or] at hnot
    obtain ⟨hbroken, hcompleted⟩ := ih hnot.2 (s.assess o)
    obtain ⟨hbroken', hcompleted'⟩ := s.mem_assess_of_ne (Ne.symm hnot.1)
    exact ⟨hbroken.trans hbroken', hcompleted.trans hcompleted'⟩

/-- Looking at an objective of keeping a value, it is broken if the value is missed, and complete if
it has never been broken and the turns are over. -/
lemma mem_assess_self (s : SimulationSitting) (hkind : o.kind = .maintainValue) :
    (o.id ∈ (s.assess o).brokenMaintains ↔ o.id ∈ s.brokenMaintains ∨ s.isMissed o = true) ∧
      (o.id ∈ (s.assess o).completedObjectives ↔ o.id ∈ s.completedObjectives ∨
        o.id ∉ (s.assess o).brokenMaintains ∧ s.content.maxTurns ≤ s.turn) := by
  unfold assess
  dsimp only
  -- whether the value is missed is noted first
  generalize hu : (if s.isMissed o then
    { s with brokenMaintains := insert s.brokenMaintains o.id } else s) = u
  have hbroken : o.id ∈ u.brokenMaintains ↔ o.id ∈ s.brokenMaintains ∨ s.isMissed o = true := by
    rw [← hu]
    split_ifs with hmissed <;> simp [mem_insert, hmissed]
  have hsame : u.completedObjectives = s.completedObjectives ∧ u.content = s.content ∧
      u.turn = s.turn := by
    rw [← hu]
    split_ifs <;> exact ⟨rfl, rfl, rfl⟩
  have hmet : u.isMet o = true ↔ o.id ∉ u.brokenMaintains ∧ s.content.maxTurns ≤ s.turn := by
    simp [isMet, hkind, hsame]
  have hnow : (!u.completedObjectives.contains o.id && u.isMet o) = true ↔
      o.id ∉ s.completedObjectives ∧ o.id ∉ u.brokenMaintains ∧ s.content.maxTurns ≤ s.turn := by
    rw [Bool.and_eq_true, hmet, hsame.1]
    simp
  split_ifs with h
  · refine ⟨hbroken, iff_of_true ?_ (.inr (hnow.1 h).2)⟩
    exact List.mem_append_right _ List.mem_cons_self
  · rw [hsame.1]
    refine ⟨hbroken, .inl, fun hdone => ?_⟩
    by_contra hopen
    exact h (hnow.2 ⟨hopen, hdone.resolve_left hopen⟩)

/-- Looking at all objectives, one of keeping a value is broken if the value is missed, and complete
if it has never been broken and the turns are over. -/
lemma mem_assessed (hids : (s.content.objectives.map (·.id)).Nodup)
    (ho : o ∈ s.content.objectives) (hkind : o.kind = .maintainValue) :
    (o.id ∈ s.assessed.brokenMaintains ↔ o.id ∈ s.brokenMaintains ∨ s.isMissed o = true) ∧
      (o.id ∈ s.assessed.completedObjectives ↔ o.id ∈ s.completedObjectives ∨
        o.id ∉ s.assessed.brokenMaintains ∧ s.content.maxTurns ≤ s.turn) := by
  obtain ⟨before, after, hsplit⟩ := List.append_of_mem ho
  rw [hsplit, List.map_append, List.map_cons, List.nodup_append, List.nodup_cons] at hids
  obtain ⟨-, ⟨hafter, -⟩, hdisjoint⟩ := hids
  have hbefore : o.id ∉ before.map (·.id) := fun hmem =>
    hdisjoint _ hmem _ List.mem_cons_self rfl
  obtain ⟨completed, broken, heq⟩ := exists_foldl_assess before s
  obtain ⟨hbroken, hcompleted⟩ := mem_foldl_assess_of_notMem hbefore s
  obtain ⟨hbroken', hcompleted'⟩ := mem_assess_self (before.foldl assess s) hkind
  obtain ⟨hbroken'', hcompleted''⟩ :=
    mem_foldl_assess_of_notMem hafter ((before.foldl assess s).assess o)
  have hmissed : (before.foldl assess s).isMissed o = s.isMissed o := by
    rw [heq]
    rfl
  have hover : (before.foldl assess s).content.maxTurns ≤ (before.foldl assess s).turn ↔
      s.content.maxTurns ≤ s.turn := by rw [heq]
  rw [assessed, hsplit, List.foldl_append, List.foldl_cons, hbroken'', hcompleted'', hbroken',
    hcompleted', hbroken', hbroken, hcompleted, hmissed, hover]
  exact ⟨Iff.rfl, Iff.rfl⟩

/-! ### What a look makes of an objective -/

/-- An objective of keeping a value has been looked at: it is broken if it was or if the value is
missed, and complete if it was or if the turns are over and it is not broken. -/
structure Looks (o : Objective) (s t : SimulationSitting) : Prop where
  broken : o.id ∈ t.brokenMaintains ↔ o.id ∈ s.brokenMaintains ∨ t.isMissed o = true
  completed : o.id ∈ t.completedObjectives ↔ o.id ∈ s.completedObjectives ∨
    o.id ∉ t.brokenMaintains ∧ t.content.maxTurns ≤ t.turn

section

variable (hids : (z.objectives.map (·.id)).Nodup) (ho : o ∈ z.objectives)
  (hkind : o.kind = .maintainValue)

include hids ho hkind

lemma looks_assessed (hcontent : s.content = z) : Looks o s s.assessed := by
  obtain ⟨hbroken, hcompleted⟩ := mem_assessed (s := s) (hcontent ▸ hids) (hcontent ▸ ho) hkind
  obtain ⟨completed, broken, heq⟩ := exists_assessed s
  have hmissed : s.assessed.isMissed o = s.isMissed o := by
    rw [heq]
    rfl
  have hover : s.assessed.content.maxTurns ≤ s.assessed.turn ↔ s.content.maxTurns ≤ s.turn := by
    rw [heq]
  exact ⟨by rw [hbroken, hmissed], by rw [hcompleted, hover]⟩

lemma Closes.looks (h : Closes c s x q) (hcontent : s.content = z) : Looks o s q.1 := by
  have hlooks := looks_assessed hids ho hkind hcontent
  cases h with
  | undecided => exact hlooks
  | decided time => exact ⟨hlooks.broken, hlooks.completed⟩

/-- After an action that is performed and a turn that is completed the objective has been looked at,
and it stays as it is otherwise. -/
lemma Deals.looks {m : Move} {a : Value} (h : Deals c p m a q) (hcontent : p.1.content = z) :
    ((∃ id, m = .perform id ∧ a = .bool true) ∨ EndsTurn p.1 m a → Looks o p.1 q.1) ∧
    (¬((∃ id, m = .perform id ∧ a = .bool true) ∨ EndsTurn p.1 m a) →
      q.1.brokenMaintains = p.1.brokenMaintains ∧
        q.1.completedObjectives = p.1.completedObjectives) := by
  cases h with
  | @perform id action q hfree ha hcan h =>
    refine ⟨fun _ => ?_, fun hnot => absurd (.inl ⟨_, rfl, rfl⟩) hnot⟩
    obtain ⟨g, cooldowns, performed, heq⟩ := exists_enacted p.1 action
    rw [heq] at h
    have hlooks := h.looks hids ho hkind hcontent
    exact ⟨hlooks.broken, hlooks.completed⟩
  | endTurn hfree h =>
    refine ⟨fun _ => ?_, fun hnot => absurd (.inr ⟨hfree, rfl⟩) hnot⟩
    obtain ⟨reports, -, h⟩ := h
    have hlooks := h.looks hids ho hkind hcontent
    exact ⟨hlooks.broken, hlooks.completed⟩
  | @resolve choice e q he h =>
    refine ⟨fun _ => ?_, fun hnot => absurd (.inr (Option.isSome_iff_exists.2 ⟨_, he⟩)) hnot⟩
    obtain ⟨reports, -, h⟩ := h
    obtain ⟨g, heq⟩ := exists_resolved p.1 e choice
    rw [heq] at h
    have hlooks := h.looks hids ho hkind hcontent
    exact ⟨hlooks.broken, hlooks.completed⟩
  | reject => exact ⟨by simp [EndsTurn], fun _ => ⟨rfl, rfl⟩⟩
  | raise => exact ⟨by simp [EndsTurn], fun _ => ⟨rfl, rfl⟩⟩
  | blocked hblocked => exact ⟨by simp [EndsTurn, hblocked], fun _ => ⟨rfl, rfl⟩⟩
  | unasked hnone => exact ⟨by simp [EndsTurn, hnone], fun _ => ⟨rfl, rfl⟩⟩
  | unlock | leave | stay => exact ⟨by simp [EndsTurn], fun _ => ⟨rfl, rfl⟩⟩

end

/-- Objectives are looked at only as long as there is no outcome. -/
lemma Deals.won_eq_none {m : Move} {a : Value} (h : Deals c p m a q)
    (hlooks : (∃ id, m = .perform id ∧ a = .bool true) ∨ EndsTurn p.1 m a) : p.1.won = none := by
  cases h with
  | perform hfree | raise hfree | endTurn hfree => exact hfree.2.1
  | resolve he => exact won_eq_none_of_pending? he
  | reject => simp [EndsTurn] at hlooks
  | blocked hblocked => simp [EndsTurn, hblocked] at hlooks
  | unasked hnone => simp [EndsTurn, hnone] at hlooks
  | unlock | leave | stay => simp [EndsTurn] at hlooks

/-! ### Whole runs -/

/-- There is as much of a resource as is to be kept. -/
def IsKept (s : SimulationSitting) (o : Objective) : Prop :=
  o.value.atMost (amount s.resources o.target) = true

/-- The objectives are looked at in a state of a rehearsal: an action has been performed, or a turn
completed. -/
def IsLookedAt (w : Rehearsal) (cues : List Cue) (t : SimulationSitting) : Prop :=
  ∃ before cue s, before ++ [cue] <+: cues ∧ (w.rehearsed before).player = .simulation s ∧
    Decides (w.rehearsed before) s cue ∧ (w.rehearsed (before ++ [cue])).player = .simulation t

/-- The turns are over, and there has been as much of a resource as is to be kept from the first
state on, whenever an action had been performed or a turn completed. -/
def IsMaintained (w : Rehearsal) (cues : List Cue) (s : SimulationSitting) (o : Objective) : Prop :=
  s.content.maxTurns ≤ s.turn ∧
    ∀ t, (w.rehearsed []).player = .simulation t ∨ IsLookedAt w cues t → t.IsKept o

section

variable {w : Rehearsal} {cues : List Cue} {cue : Cue}

lemma not_isLookedAt_nil : ¬IsLookedAt w [] t := by
  rintro ⟨before, cue, s, hinitial, -⟩
  simp at hinitial

lemma isLookedAt_concat_iff : IsLookedAt w (cues ++ [cue]) t ↔ IsLookedAt w cues t ∨
    ∃ s, (w.rehearsed cues).player = .simulation s ∧ Decides (w.rehearsed cues) s cue ∧
      (w.rehearsed (cues ++ [cue])).player = .simulation t := by
  constructor
  · rintro ⟨before, last, s, hinitial, hs, hdecides, ht⟩
    rcases List.prefix_concat_iff.1 hinitial with heq | hinitial
    · obtain ⟨rfl, hlast⟩ := List.append_inj' heq rfl
      cases hlast
      exact .inr ⟨s, hs, hdecides, ht⟩
    · exact .inl ⟨before, last, s, hinitial, hs, hdecides, ht⟩
  · rintro (⟨before, last, s, hinitial, h⟩ | ⟨s, h⟩)
    · exact ⟨before, last, s, hinitial.trans (List.prefix_append _ _), h⟩
    · exact ⟨cues, cue, s, List.prefix_rfl, h⟩

/-- What has become of an objective of keeping a value while some cues were followed. -/
structure Followed (w : Rehearsal) (cues : List Cue) (o : Objective) (s : SimulationSitting) :
    Prop where
  broken : o.id ∈ s.brokenMaintains ↔ ∃ t, IsLookedAt w cues t ∧ t.isMissed o = true
  completed : o.id ∈ s.completedObjectives ↔
    (∃ t, IsLookedAt w cues t) ∧ o.id ∉ s.brokenMaintains ∧ s.content.maxTurns ≤ s.turn
  decided : (∃ t, IsLookedAt w cues t) → s.content.maxTurns ≤ s.turn → s.won ≠ none

/-- A look at the objective takes it on. -/
lemma Followed.looks (h : Followed w cues o s) (hs : (w.rehearsed cues).player = .simulation s)
    (ht : (w.rehearsed (cues ++ [cue])).player = .simulation t)
    (hdecides : Decides (w.rehearsed cues) s cue) (hlooks : Looks o s t)
    (hcontent : t.content = s.content) (hopen : s.won = none) (hwon : t.won = t.outcome?) :
    Followed w (cues ++ [cue]) o t := by
  have hnow : IsLookedAt w (cues ++ [cue]) t :=
    isLookedAt_concat_iff.2 (.inr ⟨s, hs, hdecides, ht⟩)
  have hlooked (u : SimulationSitting) :
      IsLookedAt w (cues ++ [cue]) u ↔ IsLookedAt w cues u ∨ u = t := by
    rw [isLookedAt_concat_iff]
    refine or_congr_right ⟨?_, ?_⟩
    · rintro ⟨-, -, -, hu⟩
      exact Player.simulation.inj (hu.symm.trans ht)
    · rintro rfl
      exact ⟨s, hs, hdecides, ht⟩
  -- there was no outcome yet, so that the objective was not complete
  have hincomplete : o.id ∉ s.completedObjectives := fun hdone => by
    obtain ⟨hbefore, -, hover⟩ := h.completed.1 hdone
    exact h.decided hbefore hover hopen
  refine ⟨?_, ?_, fun _ hover hnone => ?_⟩
  · rw [hlooks.broken, h.broken]
    simp [hlooked, or_and_right, exists_or]
  · rw [hlooks.completed, or_iff_right hincomplete]
    exact (and_iff_right ⟨t, hnow⟩).symm
  · have hgoing := (outcome?_eq_none_iff.1 (hwon.symm.trans hnone)).going
    omega

/-- As long as nothing is looked at, all stays as it is. -/
lemma Followed.waits (h : Followed w cues o s) (hs : (w.rehearsed cues).player = .simulation s)
    (hnot : ¬Decides (w.rehearsed cues) s cue) (hbroken : t.brokenMaintains = s.brokenMaintains)
    (hcompleted : t.completedObjectives = s.completedObjectives) (hcontent : t.content = s.content)
    (hturn : t.turn = s.turn) (hwon : t.won = s.won) : Followed w (cues ++ [cue]) o t := by
  have hlooked (u : SimulationSitting) :
      IsLookedAt w (cues ++ [cue]) u ↔ IsLookedAt w cues u := by
    rw [isLookedAt_concat_iff, or_iff_left]
    rintro ⟨s', hs', hdecides, -⟩
    obtain rfl := Player.simulation.inj (hs.symm.trans hs')
    exact hnot hdecides
  constructor
  · simp only [hlooked, hbroken, h.broken]
  · simp only [hlooked, hbroken, hcompleted, hcontent, hturn, h.completed]
  · simp only [hlooked, hcontent, hturn, hwon]
    exact h.decided

variable (hT : Steady T) (hids : (z.objectives.map (·.id)).Nodup) (ho : o ∈ z.objectives)
  (hkind : o.kind = .maintainValue) (hw : (w.rehearsed []).Stands .simulation c p)
  (hp : Sound c z T p)

include hT hids ho hkind hw hp

/-- In every state that is reached an objective that was open at the beginning is what has become of
it. -/
lemma followed_of_rehearsed (hbroken : o.id ∉ p.1.brokenMaintains)
    (hopen : o.id ∉ p.1.completedObjectives) (hcues : ∀ cue ∈ cues, cue.Within T)
    (hs : (w.rehearsed cues).player = .simulation s) :
    s.content = z ∧ Followed w cues o s := by
  induction cues using List.reverseRecOn generalizing s with
  | nil =>
    obtain rfl := hw.state_eq Player.simulation.inj hs
    have hnone : ¬∃ t, IsLookedAt w [] t := fun ⟨t, ht⟩ => not_isLookedAt_nil ht
    refine ⟨hp.presented, ⟨iff_of_false hbroken ?_, iff_of_false hopen ?_, ?_⟩⟩
    · exact fun ⟨t, ht, _⟩ => hnone ⟨t, ht⟩
    · exact fun h => hnone h.1
    · exact fun h => absurd h hnone
  | append_singleton cues cue ih =>
    obtain ⟨q, r, hq, hsound, hr, h⟩ := exists_after hT hw hp
      (fun cue h => hcues cue (List.mem_append_left _ h)) (hcues cue (by simp))
    obtain ⟨hcontent, hfollowed⟩ := ih (fun cue h => hcues cue (List.mem_append_left _ h)) hq.player
    obtain rfl := hr.state_eq Player.simulation.inj hs
    rcases h with ⟨m, a, rfl, ha, h⟩ | ⟨hsame, hnot, -⟩
    · have hsame : r.1.content = q.1.content := (hsound.deals h).presented.trans hcontent.symm
      refine ⟨hsame.trans hcontent, ?_⟩
      obtain ⟨hlooks, hwaits⟩ := h.looks hids ho hkind hcontent
      rw [← decides_iff ha] at hlooks hwaits
      by_cases hdecides : Decides (w.rehearsed cues) q.1 (.move m)
      · have hnow := (decides_iff ha).1 hdecides
        exact hfollowed.looks hq.player hr.player hdecides (hlooks hdecides) hsame
          (h.won_eq_none hnow) (h.won_eq.1 hnow)
      · have hnot := mt (decides_iff ha).2 hdecides
        obtain ⟨hbroken, hcompleted⟩ := hwaits hdecides
        exact hfollowed.waits hq.player hdecides hbroken hcompleted hsame
          (h.turn_eq.2 fun hturn => hnot (.inr hturn)) (h.won_eq.2 hnot)
    · rw [hsame]
      exact ⟨hcontent, hfollowed.waits hq.player hnot rfl rfl rfl rfl rfl⟩

end

/-- What is kept is not missed. -/
lemma isKept_iff (hkind : o.kind = .maintainValue) (hvalue : ¬o.value.IsNaN) :
    s.IsKept o ↔ s.isMissed o = false ∧ ¬(amount s.resources o.target).IsNaN := by
  have hmissed : s.isMissed o = (amount s.resources o.target).less o.value := by
    simp [isMissed, hkind]
  rw [hmissed, IsKept]
  constructor
  · intro hkept
    have hamount := (not_isNaN_of_atMost hkept).2
    exact ⟨(less_eq_false_iff hamount hvalue).2 hkept, hamount⟩
  · rintro ⟨hless, hamount⟩
    exact (less_eq_false_iff hamount hvalue).1 hless

/-- How values are kept in a simulation while cues of some sort are followed. -/
structure Maintaining (z : Simulation) (T : Float → Prop) (w : Rehearsal) : Prop where
  standing : ∀ {cues}, (∀ cue ∈ cues, cue.Within T) →
    ∃ s, (w.rehearsed cues).player = .simulation s ∧ s.content = z
  /-- An objective of keeping a value that is not complete from the beginning is complete just if
  the turns are over and the value has not been missed whenever the objectives were looked at. -/
  completed_iff : ∀ {cues s o}, (∀ cue ∈ cues, cue.Within T) →
    (w.rehearsed cues).player = .simulation s → o ∈ z.objectives → o.kind = .maintainValue →
    o.id ∉ z.initialState.completedObjectives →
    (o.id ∈ s.completedObjectives ↔ (∃ t, IsLookedAt w cues t) ∧
      (∀ t, IsLookedAt w cues t → t.isMissed o = false) ∧ z.maxTurns ≤ s.turn)
  /-- If it is complete, it has been maintained just if the value was kept at the beginning and the
  amount has always been a number since. -/
  maintained_iff : ∀ {cues s o}, (∀ cue ∈ cues, cue.Within T) →
    (w.rehearsed cues).player = .simulation s → o ∈ z.objectives → o.kind = .maintainValue →
    o.id ∉ z.initialState.completedObjectives → o.id ∈ s.completedObjectives →
    (IsMaintained w cues s o ↔
      (∀ t, (w.rehearsed []).player = .simulation t → t.IsKept o) ∧
        ∀ t, IsLookedAt w cues t → ¬(amount t.resources o.target).IsNaN)

/-- Whatever the player does and whatever the dice show, an objective of keeping a value becomes
complete just if the turns are over and the value has not been missed after any action that was
performed and any turn that was completed. Whether it was missed at the beginning does not count. -/
theorem maintaining_of_distinct (hkind : c.kind = .simulation)
    (hbounds : ∀ r ∈ z.resources, IsPlainNumber r.minValue ∧ IsPlainNumber r.maxValue)
    (hids : (z.objectives.map (·.id)).Nodup) (hT : Steady T) (dice : Dice)
    (hfair : Dice.IsFair z.events.length dice.throws) (plain : Bool) (hints : Int)
    (circumstances : Rules.Circumstances) :
    ∃ w, Rehearsal.create c (.simulation z) dice plain hints circumstances = .ok w ∧
      Maintaining z T w := by
  obtain ⟨w, hw, -, p, hbegun, hp, hcreate⟩ :=
    exists_begun_create hkind hbounds hT dice hfair plain hints circumstances
  have hbroken (id : String) : id ∉ p.1.brokenMaintains := by
    rw [hcreate]
    exact List.not_mem_nil
  have hcompleted : p.1.completedObjectives = z.initialState.completedObjectives := by
    rw [hcreate]
    rfl
  have hiff {cues : List Cue} {s : SimulationSitting} {o : Objective}
      (hcues : ∀ cue ∈ cues, cue.Within T) (hs : (w.rehearsed cues).player = .simulation s)
      (ho : o ∈ z.objectives) (hkind : o.kind = .maintainValue)
      (hopen : o.id ∉ z.initialState.completedObjectives) :
      o.id ∈ s.completedObjectives ↔ (∃ t, IsLookedAt w cues t) ∧
        (∀ t, IsLookedAt w cues t → t.isMissed o = false) ∧ z.maxTurns ≤ s.turn := by
    obtain ⟨rfl, hfollowed⟩ := followed_of_rehearsed hT hids ho hkind hbegun hp (hbroken _)
      (hcompleted ▸ hopen) hcues hs
    rw [hfollowed.completed, hfollowed.broken]
    simp
  refine ⟨w, hw, ?_⟩
  exact {
    standing := fun hcues => by
      obtain ⟨q, hq, hsound, -⟩ := (proceeds hT).passes hbegun hp hcues
      exact ⟨q.1, hq.player, hsound.presented⟩
    completed_iff := hiff
    maintained_iff := fun {cues s o} hcues hs ho hkind hopen hdone => by
      obtain ⟨q, hq, hsound, -⟩ := (proceeds hT).passes hbegun hp hcues
      obtain rfl := hq.state_eq Player.simulation.inj hs
      obtain ⟨-, hmissed, hover⟩ := (hiff hcues hs ho hkind hopen).1 hdone
      constructor
      · rintro ⟨-, hkept⟩
        refine ⟨fun t ht => hkept t (.inl ht), fun t ht => ?_⟩
        exact (not_isNaN_of_atMost (hkept t (.inr ht))).2
      · rintro ⟨hinitial, hamount⟩
        have hvalue : ¬o.value.IsNaN := (not_isNaN_of_atMost (hinitial p.1 hbegun.player)).1
        refine ⟨hsound.presented ▸ hover, ?_⟩
        rintro t (ht | ht)
        · exact hinitial t ht
        · exact (isKept_iff hkind hvalue).2 ⟨hmissed t ht, hamount t ht⟩ }

/-- The objective of never being short of sleep. -/
def vigour : Objective := ⟨"vigour", "", .maintainValue, "energy", .float 50, true, 15⟩

/-- A simulation of one turn in which the player is tired at first and can sleep. -/
def shortNight : Simulation :=
  ⟨⟨0, [("energy", 10)], [], [], []⟩,
    [⟨"energy", "Energy", "", .float 10, .int 0, .int 100, ""⟩],
    [⟨"sleep", "Sleep", "", "", [], [("energy", 60)], none, 0⟩], [], [vigour], 1⟩

set_option maxRecDepth 1000 in
/-- Sleeping before the turn is ended completes the objective. -/
theorem maintaining_of_shortNight :
    (∀ r ∈ shortNight.resources, IsPlainNumber r.minValue ∧ IsPlainNumber r.maxValue) ∧
    (shortNight.objectives.map (·.id)).Nodup ∧
    Dice.IsFair shortNight.events.length (fun _ => 0) ∧
    ∃ w s, Rehearsal.create workshop (.simulation shortNight) ⟨fun _ => 0, 0⟩ true 3 nothing =
        .ok w ∧
      Maintaining shortNight (fun t => t = 0 ∨ t = 1) w ∧
      (w.rehearsed [.move (.perform "sleep"), .move .endTurn]).player = .simulation s ∧
      vigour.id ∈ s.completedObjectives := by
  have hfair : Dice.IsFair shortNight.events.length (fun _ => 0) := fun _ _ hpos hle =>
    absurd (Nat.lt_of_lt_of_le hpos hle) (Nat.lt_irrefl 0)
  have hbounds : ∀ r ∈ shortNight.resources,
      IsPlainNumber r.minValue ∧ IsPlainNumber r.maxValue := by
    simp [shortNight, IsPlainNumber]
  have hids : (shortNight.objectives.map (·.id)).Nodup := by decide
  obtain ⟨w, hw, hmaintaining⟩ := maintaining_of_distinct (c := workshop) rfl
    hbounds hids steady_zero_or_one ⟨fun _ => 0, 0⟩ hfair true 3 nothing
  refine ⟨hbounds, hids, hfair, w, ?_⟩
  cases hw
  exact ⟨_, rfl, hmaintaining, rfl, by decide +kernel⟩

set_option maxRecDepth 1000 in
/-- The objective becomes complete although the player was tired at first. -/
theorem not_isMaintained_of_shortNight :
    (shortNight.objectives.map (·.id)).Nodup ∧
    Dice.IsFair shortNight.events.length (fun _ => 0) ∧
    vigour.id ∉ shortNight.initialState.completedObjectives ∧
    ∃ w s, Rehearsal.create workshop (.simulation shortNight) ⟨fun _ => 0, 0⟩ true 3 nothing =
        .ok w ∧
      (w.rehearsed [.move (.perform "sleep"), .move .endTurn]).player = .simulation s ∧
      vigour.id ∈ s.completedObjectives ∧
      ¬IsMaintained w [.move (.perform "sleep"), .move .endTurn] s vigour := by
  have hfair : Dice.IsFair shortNight.events.length (fun _ => 0) := fun _ _ hpos hle =>
    absurd (Nat.lt_of_lt_of_le hpos hle) (Nat.lt_irrefl 0)
  refine ⟨by decide, hfair, by decide, _, _, rfl, rfl, by decide +kernel, ?_⟩
  rintro ⟨-, hkept⟩
  have hinitial := hkept _ (.inl rfl)
  unfold IsKept at hinitial
  exact absurd hinitial (by decide +kernel)

end LearningGame.Play.SimulationSitting
