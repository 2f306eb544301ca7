import LearningGame.Proofs.Play.Simulating

/-!
# Cooling down

An action that has been performed cools down for some turns. Every time the turn is ended, with an
event or without, one of them is over, for all actions alike, and the event that is resolved later
does not count again. What holds of one action is kept by whatever is done with the others.
-/

namespace LearningGame.Play.SimulationSitting

open Content Schema Script Rehearsal
open Schema.Codec (IsPlainNumber)

variable {c : Setting} {z : Simulation} {T : Float → Prop} {s t : SimulationSitting}
  {p q : Stage SimulationSitting} {a : SimAction} {id : String} {n : Nat} {again : Prop}

/-! ### The table of cooldowns -/

lemma ids_cooled_sublist (cooldowns : Catalogue Int) :
    (cooled cooldowns).ids.Sublist cooldowns.ids := by
  induction cooldowns with
  | nil => exact .refl _
  | cons e rest ih =>
    rw [cooled, List.filterMap_cons]
    split_ifs with h
    · exact ih.cons_cons e.1
    · exact ih.cons e.1

/-- Each action has one turn less to cool down, and is taken out after the last one. -/
lemma find?_cooled {cooldowns : Catalogue Int} (hids : cooldowns.ids.Nodup) (id : String) :
    (cooled cooldowns).find? id =
      (cooldowns.find? id).bind fun k => if 1 < k then some (k - 1) else none := by
  induction cooldowns with
  | nil => rfl
  | cons e rest ih =>
    obtain ⟨name, k⟩ := e
    obtain ⟨hnew, hrest⟩ := List.nodup_cons.1 hids
    rw [Catalogue.find?_cons, cooled, List.filterMap_cons]
    by_cases hname : name = id
    · -- there is no other entry of this action
      subst hname
      have hnone : (cooled rest).find? name = none := by
        refine Option.eq_none_iff_forall_ne_some.2 fun k' hk' => hnew ?_
        have hmem : name ∈ (cooled rest).ids := List.mem_map_of_mem (Catalogue.mem_of_find? hk')
        exact (ids_cooled_sublist rest).subset hmem
      rw [if_pos rfl, Option.bind_some]
      split_ifs with hk
      · rw [Catalogue.find?_cons, if_pos rfl]
      · exact hnone
    · rw [if_neg hname, ← ih hrest]
      split_ifs with hk
      · rw [Catalogue.find?_cons, if_neg hname]
        rfl
      · rfl

/-- The action needs no unlocking, or it has been unlocked. -/
def IsUnlocked (s : SimulationSitting) (a : SimAction) : Prop :=
  a.unlockCondition.getD "" = "" ∨ a.id ∈ s.unlocked

/-- There is as much of every resource as the action costs. -/
def IsAffordable (s : SimulationSitting) (a : SimAction) : Prop :=
  ∀ e ∈ a.cost, (Number.float e.2).atMost (amount s.resources e.1) = true

lemma canPerform_iff : s.canPerform a = true ↔
    (s.cooldowns.find? a.id).getD 0 ≤ 0 ∧ s.IsUnlocked a ∧ s.IsAffordable a := by
  simp [canPerform, IsUnlocked, IsAffordable, and_assoc]

lemma id_of_action? (h : s.action? id = some a) : a.id = id :=
  (Catalogue.mem_ofList (Catalogue.mem_of_find? h)).1.symm

/-- The actions do not change. -/
lemma Sound.action?_eq (hp : Sound c z T p) (id : String) :
    p.1.action? id = (Catalogue.ofList SimAction.id z.actions).find? id := by
  rw [action?, hp.presented]

/-! ### What moves do to it -/

instance : Decidable s.IsFree := inferInstanceAs (Decidable (_ ∧ _ ∧ _))

/-- A move ends the turn and is not ignored. -/
def isEnding (s : SimulationSitting) : Move → Bool
  | .endTurn => decide s.IsFree
  | _ => false

/-- A move begins the cooling of an action, ends the turn for all of them, or leaves the table as it
is. -/
lemma Deals.cooldowns_cases {m : Move} {given : Value} (h : Deals c p m given q) :
    (∃ a, m = .perform a.id ∧ given = .bool true ∧ p.1.action? a.id = some a ∧
      p.1.canPerform a = true ∧ q.1.cooldowns =
        if a.cooldown = 0 then p.1.cooldowns else p.1.cooldowns.put a.id a.cooldown) ∨
    (p.1.isEnding m = true ∧ q.1.cooldowns = cooled p.1.cooldowns) ∨
    (¬(∃ id, m = .perform id ∧ given = .bool true) ∧ p.1.isEnding m = false ∧
      q.1.cooldowns = p.1.cooldowns) := by
  have hcloses {s : SimulationSitting} {x : Surroundings} {q : Stage SimulationSitting}
      (h : Closes c s x q) : q.1.cooldowns = s.cooldowns := by
    obtain ⟨completed, broken, heq⟩ := exists_assessed s
    cases h with
    | undecided => rw [heq]
    | decided time => rw [heq]
  cases h with
  | @perform id a q hfree ha hcan h =>
    obtain rfl := id_of_action? ha
    refine .inl ⟨a, rfl, rfl, ha, hcan, ?_⟩
    obtain ⟨g, hg⟩ := foldl_resources (f := spend) (fun _ _ => ⟨_, rfl⟩) a.cost p.1
    obtain ⟨g', hg'⟩ := exists_foldl_gain a.effects { p.1 with resources := g }
    rw [hcloses h, enacted, hg, hg']
  | raise hfree he => exact .inr (.inl ⟨decide_eq_true hfree, rfl⟩)
  | endTurn hfree h =>
    obtain ⟨reports, -, h⟩ := h
    exact .inr (.inl ⟨decide_eq_true hfree, hcloses h⟩)
  | @resolve choice e q he h =>
    obtain ⟨reports, -, h⟩ := h
    obtain ⟨g, heq⟩ := exists_resolved p.1 e choice
    refine .inr (.inr ⟨by simp, rfl, ?_⟩)
    rw [hcloses h, heq]
  | blocked hblocked => exact .inr (.inr ⟨by simp, decide_eq_false hblocked, rfl⟩)
  | reject | unasked | unlock | leave | stay => exact .inr (.inr ⟨by simp, rfl, rfl⟩)

lemma Deals.nodup_cooldowns {m : Move} {given : Value} (h : Deals c p m given q)
    (hids : p.1.cooldowns.ids.Nodup) : q.1.cooldowns.ids.Nodup := by
  rcases h.cooldowns_cases with ⟨a, -, -, -, -, heq⟩ | ⟨-, heq⟩ | ⟨-, -, heq⟩
  · rw [heq]
    split_ifs
    · exact hids
    · rw [Catalogue.ids_put]
      split_ifs with hmem
      · exact hids
      · rw [← List.concat_eq_append]
        exact hids.concat hmem
  · rw [heq]
    exact hids.sublist (ids_cooled_sublist _)
  · rwa [heq]

/-- Since an action was performed, the turn has been ended some times: as long as these are less
than its cooldown, the rest of it is in the table, and nothing is after that unless the action has
been performed again. -/
structure Cools (a : SimAction) (n : Nat) (again : Prop) (s : SimulationSitting) : Prop where
  ids : s.cooldowns.ids.Nodup
  waits : n < a.cooldown → s.cooldowns.find? a.id = some (a.cooldown - n)
  rested : a.cooldown ≤ n → ¬again → s.cooldowns.find? a.id = none

namespace Cools

variable (h : Cools a n again s)

include h

/-- As long as it cools down, the action cannot be performed. -/
lemma not_canPerform (hn : n < a.cooldown) : ¬s.canPerform a = true := by
  intro hcan
  have hcooling := (canPerform_iff.1 hcan).1
  rw [h.waits hn, Option.getD_some] at hcooling
  omega

/-- Once it has cooled down, the cooldown does not matter. -/
lemma canPerform_iff (hn : a.cooldown ≤ n) (hagain : ¬again) :
    s.canPerform a = true ↔ s.IsUnlocked a ∧ s.IsAffordable a := by
  rw [SimulationSitting.canPerform_iff, h.rested hn hagain]
  exact and_iff_right Int.le_rfl

/-- The end of a turn takes the cooling on. -/
lemma of_cooled (ht : t.cooldowns = cooled s.cooldowns) : Cools a (n + 1) again t where
  ids := ht ▸ h.ids.sublist (ids_cooled_sublist _)
  waits hn := by
    rw [ht, find?_cooled h.ids, h.waits (by omega), Option.bind_some, if_pos (by omega)]
    exact congrArg some (by omega)
  rested hn hagain := by
    rw [ht, find?_cooled h.ids]
    by_cases hlast : n < a.cooldown
    · rw [h.waits hlast, Option.bind_some, if_neg (by omega)]
    · rw [h.rested (by omega) hagain]
      rfl

/-- What is done with other actions does not matter. -/
lemma of_find?_eq (ids : t.cooldowns.ids.Nodup)
    (ht : t.cooldowns.find? a.id = s.cooldowns.find? a.id) : Cools a n again t where
  ids := ids
  waits := by
    rw [ht]
    exact h.waits
  rested := by
    rw [ht]
    exact h.rested

end Cools

/-- A move takes the cooling of an action on, which counts the ends of turns. -/
lemma Deals.cools {m : Move} {given : Value} (h : Deals c p m given q)
    (hcools : Cools a n again p.1) (ha : p.1.action? a.id = some a) :
    Cools a (n + (p.1.isEnding m).toNat) (again ∨ m = .perform a.id ∧ given = .bool true) q.1 := by
  have hids := h.nodup_cooldowns hcools.ids
  rcases h.cooldowns_cases with ⟨b, rfl, rfl, hb, hcan, heq⟩ | ⟨hending, heq⟩ |
    ⟨hnot, hending, heq⟩
  · by_cases hsame : b.id = a.id
    · -- the action itself can be performed only once it has cooled down
      rw [hsame, ha] at hb
      obtain rfl := Option.some.inj hb
      have hrested : ¬(n : Int) < a.cooldown := fun hn => hcools.not_canPerform hn hcan
      exact ⟨hids, fun hn => absurd hn hrested, fun _ hnone => absurd (.inr ⟨rfl, rfl⟩) hnone⟩
    · have hother : ¬(Move.perform b.id = .perform a.id ∧ Value.bool true = .bool true) := by
        simp [hsame]
      rw [or_iff_left hother]
      refine hcools.of_find?_eq hids ?_
      rw [heq]
      split_ifs
      · rfl
      · rw [Catalogue.find?_put, if_neg hsame]
  · have hother : ¬(m = .perform a.id ∧ given = .bool true) := by
      rintro ⟨rfl, -⟩
      exact Bool.false_ne_true hending
    rw [or_iff_left hother, hending]
    exact hcools.of_cooled heq
  · rw [or_iff_left fun h => hnot ⟨_, h⟩, hending]
    exact hcools.of_find?_eq hids (by rw [heq])

/-- An action that has just been performed has all of its cooldown before it. -/
lemma Deals.begins_cooling (h : Deals c p (.perform a.id) (.bool true) q)
    (hids : p.1.cooldowns.ids.Nodup) (ha : p.1.action? a.id = some a) (hcooldown : 1 ≤ a.cooldown) :
    Cools a 0 False q.1 := by
  refine ⟨h.nodup_cooldowns hids, fun _ => ?_, fun hn => absurd hn (by omega)⟩
  rcases h.cooldowns_cases with ⟨b, hb, -, hb', -, heq⟩ | ⟨hending, -⟩ | ⟨hnot, -⟩
  · rw [← Move.perform.inj hb, ha] at hb'
    obtain rfl := Option.some.inj hb'
    rw [heq, if_neg (by omega), Catalogue.find?_put, if_pos rfl]
    simp
  · exact absurd hending Bool.false_ne_true
  · exact absurd ⟨_, rfl, rfl⟩ hnot

/-! ### Whole runs -/

/-- How often a cue ends a turn. An end that raises an event counts, one that is ignored does
not. -/
def endings (w : Rehearsal) : Cue → Nat
  | .move m =>
    match w.player with
    | .simulation s => (s.isEnding m).toNat
    | _ => 0
  | _ => 0

/-- How often the turn is ended while some cues are followed. -/
def turnsEnded (w : Rehearsal) : List Cue → Nat
  | [] => 0
  | cue :: rest => endings w cue + turnsEnded (w.after cue) rest

/-- An action is performed while some cues are followed. -/
def IsPerformed (w : Rehearsal) (id : String) (cues : List Cue) : Prop :=
  ∃ before, before ++ [.move (.perform id)] <+: cues ∧
    (before.foldl after w).Gives (.perform id) (.bool true)

section

variable {w : Rehearsal} {cues : List Cue} {cue : Cue}

lemma turnsEnded_concat (w : Rehearsal) (cues : List Cue) (cue : Cue) :
    turnsEnded w (cues ++ [cue]) = turnsEnded w cues + endings (cues.foldl after w) cue := by
  induction cues generalizing w with
  | nil => simp [turnsEnded]
  | cons first rest ih =>
    rw [List.cons_append, turnsEnded, turnsEnded, ih, Nat.add_assoc]
    rfl

lemma not_isPerformed_nil : ¬IsPerformed w id [] := by
  rintro ⟨before, hinitial, -⟩
  simp at hinitial

lemma isPerformed_concat_iff : IsPerformed w id (cues ++ [cue]) ↔ IsPerformed w id cues ∨
    cue = .move (.perform id) ∧ (cues.foldl after w).Gives (.perform id) (.bool true) := by
  constructor
  · rintro ⟨before, hinitial, hgives⟩
    rcases List.prefix_concat_iff.1 hinitial with heq | hinitial
    · obtain ⟨rfl, hlast⟩ := List.append_inj' heq rfl
      cases hlast
      exact .inr ⟨rfl, hgives⟩
    · exact .inl ⟨before, hinitial, hgives⟩
  · rintro (⟨before, hinitial, hgives⟩ | ⟨rfl, hgives⟩)
    · exact ⟨before, hinitial.trans (List.prefix_append _ _), hgives⟩
    · exact ⟨cues, List.prefix_rfl, hgives⟩

lemma endings_move {m : Move} (hs : w.player = .simulation s) :
    endings w (.move m) = (s.isEnding m).toNat := by
  rw [endings, hs]

/-- A move performs an action if it is the one to do so, and gives back that it was possible. -/
lemma performs_iff {m : Move} {given : Value} (hgives : w.Gives m given) :
    Cue.move m = .move (.perform id) ∧ w.Gives (.perform id) (.bool true) ↔
      m = .perform id ∧ given = .bool true := by
  constructor
  · rintro ⟨hm, htrue⟩
    cases hm
    exact ⟨rfl, hgives.unique htrue⟩
  · rintro ⟨rfl, rfl⟩
    exact ⟨rfl, hgives⟩

/-- A cue that is no move of the simulation ends no turn. -/
lemma endings_of_unknown (hs : w.player = .simulation s)
    (hunknown : ∀ m, cue = .move m → Player.inSimulation c m = none) : endings w cue = 0 := by
  cases cue with
  | move m =>
    rw [endings_move hs]
    cases m with
    | endTurn => exact nomatch hunknown _ rfl
    | _ => rfl
  | second | clock => rfl

variable (hT : Steady T) (hw : (w.rehearsed []).Stands .simulation c p) (hp : Sound c z T p)

include hT hw hp

/-- Performing a known action tells whether it was possible. -/
lemma exists_performs (hcues : ∀ cue ∈ cues, cue.Within T) (id : String) :
    ∃ q, (w.rehearsed cues).Stands .simulation c q ∧ q.1.content = z ∧
      ∃ accepted, (w.rehearsed cues).Gives (.perform id) (.bool accepted) ∧
        (accepted = true ↔ q.1.Accepts id) := by
  obtain ⟨q, hq, hsound, -⟩ := (proceeds hT).passes hw hp hcues
  obtain ⟨given, r, v, -, hgives, -, h⟩ :=
    exists_deals (m := .perform id) hT hq hsound nofun
  refine ⟨q, hq, hsound.presented, ?_⟩
  cases h with
  | perform hfree ha hcan => exact ⟨true, hgives, iff_of_true rfl ⟨hfree, _, ha, hcan⟩⟩
  | reject hnot => exact ⟨false, hgives, iff_of_false Bool.false_ne_true hnot⟩

/-- In every state that is reached each action has one cooldown at most. -/
lemma nodup_cooldowns_of_rehearsed (hids : p.1.cooldowns.ids.Nodup)
    (hcues : ∀ cue ∈ cues, cue.Within T) (hs : (w.rehearsed cues).player = .simulation s) :
    s.cooldowns.ids.Nodup := by
  induction cues using List.reverseRecOn generalizing s with
  | nil => exact hw.state_eq Player.simulation.inj hs ▸ hids
  | append_singleton cues cue ih =>
    have hbefore : ∀ cue ∈ cues, cue.Within T := fun cue h => hcues cue (List.mem_append_left _ h)
    obtain ⟨q, r, hq, -, hr, h⟩ := exists_further hT hw hp hbefore (hcues cue (by simp))
    obtain rfl := hr.state_eq Player.simulation.inj hs
    rcases h with ⟨m, given, -, -, h⟩ | ⟨hsame, -⟩
    · exact h.nodup_cooldowns (ih hbefore hq.player)
    · rw [hsame]
      exact ih hbefore hq.player

/-- When an action has just been performed, its cooling begins. -/
lemma cools_of_performed (hids : p.1.cooldowns.ids.Nodup) (hcues : ∀ cue ∈ cues, cue.Within T)
    (ha : (Catalogue.ofList SimAction.id z.actions).find? a.id = some a)
    (hcooldown : 1 ≤ a.cooldown)
    (hgives : (w.rehearsed cues).Gives (.perform a.id) (.bool true))
    (hs : (w.rehearsed (cues ++ [.move (.perform a.id)])).player = .simulation s) :
    Cools a 0 False s := by
  have hcue : Cue.Within T (.move (.perform a.id)) := trivial
  obtain ⟨q, r, hq, hsound, hr, h⟩ := exists_further hT hw hp hcues hcue
  obtain rfl := hr.state_eq Player.simulation.inj hs
  obtain ⟨m, given, hm, hgives', h⟩ := h.resolve_right fun h => nomatch h.2 _ rfl
  cases hm
  obtain rfl := hgives.unique hgives'
  have hids := nodup_cooldowns_of_rehearsed hT hw hp hids hcues hq.player
  exact h.begins_cooling hids ((hsound.action?_eq _).trans ha) hcooldown

/-- Since an action was performed, its cooling has gone on with every turn that was ended. -/
lemma cools_of_rehearsed (hids : p.1.cooldowns.ids.Nodup) {since : List Cue}
    (hcues : ∀ cue ∈ cues ++ [.move (.perform a.id)] ++ since, cue.Within T)
    (ha : (Catalogue.ofList SimAction.id z.actions).find? a.id = some a)
    (hcooldown : 1 ≤ a.cooldown)
    (hgives : (w.rehearsed cues).Gives (.perform a.id) (.bool true))
    (hs : (w.rehearsed (cues ++ [.move (.perform a.id)] ++ since)).player = .simulation s) :
    Cools a (turnsEnded (w.rehearsed (cues ++ [.move (.perform a.id)])) since)
      (IsPerformed (w.rehearsed (cues ++ [.move (.perform a.id)])) a.id since) s := by
  induction since using List.reverseRecOn generalizing s with
  | nil =>
    rw [List.append_nil] at hcues hs
    have hbefore : ∀ cue ∈ cues, cue.Within T := fun cue h => hcues cue (List.mem_append_left _ h)
    rw [turnsEnded, iff_false_intro not_isPerformed_nil]
    exact cools_of_performed hT hw hp hids hbefore ha hcooldown hgives hs
  | append_singleton since cue ih =>
    rw [← List.append_assoc] at hcues hs
    have hbefore : ∀ cue ∈ cues ++ [.move (.perform a.id)] ++ since, cue.Within T :=
      fun cue h => hcues cue (List.mem_append_left _ h)
    obtain ⟨q, r, hq, hsound, hr, h⟩ := exists_further hT hw hp hbefore (hcues cue (by simp))
    obtain rfl := hr.state_eq Player.simulation.inj hs
    have hcools := ih hbefore hq.player
    rw [turnsEnded_concat, isPerformed_concat_iff, ← rehearsed_append]
    rcases h with ⟨m, given, rfl, hgives', h⟩ | ⟨hsame, hunknown⟩
    · rw [endings_move hq.player, performs_iff hgives']
      exact h.cools hcools ((hsound.action?_eq _).trans ha)
    · have hother : ¬(cue = .move (.perform a.id) ∧
          (w.rehearsed (cues ++ [.move (.perform a.id)] ++ since)).Gives (.perform a.id)
            (.bool true)) := by
        rintro ⟨rfl, -⟩
        exact nomatch hunknown _ rfl
      rw [endings_of_unknown hq.player hunknown, or_iff_left hother, hsame]
      exact hcools

end

/-- How actions cool down in a simulation while cues of some sort are followed. -/
structure Cooling (z : Simulation) (T : Float → Prop) (w : Rehearsal) : Prop where
  /-- An action that has been performed is rejected until the turn has been ended as often as its
  cooldown says. -/
  rejects : ∀ {before since a}, (∀ cue ∈ before ++ [.move (.perform a.id)] ++ since, cue.Within T) →
    (Catalogue.ofList SimAction.id z.actions).find? a.id = some a → 1 ≤ a.cooldown →
    (w.rehearsed before).Gives (.perform a.id) (.bool true) →
    turnsEnded (w.rehearsed (before ++ [.move (.perform a.id)])) since < a.cooldown →
    (w.rehearsed (before ++ [.move (.perform a.id)] ++ since)).Gives (.perform a.id) (.bool false)
  /-- From then on, and until it is performed again, it is rejected only on other accounts. -/
  allows : ∀ {before since a}, (∀ cue ∈ before ++ [.move (.perform a.id)] ++ since, cue.Within T) →
    (Catalogue.ofList SimAction.id z.actions).find? a.id = some a → 1 ≤ a.cooldown →
    (w.rehearsed before).Gives (.perform a.id) (.bool true) →
    a.cooldown ≤ turnsEnded (w.rehearsed (before ++ [.move (.perform a.id)])) since →
    ¬IsPerformed (w.rehearsed (before ++ [.move (.perform a.id)])) a.id since →
    ∃ s, (w.rehearsed (before ++ [.move (.perform a.id)] ++ since)).player = .simulation s ∧
      ∃ accepted, (w.rehearsed (before ++ [.move (.perform a.id)] ++ since)).Gives (.perform a.id)
          (.bool accepted) ∧
        (accepted = true ↔ s.IsFree ∧ s.IsUnlocked a ∧ s.IsAffordable a)

/-- Whatever the player does and whatever the dice show, an action that has been performed is
rejected until the turn has been ended as often as its cooldown says, and not on account of its
cooldown after that. -/
theorem cooling_of_fair (hkind : c.kind = .simulation)
    (hbounds : ∀ r ∈ z.resources, IsPlainNumber r.minValue ∧ IsPlainNumber r.maxValue)
    (hT : Steady T) (dice : Dice) (hfair : Dice.IsFair z.events.length dice.throws) (plain : Bool)
    (hints : Int) (circumstances : Rules.Circumstances) :
    ∃ w, Rehearsal.create c (.simulation z) dice plain hints circumstances = .ok w ∧
      Cooling z T w := by
  obtain ⟨w, hw, -, p, hbegun, hp, hcreate⟩ :=
    exists_begun_create hkind hbounds hT dice hfair plain hints circumstances
  have hids : p.1.cooldowns.ids.Nodup := by
    rw [hcreate]
    exact List.nodup_nil
  refine ⟨w, hw, ?_⟩
  constructor
  · intro before since a hcues ha hcooldown hgives hn
    obtain ⟨q, hq, hcontent, accepted, hnow, haccepts⟩ := exists_performs hT hbegun hp hcues a.id
    have hcools := cools_of_rehearsed hT hbegun hp hids hcues ha hcooldown hgives hq.player
    have hrejected : ¬accepted = true := by
      rw [haccepts]
      rintro ⟨-, b, hb, hcan⟩
      rw [action?, hcontent, ha] at hb
      obtain rfl := Option.some.inj hb
      exact hcools.not_canPerform hn hcan
    rwa [Bool.eq_false_iff.2 hrejected] at hnow
  · intro before since a hcues ha hcooldown hgives hn hagain
    obtain ⟨q, hq, hcontent, accepted, hnow, haccepts⟩ := exists_performs hT hbegun hp hcues a.id
    have hcools := cools_of_rehearsed hT hbegun hp hids hcues ha hcooldown hgives hq.player
    have ha' : q.1.action? a.id = some a := by rw [action?, hcontent, ha]
    refine ⟨q.1, hq.player, accepted, hnow, haccepts.trans (and_congr_right fun _ => ?_)⟩
    rw [ha', ← hcools.canPerform_iff hn hagain]
    simp

/-- An action that takes two turns to be possible again. -/
def harvest : SimAction := ⟨"harvest", "Harvest", "", "", [], [("gold", 5)], none, 2⟩

/-- A simulation in which an event happens whenever the turn is ended. -/
def farm : Simulation :=
  ⟨⟨0, [("gold", 20)], [], [], []⟩,
    [⟨"gold", "Gold", "", .float 20, .int 0, .int 100, ""⟩], [harvest],
    [⟨"rain", "Rain", "", 1, none, [], []⟩], [], 10⟩

/-- While the event is waiting the turn cannot be ended, which does not count. -/
theorem cooling_of_farm :
    (∀ r ∈ farm.resources, IsPlainNumber r.minValue ∧ IsPlainNumber r.maxValue) ∧
    Dice.IsFair farm.events.length (fun _ => 0) ∧
    ∃ w, Rehearsal.create workshop (.simulation farm) ⟨fun _ => 0, 0⟩ true 3 nothing = .ok w ∧
      Cooling farm (fun t => t = 0 ∨ t = 1) w ∧
      (w.rehearsed []).Gives (.perform "harvest") (.bool true) ∧
      turnsEnded (w.rehearsed [.move (.perform "harvest")])
        [.move .endTurn, .move .endTurn, .move (.resolveEvent none)] = 1 ∧
      turnsEnded (w.rehearsed [.move (.perform "harvest")])
        [.move .endTurn, .move (.resolveEvent none), .move .endTurn,
          .move (.resolveEvent none)] = 2 ∧
      ¬IsPerformed (w.rehearsed [.move (.perform "harvest")]) "harvest"
        [.move .endTurn, .move (.resolveEvent none), .move .endTurn,
          .move (.resolveEvent none)] := by
  have hbounds : ∀ r ∈ farm.resources, IsPlainNumber r.minValue ∧ IsPlainNumber r.maxValue := by
    simp [farm, IsPlainNumber]
  have hfair : Dice.IsFair farm.events.length (fun _ => 0) := by
    intro k n hpos hle
    obtain rfl : n = 1 := Nat.le_antisymm hle hpos
    show Dice.index 0 1 < 1
    decide +kernel
  obtain ⟨w, hw, hcooling⟩ := cooling_of_fair (c := workshop) rfl hbounds steady_zero_or_one
    ⟨fun _ => 0, 0⟩ hfair true 3 nothing
  refine ⟨hbounds, hfair, w, hw, hcooling, ?_⟩
  cases hw
  refine ⟨⟨_, rfl, rfl⟩, by decide +kernel, by decide +kernel, ?_⟩
  rintro ⟨before, hinitial, -⟩
  have hmem := hinitial.subset (List.mem_append_right before (List.mem_singleton_self _))
  simp at hmem

end LearningGame.Play.SimulationSitting
