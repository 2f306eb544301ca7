import LearningGame.Proofs.Catalogue
import LearningGame.Proofs.Play.Dice
import LearningGame.Proofs.Play.Rehearsing
import LearningGame.Proofs.Schema.Writing

/-!
# Rehearsing a simulation

Actions, turns and events take turns in any order. What a move does to a simulation is told by
functions on its states: an action is paid for and brings about its effects, the objectives are
looked at, and the outcome is reported if there is one then. One relation says all that a move can
do and what it gives back; that the outcome is reported once, and that nothing happens after it, is
read off it.
-/

namespace LearningGame

/-! ### Plain numbers -/

namespace Number

/-- The float that a number stands for, zero if the number is too large. -/
def nearest (n : Number) : Float := n.toFloat?.getD 0

end Number

namespace Schema.Codec.IsPlainNumber

open Number

variable {n : Number} (h : IsPlainNumber n)

include h

lemma toFloat : n.toFloat = .ok n.nearest := by
  have hsome : n.toFloat?.isSome = true := by
    rcases h with ⟨x, rfl⟩ | rfl | rfl | rfl
    · rfl
    all_goals decide +kernel
  obtain ⟨x, hx⟩ := Option.isSome_iff_exists.1 hsome
  rw [Number.toFloat, nearest, hx]
  rfl

lemma add (x : Float) : n.add (.float x) = .ok (.float (n.nearest + x)) := by
  have hsum : n.add (.float x) = onFloats (· + ·) n (.float x) := by cases n <;> rfl
  rw [hsum, onFloats, h.toFloat]
  rfl

lemma sub (x : Float) : n.sub (.float x) = .ok (.float (n.nearest - x)) := by
  have hdifference : n.sub (.float x) = onFloats (· - ·) n (.float x) := by cases n <;> rfl
  rw [hdifference, onFloats, h.toFloat]
  rfl

end Schema.Codec.IsPlainNumber

namespace Play.SimulationSitting

open Content Schema Script Rehearsal
open Schema.Codec (IsPlainNumber)

variable {c : Setting} {z : Simulation} {T : Float → Prop} {s t : SimulationSitting}
  {x : Surroundings} {p q : Stage SimulationSitting}

/-! ### What moves do to the state -/

/-- Add an amount to a resource, within its bounds. -/
def gain (s : SimulationSitting) (e : String × Float) : SimulationSitting :=
  { s with
    resources := s.resources.put e.1
      (clamp (s.bounds e.1) (.float ((amount s.resources e.1).nearest + e.2))) }

/-- Take an amount off a resource. -/
def spend (s : SimulationSitting) (e : String × Float) : SimulationSitting :=
  { s with
    resources := s.resources.put e.1 (.float ((amount s.resources e.1).nearest - e.2)) }

/-- Look at an objective. -/
def assess (s : SimulationSitting) (o : Objective) : SimulationSitting :=
  let s := if s.isMissed o then
    { s with brokenMaintains := insert s.brokenMaintains o.id } else s
  if !s.completedObjectives.contains o.id && s.isMet o then
    { s with completedObjectives := s.completedObjectives ++ [o.id] }
  else s

/-- Look at all objectives. -/
def assessed (s : SimulationSitting) : SimulationSitting := s.content.objectives.foldl assess s

/-- Pay for an action and bring about its effects. -/
def enacted (s : SimulationSitting) (a : SimAction) : SimulationSitting :=
  let s := a.effects.foldl gain (a.cost.foldl spend s)
  { s with
    cooldowns := if a.cooldown = 0 then s.cooldowns else s.cooldowns.put a.id a.cooldown
    performed := insert s.performed a.id }

/-- Bring about the effects of an event. -/
def resolved (s : SimulationSitting) (e : SimEvent) (choice : Option Int) : SimulationSitting :=
  { (effectsOf e choice).foldl gain s with currentEvent := none }

/-- Let actions cool down. -/
def rested (s : SimulationSitting) : SimulationSitting :=
  { s with cooldowns := cooled s.cooldowns }

/-- The action with an id. -/
def action? (s : SimulationSitting) (id : String) : Option SimAction :=
  (Catalogue.ofList SimAction.id s.content.actions).find? id

/-- Actions can be performed and the turn can be ended. -/
def IsFree (s : SimulationSitting) : Prop :=
  s.completed = false ∧ s.won = none ∧ s.currentEvent = none

/-- The event that can be resolved. -/
def pending? (s : SimulationSitting) : Option SimEvent := if s.isOver then none else s.currentEvent

/-- The report of the outcome. -/
def outcomeReport (c : Setting) (s : SimulationSitting) (time : Int) (won : Bool) : Report :=
  .answer c.sectionId
    (.map [("result", resultName won), ("turn", .int s.turn),
      ("completedObjectives", .list (s.completedObjectives.map .str))])
    won s.points time

/-! ### What they leave as it is -/

lemma foldl_resources {f : SimulationSitting → String × Float → SimulationSitting}
    (hf : ∀ s e, ∃ h, f s e = { s with resources := h }) (es : Amounts) (s : SimulationSitting) :
    ∃ h, es.foldl f s = { s with resources := h } := by
  induction es generalizing s with
  | nil => exact ⟨s.resources, rfl⟩
  | cons e rest ih =>
    obtain ⟨g, hg⟩ := hf s e
    obtain ⟨h, hh⟩ := ih (f s e)
    exact ⟨h, by rw [List.foldl_cons, hh, hg]⟩

lemma exists_foldl_gain (es : Amounts) (s : SimulationSitting) :
    ∃ h, es.foldl gain s = { s with resources := h } :=
  foldl_resources (fun _ _ => ⟨_, rfl⟩) es s

lemma exists_enacted (s : SimulationSitting) (a : SimAction) :
    ∃ h cooldowns performed, s.enacted a = { s with resources := h, cooldowns, performed } := by
  obtain ⟨g, hg⟩ := foldl_resources (f := spend) (fun _ _ => ⟨_, rfl⟩) a.cost s
  obtain ⟨h, hh⟩ := exists_foldl_gain a.effects { s with resources := g }
  exact ⟨h, if a.cooldown = 0 then s.cooldowns else s.cooldowns.put a.id a.cooldown,
    insert s.performed a.id, by rw [enacted, hg, hh]⟩

lemma exists_resolved (s : SimulationSitting) (e : SimEvent) (choice : Option Int) :
    ∃ h, s.resolved e choice = { s with resources := h, currentEvent := none } := by
  obtain ⟨h, hh⟩ := exists_foldl_gain (effectsOf e choice) s
  exact ⟨h, by rw [resolved, hh]⟩

@[simp] lemma won_enacted (s : SimulationSitting) (a : SimAction) : (s.enacted a).won = s.won := by
  obtain ⟨h, cooldowns, performed, heq⟩ := exists_enacted s a
  rw [heq]

@[simp] lemma turn_enacted (s : SimulationSitting) (a : SimAction) :
    (s.enacted a).turn = s.turn := by
  obtain ⟨h, cooldowns, performed, heq⟩ := exists_enacted s a
  rw [heq]

@[simp] lemma won_resolved (s : SimulationSitting) (e : SimEvent) (choice : Option Int) :
    (s.resolved e choice).won = s.won := by
  obtain ⟨h, heq⟩ := exists_resolved s e choice
  rw [heq]

@[simp] lemma turn_resolved (s : SimulationSitting) (e : SimEvent) (choice : Option Int) :
    (s.resolved e choice).turn = s.turn := by
  obtain ⟨h, heq⟩ := exists_resolved s e choice
  rw [heq]

lemma exists_foldl_assess (os : List Objective) (s : SimulationSitting) :
    ∃ completed broken,
      os.foldl assess s =
        { s with completedObjectives := completed, brokenMaintains := broken } := by
  induction os generalizing s with
  | nil => exact ⟨s.completedObjectives, s.brokenMaintains, rfl⟩
  | cons o rest ih =>
    obtain ⟨completed, broken, h⟩ := ih (s.assess o)
    refine ⟨completed, broken, ?_⟩
    rw [List.foldl_cons, h]
    unfold assess
    dsimp only
    split_ifs <;> rfl

lemma exists_assessed (s : SimulationSitting) :
    ∃ completed broken,
      s.assessed = { s with completedObjectives := completed, brokenMaintains := broken } :=
  exists_foldl_assess s.content.objectives s

/-! ### Amounts -/

/-- The numbers that a simulation calculates with are plain. -/
structure IsPlain (s : SimulationSitting) : Prop where
  amounts : ∀ id, IsPlainNumber (amount s.resources id)
  bounds : ∀ r ∈ s.content.resources, IsPlainNumber r.minValue ∧ IsPlainNumber r.maxValue

lemma amount_put (h : Holdings) (k : String) (a : Number) (id : String) :
    amount (h.put k a) id = if k = id then a else amount h id := by
  rw [amount, Catalogue.find?_put]
  split_ifs <;> rfl

lemma clamp_cases (b : Number × Number) (n : Number) :
    clamp b n = n ∨ clamp b n = b.1 ∨ clamp b n = b.2 := by
  unfold clamp
  dsimp only
  split_ifs <;> simp

lemma IsPlain.put (hs : s.IsPlain) {a : Number} (ha : IsPlainNumber a) (id : String) :
    IsPlain { s with resources := s.resources.put id a } where
  amounts k := by
    rw [amount_put]
    split_ifs
    · exact ha
    · exact hs.amounts k
  bounds := hs.bounds

lemma IsPlain.bounds_of (hs : s.IsPlain) (id : String) :
    IsPlainNumber (s.bounds id).1 ∧ IsPlainNumber (s.bounds id).2 := by
  unfold SimulationSitting.bounds
  cases hr : s.declared.find? id with
  | none => exact ⟨.inl ⟨_, rfl⟩, .inl ⟨_, rfl⟩⟩
  | some r => exact hs.bounds r (Catalogue.mem_of_find?_ofList hr)

lemma IsPlain.gain (hs : s.IsPlain) (e : String × Float) : (s.gain e).IsPlain := by
  refine hs.put ?_ e.1
  rcases clamp_cases (s.bounds e.1) (.float ((amount s.resources e.1).nearest + e.2)) with h | h | h
  · exact .inl ⟨_, h⟩
  · exact h ▸ (hs.bounds_of e.1).1
  · exact h ▸ (hs.bounds_of e.1).2

lemma IsPlain.spend (hs : s.IsPlain) (e : String × Float) : (s.spend e).IsPlain :=
  hs.put (.inl ⟨_, rfl⟩) e.1

lemma IsPlain.foldl_gain (hs : s.IsPlain) (es : Amounts) :
    (es.foldl SimulationSitting.gain s).IsPlain := by
  induction es generalizing s with
  | nil => exact hs
  | cons e rest ih => exact ih (hs.gain e)

lemma IsPlain.foldl_spend (hs : s.IsPlain) (es : Amounts) :
    (es.foldl SimulationSitting.spend s).IsPlain := by
  induction es generalizing s with
  | nil => exact hs
  | cons e rest ih => exact ih (hs.spend e)

/-! ### Scripts -/

lemma yields_applyEffects {es : Amounts} {Q : Unit → Stage SimulationSitting → Prop}
    (hs : s.IsPlain) (h : Q () (es.foldl gain s, x)) : (applyEffects es).Yields c Q (s, x) := by
  induction es generalizing s with
  | nil => exact yields_pure h
  | cons e rest ih =>
    refine yields_state_bind (yields_lift_bind ((hs.amounts e.1).add e.2) ?_)
    exact yields_setState_bind (ih (hs.gain e) h)

lemma yields_pay {es : Amounts} {Q : Unit → Stage SimulationSitting → Prop}
    (hs : s.IsPlain) (h : Q () (es.foldl spend s, x)) : (pay es).Yields c Q (s, x) := by
  induction es generalizing s with
  | nil => exact yields_pure h
  | cons e rest ih =>
    refine yields_state_bind (yields_lift_bind ((hs.amounts e.1).sub e.2) ?_)
    exact yields_setState_bind (ih (hs.spend e) h)

lemma yields_evaluate {o : Objective} {Q : Unit → Stage SimulationSitting → Prop}
    (h : Q () (s.assess o, x)) : (evaluate o).Yields c Q (s, x) := by
  refine yields_change_bind (yields_state_bind ?_)
  unfold assess at h
  dsimp only at h ⊢
  split_ifs at h ⊢
  all_goals first
    | exact yields_setState_bind (yields_note h)
    | exact yields_pure h

lemma yields_forEach_evaluate {os : List Objective} {Q : Unit → Stage SimulationSitting → Prop}
    (h : Q () (os.foldl assess s, x)) : (forEach evaluate os).Yields c Q (s, x) := by
  induction os generalizing s with
  | nil => exact yields_pure h
  | cons o rest ih => exact yields_bind (yields_evaluate (ih h))

/-- After a change the objectives have been looked at, and the outcome is reported if there is
one. -/
inductive Closes (c : Setting) (s : SimulationSitting) (x : Surroundings) :
    Stage SimulationSitting → Prop
  | undecided (h : s.assessed.outcome? = none) : Closes c s x (s.assessed, x)
  | decided {won : Bool} (time : Int) (h : s.assessed.outcome? = some won) :
    Closes c s x ({ s.assessed with won := some won },
      { x with reports := outcomeReport c s.assessed time won :: x.reports })

/-- The next turn begins, and the amounts may be reported then. -/
def Advances (c : Setting) (s : SimulationSitting) (x : Surroundings)
    (q : Stage SimulationSitting) : Prop :=
  ∃ reports, (reports = x.reports ∨
    reports = .update (s.resources.map fun e => (.text e.1, e.2.toValue)) :: x.reports) ∧
    Closes c { s with turn := s.turn + 1 } { x with reports } q

lemma yields_afterChange {Q : Unit → Stage SimulationSitting → Prop}
    (hfinite : (x.clock - s.started).isFinite = true) (h : ∀ q, Closes c s x q → Q () q) :
    (afterChange c).Yields c Q (s, x) := by
  refine yields_state_bind (yields_bind (yields_forEach_evaluate ?_))
  have hstarted : s.assessed.started = s.started := by
    obtain ⟨completed, broken, heq⟩ := exists_assessed s
    rw [heq]
  change Script.Yields c Q (Script.state >>= _) (s.assessed, x)
  refine yields_state_bind ?_
  dsimp only
  cases houtcome : s.assessed.outcome? with
  | none => exact yields_pure (h _ (.undecided houtcome))
  | some won =>
    refine yields_change_bind (yields_state_bind (yields_bind ?_))
    refine yields_answer ?_ fun time => yields_note (h _ (.decided time houtcome))
    show (x.clock - s.assessed.started).isFinite = true
    rw [hstarted]
    exact hfinite

lemma yields_nextTurn {Q : Unit → Stage SimulationSitting → Prop}
    (hfinite : (x.clock - s.started).isFinite = true) (h : ∀ q, Advances c s x q → Q () q) :
    (nextTurn c).Yields c Q (s, x) := by
  refine yields_change_bind (yields_state_bind (yields_bind ?_))
  refine yields_updateVariables fun reports hreports => ?_
  exact yields_afterChange hfinite fun q hq => h q ⟨reports, hreports, hq⟩

/-! ### Moves -/

/-- An action can be performed. -/
def Accepts (s : SimulationSitting) (id : String) : Prop :=
  s.IsFree ∧ ∃ a, s.action? id = some a ∧ s.canPerform a = true

/-- All that a move can do, and what it gives back. -/
inductive Deals (c : Setting) (p : Stage SimulationSitting) :
    Move → Value → Stage SimulationSitting → Prop
  | perform {id : String} {a : SimAction} {q : Stage SimulationSitting} (hfree : p.1.IsFree)
      (ha : p.1.action? id = some a) (hcan : p.1.canPerform a = true)
      (h : Closes c (p.1.enacted a) p.2 q) : Deals c p (.perform id) (.bool true) q
  | reject {id : String} (h : ¬p.1.Accepts id) : Deals c p (.perform id) (.bool false) p
  | raise {e : SimEvent} (hfree : p.1.IsFree) (he : e ∈ p.1.content.events) :
    Deals c p .endTurn (.str e.id) ({ p.1.rested with currentEvent := some e }, p.2)
  | endTurn {q : Stage SimulationSitting} (hfree : p.1.IsFree) (h : Advances c p.1.rested p.2 q) :
    Deals c p .endTurn .null q
  | blocked (h : ¬p.1.IsFree) : Deals c p .endTurn .null p
  | resolve {choice : Option Int} {e : SimEvent} {q : Stage SimulationSitting}
      (he : p.1.pending? = some e) (h : Advances c (p.1.resolved e choice) p.2 q) :
    Deals c p (.resolveEvent choice) .null q
  | unasked {choice : Option Int} (h : p.1.pending? = none) :
    Deals c p (.resolveEvent choice) .null p
  | unlock (id : String) :
    Deals c p (.unlock id) .null ({ p.1 with unlocked := insert p.1.unlocked id }, p.2)
  | leave (hopen : p.1.completed = false) (hover : p.1.isOver = true) :
    Deals c p .goOn .null
      ({ p.1 with completed := true }, { p.2 with reports := .complete :: p.2.reports })
  | stay (h : p.1.isOver = false ∨ p.1.completed = true) : Deals c p .goOn .null p

lemma yields_unlessBlocked {α : Type} {action : String} {refused : α}
    {y : Script SimulationSitting α} {Q : α → Stage SimulationSitting → Prop}
    (hblocked : ¬p.1.IsFree → Q refused p) (hfree : p.1.IsFree → y.Yields c Q p) :
    (unlessBlocked c action refused y).Yields c Q p := by
  refine yields_unlessCompleted (fun hdone => hblocked fun h => ?_) fun hopen =>
    yields_state_bind ?_
  · exact absurd h.1 (by rw [show p.1.completed = true from hdone]; simp)
  · cases hwon : p.1.won with
    | some won =>
      rw [if_pos (by rw [isOver, hwon]; rfl)]
      refine yields_note_bind (yields_pure (hblocked fun h => ?_))
      exact absurd (hwon.symm.trans h.2.1) nofun
    | none =>
      rw [if_neg (by rw [isOver, hwon]; simp)]
      cases hevent : p.1.currentEvent with
      | some e =>
        refine yields_note_bind (yields_pure (hblocked fun h => ?_))
        exact absurd (hevent.symm.trans h.2.2) nofun
      | none => exact hfree ⟨hopen, hwon, hevent⟩

lemma yields_carryOut {a : SimAction} {Q : Unit → Stage SimulationSitting → Prop}
    (hs : s.IsPlain) (hfinite : (x.clock - s.started).isFinite = true)
    (h : ∀ q, Closes c (s.enacted a) x q → Q () q) : (carryOut c a).Yields c Q (s, x) := by
  refine yields_bind (yields_pay hs (yields_bind (yields_applyEffects (hs.foldl_spend _) ?_)))
  refine yields_change_bind (yields_afterChange ?_ h)
  obtain ⟨g, hg⟩ := foldl_resources (f := spend) (fun _ _ => ⟨_, rfl⟩) a.cost s
  obtain ⟨g', hg'⟩ := exists_foldl_gain a.effects { s with resources := g }
  rw [hg, hg']
  exact hfinite

lemma yields_perform {id : String} {Q : Bool → Stage SimulationSitting → Prop}
    (hs : p.1.IsPlain) (hfinite : (p.2.clock - p.1.started).isFinite = true)
    (h : ∀ accepted q, Deals c p (.perform id) (.bool accepted) q → Q accepted q) :
    (perform c id).Yields c Q p := by
  refine yields_unlessBlocked (fun hblocked => h _ _ (.reject fun ha => hblocked ha.1))
    fun hfree => yields_state_bind ?_
  cases ha : p.1.action? id with
  | none =>
    simp only [show (Catalogue.ofList SimAction.id p.1.content.actions).find? id = none from ha]
    refine yields_note_bind (yields_pure (h _ _ (.reject ?_)))
    rintro ⟨-, a, ha', -⟩
    exact absurd (ha.symm.trans ha') nofun
  | some a =>
    simp only [show (Catalogue.ofList SimAction.id p.1.content.actions).find? id = some a from ha]
    cases hcan : p.1.canPerform a with
    | true =>
      rw [if_pos rfl]
      refine yields_bind (yields_carryOut hs hfinite fun q hq => yields_pure (h _ _ ?_))
      exact .perform hfree ha hcan hq
    | false =>
      rw [if_neg Bool.false_ne_true]
      refine yields_note_bind (yields_pure (h _ _ (.reject ?_)))
      rintro ⟨-, b, hb, hcan'⟩
      obtain rfl := Option.some.inj (ha.symm.trans hb)
      exact absurd (hcan.symm.trans hcan') nofun

/-- With fair dice the turn is ended, unless one of the events has to be resolved first. -/
lemma yields_endTurn {Q : Option SimEvent → Stage SimulationSitting → Prop}
    (hfinite : (p.2.clock - p.1.started).isFinite = true)
    (hfair : Dice.IsFair p.1.content.events.length p.2.throws)
    (h : ∀ e q, Deals c p .endTurn (Player.optionally (fun e : SimEvent => .str e.id) e) q →
      Q e q) : (endTurn c).Yields c Q p := by
  refine yields_unlessBlocked (fun hblocked => h none _ (.blocked hblocked)) fun hfree => ?_
  refine yields_change_bind (yields_state_bind (yields_bind ?_))
  refine yields_filter ?_ fun kept hkept => ?_
  · exact fun e Q hQ => yields_bind (yields_draw fun k => yields_pure (hQ _))
  cases kept with
  | nil =>
    refine yields_bind (yields_nextTurn hfinite fun q hq => yields_pure (h none q ?_))
    exact .endTurn hfree hq
  | cons e rest =>
    have hlength : (e :: rest).length ≤ p.1.content.events.length := hkept.length_le
    refine yields_bind (yields_choose (fun k => hfair k _ (Nat.succ_pos _) hlength) ?_)
    intro e he
    refine yields_change_bind (yields_state_bind (yields_note_bind (yields_pure (h (some e) _ ?_))))
    exact .raise hfree (hkept.subset he)

lemma yields_resolveEvent {choice : Option Int} {Q : Unit → Stage SimulationSitting → Prop}
    (hs : p.1.IsPlain) (hfinite : (p.2.clock - p.1.started).isFinite = true)
    (h : ∀ q, Deals c p (.resolveEvent choice) .null q → Q () q) :
    (resolveEvent c choice).Yields c Q p := by
  refine yields_state_bind ?_
  cases he : p.1.pending? with
  | none =>
    simp only [show (if p.1.isOver then none else p.1.currentEvent) = none from he]
    exact yields_note (h _ (.unasked he))
  | some e =>
    simp only [show (if p.1.isOver then none else p.1.currentEvent) = some e from he]
    refine yields_bind (yields_applyEffects hs (yields_change_bind (yields_nextTurn ?_ ?_)))
    · obtain ⟨g, hg⟩ := exists_foldl_gain (effectsOf e choice) p.1
      rw [hg]
      exact hfinite
    · exact fun q hq => h q (.resolve he hq)

lemma yields_leave {Q : Unit → Stage SimulationSitting → Prop}
    (h : ∀ q, Deals c p .goOn .null q → Q () q) : (leave c).Yields c Q p := by
  refine yields_state_bind ?_
  cases hover : p.1.isOver with
  | false => exact yields_note (h _ (.stay (.inl hover)))
  | true =>
    rw [if_pos rfl]
    cases hdone : p.1.completed with
    | false => exact yields_complete hdone (h _ (.leave hdone hover))
    | true => exact yields_complete_again hdone (h _ (.stay (.inr hdone)))

/-! ### What holds throughout -/

/-- What holds at all stages of a simulation. -/
structure Sound (c : Setting) (z : Simulation) (T : Float → Prop) (p : Stage SimulationSitting) :
    Prop where
  clock : T p.2.clock
  started : T p.1.started
  running : p.2.running = none
  fair : Dice.IsFair z.events.length p.2.throws
  presented : p.1.content = z
  plain : p.1.IsPlain
  ended : p.1.completed = true → p.1.isOver = true
  /-- The outcome has been reported if there is one, and nothing else has been answered. -/
  answered : ∃ time, answers p.2.reports = p.1.won.toList.map (outcomeReport c p.1 time)

lemma won_eq_none_of_pending? {e : SimEvent} (he : s.pending? = some e) : s.won = none := by
  unfold pending? isOver at he
  cases hwon : s.won with
  | none => rfl
  | some won => simp [hwon] at he

lemma IsPlain.of_eq (hs : s.IsPlain) (hresources : t.resources = s.resources)
    (hcontent : t.content = s.content) : t.IsPlain where
  amounts id := hresources ▸ hs.amounts id
  bounds := hcontent ▸ hs.bounds

lemma IsPlain.enacted (hs : s.IsPlain) (a : SimAction) : (s.enacted a).IsPlain :=
  ((hs.foldl_spend a.cost).foldl_gain a.effects).of_eq rfl rfl

lemma IsPlain.resolved (hs : s.IsPlain) (e : SimEvent) (choice : Option Int) :
    (s.resolved e choice).IsPlain :=
  (hs.foldl_gain (effectsOf e choice)).of_eq rfl rfl

namespace Sound

variable (hp : Sound c z T p)

include hp

lemma answers_eq_nil (hwon : p.1.won = none) : answers p.2.reports = [] := by
  obtain ⟨time, h⟩ := hp.answered
  rw [h, hwon]
  rfl

/-- As long as there is no outcome, the amounts may change. -/
lemma of_eq (hwon : p.1.won = none) (hs : s.IsPlain) (hsitting : s.toSitting = p.1.toSitting)
    (hcontent : s.content = p.1.content) (hsame : s.won = p.1.won) : Sound c z T (s, p.2) := by
  refine { hp with started := ?_, presented := ?_, plain := hs, ended := ?_, answered := ⟨0, ?_⟩ }
  · rw [hsitting]
    exact hp.started
  · exact hcontent.trans hp.presented
  · rw [hsitting, isOver, hsame]
    exact hp.ended
  · rw [hsame, hwon]
    exact hp.answers_eq_nil hwon

lemma enacted (hwon : p.1.won = none) (a : SimAction) : Sound c z T (p.1.enacted a, p.2) := by
  have hplain := hp.plain.enacted a
  obtain ⟨h, cooldowns, performed, heq⟩ := exists_enacted p.1 a
  rw [heq] at hplain ⊢
  exact hp.of_eq hwon hplain rfl rfl rfl

lemma resolved (hwon : p.1.won = none) (e : SimEvent) (choice : Option Int) :
    Sound c z T (p.1.resolved e choice, p.2) := by
  have hplain := hp.plain.resolved e choice
  obtain ⟨h, heq⟩ := exists_resolved p.1 e choice
  rw [heq] at hplain ⊢
  exact hp.of_eq hwon hplain rfl rfl rfl

lemma closes (hwon : p.1.won = none) (h : Closes c p.1 p.2 q) : Sound c z T q := by
  have hanswers := hp.answers_eq_nil hwon
  obtain ⟨completed, broken, heq⟩ := exists_assessed p.1
  cases h with
  | undecided =>
    rw [heq]
    exact hp.of_eq hwon (hp.plain.of_eq rfl rfl) rfl rfl rfl
  | decided time =>
    rw [heq]
    refine { hp with
      plain := hp.plain.of_eq rfl rfl, ended := fun _ => rfl, answered := ⟨time, ?_⟩ }
    rw [outcomeReport, answers_cons_answer, hanswers]
    rfl

lemma advances (hwon : p.1.won = none) (h : Advances c p.1 p.2 q) : Sound c z T q := by
  obtain ⟨reports, hreports, h⟩ := h
  have hanswers : answers reports = answers p.2.reports := by
    rcases hreports with rfl | rfl
    · rfl
    · exact answers_cons_update
  have hnext : Sound c z T ({ p.1 with turn := p.1.turn + 1 }, { p.2 with reports }) := by
    refine { hp with plain := hp.plain.of_eq rfl rfl, answered := ⟨0, ?_⟩ }
    rw [hanswers, hp.answers_eq_nil hwon, hwon]
    rfl
  exact hnext.closes hwon h

/-- What holds at all stages is kept by every move. -/
lemma deals {m : Move} {a : Value} (h : Deals c p m a q) : Sound c z T q := by
  cases h with
  | perform hfree ha hcan h =>
    exact (hp.enacted hfree.2.1 _).closes ((won_enacted ..).trans hfree.2.1) h
  | raise hfree he => exact hp.of_eq hfree.2.1 (hp.plain.of_eq rfl rfl) rfl rfl rfl
  | endTurn hfree h =>
    have hrested : Sound c z T (p.1.rested, p.2) :=
      hp.of_eq hfree.2.1 (hp.plain.of_eq rfl rfl) rfl rfl rfl
    exact hrested.advances hfree.2.1 h
  | resolve he h =>
    have hwon := won_eq_none_of_pending? he
    exact (hp.resolved hwon _ _).advances ((won_resolved ..).trans hwon) h
  | unlock id => exact { hp with plain := hp.plain.of_eq rfl rfl }
  | leave hopen hover => exact { hp with plain := hp.plain.of_eq rfl rfl, ended := fun _ => hover }
  | reject | blocked | unasked | stay => exact hp

end Sound

/-! ### Turns -/

/-- All that a cue can do. -/
inductive Turn (c : Setting) (p : Stage SimulationSitting) : Cue → Stage SimulationSitting → Prop
  | move {m : Move} {a : Value} {q : Stage SimulationSitting} (h : Deals c p m a q) :
    Turn c p (.move m) q
  | unknown {m : Move} (h : Player.inSimulation c m = none) : Turn c p (.move m) p
  | second : Turn c p .second p
  | clock (time : Float) : Turn c p (.clock time) (p.1, { p.2 with clock := time })

section

variable {w : Rehearsal} (hT : Steady T) (hw : w.Stands .simulation c p) (hp : Sound c z T p)

include hT hw hp

/-- At a sound stage every move of a simulation can be made. -/
lemma exists_deals {m : Move} (hm : Player.inSimulation c m ≠ none) :
    ∃ a q v, (follow (.move m)).runIn w = (.ok (), v) ∧ w.Gives m a ∧
      v.Stands .simulation c q ∧ Deals c p m a q := by
  have hfinite : (p.2.clock - p.1.started).isFinite = true := hT.finite _ _ hp.started hp.clock
  cases m with
  | perform id =>
    exact follow_move_gives hw (y := _ <$> perform c id) rfl
      (yields_map (yields_perform hp.plain hfinite fun _ _ h => h))
  | unlock id =>
    exact follow_move_gives hw (y := _ <$> unlock id) rfl
      (yields_map (yields_change_bind (yields_pure (.unlock id))))
  | endTurn =>
    exact follow_move_gives hw (y := _ <$> endTurn c) rfl
      (yields_map (yields_endTurn hfinite (hp.presented ▸ hp.fair) fun _ _ h => h))
  | resolveEvent choice =>
    exact follow_move_gives hw (y := _ <$> resolveEvent c choice) rfl
      (yields_map (yields_resolveEvent hp.plain hfinite fun _ h => h))
  | goOn =>
    exact follow_move_gives hw (y := _ <$> leave c) rfl (yields_map (yields_leave fun _ h => h))
  | _ => exact absurd rfl hm

/-- At a sound stage every move can be made. -/
lemma exists_turn_move (m : Move) :
    ∃ q v, (follow (.move m)).runIn w = (.ok (), v) ∧ v.Stands .simulation c q ∧
      Turn c p (.move m) q := by
  by_cases hm : Player.inSimulation c m = none
  · have hact : Player.act? c m (.simulation p.1) = none := by rw [Player.act?, hm]; rfl
    exact ⟨p, w, follow_unknown hw hact, hw, .unknown hm⟩
  · obtain ⟨a, q, v, hrun, -, hv, h⟩ := exists_deals hT hw hp hm
    exact ⟨q, v, hrun, hv, .move h⟩

end

/-- A simulation goes on from one sound stage to the next. -/
lemma proceeds (hT : Steady T) :
    Proceeds .simulation c (Cue.Within T) (Sound c z T) (Turn c) where
  follow {w p cue} hw hp hcue := by
    cases cue with
    | clock time =>
      obtain ⟨v, hrun, hv⟩ := follow_clock hw time
      exact ⟨_, v, hrun, hv, .clock time⟩
    | second => exact ⟨p, w, follow_second_of_idle hw hp.running, hw, .second⟩
    | move m => exact exists_turn_move hT hw hp m
  sound {p q cue} hp hturn hcue := by
    cases hturn with
    | move h => exact hp.deals h
    | clock time => exact { hp with clock := hcue }
    | unknown | second => exact hp

/-! ### From one stage to another -/

lemma Closes.turn_eq (h : Closes c s x q) : q.1.turn = s.turn := by
  obtain ⟨completed, broken, heq⟩ := exists_assessed s
  cases h with
  | undecided => rw [heq]
  | decided time => rw [heq]

/-- What is looked at after a change decides whether there is an outcome. -/
lemma Closes.won_eq (h : Closes c s x q) (hwon : s.won = none) : q.1.won = q.1.outcome? := by
  obtain ⟨completed, broken, heq⟩ := exists_assessed s
  cases h with
  | undecided h =>
    rw [h, heq]
    exact hwon
  | decided time h => exact h.symm

/-- A turn is completed: it is ended without an event, or the event is resolved. -/
def EndsTurn (s : SimulationSitting) (m : Move) (a : Value) : Prop :=
  match m with
  | .endTurn => s.IsFree ∧ a = .null
  | .resolveEvent _ => s.pending?.isSome = true
  | _ => False

namespace Deals

variable {m : Move} {a : Value} (h : Deals c p m a q)

include h

lemma turn_eq : (EndsTurn p.1 m a → q.1.turn = p.1.turn + 1) ∧
    (¬EndsTurn p.1 m a → q.1.turn = p.1.turn) := by
  cases h with
  | perform hfree ha hcan h =>
    exact ⟨nofun, fun _ => h.turn_eq.trans (turn_enacted ..)⟩
  | raise hfree he => exact ⟨fun h => (nomatch h.2), fun _ => rfl⟩
  | endTurn hfree h =>
    obtain ⟨reports, -, h⟩ := h
    exact ⟨fun _ => h.turn_eq, fun hnot => absurd ⟨hfree, rfl⟩ hnot⟩
  | blocked hblocked => exact ⟨fun h => absurd h.1 hblocked, fun _ => rfl⟩
  | resolve he h =>
    obtain ⟨reports, -, h⟩ := h
    refine ⟨fun _ => h.turn_eq.trans ?_, fun hnot => ?_⟩
    · exact congrArg (· + 1) (turn_resolved ..)
    · exact absurd (Option.isSome_iff_exists.2 ⟨_, he⟩) hnot
  | unasked hnone => exact ⟨fun h => absurd h (by simp [EndsTurn, hnone]), fun _ => rfl⟩
  | reject | unlock | leave | stay => exact ⟨nofun, fun _ => rfl⟩

/-- The outcome is decided after every action that is performed and every turn that is completed,
and does not change otherwise. -/
lemma won_eq :
    ((∃ id, m = .perform id ∧ a = .bool true) ∨ EndsTurn p.1 m a → q.1.won = q.1.outcome?) ∧
    (¬((∃ id, m = .perform id ∧ a = .bool true) ∨ EndsTurn p.1 m a) → q.1.won = p.1.won) := by
  cases h with
  | perform hfree ha hcan h =>
    refine ⟨fun _ => h.won_eq ?_, fun hnot => absurd (.inl ⟨_, rfl, rfl⟩) hnot⟩
    exact (won_enacted ..).trans hfree.2.1
  | endTurn hfree h =>
    obtain ⟨reports, -, h⟩ := h
    exact ⟨fun _ => h.won_eq hfree.2.1, fun hnot => absurd (.inr ⟨hfree, rfl⟩) hnot⟩
  | resolve he h =>
    obtain ⟨reports, -, h⟩ := h
    refine ⟨fun _ => h.won_eq ?_, fun hnot =>
      absurd (.inr (Option.isSome_iff_exists.2 ⟨_, he⟩)) hnot⟩
    exact (won_resolved ..).trans (won_eq_none_of_pending? he)
  | reject hnot => exact ⟨by simp [EndsTurn], fun _ => rfl⟩
  | raise hfree he => exact ⟨by simp [EndsTurn], fun _ => rfl⟩
  | blocked hblocked => exact ⟨by simp [EndsTurn, hblocked], fun _ => rfl⟩
  | unasked hnone => exact ⟨by simp [EndsTurn, hnone], fun _ => rfl⟩
  | unlock | leave | stay => exact ⟨by simp [EndsTurn], fun _ => rfl⟩

end Deals

/-- Nothing decides the outcome. -/
structure IsUndecided (s : SimulationSitting) : Prop where
  incomplete : s.required = [] ∨ ∃ id ∈ s.required, id ∉ s.completedObjectives
  going : s.turn < s.content.maxTurns
  supplied : ∀ e ∈ s.declared, (amount s.resources e.1).atMost e.2.minValue = false

lemma outcome?_eq_none_iff : s.outcome? = none ↔ s.IsUndecided := by
  have hdone : s.requiredDone.length = s.required.length ↔
      ∀ id ∈ s.required, id ∈ s.completedObjectives := by
    rw [requiredDone, List.length_filter_eq_length_iff]
    simp
  have hincomplete : (!s.required.isEmpty && s.requiredDone.length == s.required.length) = false ↔
      s.required = [] ∨ ∃ id ∈ s.required, id ∉ s.completedObjectives := by
    simp [hdone, imp_iff_not_or]
  have hsupplied : s.isExhausted = false ↔
      ∀ e ∈ s.declared, (amount s.resources e.1).atMost e.2.minValue = false := by
    simp [isExhausted]
  unfold outcome?
  constructor
  · intro h
    split_ifs at h with hall hturn hexhausted
    exact ⟨hincomplete.1 (by simpa using hall), by omega, hsupplied.1 (by simpa using hexhausted)⟩
  · intro h
    rw [hincomplete.2 h.incomplete, hsupplied.2 h.supplied]
    simp [h.going]

/-- A cue completes a turn: the turn is ended without an event, or the event is resolved. -/
def CompletesTurn (w : Rehearsal) (s : SimulationSitting) : Cue → Prop
  | .move .endTurn => s.IsFree ∧ w.Gives .endTurn .null
  | .move (.resolveEvent _) => s.isOver = false ∧ s.currentEvent.isSome = true
  | _ => False

/-- After a cue the objectives are looked at: an action has been performed, or a turn completed. -/
def Decides (w : Rehearsal) (s : SimulationSitting) (cue : Cue) : Prop :=
  (∃ id, cue = .move (.perform id) ∧ w.Gives (.perform id) (.bool true)) ∨ CompletesTurn w s cue

/-- A cue is refused: an action cannot be performed, the turn cannot be ended, or there is no event
to be resolved. -/
def Refuses (w : Rehearsal) (s : SimulationSitting) : Cue → Prop
  | .move (.perform id) => w.Gives (.perform id) (.bool false)
  | .move .endTurn => ¬s.IsFree
  | .move (.resolveEvent _) => s.currentEvent = none ∨ s.isOver = true
  | _ => False

/-- What can be seen of a simulation that is played. -/
structure Standing (c : Setting) (z : Simulation) (w : Rehearsal) (s : SimulationSitting) :
    Prop where
  player : w.player = .simulation s
  presented : s.content = z
  /-- The outcome has been reported once if there is one, with the points of the objectives that
  are complete, and no answer has been reported otherwise. -/
  answered : ∃ time, answers w.reports = s.won.toList.map (outcomeReport c s time)

/-- How a simulation is conducted while cues of some sort are followed. -/
structure Conduct (c : Setting) (z : Simulation) (T : Float → Prop) (w : Rehearsal) : Prop where
  begins : (Rehearsal.enter.runIn w).1 = .ok ()
  follows : ∀ {cues cue}, (∀ cue ∈ cues, cue.Within T) → cue.Within T →
    ((follow cue).runIn (w.rehearsed cues)).1 = .ok ()
  standing : ∀ {cues}, (∀ cue ∈ cues, cue.Within T) →
    ∃ s, Standing c z (w.rehearsed cues) s
  /-- What is refused changes nothing. -/
  refuses : ∀ {cues cue s}, (∀ cue ∈ cues, cue.Within T) → cue.Within T →
    (w.rehearsed cues).player = .simulation s → Refuses (w.rehearsed cues) s cue →
    (w.rehearsed (cues ++ [cue])).player = .simulation s ∧
      (w.rehearsed (cues ++ [cue])).reports = (w.rehearsed cues).reports
  /-- The turns that are completed are counted. -/
  turns : ∀ {cues cue s t}, (∀ cue ∈ cues, cue.Within T) → cue.Within T →
    (w.rehearsed cues).player = .simulation s →
    (w.rehearsed (cues ++ [cue])).player = .simulation t →
    (CompletesTurn (w.rehearsed cues) s cue → t.turn = s.turn + 1) ∧
      (¬CompletesTurn (w.rehearsed cues) s cue → t.turn = s.turn)
  /-- After every action that is performed and every turn that is completed there is an outcome
  unless nothing decides it, and it does not change otherwise. -/
  decides : ∀ {cues cue s t}, (∀ cue ∈ cues, cue.Within T) → cue.Within T →
    (w.rehearsed cues).player = .simulation s →
    (w.rehearsed (cues ++ [cue])).player = .simulation t →
    (Decides (w.rehearsed cues) s cue →
      t.won = t.outcome? ∧ (t.won = none ↔ t.IsUndecided)) ∧
      (¬Decides (w.rehearsed cues) s cue → t.won = s.won)
  /-- Once there is an outcome, nothing changes but what is unlocked and whether the section is
  finished. -/
  rests : ∀ {before since s t}, (∀ cue ∈ before ++ since, cue.Within T) →
    (w.rehearsed before).player = .simulation s →
    (w.rehearsed (before ++ since)).player = .simulation t → s.isOver = true →
    t = { s with completed := t.completed, unlocked := t.unlocked }

lemma pending?_isSome_iff :
    s.pending?.isSome = true ↔ s.isOver = false ∧ s.currentEvent.isSome = true := by
  unfold pending?
  cases s.isOver <;> simp

section

variable {w : Rehearsal} {cue : Cue}

/-- What a move gives back can be seen. -/
lemma completesTurn_iff {m : Move} {a : Value} (ha : w.Gives m a) :
    CompletesTurn w s (.move m) ↔ EndsTurn s m a := by
  cases m with
  | endTurn =>
    refine and_congr_right fun _ => ⟨fun h => ha.unique h, ?_⟩
    rintro rfl
    exact ha
  | resolveEvent => exact pending?_isSome_iff.symm
  | _ => exact Iff.rfl

lemma decides_iff {m : Move} {a : Value} (ha : w.Gives m a) :
    Decides w s (.move m) ↔ (∃ id, m = .perform id ∧ a = .bool true) ∨ EndsTurn s m a := by
  refine or_congr ⟨?_, ?_⟩ (completesTurn_iff ha)
  · rintro ⟨id, hm, h⟩
    cases hm
    exact ⟨id, rfl, ha.unique h⟩
  · rintro ⟨id, rfl, rfl⟩
    exact ⟨id, rfl, ha⟩

variable (hT : Steady T) (hw : (w.rehearsed []).Stands .simulation c p) (hp : Sound c z T p)

include hT hw hp

/-- A further cue is a move of the simulation, which gives something back, or it leaves the state as
it is. -/
lemma exists_further {cues : List Cue} (hcues : ∀ cue ∈ cues, cue.Within T) (hcue : cue.Within T) :
    ∃ q r, (w.rehearsed cues).Stands .simulation c q ∧ Sound c z T q ∧
      (w.rehearsed (cues ++ [cue])).Stands .simulation c r ∧
      ((∃ m a, cue = .move m ∧ (w.rehearsed cues).Gives m a ∧ Deals c q m a r) ∨
        r.1 = q.1 ∧ ∀ m, cue = .move m → Player.inSimulation c m = none) := by
  obtain ⟨q, r, hq, hsound, -, hr, hturn⟩ := (proceeds hT).onward hw hp hcues hcue
  cases hturn with
  | @move m _ _ h =>
    have hm : Player.inSimulation c m ≠ none := by cases h <;> exact nofun
    obtain ⟨a, r, v, hrun, ha, hv, h⟩ := exists_deals hT hq hsound hm
    exact ⟨q, r, hq, hsound, rehearsed_concat hrun ▸ hv, .inl ⟨m, a, rfl, ha, h⟩⟩
  | unknown hm =>
    refine ⟨q, _, hq, hsound, hr, .inr ⟨rfl, fun m heq => ?_⟩⟩
    cases heq
    exact hm
  | second | clock => exact ⟨q, _, hq, hsound, hr, .inr ⟨rfl, nofun⟩⟩

/-- After a further cue that is no move of the simulation nothing is looked at, and it is not
refused. -/
lemma exists_after {cues : List Cue} (hcues : ∀ cue ∈ cues, cue.Within T) (hcue : cue.Within T) :
    ∃ q r, (w.rehearsed cues).Stands .simulation c q ∧ Sound c z T q ∧
      (w.rehearsed (cues ++ [cue])).Stands .simulation c r ∧
      ((∃ m a, cue = .move m ∧ (w.rehearsed cues).Gives m a ∧ Deals c q m a r) ∨
        r.1 = q.1 ∧ ¬Decides (w.rehearsed cues) q.1 cue ∧ ¬Refuses (w.rehearsed cues) q.1 cue) := by
  obtain ⟨q, r, hq, hsound, hr, hdeals | ⟨hsame, hunknown⟩⟩ := exists_further hT hw hp hcues hcue
  · exact ⟨q, r, hq, hsound, hr, .inl hdeals⟩
  · refine ⟨q, r, hq, hsound, hr, .inr ⟨hsame, ?_⟩⟩
    cases cue with
    | move m =>
      cases m with
      | perform | endTurn | resolveEvent => exact nomatch hunknown _ rfl
      | _ => exact ⟨by simp [Decides, CompletesTurn], nofun⟩
    | second | clock => exact ⟨by simp [Decides, CompletesTurn], nofun⟩

end

/-- At first there is of a resource what the initial state says, or nothing. -/
lemma amount_create (z : Simulation) (started : Float) (id : String) :
    amount (create z started).resources id = .int 0 ∨
      ∃ e ∈ z.initialState.resources, amount (create z started).resources id = .float e.2 := by
  change amount (z.initialState.resources.map fun e => (e.1, .float e.2)) id = .int 0 ∨
    ∃ e ∈ z.initialState.resources,
      amount (z.initialState.resources.map fun e => (e.1, .float e.2)) id = .float e.2
  induction z.initialState.resources with
  | nil => exact .inl rfl
  | cons e rest ih =>
    rw [List.map_cons, amount, Catalogue.find?_cons]
    split_ifs
    · exact .inr ⟨e, List.mem_cons_self, rfl⟩
    · exact ih.imp_right fun ⟨f, hf, h⟩ => ⟨f, List.mem_cons_of_mem _ hf, h⟩

lemma isPlain_create
    (hbounds : ∀ r ∈ z.resources, IsPlainNumber r.minValue ∧ IsPlainNumber r.maxValue)
    (started : Float) : (create z started).IsPlain where
  amounts id := by
    rcases amount_create z started id with h | ⟨e, -, h⟩
    · exact .inr (.inl h)
    · exact .inl ⟨_, h⟩
  bounds := hbounds

/-- A simulation can be begun, in the state in which the player sits down to it. -/
lemma exists_begun_create (hkind : c.kind = .simulation)
    (hbounds : ∀ r ∈ z.resources, IsPlainNumber r.minValue ∧ IsPlainNumber r.maxValue)
    (hT : Steady T) (dice : Dice) (hfair : Dice.IsFair z.events.length dice.throws) (plain : Bool)
    (hints : Int) (circumstances : Rules.Circumstances) :
    ∃ w, Rehearsal.create c (.simulation z) dice plain hints circumstances = .ok w ∧
      (enter.runIn w).1 = .ok () ∧
      ∃ p, (w.rehearsed []).Stands .simulation c p ∧ Sound c z T p ∧ p.1 = create z 0 := by
  have hsit : (Player.sitDown c (.simulation z) 0).runIn dice =
      (.ok (.simulation (create z 0)), dice) := by
    unfold Player.sitDown
    rw [hkind]
    rfl
  have hsound : Sound c z T (create z 0, ⟨0, [], none, dice.throws⟩) := {
    clock := hT.zero
    started := hT.zero
    running := rfl
    fair := hfair
    presented := rfl
    plain := isPlain_create hbounds 0
    ended := nofun
    answered := ⟨0, rfl⟩ }
  exact exists_begun (y := pure ())
    (Q := fun p : Stage SimulationSitting => Sound c z T p ∧ p.1 = create z 0)
    hsit rfl (yields_pure ⟨hsound, rfl⟩) plain hints circumstances

/-- The setting of a simulation. -/
def workshop : Setting :=
  ⟨"s1", .simulation,
    ⟨"simulation", [], 0, 0, true, true, true, 3, 0, false, "immediate", true⟩, 10, 5⟩

end Play.SimulationSitting

end LearningGame
