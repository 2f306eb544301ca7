import LearningGame.Proofs.Number.Units
import LearningGame.Proofs.Play.Simulating

/-!
# Resources within their bounds

Effects keep a resource within its bounds, but a cost is paid as long as there is enough of the
resource, whatever its minimum. So no resource ever exceeds its maximum, and one falls below its
minimum just when an action costs too much of it; the simulation is over then.
-/

namespace LearningGame

namespace Schema.Codec.IsPlainNumber

open Number

variable {n : Number} (h : IsPlainNumber n)

include h

/-- A plain number is worth what the float is that it stands for. -/
lemma floatUnits_nearest : floatUnits n.nearest = n.units := by
  rcases h with ⟨x, rfl⟩ | rfl | rfl | rfl
  · rfl
  all_goals decide +kernel

lemma isFinite_nearest (hn : n.IsFinite) : n.nearest.isFinite = true := by
  rcases h with ⟨x, rfl⟩ | rfl | rfl | rfl
  · exact hn
  all_goals decide +kernel

end Schema.Codec.IsPlainNumber

namespace Play.SimulationSitting

open Content Schema Script Rehearsal Number
open Schema.Codec (IsPlainNumber)

variable {c : Setting} {z : Simulation} {T : Float → Prop} {s t : SimulationSitting}
  {p q : Stage SimulationSitting} {e : String × Resource}

/-! ### Bounds -/

/-- What is between finite bounds is finite, and is between them. -/
lemma clamp_bounds {low high : Number} (hlow : low.IsFinite) (hhigh : high.IsFinite)
    (hle : low.units ≤ high.units) (n : Number) :
    (clamp (low, high) n).IsFinite ∧ low.units ≤ (clamp (low, high) n).units ∧
      (clamp (low, high) n).units ≤ high.units := by
  unfold clamp
  dsimp only
  by_cases habove : n.less high = true
  · rw [if_pos habove]
    by_cases hbelow : low.less n = true
    · have hn : n.IsFinite := isFinite_of_less hbelow habove
      rw [less_iff hn hhigh] at habove
      rw [less_iff hlow hn] at hbelow
      rw [if_pos ((less_iff hlow hn).2 hbelow)]
      exact ⟨hn, by omega, by omega⟩
    · rw [if_neg hbelow]
      exact ⟨hlow, Int.le_refl _, hle⟩
  · rw [if_neg habove]
    split_ifs
    · exact ⟨hhigh, hle, Int.le_refl _⟩
    · exact ⟨hlow, Int.le_refl _, hle⟩

/-- What is left of an amount after a cost that it covers. -/
lemma cost_bounds {n : Number} (hplain : IsPlainNumber n) (hn : n.IsFinite) {cost : Float}
    (hcost : cost.isFinite = true) (hpos : 0 ≤ floatUnits cost) (hle : floatUnits cost ≤ n.units) :
    (Number.float (n.nearest - cost)).IsFinite ∧ 0 ≤ (Number.float (n.nearest - cost)).units ∧
      (Number.float (n.nearest - cost)).units ≤ n.units := by
  have hunits := hplain.floatUnits_nearest
  obtain ⟨hfinite, hlow, hhigh⟩ :=
    sub_bounds (hplain.isFinite_nearest hn) hcost hpos (by omega)
  exact ⟨hfinite, hlow, by rw [← hunits]; exact hhigh⟩

lemma declared_eq (h : s.content = t.content) : s.declared = t.declared :=
  congrArg (fun z : Simulation => Catalogue.ofList Resource.id z.resources) h

/-- A resource is within its bounds. -/
def IsWithin (s : SimulationSitting) (e : String × Resource) : Prop :=
  e.2.minValue.atMost (amount s.resources e.1) = true ∧
    (amount s.resources e.1).atMost e.2.maxValue = true

/-- An action takes a resource below its minimum, and brings none of it. -/
def Overspends (s : SimulationSitting) (a : SimAction) (e : String × Resource) : Prop :=
  e.1 ∉ a.effects.map Prod.fst ∧ ∃ cost left, (e.1, cost) ∈ a.cost ∧
    (amount s.resources e.1).sub (.float cost) = .ok left ∧ e.2.minValue.atMost left = false

/-- A cue is an action that is performed and takes a resource below its minimum. -/
def Overdraws (w : Rehearsal) (cue : Cue) (e : String × Resource) : Prop :=
  ∃ s id a, w.player = .simulation s ∧ cue = .move (.perform id) ∧
    w.Gives (.perform id) (.bool true) ∧ s.action? id = some a ∧ s.Overspends a e

/-- All numbers of a simulation are finite, its resources start within their bounds, which are not
crossed, and its actions cost nothing negative, nor the same resource twice. -/
structure IsSolvent (z : Simulation) : Prop where
  plain : ∀ r ∈ z.resources, IsPlainNumber r.minValue ∧ IsPlainNumber r.maxValue
  finite : ∀ r ∈ z.resources, r.minValue.IsFinite ∧ r.maxValue.IsFinite
  ordered : ∀ r ∈ z.resources, r.minValue.atMost r.maxValue = true
  initial : ∀ e ∈ z.initialState.resources, e.2.isFinite = true
  starts : ∀ e ∈ (create z 0).declared, (create z 0).IsWithin e
  names : ∀ a ∈ z.actions, (a.cost.map Prod.fst).Nodup
  costs : ∀ a ∈ z.actions, ∀ e ∈ a.cost,
    e.2.isFinite = true ∧ (Number.int 0).atMost (.float e.2) = true

namespace IsSolvent

variable (hz : IsSolvent s.content)

include hz

lemma finite_of_mem (he : e ∈ s.declared) : e.2.minValue.IsFinite ∧ e.2.maxValue.IsFinite :=
  hz.finite _ (Catalogue.mem_ofList he).2

lemma le_of_mem (he : e ∈ s.declared) : e.2.minValue.units ≤ e.2.maxValue.units := by
  obtain ⟨hmin, hmax⟩ := hz.finite_of_mem he
  exact (atMost_iff hmin hmax).1 (hz.ordered _ (Catalogue.mem_ofList he).2)

/-- Effects bring a resource within its bounds. -/
lemma clamp_bounds (he : e ∈ s.declared) (n : Number) :
    (clamp (s.bounds e.1) n).IsFinite ∧ e.2.minValue.units ≤ (clamp (s.bounds e.1) n).units ∧
      (clamp (s.bounds e.1) n).units ≤ e.2.maxValue.units := by
  obtain ⟨hmin, hmax⟩ := hz.finite_of_mem he
  have hfind : s.declared.find? e.1 = some e.2 :=
    Catalogue.find?_of_mem Catalogue.nodup_ids_ofList he
  have hbounds : s.bounds e.1 = (e.2.minValue, e.2.maxValue) := by rw [bounds, hfind]
  rw [hbounds]
  exact SimulationSitting.clamp_bounds hmin hmax (hz.le_of_mem he) n

lemma cost_of_mem {a : SimAction} (ha : a ∈ s.content.actions) {id : String} {cost : Float}
    (hcost : (id, cost) ∈ a.cost) : cost.isFinite = true ∧ 0 ≤ floatUnits cost := by
  obtain ⟨hfinite, hpos⟩ := hz.costs a ha _ hcost
  refine ⟨hfinite, ?_⟩
  have hunits := (atMost_iff (a := .int 0) (b := .float cost) trivial hfinite).1 hpos
  rwa [units, Int.zero_mul] at hunits

end IsSolvent

/-! ### What effects and costs do to an amount -/

lemma amount_foldl_of_notMem {f : SimulationSitting → String × Float → SimulationSitting}
    {id : String} (hf : ∀ s e, e.1 ≠ id → amount (f s e).resources id = amount s.resources id)
    {es : Amounts} (hnot : id ∉ es.map Prod.fst) (s : SimulationSitting) :
    amount (es.foldl f s).resources id = amount s.resources id := by
  induction es generalizing s with
  | nil => rfl
  | cons e rest ih =>
    rw [List.map_cons, List.mem_cons, not_or] at hnot
    rw [List.foldl_cons, ih hnot.2, hf s e (Ne.symm hnot.1)]

lemma amount_gain_of_ne {id : String} (s : SimulationSitting) (e : String × Float)
    (hne : e.1 ≠ id) : amount (s.gain e).resources id = amount s.resources id := by
  rw [gain, amount_put, if_neg hne]

lemma amount_spend_of_ne {id : String} (s : SimulationSitting) (e : String × Float)
    (hne : e.1 ≠ id) : amount (s.spend e).resources id = amount s.resources id := by
  rw [spend, amount_put, if_neg hne]

/-- The last effect on a resource brings it within its bounds. -/
lemma exists_amount_foldl_gain {id : String} {es : Amounts} (hmem : id ∈ es.map Prod.fst)
    (s : SimulationSitting) :
    ∃ n, amount (es.foldl gain s).resources id = clamp (s.bounds id) n := by
  induction es generalizing s with
  | nil => exact absurd hmem List.not_mem_nil
  | cons e rest ih =>
    by_cases hrest : id ∈ rest.map Prod.fst
    · exact ih hrest (s.gain e)
    · have hid : id = e.1 := (List.mem_cons.1 hmem).resolve_right hrest
      rw [List.foldl_cons, amount_foldl_of_notMem amount_gain_of_ne hrest, gain, amount_put,
        if_pos hid.symm, ← hid]
      exact ⟨_, rfl⟩

/-- What is left of a resource after a cost. -/
def remainder (s : SimulationSitting) (id : String) (cost : Float) : Number :=
  .float ((amount s.resources id).nearest - cost)

lemma amount_foldl_spend {id : String} {cost : Float} {es : Amounts}
    (hnames : (es.map Prod.fst).Nodup) (hmem : (id, cost) ∈ es) (s : SimulationSitting) :
    amount (es.foldl spend s).resources id = s.remainder id cost := by
  induction es generalizing s with
  | nil => exact absurd hmem List.not_mem_nil
  | cons e rest ih =>
    obtain ⟨hnew, hrest⟩ := List.nodup_cons.1 hnames
    rcases List.mem_cons.1 hmem with rfl | hmem
    · rw [List.foldl_cons, amount_foldl_of_notMem amount_spend_of_ne hnew, spend, amount_put,
        if_pos rfl, remainder]
    · have hne : e.1 ≠ id := fun h => hnew (h ▸ List.mem_map_of_mem hmem)
      rw [List.foldl_cons, ih hrest hmem, remainder, amount_spend_of_ne s e hne, remainder]

/-! ### Bounded amounts -/

/-- An amount is below the minimum. -/
def IsShort (n : Number) (r : Resource) : Prop := n.units < r.minValue.units

/-- No resource exceeds its maximum, and as long as there is no outcome none is below its
minimum. -/
structure Bounded (s : SimulationSitting) : Prop where
  finite : ∀ e ∈ s.declared, (amount s.resources e.1).IsFinite
  capped : ∀ e ∈ s.declared, (amount s.resources e.1).units ≤ e.2.maxValue.units
  kept : s.won = none → ∀ e ∈ s.declared, ¬IsShort (amount s.resources e.1) e.2

/-- An amount is finite, not above the maximum, and below the minimum just in some case. -/
def FallsIf (n : Number) (r : Resource) (short : Prop) : Prop :=
  n.IsFinite ∧ n.units ≤ r.maxValue.units ∧ (IsShort n r ↔ short)

namespace Bounded

section

variable (hb : s.Bounded)

include hb

lemma isWithin_iff (hz : IsSolvent s.content) (he : e ∈ s.declared) :
    s.IsWithin e ↔ ¬IsShort (amount s.resources e.1) e.2 := by
  obtain ⟨hmin, hmax⟩ := hz.finite_of_mem he
  have hfinite := hb.finite e he
  rw [IsWithin, atMost_iff hmin hfinite, atMost_iff hfinite hmax, IsShort, Int.not_lt]
  exact and_iff_left (hb.capped e he)

variable (hwon : s.won = none) (he : e ∈ s.declared)

include hwon he

/-- As long as there is no outcome, no amount is below its minimum. -/
lemma fallsIf_amount : FallsIf (amount s.resources e.1) e.2 False :=
  ⟨hb.finite e he, hb.capped e he, iff_of_false (hb.kept hwon e he) not_false⟩

variable (hz : IsSolvent s.content)

include hz

lemma fallsIf_foldl_gain (es : Amounts) :
    FallsIf (amount (es.foldl gain s).resources e.1) e.2 False := by
  by_cases hmem : e.1 ∈ es.map Prod.fst
  · obtain ⟨n, hn⟩ := exists_amount_foldl_gain hmem s
    obtain ⟨hfinite, hlow, hhigh⟩ := hz.clamp_bounds he n
    rw [FallsIf, hn]
    exact ⟨hfinite, hhigh, iff_of_false (Int.not_lt.2 hlow) not_false⟩
  · rw [amount_foldl_of_notMem amount_gain_of_ne hmem]
    exact hb.fallsIf_amount hwon he

end

section

variable (hb : s.Bounded) (hz : IsSolvent s.content) (hs : s.IsPlain) (he : e ∈ s.declared)
  {a : SimAction} (ha : a ∈ s.content.actions) (hcan : s.canPerform a = true)

include hb hz hs he ha hcan

/-- What is left of an amount after a cost of an action that can be performed. -/
lemma remainder_bounds {cost : Float} (hcost : (e.1, cost) ∈ a.cost) :
    (s.remainder e.1 cost).IsFinite ∧ 0 ≤ (s.remainder e.1 cost).units ∧
      (s.remainder e.1 cost).units ≤ (amount s.resources e.1).units := by
  obtain ⟨hfinite, hpos⟩ := hz.cost_of_mem ha hcost
  refine cost_bounds (hs.amounts e.1) (hb.finite e he) hfinite hpos ?_
  unfold canPerform at hcan
  have hafford := List.all_eq_true.1 (Bool.and_eq_true _ _ ▸ hcan).2 _ hcost
  exact (atMost_iff (a := .float cost) hfinite (hb.finite e he)).1 hafford

lemma overspends_iff (hnot : e.1 ∉ a.effects.map Prod.fst) : s.Overspends a e ↔
    ∃ cost, (e.1, cost) ∈ a.cost ∧ IsShort (s.remainder e.1 cost) e.2 := by
  obtain ⟨hmin, -⟩ := hz.finite_of_mem he
  have hless {cost : Float} (hcost : (e.1, cost) ∈ a.cost) :
      e.2.minValue.atMost (s.remainder e.1 cost) = false ↔ IsShort (s.remainder e.1 cost) e.2 := by
    obtain ⟨hfinite, -, -⟩ := hb.remainder_bounds hz hs he ha hcan hcost
    rw [← Bool.not_eq_true, atMost_iff hmin hfinite, Int.not_le, IsShort]
  constructor
  · rintro ⟨-, cost, left, hcost, hleft, hshort⟩
    rw [(hs.amounts e.1).sub] at hleft
    cases hleft
    exact ⟨cost, hcost, (hless hcost).1 hshort⟩
  · rintro ⟨cost, hcost, hshort⟩
    exact ⟨hnot, cost, _, hcost, (hs.amounts e.1).sub cost, (hless hcost).2 hshort⟩

/-- Performing an action takes a resource below its minimum just if it overspends. -/
lemma fallsIf_enacted (hwon : s.won = none) :
    FallsIf (amount (s.enacted a).resources e.1) e.2 (s.Overspends a e) := by
  change FallsIf (amount (a.effects.foldl gain (a.cost.foldl spend s)).resources e.1) e.2 _
  -- effects come last, so that what is paid matters only to resources that they leave alone
  by_cases heffect : e.1 ∈ a.effects.map Prod.fst
  · obtain ⟨n, hn⟩ := exists_amount_foldl_gain heffect (a.cost.foldl spend s)
    obtain ⟨h, hpaid⟩ := foldl_resources (f := spend) (fun _ _ => ⟨_, rfl⟩) a.cost s
    have hbounds : (a.cost.foldl spend s).bounds e.1 = s.bounds e.1 := by rw [hpaid]; rfl
    obtain ⟨hfinite, hlow, hhigh⟩ := hz.clamp_bounds he n
    rw [FallsIf, hn, hbounds]
    exact ⟨hfinite, hhigh, iff_of_false (Int.not_lt.2 hlow) fun h => h.1 heffect⟩
  · rw [FallsIf, amount_foldl_of_notMem amount_gain_of_ne heffect,
      hb.overspends_iff hz hs he ha hcan heffect]
    by_cases hmem : e.1 ∈ a.cost.map Prod.fst
    · obtain ⟨⟨id, cost⟩, hcost, hid⟩ := List.mem_map.1 hmem
      obtain rfl : id = e.1 := hid
      obtain ⟨hfinite, -, hle⟩ := hb.remainder_bounds hz hs he ha hcan hcost
      have hnames := hz.names a ha
      rw [amount_foldl_spend hnames hcost]
      refine ⟨hfinite, Int.le_trans hle (hb.capped e he), fun h => ⟨cost, hcost, h⟩, ?_⟩
      rintro ⟨cost', hcost', hshort⟩
      rwa [← amount_foldl_spend hnames hcost s, amount_foldl_spend hnames hcost']
    · rw [amount_foldl_of_notMem amount_spend_of_ne hmem]
      refine ⟨hb.finite e he, hb.capped e he, iff_of_false (hb.kept hwon e he) ?_⟩
      rintro ⟨cost, hcost, -⟩
      exact hmem (List.mem_map_of_mem hcost)

/-- A resource whose minimum is not above zero is never overspent. -/
lemma not_overspends (hmin : e.2.minValue.atMost (.int 0) = true) : ¬s.Overspends a e := by
  intro h
  obtain ⟨cost, hcost, hshort⟩ := (hb.overspends_iff hz hs he ha hcan h.1).1 h
  obtain ⟨-, hpos, -⟩ := hb.remainder_bounds hz hs he ha hcan hcost
  have hzero := (atMost_iff (b := .int 0) (hz.finite_of_mem he).1 trivial).1 hmin
  rw [show (Number.int 0).units = 0 from Int.zero_mul _] at hzero
  exact absurd (Int.le_trans hzero hpos) (Int.not_le.2 hshort)

end

end Bounded

/-! ### Moves -/

lemma Closes.resources_eq (h : Closes c s x q) : q.1.resources = s.resources := by
  obtain ⟨completed, broken, heq⟩ := exists_assessed s
  cases h with
  | undecided => rw [heq]
  | decided time => rw [heq]

lemma FallsIf.congr {n : Number} {r : Resource} {short short' : Prop} (hfalls : FallsIf n r short)
    (hiff : short ↔ short') : FallsIf n r short' :=
  ⟨hfalls.1, hfalls.2.1, hfalls.2.2.trans hiff⟩

namespace Deals

variable {m : Move} {a : Value} (h : Deals c p m a q) (hp : Sound c z T p) (hz : IsSolvent z)
  (hb : p.1.Bounded)

include h hp hz hb

/-- A resource is below its minimum after a move just if it was before, or an action has
overspent. -/
lemma fallsIf (he : e ∈ p.1.declared) :
    FallsIf (amount q.1.resources e.1) e.2 (IsShort (amount p.1.resources e.1) e.2 ∨
      ∃ id action, m = .perform id ∧ a = .bool true ∧ p.1.action? id = some action ∧
        p.1.Overspends action e) := by
  have hz' : IsSolvent p.1.content := hp.presented ▸ hz
  have hkept (hwon : p.1.won = none) : ¬IsShort (amount p.1.resources e.1) e.2 :=
    hb.kept hwon e he
  cases h with
  | @perform id action q hfree ha hcan hclose =>
    have hmem : action ∈ p.1.content.actions := Catalogue.mem_of_find?_ofList ha
    rw [hclose.resources_eq]
    refine (hb.fallsIf_enacted hz' hp.plain he hmem hcan hfree.2.1).congr ?_
    rw [or_iff_right (hkept hfree.2.1)]
    constructor
    · exact fun hover => ⟨id, action, rfl, rfl, ha, hover⟩
    · rintro ⟨id', action', hid, -, ha', hover⟩
      cases hid
      obtain rfl := Option.some.inj (ha.symm.trans ha')
      exact hover
  | resolve hevent hnext =>
    obtain ⟨reports, -, hclose⟩ := hnext
    have hwon := won_eq_none_of_pending? hevent
    rw [hclose.resources_eq]
    exact (hb.fallsIf_foldl_gain hwon he hz' _).congr (by simp [hkept hwon])
  | endTurn hfree hnext =>
    obtain ⟨reports, -, hclose⟩ := hnext
    rw [hclose.resources_eq]
    exact (hb.fallsIf_amount hfree.2.1 he).congr (by simp [hkept hfree.2.1])
  | reject | raise | blocked | unasked | unlock | leave | stay =>
    exact ⟨hb.finite e he, hb.capped e he, (or_iff_left (by simp)).symm⟩

/-- An action that is performed and a turn that is completed leave no resource at its minimum
without an outcome; other moves leave the amounts as they are. -/
lemma bounded : q.1.Bounded := by
  have hdeclared : q.1.declared = p.1.declared :=
    declared_eq ((hp.deals h).presented.trans hp.presented.symm)
  have hfalls (e : String × Resource) (he : e ∈ q.1.declared) :=
    h.fallsIf hp hz hb (hdeclared ▸ he)
  refine ⟨fun e he => (hfalls e he).1, fun e he => (hfalls e he).2.1, fun hnone e he => ?_⟩
  obtain ⟨hfinite, -, hshort⟩ := hfalls e he
  -- a resource at its minimum would have decided the outcome, had the objectives been looked at
  by_cases hdecides : (∃ id, m = .perform id ∧ a = .bool true) ∨ EndsTurn p.1 m a
  · have hundecided : q.1.outcome? = none := (h.won_eq.1 hdecides).symm.trans hnone
    have hsupplied := (outcome?_eq_none_iff.1 hundecided).supplied e he
    have hmin := (hz.finite _ ((hp.deals h).presented ▸ (Catalogue.mem_ofList he).2)).1
    rw [← Bool.not_eq_true, atMost_iff hfinite hmin] at hsupplied
    exact fun hless => hsupplied (Int.le_of_lt hless)
  · have hwon : p.1.won = none := (h.won_eq.2 hdecides).symm.trans hnone
    intro hless
    rcases hshort.1 hless with hbefore | ⟨id, action, hm, ha, -⟩
    · exact hb.kept hwon e (hdeclared ▸ he) hbefore
    · exact hdecides (.inl ⟨id, hm, ha⟩)

end Deals

/-- A simulation whose resources start within their bounds goes on from one stage that is sound and
bounded to the next. -/
lemma proceeds_bounded (hT : Steady T) (hz : IsSolvent z) :
    Proceeds .simulation c (Cue.Within T) (fun p => Sound c z T p ∧ p.1.Bounded) (Turn c) where
  follow hw hp hcue := (proceeds hT).follow hw hp.1 hcue
  sound {p q cue} hp hturn hcue := by
    refine ⟨(proceeds hT).sound hp.1 hturn hcue, ?_⟩
    cases hturn with
    | move h => exact h.bounded hp.1 hz hp.2
    | unknown | second | clock => exact hp.2

/-- Resources that start within their bounds are bounded. -/
lemma IsSolvent.bounded_create (hz : IsSolvent z) : (create z 0).Bounded := by
  have hfinite (e : String × Resource) : (amount (create z 0).resources e.1).IsFinite := by
    rcases amount_create z 0 e.1 with h | ⟨f, hf, h⟩
    · exact h ▸ trivial
    · exact h ▸ hz.initial f hf
  have hbounds {e : String × Resource} (he : e ∈ (create z 0).declared) :=
    hz.finite_of_mem (s := create z 0) he
  refine ⟨fun e _ => hfinite e, fun e he => ?_, fun _ e he => ?_⟩
  · exact (atMost_iff (hfinite e) (hbounds he).2).1 (hz.starts e he).2
  · exact Int.not_lt.2 ((atMost_iff (hbounds he).1 (hfinite e)).1 (hz.starts e he).1)

/-! ### Whole runs -/

/-- How the resources of a simulation keep within their bounds while cues of some sort are
followed. -/
structure Holding (z : Simulation) (T : Float → Prop) (w : Rehearsal) : Prop where
  standing : ∀ {cues}, (∀ cue ∈ cues, cue.Within T) →
    ∃ s, (w.rehearsed cues).player = .simulation s ∧ s.content = z
  /-- A resource is within its bounds just if no action that has been performed has taken it below
  its minimum. -/
  within_iff : ∀ {cues s e}, (∀ cue ∈ cues, cue.Within T) →
    (w.rehearsed cues).player = .simulation s → e ∈ s.declared →
    (s.IsWithin e ↔ ¬∃ before cue, before ++ [cue] <+: cues ∧ Overdraws (w.rehearsed before) cue e)
  /-- No resource exceeds its maximum. -/
  capped : ∀ {cues s e}, (∀ cue ∈ cues, cue.Within T) →
    (w.rehearsed cues).player = .simulation s → e ∈ s.declared →
    (amount s.resources e.1).atMost e.2.maxValue = true
  /-- As long as there is no outcome all resources are within their bounds. -/
  within_of_undecided : ∀ {cues s e}, (∀ cue ∈ cues, cue.Within T) →
    (w.rehearsed cues).player = .simulation s → e ∈ s.declared → s.won = none → s.IsWithin e
  /-- A resource whose minimum is not above zero is always within its bounds. -/
  within_of_nonpos : ∀ {cues s e}, (∀ cue ∈ cues, cue.Within T) →
    (w.rehearsed cues).player = .simulation s → e ∈ s.declared →
    e.2.minValue.atMost (.int 0) = true → s.IsWithin e

section

variable {w : Rehearsal} (hT : Steady T) (hz : IsSolvent z)
  (hw : (w.rehearsed []).Stands .simulation c p) (hp : Sound c z T p) (hb : p.1.Bounded)

include hT hw hp

/-- What an overdrawing cue does: an action that can be performed overspends. -/
lemma exists_overspends {cues : List Cue} {cue : Cue} (hcues : ∀ cue ∈ cues, cue.Within T)
    (hcue : cue.Within T) (hover : Overdraws (w.rehearsed cues) cue e)
    (hs : (w.rehearsed cues).player = .simulation s) :
    ∃ a ∈ s.content.actions, s.IsPlain ∧ s.canPerform a = true ∧ s.Overspends a e := by
  obtain ⟨s', id, a, hs', rfl, hgives, ha, hover⟩ := hover
  obtain rfl := Player.simulation.inj (hs.symm.trans hs')
  obtain ⟨q, r, hq, hsound, -, h⟩ := exists_after hT hw hp hcues hcue
  obtain rfl := hq.state_eq Player.simulation.inj hs
  refine ⟨a, Catalogue.mem_of_find?_ofList ha, hsound.plain, ?_, hover⟩
  rcases h with ⟨m, v, hm, hv, h⟩ | ⟨-, hnot, -⟩
  · cases hm
    obtain rfl := hv.unique hgives
    cases h with
    | perform _ ha' hcan =>
      obtain rfl := Option.some.inj (ha.symm.trans ha')
      exact hcan
  · exact absurd (.inl ⟨id, rfl, hgives⟩) hnot

include hz hb

/-- Every state that is reached is bounded. -/
lemma bounded_of_rehearsed {cues : List Cue} (hcues : ∀ cue ∈ cues, cue.Within T)
    (hs : (w.rehearsed cues).player = .simulation s) : s.content = z ∧ s.Bounded := by
  obtain ⟨q, hq, ⟨hsound, hbounded⟩, -⟩ := (proceeds_bounded hT hz).passes hw ⟨hp, hb⟩ hcues
  obtain rfl := hq.state_eq Player.simulation.inj hs
  exact ⟨hsound.presented, hbounded⟩

/-- A resource is below its minimum after a cue just if it was before, or the cue overdraws it. -/
lemma short_iff_of_concat {cues : List Cue} {cue : Cue} (hcues : ∀ cue ∈ cues, cue.Within T)
    (hcue : cue.Within T) (hs : (w.rehearsed cues).player = .simulation s)
    (ht : (w.rehearsed (cues ++ [cue])).player = .simulation t) (he : e ∈ s.declared) :
    IsShort (amount t.resources e.1) e.2 ↔
      IsShort (amount s.resources e.1) e.2 ∨ Overdraws (w.rehearsed cues) cue e := by
  obtain ⟨q, r, hq, hsound, hr, h⟩ := exists_after hT hw hp hcues hcue
  obtain rfl := hq.state_eq Player.simulation.inj hs
  obtain rfl := hr.state_eq Player.simulation.inj ht
  have hbounded := (bounded_of_rehearsed hT hz hw hp hb hcues hs).2
  rcases h with ⟨m, a, rfl, ha, h⟩ | ⟨hsame, hnot, -⟩
  · obtain ⟨-, -, hshort⟩ := h.fallsIf hsound hz hbounded he
    refine hshort.trans (or_congr_right ?_)
    constructor
    · rintro ⟨id, action, rfl, rfl, haction, hover⟩
      exact ⟨q.1, id, action, hs, rfl, ha, haction, hover⟩
    · rintro ⟨s', id, action, hs', hm, hgives, haction, hover⟩
      cases hm
      obtain rfl := Player.simulation.inj (hs.symm.trans hs')
      exact ⟨id, action, rfl, ha.unique hgives, haction, hover⟩
  · rw [hsame]
    refine (or_iff_left ?_).symm
    rintro ⟨-, id, -, -, hm, hgives, -⟩
    exact hnot (.inl ⟨id, hm, hgives⟩)

/-- A resource is below its minimum just if an action has overdrawn it. -/
lemma short_iff (hwon : p.1.won = none) {cues : List Cue} (hcues : ∀ cue ∈ cues, cue.Within T)
    (hs : (w.rehearsed cues).player = .simulation s) (he : e ∈ s.declared) :
    IsShort (amount s.resources e.1) e.2 ↔
      ∃ before cue, before ++ [cue] <+: cues ∧ Overdraws (w.rehearsed before) cue e := by
  induction cues using List.reverseRecOn generalizing s with
  | nil =>
    obtain rfl := hw.state_eq Player.simulation.inj hs
    refine iff_of_false (hb.kept hwon e he) ?_
    rintro ⟨before, cue, hinitial, -⟩
    simp at hinitial
  | append_singleton cues cue ih =>
    have hcues' : ∀ cue ∈ cues, cue.Within T := fun cue h => hcues cue (List.mem_append_left _ h)
    obtain ⟨q, hq, hsound, -⟩ := (proceeds hT).passes hw hp hcues'
    have hdeclared : q.1.declared = s.declared :=
      declared_eq (hsound.presented.trans (bounded_of_rehearsed hT hz hw hp hb hcues hs).1.symm)
    have he' : e ∈ q.1.declared := hdeclared ▸ he
    rw [short_iff_of_concat hT hz hw hp hb hcues' (hcues cue (by simp)) hq.player hs he',
      ih hcues' hq.player he']
    constructor
    · rintro (⟨before, earlier, hinitial, hover⟩ | hover)
      · exact ⟨before, earlier, hinitial.trans (List.prefix_append _ _), hover⟩
      · exact ⟨cues, cue, List.prefix_rfl, hover⟩
    · rintro ⟨before, earlier, hinitial, hover⟩
      rcases List.prefix_concat_iff.1 hinitial with heq | hinitial
      · obtain ⟨rfl, hlast⟩ := List.append_inj' heq rfl
        cases hlast
        exact .inr hover
      · exact .inl ⟨before, earlier, hinitial, hover⟩

end

/-- Whatever the player does and whatever the dice show, no resource ever exceeds its maximum, and
one is below its minimum just if an action has been performed that costs more of it than there was
above the minimum, and brings none of it. That ends the simulation, and it cannot happen to a
resource whose minimum is not above zero. -/
theorem holding_of_solvent (hkind : c.kind = .simulation) (hz : IsSolvent z) (hT : Steady T)
    (dice : Dice) (hfair : Dice.IsFair z.events.length dice.throws) (plain : Bool) (hints : Int)
    (circumstances : Rules.Circumstances) :
    ∃ w, Rehearsal.create c (.simulation z) dice plain hints circumstances = .ok w ∧
      Holding z T w := by
  obtain ⟨w, hw, -, p, hbegun, hp, hcreate⟩ :=
    exists_begun_create hkind hz.plain hT dice hfair plain hints circumstances
  have hb : p.1.Bounded := hcreate ▸ hz.bounded_create
  have hwon : p.1.won = none := hcreate ▸ rfl
  have hwithin {cues : List Cue} {s : SimulationSitting} {e : String × Resource}
      (hcues : ∀ cue ∈ cues, cue.Within T) (hs : (w.rehearsed cues).player = .simulation s)
      (he : e ∈ s.declared) :
      s.IsWithin e ↔
        ¬∃ before cue, before ++ [cue] <+: cues ∧ Overdraws (w.rehearsed before) cue e := by
    obtain ⟨hcontent, hbounded⟩ := bounded_of_rehearsed hT hz hbegun hp hb hcues hs
    rw [hbounded.isWithin_iff (hcontent ▸ hz) he, short_iff hT hz hbegun hp hb hwon hcues hs he]
  refine ⟨w, hw, ?_⟩
  exact {
    standing := fun hcues => by
      obtain ⟨q, hq, hsound, -⟩ := (proceeds hT).passes hbegun hp hcues
      exact ⟨q.1, hq.player, hsound.presented⟩
    within_iff := hwithin
    capped := fun hcues hs he => by
      obtain ⟨rfl, hbounded⟩ := bounded_of_rehearsed hT hz hbegun hp hb hcues hs
      exact (atMost_iff (hbounded.finite _ he) (hz.finite_of_mem he).2).2 (hbounded.capped _ he)
    within_of_undecided := fun hcues hs he hnone => by
      obtain ⟨rfl, hbounded⟩ := bounded_of_rehearsed hT hz hbegun hp hb hcues hs
      exact (hbounded.isWithin_iff hz he).2 (hbounded.kept hnone _ he)
    within_of_nonpos := fun {cues s e} hcues hs he hmin => by
      refine (hwithin hcues hs he).2 ?_
      rintro ⟨before, cue, hinitial, hover⟩
      have hfollowed : ∀ k ∈ before ++ [cue], k.Within T := fun k h =>
        hcues k (hinitial.subset h)
      have hbefore : ∀ k ∈ before, k.Within T := fun k h =>
        hfollowed k (List.mem_append_left _ h)
      obtain ⟨q, hq, -⟩ := (proceeds hT).passes hbegun hp hbefore
      obtain ⟨hcontent, hbounded⟩ := bounded_of_rehearsed hT hz hbegun hp hb hbefore hq.player
      obtain ⟨a, ha, hplain, hcan, hover⟩ :=
        exists_overspends hT hbegun hp hbefore (hfollowed cue (by simp)) hover hq.player
      have hdeclared : q.1.declared = s.declared :=
        declared_eq (hcontent.trans (bounded_of_rehearsed hT hz hbegun hp hb hcues hs).1.symm)
      exact hbounded.not_overspends (hcontent ▸ hz) hplain (hdeclared ▸ he) ha hcan hmin hover }

/-- Gold that must not fall below ten. -/
def reserve : Resource := ⟨"gold", "Gold", "", .float 20, .float 10, .float 100, ""⟩

/-- Buying something for gold. -/
def purchase : SimAction := ⟨"buy", "Buy", "", "", [("gold", 15)], [], none, 0⟩

/-- A simulation in which work brings gold, and something can be bought for it. -/
def shop : Simulation :=
  ⟨⟨0, [("gold", 20)], [], [], []⟩, [reserve],
    [⟨"work", "Work", "", "", [], [("gold", 5)], none, 0⟩, purchase], [], [], 10⟩

lemma isSolvent_shop : IsSolvent shop where
  plain := by
    intro r hr
    obtain rfl := List.mem_singleton.1 hr
    exact ⟨.inl ⟨_, rfl⟩, .inl ⟨_, rfl⟩⟩
  finite := by
    intro r hr
    obtain rfl := List.mem_singleton.1 hr
    exact ⟨rfl, rfl⟩
  ordered := by decide +kernel
  initial := by decide +kernel
  starts := by
    unfold IsWithin
    decide +kernel
  names := by decide +kernel
  costs := by decide +kernel

/-- Buying something at once costs more gold than there is above the minimum. -/
theorem holding_of_shop :
    IsSolvent shop ∧ Dice.IsFair shop.events.length (fun _ => 0) ∧
    ∃ w, Rehearsal.create workshop (.simulation shop) ⟨fun _ => 0, 0⟩ true 3 nothing = .ok w ∧
      Holding shop (fun t => t = 0 ∨ t = 1) w ∧
      Overdraws (w.rehearsed []) (.move (.perform "buy")) ("gold", reserve) := by
  have hfair : Dice.IsFair shop.events.length (fun _ => 0) := fun _ _ hpos hle =>
    absurd (Nat.lt_of_lt_of_le hpos hle) (Nat.lt_irrefl 0)
  obtain ⟨w, hw, hholding⟩ := holding_of_solvent (c := workshop) rfl isSolvent_shop
    steady_zero_or_one ⟨fun _ => 0, 0⟩ hfair true 3 nothing
  refine ⟨isSolvent_shop, hfair, w, hw, hholding, ?_⟩
  cases hw
  refine ⟨_, "buy", purchase, rfl, rfl, ⟨_, rfl, rfl⟩, rfl, List.not_mem_nil, 15, _,
    List.mem_cons_self, rfl, ?_⟩
  decide +kernel

/-- There is less than ten gold left after something has been bought. -/
theorem not_isWithin_of_shop :
    IsSolvent shop ∧ Dice.IsFair shop.events.length (fun _ => 0) ∧
    ∃ w s, Rehearsal.create workshop (.simulation shop) ⟨fun _ => 0, 0⟩ true 3 nothing = .ok w ∧
      (w.rehearsed [.move (.perform "buy")]).player = .simulation s ∧
      ("gold", reserve) ∈ s.declared ∧ ¬s.IsWithin ("gold", reserve) := by
  have hfair : Dice.IsFair shop.events.length (fun _ => 0) := fun _ _ hpos hle =>
    absurd (Nat.lt_of_lt_of_le hpos hle) (Nat.lt_irrefl 0)
  refine ⟨isSolvent_shop, hfair, _, _, rfl, rfl, List.mem_cons_self, ?_⟩
  unfold IsWithin
  decide +kernel

end Play.SimulationSitting

end LearningGame
