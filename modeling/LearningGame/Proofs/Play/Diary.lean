import LearningGame.Proofs.Play.Act
import LearningGame.Proofs.Play.Registry

/-!
# Diaries of countdowns

A diary keeps countdowns together with all that has happened to them. What is done when a countdown
runs out is free, and may depend on all that has happened before; what is done with every second
only takes down that it has gone by.
-/

namespace LearningGame.Play

open Act

/-- Something that happens to countdowns. -/
inductive Incident where
  | armed (serial : Nat) (name : String) (seconds : Int) (scope : Scope)
  | cancelled (name : String)
  | cleared
  | sectionOver
  | playOver
  /-- A second begins to be taken off the countdowns. -/
  | ticked
  /-- A countdown is told that a second has gone by, and how many are left. -/
  | second (serial : Nat) (left : Int)
  /-- A countdown is told that it has run out. -/
  | expired (serial : Nat)
  deriving DecidableEq

namespace Incident

/-- Whether a countdown is told something. -/
def calls (serial : Nat) : Incident → Bool
  | .second other _ | .expired other => other == serial
  | _ => false

/-- Whether a countdown of a name and a scope is taken out: it is cancelled, cleared away, replaced
by another one of its name, or its epoch is over. -/
def harms (name : String) (scope : Scope) : Incident → Bool
  | .armed _ other _ _ | .cancelled other => name == other
  | .sectionOver => scope == .ofSection
  | .cleared | .playOver => true
  | _ => false

def isTick : Incident → Bool
  | .ticked => true
  | _ => false

end Incident

/-- Something that is done with countdowns. -/
inductive Change (α : Type) where
  | arm (name : String) (seconds : Int) (scope : Scope) (alarm : α)
  | cancel (name : String)
  | clear
  | nextSection
  | nextPhase

/-- What comes to countdowns from outside: they are changed, or a second goes by. -/
inductive Input (α : Type) where
  | change (c : Change α)
  | tick

/-- Countdowns and what has happened to them, in that order. -/
structure Diary (α : Type) where
  table : Table α
  log : List Incident

variable {α : Type}

instance : Tabled (Diary α) α where
  table w := w.table
  setTable w t := { w with table := t }

namespace Diary

/-- A diary in which nothing has happened. -/
def empty : Diary α := ⟨.empty, []⟩

/-- The countdowns of a diary. -/
def registry (w : Diary α) : Registry α := w.table.registry

@[simp] lemma registryOf_eq (w : Diary α) : Table.registryOf w = w.registry := rfl

@[simp] lemma registry_mapRegistry (f : Registry α → Registry α) (w : Diary α) :
    (Table.mapRegistry f w).registry = f w.registry := rfl

@[simp] lemma log_mapRegistry (f : Registry α → Registry α) (w : Diary α) :
    (Table.mapRegistry f w).log = w.log := rfl

@[simp] lemma registry_write (note : Log.Record) (w : Diary α) :
    (Table.write note w).registry = w.registry := rfl

@[simp] lemma log_write (note : Log.Record) (w : Diary α) : (Table.write note w).log = w.log := rfl

/-- Take down that something has happened. -/
def record (x : Incident) (w : Diary α) : Diary α := { w with log := w.log ++ [x] }

@[simp] lemma registry_record (x : Incident) (w : Diary α) :
    (record x w).registry = w.registry := rfl

@[simp] lemma log_record (x : Incident) (w : Diary α) : (record x w).log = w.log ++ [x] := rfl

/-- Change the countdowns. To arm one for no time at all is refused. -/
def make (c : Change α) (w : Diary α) : Diary α :=
  match c with
  | .arm name seconds scope alarm =>
    match w.registry.arm? name (.int seconds) scope.name alarm with
    | .ok r =>
      record (.armed w.registry.armed name seconds scope) (Table.mapRegistry (fun _ => r) w)
    | .error _ => w
  | .cancel name => record (.cancelled name) (Table.mapRegistry (fun r => r.cancel name) w)
  | .clear => record .cleared (Table.mapRegistry Registry.clear w)
  | .nextSection => record .sectionOver (Table.mapRegistry Registry.nextSection w)
  | .nextPhase => record .playOver (Table.mapRegistry Registry.nextPhase w)

/-- Make several changes, one after the other. -/
def makeAll (cs : List (Change α)) (w : Diary α) : Diary α := cs.foldl (fun w c => make c w) w

section

-- What is done when a countdown has run out, after all that has happened.
variable (behaviour : List Incident → Countdown α → List (Change α))

/-- What countdowns do. -/
def bells : Table.Bells (Diary α) α where
  tick c left := modify (record (.second c.serial left))
  expire c := modify fun w =>
    let w := record (.expired c.serial) w
    makeAll (behaviour w.log c) w

/-- Let a second go by. -/
def tick (w : Diary α) : Diary α := ((Table.tick (bells behaviour)).runIn (record .ticked w)).2

/-- Something comes from outside. -/
def handle (w : Diary α) : Input α → Diary α
  | .change c => make c w
  | .tick => tick behaviour w

/-- All that has come from outside, one after the other, from the beginning. -/
def after (inputs : List (Input α)) : Diary α := inputs.foldl (handle behaviour) empty

end

/-! ### What a countdown is told -/

/-- What a countdown that was armed for some seconds has been told when so many have gone by. -/
def tally (serial : Nat) (seconds : Int) (gone : Nat) : List Incident :=
  (List.range gone).map (fun i => .second serial (seconds - (i + 1 : Nat))) ++
    if (gone : Int) = seconds then [.expired serial] else []

variable {serial gone : Nat} {seconds : Int}

lemma tally_zero (h : 0 < seconds) : tally serial seconds 0 = [] := by
  have hne : ¬(0 : Int) = seconds := by omega
  simp [tally, hne]

/-- A countdown is told that it loses a second, and that it has run out if it was the last one. -/
def told (c : Countdown α) : List Incident :=
  .second c.serial (c.remaining - 1) :: if c.remaining ≤ 1 then [.expired c.serial] else []

lemma tally_succ {c : Countdown α} (hpositive : 0 < c.remaining)
    (hremaining : c.remaining = seconds - gone) :
    tally c.serial seconds (gone + 1) = tally c.serial seconds gone ++ told c := by
  have hne : ¬(gone : Int) = seconds := by omega
  have hleft : c.remaining - 1 = seconds - (gone + 1 : Nat) := by omega
  have hlast : c.remaining ≤ 1 ↔ ((gone + 1 : Nat) : Int) = seconds := by omega
  simp only [tally, told, List.range_succ, List.map_append, if_neg hne, List.append_nil,
    List.append_assoc, List.map_cons, List.map_nil, List.cons_append, List.nil_append, hleft, hlast]

section

variable (c : Countdown α)

lemma calls_of_mem_told {x : Incident} (hx : x ∈ told c) (serial : Nat) :
    x.calls serial = (c.serial == serial) := by
  unfold told at hx
  split_ifs at hx <;> simp at hx
  · rcases hx with rfl | rfl <;> rfl
  · rw [hx]
    rfl

lemma countP_isTick_told : (told c).countP Incident.isTick = 0 := by
  unfold told
  split_ifs <;> rfl

lemma any_harms_told (name : String) (scope : Scope) :
    (told c).any (Incident.harms name scope) = false := by
  unfold told
  split_ifs <;> rfl

end

/-! ### What becomes of a countdown -/

/-- Something that is in a history that goes on happened either in what is new or before it. -/
lemma append_eq_append_cons {log xs past since : List Incident} {y : Incident}
    (h : log ++ xs = past ++ y :: since) :
    (∃ before, past = log ++ before ∧ xs = before ++ y :: since) ∨
      ∃ before, since = before ++ xs ∧ log = past ++ y :: before := by
  rcases List.append_eq_append_iff.1 h with hnew | ⟨before, hlog, hsince⟩
  · exact .inl hnew
  · cases before with
    | nil => exact .inl ⟨[], by simpa using hlog.symm, hsince.symm⟩
    | cons z before =>
      obtain ⟨rfl, htail⟩ := List.cons.inj hsince
      exact .inr ⟨before, htail, hlog⟩

/-- What has become of a countdown, by all that has happened since it was armed: it has been told
that so many seconds have gone by. -/
structure Fate (due : List Nat) (r : Registry α) (serial : Nat) (name : String) (seconds : Int)
    (scope : Scope) (since : List Incident) (gone : Nat) : Prop where
  positive : 0 < seconds
  lt_armed : serial < r.armed
  calls : since.filter (Incident.calls serial) = tally serial seconds gone
  gone_le : (gone : Int) ≤ seconds
  gone_le_ticks : gone ≤ since.countP Incident.isTick
  /-- A countdown that has been taken out or has run out is not there. -/
  ended : since.any (Incident.harms name scope) = true ∨ (gone : Int) = seconds →
    ∀ c ∈ r.countdowns, c.serial ≠ serial
  /-- Any other one is there, and has lost every second that has gone by, unless its turn is yet to
  come. -/
  live : since.any (Incident.harms name scope) = false → (gone : Int) < seconds →
    (∃ c ∈ r.countdowns, c.serial = serial ∧ c.name = name ∧ c.scope = scope ∧
      c.remaining = seconds - gone) ∧
    since.countP Incident.isTick = gone + if serial ∈ due then 1 else 0
  /-- A countdown that has been taken out is told nothing any more. -/
  silent : ∀ before x later, since = before ++ x :: later → x.harms name scope = true →
    ∀ y ∈ later, y.calls serial = false

namespace Fate

variable {due rest : List Nat} {r r' : Registry α} {name : String} {scope : Scope}
  {since xs : List Incident} {c : Countdown α}

/-- What is known of a countdown that is there. -/
lemma of_mem (h : Fate due r serial name seconds scope since gone) (hr : r.Sound)
    (hc : c ∈ r.countdowns) (hserial : c.serial = serial) :
    since.any (Incident.harms name scope) = false ∧ (gone : Int) < seconds ∧ c.name = name ∧
      c.scope = scope ∧ c.remaining = seconds - gone ∧
      since.countP Incident.isTick = gone + if serial ∈ due then 1 else 0 := by
  have hopen : since.any (Incident.harms name scope) = false := by
    by_contra hharmed
    exact h.ended (.inl (by simpa using hharmed)) c hc hserial
  have hlt : (gone : Int) < seconds := by
    by_contra hge
    have hend : (gone : Int) = seconds := by
      have := h.gone_le
      omega
    exact h.ended (.inr hend) c hc hserial
  obtain ⟨⟨d, hd, hdserial, hname, hscope, hremaining⟩, hticks⟩ := h.live hopen hlt
  obtain rfl : c = d := hr.eq_of_serial hc hd (hserial.trans hdserial.symm)
  exact ⟨hopen, hlt, hname, hscope, hremaining, hticks⟩

/-- A countdown has been armed. -/
lemma new (hpositive : 0 < seconds) (hlt : serial < r.armed)
    (hfound : ∃ c ∈ r.countdowns, c.serial = serial ∧ c.name = name ∧ c.scope = scope ∧
      c.remaining = seconds) (hdue : serial ∉ due) :
    Fate due r serial name seconds scope [] 0 where
  positive := hpositive
  lt_armed := hlt
  calls := (tally_zero hpositive).symm
  gone_le := Int.le_of_lt hpositive
  gone_le_ticks := Nat.le_refl 0
  ended hended := by
    rcases hended with hharmed | hended
    · cases hharmed
    · omega
  live _ _ := ⟨by simpa using hfound, by simp [hdue]⟩
  silent before x later hsince := by cases before <;> cases hsince

/-- A countdown that has been taken out is told nothing by what it is not told. -/
lemma silent_append (h : Fate due r serial name seconds scope since gone)
    (hnew : ∀ y ∈ xs, y.calls serial = false) :
    ∀ before x later, since ++ xs = before ++ x :: later → x.harms name scope = true →
      ∀ y ∈ later, y.calls serial = false := by
  intro before x later hsince hharms y hy
  rcases append_eq_append_cons hsince with ⟨between, -, rfl⟩ | ⟨between, rfl, hbefore⟩
  · exact hnew y (List.mem_append_right _ (List.mem_cons_of_mem _ hy))
  · rcases List.mem_append.1 hy with hy | hy
    · exact h.silent before x between hbefore hharms y hy
    · exact hnew y hy

/-- Things happen that a countdown is not told. -/
lemma append (h : Fate due r serial name seconds scope since gone) (hr : r.Sound)
    (hcalls : xs.any (Incident.calls serial) = false) (hticks : xs.countP Incident.isTick = 0)
    (harmed : r.armed ≤ r'.armed)
    (hold : ∀ c ∈ r'.countdowns, c.serial = serial →
      c ∈ r.countdowns ∧ xs.any (Incident.harms c.name c.scope) = false)
    (hkept : ∀ c ∈ r.countdowns, c.serial = serial →
      xs.any (Incident.harms c.name c.scope) = false → c ∈ r'.countdowns) :
    Fate due r' serial name seconds scope (since ++ xs) gone where
  positive := h.positive
  lt_armed := Nat.lt_of_lt_of_le h.lt_armed harmed
  calls := by
    rw [List.filter_append, h.calls, List.filter_eq_nil_iff.2, List.append_nil]
    exact List.any_eq_false.1 hcalls
  gone_le := h.gone_le
  gone_le_ticks := by
    rw [List.countP_append]
    exact Nat.le_add_right_of_le h.gone_le_ticks
  ended hended c hc hserial := by
    obtain ⟨hc, hunharmed⟩ := hold c hc hserial
    obtain ⟨hopen, hlt, rfl, rfl, -, -⟩ := h.of_mem hr hc hserial
    rcases hended with hharmed | hended
    · rw [List.any_append, hopen, hunharmed] at hharmed
      cases hharmed
    · omega
  live hopen hlt := by
    rw [List.any_append, Bool.or_eq_false_iff] at hopen
    obtain ⟨⟨c, hc, hserial, rfl, rfl, hremaining⟩, hticks'⟩ := h.live hopen.1 hlt
    refine ⟨⟨c, hkept c hc hserial hopen.2, hserial, rfl, rfl, hremaining⟩, ?_⟩
    rw [List.countP_append, hticks, hticks', Nat.add_zero]
  silent := h.silent_append (by simpa using hcalls)

/-- Between two seconds a countdown that has not been taken out has been told of all that have begun
since it was armed, up to the one with which it ran out. -/
lemma gone_eq (h : Fate [] r serial name seconds scope since gone)
    (hopen : since.any (Incident.harms name scope) = false) :
    (gone : Int) = min (since.countP Incident.isTick : Int) seconds := by
  have hgone := h.gone_le_ticks
  rcases Int.lt_or_eq_of_le h.gone_le with hlt | heq
  · obtain ⟨-, hticks⟩ := h.live hopen hlt
    simp only [List.not_mem_nil, if_false, Nat.add_zero] at hticks
    omega
  · omega

/-- Only the turn of a countdown that is there matters. -/
lemma of_due {due' : List Nat} (h : Fate due r serial name seconds scope since gone)
    (hdue : ∀ c ∈ r.countdowns, c.serial = serial → (serial ∈ due' ↔ serial ∈ due)) :
    Fate due' r serial name seconds scope since gone :=
  { h with
    live := fun hopen hlt => by
      obtain ⟨⟨c, hc, hserial, hfields⟩, hticks⟩ := h.live hopen hlt
      refine ⟨⟨c, hc, hserial, hfields⟩, ?_⟩
      simpa only [hdue c hc hserial] using hticks }

/-- A second begins to be taken off the countdowns that are there. -/
lemma begin (h : Fate [] r serial name seconds scope since gone) :
    Fate r.serials r serial name seconds scope (since ++ [.ticked]) gone where
  positive := h.positive
  lt_armed := h.lt_armed
  calls := by simp [Incident.calls, h.calls]
  gone_le := h.gone_le
  gone_le_ticks := by
    rw [List.countP_append]
    exact Nat.le_add_right_of_le h.gone_le_ticks
  ended hended := h.ended (by simpa [Incident.harms] using hended)
  live hopen hlt := by
    obtain ⟨hfound, hticks⟩ := h.live (by simpa [Incident.harms] using hopen) hlt
    refine ⟨hfound, ?_⟩
    obtain ⟨c, hc, rfl, -⟩ := hfound
    have hmem : c.serial ∈ r.serials := List.mem_map.2 ⟨c, hc, rfl⟩
    simpa [Incident.isTick, hmem] using hticks
  silent := h.silent_append (by simp [Incident.calls])

/-- A countdown loses a second in its turn, and is taken out if it was the last one. -/
lemma call (h : Fate (c.serial :: rest) r c.serial name seconds scope since gone) (hr : r.Sound)
    (hc : c ∈ r.countdowns) (hrest : c.serial ∉ rest) (harmed : r.armed ≤ r'.armed)
    (hended : c.remaining ≤ 1 → ∀ d ∈ r'.countdowns, d.serial ≠ c.serial)
    (hlive : 1 < c.remaining → { c with remaining := c.remaining - 1 } ∈ r'.countdowns) :
    Fate rest r' c.serial name seconds scope (since ++ told c) (gone + 1) := by
  obtain ⟨hopen, hlt, rfl, rfl, hremaining, hticks⟩ := h.of_mem hr hc rfl
  rw [if_pos List.mem_cons_self] at hticks
  have hunharmed : (since ++ told c).any (Incident.harms c.name c.scope) = false := by
    rw [List.any_append, hopen, any_harms_told, Bool.or_false]
  have hsame : (told c).filter (Incident.calls c.serial) = told c :=
    List.filter_eq_self.2 fun x hx => by simp [calls_of_mem_told c hx]
  refine ⟨h.positive, Nat.lt_of_lt_of_le h.lt_armed harmed, ?_, by omega, ?_, ?_, ?_, ?_⟩
  · rw [List.filter_append, h.calls, hsame, tally_succ (by omega) hremaining]
  · rw [List.countP_append, hticks]
    exact Nat.le_add_right _ _
  · rintro (hharmed | hend)
    · rw [hunharmed] at hharmed
      cases hharmed
    · exact hended (by omega)
  · intro _ hgone
    refine ⟨⟨_, hlive (by omega), rfl, rfl, rfl, ?_⟩, ?_⟩
    · change c.remaining - 1 = seconds - (gone + 1 : Nat)
      omega
    · rw [List.countP_append, hticks, countP_isTick_told, if_neg hrest]
  · intro before x later hsince hharmed
    rw [hsince] at hunharmed
    simp [hharmed] at hunharmed

end Fate

end Diary

end LearningGame.Play
