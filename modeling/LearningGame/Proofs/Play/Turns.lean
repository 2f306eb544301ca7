import LearningGame.Proofs.Play.Diary

/-!
# Turns

A second is taken off the countdowns one after the other, as many as there were when it began. What
is done when one of them runs out may take out others before their turn, and may arm new ones,
whose first second is the next one.
-/

namespace LearningGame.Play

open Act Table

variable {α : Type}

/-! ### Arming -/

lemma Scope.find?_name (scope : Scope) : Scope.find? scope.name = some scope := by
  cases scope <;> decide

lemma int_atMost_int (a b : Int) : (Number.int a).atMost (.int b) = true ↔ a ≤ b := by
  rw [← Std.isLE_compare]
  simp only [Number.atMost, Number.less, Number.same, Number.compare?]
  cases compare a b <;> decide

/-- Whole seconds are only refused if there are none. -/
lemma Registry.arm?_int (r : Registry α) (name : String) (n : Int) (scope : Scope) (alarm : α) :
    r.arm? name (.int n) scope.name alarm =
      if n ≤ 0 then .error (.badDuration name (Value.int n).text)
      else .ok (r.arm name n scope alarm) := by
  have hnumber : (Value.int n).toNumber = .ok (.int n) := rfl
  simp only [Registry.arm?, hnumber, Except.bind, int_atMost_int, Scope.find?_name]
  split_ifs <;> rfl

namespace Diary

variable {due rest : List Nat} {w v : Diary α} {x : Incident} {c : Countdown α}

/-! ### Changes -/

/-- An incident in which no second goes by: the countdowns that it does not take out stay, and the
only new one is the one that it arms. -/
structure Effect (x : Incident) (w v : Diary α) : Prop where
  log : v.log = w.log ++ [x]
  sound : v.registry.Sound
  armed_le : w.registry.armed ≤ v.registry.armed
  silent : ∀ serial, x.calls serial = false
  timeless : x.isTick = false
  kept : ∀ c ∈ w.registry.countdowns, x.harms c.name c.scope = false → c ∈ v.registry.countdowns
  old : ∀ c ∈ v.registry.countdowns, (c ∈ w.registry.countdowns ∧ x.harms c.name c.scope = false) ∨
    (c.serial = w.registry.armed ∧ x = .armed c.serial c.name c.remaining c.scope)
  new : ∀ serial name seconds scope, x = .armed serial name seconds scope →
    serial = w.registry.armed ∧ 0 < seconds ∧ serial < v.registry.armed ∧
      ∃ c ∈ v.registry.countdowns, c.serial = serial ∧ c.name = name ∧ c.scope = scope ∧
        c.remaining = seconds

namespace Effect

lemma arm (h : w.registry.Sound) (name : String) {seconds : Int} (hpositive : 0 < seconds)
    (scope : Scope) (alarm : α) :
    Effect (.armed w.registry.armed name seconds scope) w
      (record (.armed w.registry.armed name seconds scope)
        (mapRegistry (fun r => r.arm name seconds scope alarm) w)) where
  log := rfl
  sound := h.arm name seconds scope alarm
  armed_le := Nat.le_succ _
  silent _ := rfl
  timeless := rfl
  kept c hc hunharmed := by
    refine (Registry.mem_place_iff h.distinct).2 (.inr ⟨hc, ?_⟩)
    simpa [Incident.harms] using hunharmed
  old c hc := by
    rcases (Registry.mem_place_iff h.distinct).1 hc with rfl | ⟨hc, hname⟩
    · exact .inr ⟨rfl, rfl⟩
    · refine .inl ⟨hc, ?_⟩
      simpa [Incident.harms] using hname
  new := by
    rintro serial name seconds scope ⟨⟩
    exact ⟨rfl, hpositive, Nat.lt_succ_self _, _, Registry.mem_place_self _ _, rfl, rfl, rfl, rfl⟩

/-- What only takes out the countdowns that it harms. -/
lemma of_filter (hsound : v.registry.Sound) (hlog : v.log = w.log ++ [x])
    (harmed : v.registry.armed = w.registry.armed) (hsilent : ∀ serial, x.calls serial = false)
    (htimeless : x.isTick = false)
    (hnew : ∀ serial name seconds scope, x ≠ .armed serial name seconds scope)
    (hmem : ∀ c, c ∈ v.registry.countdowns ↔
      c ∈ w.registry.countdowns ∧ x.harms c.name c.scope = false) : Effect x w v where
  log := hlog
  sound := hsound
  armed_le := Nat.le_of_eq harmed.symm
  silent := hsilent
  timeless := htimeless
  kept c hc hunharmed := (hmem c).2 ⟨hc, hunharmed⟩
  old c hc := .inl ((hmem c).1 hc)
  new serial name seconds scope hx := absurd hx (hnew serial name seconds scope)

/-- A change has an effect, unless it is refused. -/
lemma make (h : w.registry.Sound) (change : Change α) :
    Diary.make change w = w ∨ ∃ x, Effect x w (Diary.make change w) := by
  cases change with
  | arm name seconds scope alarm =>
    by_cases hpositive : seconds ≤ 0
    · left
      simp only [Diary.make, Registry.arm?_int, if_pos hpositive]
    · right
      refine ⟨.armed w.registry.armed name seconds scope, ?_⟩
      simp only [Diary.make, Registry.arm?_int, if_neg hpositive]
      exact arm h name (Int.not_le.1 hpositive) scope alarm
  | cancel name =>
    refine .inr ⟨.cancelled name, of_filter (h.cancel name) rfl rfl (fun _ => rfl) rfl
      (by simp) fun c => ?_⟩
    refine List.mem_filter.trans ?_
    simp [Incident.harms]
  | clear =>
    refine .inr ⟨.cleared, of_filter h.clear rfl rfl (fun _ => rfl) rfl
      (by simp) fun c => ?_⟩
    simp [Incident.harms, Diary.make, Registry.clear]
  | nextSection =>
    refine .inr ⟨.sectionOver, of_filter h.nextSection rfl rfl (fun _ => rfl) rfl
      (by simp) fun c => ?_⟩
    refine List.mem_filter.trans ?_
    simp [Incident.harms]
  | nextPhase =>
    refine .inr ⟨.playOver, of_filter h.nextPhase rfl rfl (fun _ => rfl) rfl
      (by simp) fun c => ?_⟩
    simp [Incident.harms, Diary.make, Registry.nextPhase]

end Effect

/-! ### What is known between two turns -/

/-- What becomes of the countdowns while those with some serial numbers are yet to have their turn:
a countdown is there just if the diary has it armed and its fate has it there. -/
structure Tracked (due : List Nat) (w : Diary α) : Prop where
  sound : w.registry.Sound
  due_lt : ∀ serial ∈ due, serial < w.registry.armed
  calls_lt : ∀ x ∈ w.log, ∀ serial, x.calls serial = true → serial < w.registry.armed
  armed : ∀ c ∈ w.registry.countdowns, ∃ past seconds since,
    w.log = past ++ .armed c.serial c.name seconds c.scope :: since
  fate : ∀ past serial name seconds scope since,
    w.log = past ++ .armed serial name seconds scope :: since →
      past.any (Incident.calls serial) = false ∧
        ∃ gone, Fate due w.registry serial name seconds scope since gone

namespace Tracked

lemma empty : Tracked [] (Diary.empty : Diary α) where
  sound := .empty
  due_lt := by rintro serial ⟨⟩
  calls_lt := by rintro x ⟨⟩
  armed := by rintro c ⟨⟩
  fate := by
    rintro past serial name seconds scope since h
    cases past <;> cases h

/-- What is known of a countdown that is there. -/
lemma of_mem (h : Tracked due w) (hc : c ∈ w.registry.countdowns) :
    ∃ past seconds since, w.log = past ++ .armed c.serial c.name seconds c.scope :: since ∧
      since.any (Incident.harms c.name c.scope) = false ∧ 0 < c.remaining ∧
      seconds - c.remaining + (if c.serial ∈ due then 1 else 0) =
        since.countP Incident.isTick := by
  obtain ⟨past, seconds, since, hlog⟩ := h.armed c hc
  obtain ⟨-, gone, hfate⟩ := h.fate _ _ _ _ _ _ hlog
  obtain ⟨hopen, hlt, -, -, hremaining, hticks⟩ := hfate.of_mem h.sound hc rfl
  refine ⟨past, seconds, since, hlog, hopen, by omega, ?_⟩
  rw [hticks]
  split_ifs <;> omega

/-- Something happens in which no second goes by. -/
lemma of_effect (h : Tracked due w) (hx : Effect x w v) : Tracked due v where
  sound := hx.sound
  due_lt serial hserial := Nat.lt_of_lt_of_le (h.due_lt serial hserial) hx.armed_le
  calls_lt y hy serial hcalls := by
    rw [hx.log] at hy
    rcases List.mem_append.1 hy with hy | hy
    · exact Nat.lt_of_lt_of_le (h.calls_lt y hy serial hcalls) hx.armed_le
    · rw [List.mem_singleton.1 hy, hx.silent serial] at hcalls
      cases hcalls
  armed c hc := by
    rcases hx.old c hc with ⟨hc, -⟩ | ⟨-, harmed⟩
    · obtain ⟨past, seconds, since, hlog⟩ := h.armed c hc
      exact ⟨past, seconds, since ++ [x], by simp [hx.log, hlog]⟩
    · exact ⟨w.log, c.remaining, [], by rw [hx.log, harmed]⟩
  fate past serial name seconds scope since hlog := by
    rw [hx.log] at hlog
    rcases append_eq_append_cons hlog with ⟨before, rfl, hnew⟩ | ⟨before, rfl, hbefore⟩
    · -- a countdown that is armed now has a number that has never been told anything
      obtain ⟨rfl, harmed, rfl⟩ : before = [] ∧ x = .armed serial name seconds scope ∧ since = [] := by
        cases before <;> simp_all
      rw [List.append_nil]
      obtain ⟨rfl, hpositive, hlt, hfound⟩ := hx.new _ _ _ _ harmed
      constructor
      · simp only [List.any_eq_false]
        intro y hy hcalls
        exact Nat.lt_irrefl _ (h.calls_lt y hy _ hcalls)
      · exact ⟨0, .new hpositive hlt hfound fun hdue => Nat.lt_irrefl _ (h.due_lt _ hdue)⟩
    · obtain ⟨hpast, gone, hfate⟩ := h.fate _ _ _ _ _ _ hbefore
      refine ⟨hpast, gone, hfate.append h.sound (by simp [hx.silent serial])
        (by simp [hx.timeless]) hx.armed_le ?_ ?_⟩
      · intro c hc hserial
        rcases hx.old c hc with ⟨hold, hunharmed⟩ | ⟨hnew, -⟩
        · exact ⟨hold, by simpa using hunharmed⟩
        · have := hfate.lt_armed
          omega
      · exact fun c hc _ hunharmed => hx.kept c hc (by simpa using hunharmed)

lemma make (h : Tracked due w) (change : Change α) : Tracked due (Diary.make change w) := by
  rcases Effect.make h.sound change with hsame | ⟨x, hx⟩
  · rw [hsame]
    exact h
  · exact h.of_effect hx

lemma makeAll (h : Tracked due w) (changes : List (Change α)) :
    Tracked due (Diary.makeAll changes w) := by
  induction changes generalizing w with
  | nil => exact h
  | cons change rest ih => exact ih (h.make change)

/-- A second begins to be taken off the countdowns that there are. -/
lemma begin (h : Tracked [] w) : Tracked w.registry.serials (record .ticked w) where
  sound := h.sound
  due_lt serial hserial := by
    obtain ⟨c, hc, rfl⟩ := List.mem_map.1 hserial
    exact h.sound.countdowns c hc
  calls_lt x hx serial hcalls := by
    rcases List.mem_append.1 hx with hx | hx
    · exact h.calls_lt x hx serial hcalls
    · rw [List.mem_singleton.1 hx] at hcalls
      cases hcalls
  armed c hc := by
    obtain ⟨past, seconds, since, hlog⟩ := h.armed c hc
    exact ⟨past, seconds, since ++ [.ticked], by simp [hlog]⟩
  fate past serial name seconds scope since hlog := by
    rcases append_eq_append_cons hlog with ⟨before, -, hnew⟩ | ⟨before, rfl, hbefore⟩
    · cases before <;> simp at hnew
    · obtain ⟨hpast, gone, hfate⟩ := h.fate _ _ _ _ _ _ hbefore
      exact ⟨hpast, gone, hfate.begin⟩

/-- A countdown that has been taken out has no turn. -/
lemma skip {serial : Nat} (h : Tracked (serial :: rest) w)
    (hgone : ∀ c ∈ w.registry.countdowns, c.serial ≠ serial) : Tracked rest w where
  sound := h.sound
  due_lt other hother := h.due_lt other (List.mem_cons_of_mem serial hother)
  calls_lt := h.calls_lt
  armed := h.armed
  fate past other name seconds scope since hlog := by
    obtain ⟨hpast, gone, hfate⟩ := h.fate past other name seconds scope since hlog
    refine ⟨hpast, gone, hfate.of_due fun c hc hother => ?_⟩
    have hne : other ≠ serial := hother ▸ hgone c hc
    simp [hne]

end Tracked

/-! ### A turn -/

/-- A second is taken off a countdown, and the countdown is taken out if it was the last one. -/
def strike (c : Countdown α) (w : Diary α) : Diary α :=
  let w := record (.second c.serial (c.remaining - 1)) (mapRegistry (fun r => r.step c) w)
  if c.remaining ≤ 1 then
    record (.expired c.serial) (write ⟨.debug, countdownSource, expiredNote c.name⟩
      (mapRegistry (fun r => r.cancel c.name) w))
  else w

lemma log_strike (c : Countdown α) (w : Diary α) : (strike c w).log = w.log ++ told c := by
  unfold strike told
  split_ifs <;> simp

lemma registry_strike (c : Countdown α) (w : Diary α) :
    (strike c w).registry =
      if c.remaining ≤ 1 then (w.registry.step c).cancel c.name else w.registry.step c := by
  unfold strike
  split_ifs <;> rfl

lemma sound_strike (h : w.registry.Sound) (hc : c ∈ w.registry.countdowns) :
    (strike c w).registry.Sound := by
  rw [registry_strike]
  split_ifs
  · exact (h.step hc).cancel c.name
  · exact h.step hc

lemma armed_strike (c : Countdown α) (w : Diary α) :
    (strike c w).registry.armed = w.registry.armed := by
  rw [registry_strike]
  split_ifs <;> rfl

/-- The turn of a countdown is nothing to others. -/
lemma mem_strike_of_ne {d : Countdown α} (h : w.registry.Sound) (hc : c ∈ w.registry.countdowns)
    (hserial : d.serial ≠ c.serial) :
    d ∈ (strike c w).registry.countdowns ↔ d ∈ w.registry.countdowns := by
  rw [registry_strike]
  split_ifs
  · refine List.mem_filter.trans ((and_congr_left' (Registry.mem_step_of_ne hserial)).trans ?_)
    refine and_iff_left_of_imp fun hd => ?_
    have hname : d.name ≠ c.name := fun hname => hserial (by rw [h.eq_of_name hd hc hname])
    simpa using hname
  · exact Registry.mem_step_of_ne hserial

/-- After its turn a countdown has one second less, unless that was the last one. -/
lemma mem_strike_self (hc : c ∈ w.registry.countdowns)
    (hleft : 1 < c.remaining) :
    { c with remaining := c.remaining - 1 } ∈ (strike c w).registry.countdowns := by
  rw [registry_strike, if_neg (Int.not_le.2 hleft)]
  exact Registry.mem_step_self hc

lemma serial_ne_of_mem_strike (h : w.registry.Sound) (hc : c ∈ w.registry.countdowns)
    (hleft : c.remaining ≤ 1) : ∀ d ∈ (strike c w).registry.countdowns, d.serial ≠ c.serial := by
  intro d hd hserial
  rw [registry_strike, if_pos hleft] at hd
  obtain ⟨hd, hname⟩ := List.mem_filter.1 hd
  have hsame := (h.step hc).eq_of_serial hd (Registry.mem_step_self hc) hserial
  rw [hsame] at hname
  simp at hname

/-- A countdown has its turn. -/
lemma Tracked.strike (h : Tracked (c.serial :: rest) w) (hrest : c.serial ∉ rest)
    (hc : c ∈ w.registry.countdowns) : Tracked rest (Diary.strike c w) where
  sound := sound_strike h.sound hc
  due_lt other hother := by
    rw [armed_strike]
    exact h.due_lt other (List.mem_cons_of_mem _ hother)
  calls_lt x hx serial hcalls := by
    rw [log_strike] at hx
    rw [armed_strike]
    rcases List.mem_append.1 hx with hx | hx
    · exact h.calls_lt x hx serial hcalls
    · rw [calls_of_mem_told c hx] at hcalls
      rw [← eq_of_beq hcalls]
      exact h.sound.countdowns c hc
  armed d hd := by
    rw [log_strike]
    by_cases hserial : d.serial = c.serial
    · have hleft : 1 < c.remaining := by
        by_contra hlast
        exact serial_ne_of_mem_strike h.sound hc (Int.not_lt.1 hlast) d hd hserial
      obtain rfl := (sound_strike h.sound hc).eq_of_serial hd (mem_strike_self hc hleft) hserial
      obtain ⟨past, seconds, since, hlog⟩ := h.armed c hc
      exact ⟨past, seconds, since ++ told c, by simp [hlog]⟩
    · obtain ⟨past, seconds, since, hlog⟩ :=
        h.armed d ((mem_strike_of_ne h.sound hc hserial).1 hd)
      exact ⟨past, seconds, since ++ told c, by simp [hlog]⟩
  fate past other name seconds scope since hlog := by
    rw [log_strike] at hlog
    rcases append_eq_append_cons hlog with ⟨before, -, hnew⟩ | ⟨before, rfl, hbefore⟩
    · have hmem : .armed other name seconds scope ∈ told c := by simp [hnew]
      unfold told at hmem
      split_ifs at hmem <;> simp at hmem
    · obtain ⟨hpast, gone, hfate⟩ := h.fate _ _ _ _ _ _ hbefore
      refine ⟨hpast, ?_⟩
      have harmed := Nat.le_of_eq (armed_strike c w).symm
      by_cases hother : other = c.serial
      · subst hother
        exact ⟨gone + 1, hfate.call h.sound hc hrest harmed (serial_ne_of_mem_strike h.sound hc)
          (mem_strike_self hc)⟩
      · have hmem : ∀ d : Countdown α, d.serial = other →
            (d ∈ (Diary.strike c w).registry.countdowns ↔ d ∈ w.registry.countdowns) :=
          fun d hd => mem_strike_of_ne h.sound hc (hd ▸ hother)
        have hquiet : (told c).any (Incident.calls other) = false := by
          refine List.any_eq_false.2 fun x hx => ?_
          rw [calls_of_mem_told c hx]
          simpa using Ne.symm hother
        refine ⟨gone, (hfate.append h.sound hquiet (countP_isTick_told c) harmed ?_ ?_).of_due ?_⟩
        · exact fun d hd hserial => ⟨(hmem d hserial).1 hd, any_harms_told c _ _⟩
        · exact fun d hd hserial _ => (hmem d hserial).2 hd
        · simp [hother]

/-! ### One turn after the other -/

/-- A diary goes on without another second that begins, and tells something only to countdowns with
some serial numbers. -/
def Continues (serials : List Nat) (w v : Diary α) : Prop :=
  ∃ more, v.log = w.log ++ more ∧ more.countP Incident.isTick = 0 ∧
    ∀ serial ∉ serials, more.any (Incident.calls serial) = false

namespace Continues

variable {xs ys : List Nat} {u : Diary α}

lemma refl (w : Diary α) : Continues xs w w := ⟨[], by simp, rfl, fun _ _ => rfl⟩

lemma trans (huv : Continues xs u v) (hvw : Continues ys v w) : Continues (xs ++ ys) u w := by
  obtain ⟨first, hv, hfirst, hquiet⟩ := huv
  obtain ⟨second, hw, hsecond, hquiet'⟩ := hvw
  refine ⟨first ++ second, by rw [hw, hv, List.append_assoc], ?_, fun serial hserial => ?_⟩
  · rw [List.countP_append, hfirst, hsecond]
  · rw [List.mem_append, not_or] at hserial
    rw [List.any_append, hquiet serial hserial.1, hquiet' serial hserial.2]
    rfl

lemma of_effect (h : Effect x w v) : Continues [] w v :=
  ⟨[x], h.log, by simp [h.timeless], fun serial _ => by simp [h.silent serial]⟩

end Continues

lemma continues_makeAll (h : w.registry.Sound) (changes : List (Change α)) :
    Continues [] w (makeAll changes w) := by
  induction changes generalizing w with
  | nil => exact .refl w
  | cons change rest ih =>
    rcases Effect.make h change with hsame | ⟨x, hx⟩
    · simpa [makeAll, hsame] using ih h
    · exact (Continues.of_effect hx).trans (ih hx.sound)

section

variable (behaviour : List Incident → Countdown α → List (Change α))

/-- In its turn a countdown loses a second, and it is done what is done when it has run out. -/
lemma runIn_advance_bells (hc : w.registry.live? c.serial = some c) :
    ∃ expired, (advance (bells behaviour) c.serial).runIn w = (.ok expired,
      if c.remaining ≤ 1 then Diary.makeAll (behaviour (strike c w).log c) (strike c w)
      else strike c w) := by
  rw [runIn_advance (w := w) hc]
  have hleft : (w.registry.step c).left c = c.remaining - 1 := Registry.left_step _ c
  simp only [bells, runIn_modify_bind, runIn_get_bind, registryOf_eq, registry_record,
    registry_mapRegistry, hleft]
  by_cases hlast : c.remaining ≤ 1
  · refine ⟨some c.name, ?_⟩
    have hzero : c.remaining - 1 ≤ 0 := by omega
    simp only [if_pos hlast, if_pos hzero, Diary.strike]
    rfl
  · refine ⟨none, ?_⟩
    have hpositive : ¬c.remaining - 1 ≤ 0 := by omega
    simp only [if_neg hlast, if_neg hpositive, Diary.strike]
    rfl

namespace Tracked

/-- A countdown that is there has its turn. -/
lemma advance_of_mem (h : Tracked (c.serial :: rest) w) (hrest : c.serial ∉ rest)
    (hc : c ∈ w.registry.countdowns) :
    ∃ expired v more, (Table.advance (bells behaviour) c.serial).runIn w = (.ok expired, v) ∧
      Tracked rest v ∧ v.log = w.log ++ told c ++ more ∧ more.countP Incident.isTick = 0 ∧
      ∀ serial, more.any (Incident.calls serial) = false := by
  obtain ⟨expired, hrun⟩ := runIn_advance_bells behaviour (h.sound.live?_eq_some_iff.2 ⟨hc, rfl⟩)
  have hstruck := h.strike hrest hc
  have hlog := log_strike c w
  split_ifs at hrun with hlast
  · obtain ⟨more, hmore, hticks, hquiet⟩ :=
      continues_makeAll hstruck.sound (behaviour (Diary.strike c w).log c)
    refine ⟨expired, _, more, hrun, hstruck.makeAll _, by rw [hmore, hlog], hticks, ?_⟩
    exact fun serial => hquiet serial List.not_mem_nil
  · exact ⟨expired, _, [], hrun, hstruck, by rw [hlog, List.append_nil], rfl, fun _ => rfl⟩

/-- Each turn comes after the one before, and what is taken out has none. -/
lemma advance {serial : Nat} (h : Tracked (serial :: rest) w) (hrest : serial ∉ rest) :
    ∃ expired v, (Table.advance (bells behaviour) serial).runIn w = (.ok expired, v) ∧
      Tracked rest v ∧ Continues [serial] w v := by
  by_cases hthere : ∃ c ∈ w.registry.countdowns, c.serial = serial
  · obtain ⟨c, hc, rfl⟩ := hthere
    obtain ⟨expired, v, more, hrun, hv, hlog, hticks, hquiet⟩ :=
      h.advance_of_mem behaviour hrest hc
    refine ⟨expired, v, hrun, hv, told c ++ more, by rw [hlog, List.append_assoc], ?_, ?_⟩
    · rw [List.countP_append, countP_isTick_told, hticks]
    · intro other hother
      rw [List.any_append, hquiet other, Bool.or_false, List.any_eq_false]
      intro x hx
      have hne : other ≠ c.serial := by simpa using hother
      rw [calls_of_mem_told c hx]
      simpa using hne.symm
  · have hgone : ∀ c ∈ w.registry.countdowns, c.serial ≠ serial := by simpa using hthere
    exact ⟨none, w, runIn_advance_of_none (h.sound.live?_eq_none_iff.2 hgone), h.skip hgone,
      .refl w⟩

lemma advanceAll {serials : List Nat} (h : Tracked (serials ++ rest) w)
    (hnodup : (serials ++ rest).Nodup) :
    ∃ names v, (Table.advanceAll (bells behaviour) serials).runIn w = (.ok names, v) ∧
      Tracked rest v ∧ Continues serials w v := by
  induction serials generalizing w with
  | nil => exact ⟨[], w, rfl, h, .refl w⟩
  | cons serial others ih =>
    obtain ⟨hserial, hothers⟩ := List.nodup_cons.1 hnodup
    obtain ⟨expired, u, hone, hu, hfirst⟩ := h.advance behaviour hserial
    obtain ⟨names, v, hall, hv, hnext⟩ := ih hu hothers
    refine ⟨expired.toList ++ names, v, ?_, hv, hfirst.trans hnext⟩
    exact runIn_bind_eq_ok.2 ⟨expired, u, hone, runIn_bind_eq_ok.2 ⟨names, v, hall, rfl⟩⟩

lemma tick (h : Tracked [] w) : Tracked [] (Diary.tick behaviour w) := by
  have hbegun := h.begin
  rw [← List.append_nil w.registry.serials] at hbegun
  obtain ⟨names, v, hrun, hv, -⟩ := hbegun.advanceAll behaviour (by simpa using h.sound.nodup_serials)
  have hsame : Diary.tick behaviour w = v := congrArg Prod.snd hrun
  rw [hsame]
  exact hv

lemma after (inputs : List (Input α)) : Tracked [] (Diary.after behaviour inputs) := by
  refine List.foldlRecOn inputs (handle behaviour) .empty fun w hw input _ => ?_
  cases input with
  | change change => exact hw.make change
  | tick => exact hw.tick behaviour

end Tracked

end

/-! ### Countdowns -/

lemma tally_injective {serial one other : Nat} {seconds : Int} (hone : (one : Int) ≤ seconds)
    (hother : (other : Int) ≤ seconds) (h : tally serial seconds one = tally serial seconds other) :
    one = other := by
  have hlength := congrArg List.length h
  simp only [tally, List.length_append, List.length_map, List.length_range] at hlength
  split_ifs at hlength <;> simp at hlength <;> omega

namespace Tracked

/-- The seconds that are left to a name are those of a countdown that has been armed with it and has
not been taken out, less those that have begun since. -/
lemma remaining?_eq_some_iff (h : Tracked [] w) {name : String} {left : Int} :
    w.registry.remaining? name = some left ↔
      ∃ past serial seconds scope since,
        w.log = past ++ .armed serial name seconds scope :: since ∧
        since.any (Incident.harms name scope) = false ∧
        (since.countP Incident.isTick : Int) < seconds ∧
        left = seconds - since.countP Incident.isTick := by
  rw [h.sound.remaining?_eq_some_iff]
  constructor
  · rintro ⟨c, hc, rfl, rfl⟩
    obtain ⟨past, seconds, since, hlog, hopen, hpositive, hticks⟩ := h.of_mem hc
    simp only [List.not_mem_nil, if_false, Int.add_zero] at hticks
    exact ⟨past, c.serial, seconds, c.scope, since, hlog, hopen, by omega, by omega⟩
  · rintro ⟨past, serial, seconds, scope, since, hlog, hopen, hlt, rfl⟩
    obtain ⟨-, gone, hfate⟩ := h.fate _ _ _ _ _ _ hlog
    have hgone := hfate.gone_le_ticks
    obtain ⟨⟨c, hc, -, hname, -, hremaining⟩, hticks⟩ := hfate.live hopen (by omega)
    simp only [List.not_mem_nil, if_false, Nat.add_zero] at hticks
    exact ⟨c, hc, hname, by rw [hremaining, hticks]⟩

/-- A countdown has its turn just if it has not been taken out in the same second. -/
lemma advance_of_early {u : Diary α} (h : Tracked [] w)
    (behaviour : List Incident → Countdown α → List (Change α)) (hc : c ∈ w.registry.countdowns)
    (hu : Tracked (c.serial :: rest) u) (hrest : c.serial ∉ rest) {early : List Incident}
    (hlog : u.log = w.log ++ .ticked :: early)
    (hquiet : early.any (Incident.calls c.serial) = false) :
    ∃ expired v more, (Table.advance (bells behaviour) c.serial).runIn u = (.ok expired, v) ∧
      Tracked rest v ∧ v.log = u.log ++ more ∧
      if early.any (Incident.harms c.name c.scope) then more = []
      else ∃ next, more = told c ++ next ∧ next.any (Incident.calls c.serial) = false := by
  obtain ⟨past, seconds, since, hw, -⟩ := h.of_mem hc
  obtain ⟨-, gone, hfate⟩ := h.fate _ _ _ _ _ _ hw
  obtain ⟨hopen, hlt, -, -, hremaining, -⟩ := hfate.of_mem h.sound hc rfl
  obtain ⟨-, gone', hfate'⟩ := hu.fate past c.serial c.name seconds c.scope
    (since ++ .ticked :: early) (by simp [hlog, hw])
  have hgone : gone' = gone := by
    have hsame : tally c.serial seconds gone' = tally c.serial seconds gone := by
      rw [← hfate'.calls, ← hfate.calls, List.filter_append]
      simpa [Incident.calls] using hquiet
    exact tally_injective hfate'.gone_le hfate.gone_le hsame
  subst hgone
  split_ifs with hharmed
  · have hgone : ∀ d ∈ u.registry.countdowns, d.serial ≠ c.serial :=
      hfate'.ended (.inl (by simp [hharmed]))
    exact ⟨none, u, [], runIn_advance_of_none (hu.sound.live?_eq_none_iff.2 hgone), hu.skip hgone,
      by simp, rfl⟩
  · obtain ⟨⟨d, hd, hserial, -, -, hleft⟩, -⟩ :=
      hfate'.live (by simpa [hopen, Incident.harms] using hharmed) hlt
    have htold : told d = told c := by
      simp only [told, hserial, hleft, hremaining]
    rw [← hserial] at hu hrest ⊢
    obtain ⟨expired, v, more, hrun, hv, hmore, -, hnext⟩ := hu.advance_of_mem behaviour hrest hd
    refine ⟨expired, v, told c ++ more, hrun, hv, ?_, more, rfl, hnext _⟩
    rw [hmore, htold, List.append_assoc]

/-- What is done in a second before the turn of a countdown, and from its turn on: the countdown is
told something just if it has not been taken out before its turn. -/
lemma turn (h : Tracked [] w) (behaviour : List Incident → Countdown α → List (Change α))
    {before later : List (Countdown α)} (hcountdowns : w.registry.countdowns = before ++ c :: later) :
    ∃ early late,
      ((Table.advanceAll (bells behaviour) (before.map (·.serial))).runIn (record .ticked w)).2.log =
        w.log ++ .ticked :: early ∧
      (Diary.tick behaviour w).log = w.log ++ .ticked :: early ++ late ∧
      early.any (Incident.calls c.serial) = false ∧
      if early.any (Incident.harms c.name c.scope) then late.any (Incident.calls c.serial) = false
      else ∃ rest, late = told c ++ rest ∧ rest.any (Incident.calls c.serial) = false := by
  have hserials : w.registry.serials =
      before.map (·.serial) ++ c.serial :: later.map (·.serial) := by
    simp [Registry.serials, hcountdowns]
  have hnodup := h.sound.nodup_serials
  have hbegun := h.begin
  rw [hserials] at hnodup hbegun
  obtain ⟨-, hturns, hapart⟩ := List.nodup_append.1 hnodup
  obtain ⟨hlater, hothers⟩ := List.nodup_cons.1 hturns
  have hbefore : c.serial ∉ before.map (·.serial) :=
    fun hmem => hapart _ hmem _ List.mem_cons_self rfl
  obtain ⟨first, u, hfirst, hu, early, hearly, -, hquiet⟩ := hbegun.advanceAll behaviour hnodup
  have hearly : u.log = w.log ++ .ticked :: early := by simpa using hearly
  obtain ⟨expired, t, more, hone, ht, hmore, hturn⟩ := h.advance_of_early behaviour
    (by simp [hcountdowns]) hu hlater hearly (hquiet _ hbefore)
  obtain ⟨others, v, hrest, -, last, hlast, -, hquiet'⟩ :=
    (show Tracked (later.map (·.serial) ++ []) t by simpa using ht).advanceAll behaviour
      (by rwa [List.append_nil])
  have hrun : Diary.tick behaviour w = v := by
    have hturns : (Table.advanceAll (bells behaviour) (c.serial :: later.map (·.serial))).runIn u =
        (.ok (expired.toList ++ others), v) :=
      runIn_bind_eq_ok.2 ⟨expired, t, hone, runIn_bind_eq_ok.2 ⟨others, v, hrest, rfl⟩⟩
    have hall := runIn_advanceAll_append.2 ⟨first, u, _, hfirst, hturns, rfl⟩
    rw [← hserials] at hall
    exact congrArg Prod.snd hall
  refine ⟨early, more ++ last, ?_, ?_, hquiet _ hbefore, ?_⟩
  · rw [hfirst]
    exact hearly
  · simp [hrun, hlast, hmore, hearly]
  · have hsilent := hquiet' _ hlater
    split_ifs at hturn ⊢
    · rw [hturn]
      exact hsilent
    · obtain ⟨next, rfl, hnext⟩ := hturn
      refine ⟨next ++ last, List.append_assoc .., ?_⟩
      rw [List.any_append, hnext, hsilent]
      rfl

end Tracked

/-! ### Whatever is done -/

/-- What countdowns are told, and when. -/
structure Punctual (behaviour : List Incident → Countdown α → List (Change α)) (w : Diary α) :
    Prop where
  /-- The countdowns that are there are valid. -/
  valid : ∀ c ∈ w.registry.countdowns, w.registry.isCurrent c = true
  /-- They have been armed, have not been taken out since, and have lost every second that has begun
  since. -/
  armed : ∀ c ∈ w.registry.countdowns, ∃ past seconds since,
    w.log = past ++ .armed c.serial c.name seconds c.scope :: since ∧
    since.any (Incident.harms c.name c.scope) = false ∧
    c.remaining = seconds - since.countP Incident.isTick
  /-- Seconds are left just to the names of countdowns that have been armed, have not been taken out
  and have not run out. -/
  remaining : ∀ name left, w.registry.remaining? name = some left ↔
    ∃ past serial seconds scope since,
      w.log = past ++ .armed serial name seconds scope :: since ∧
      since.any (Incident.harms name scope) = false ∧
      (since.countP Incident.isTick : Int) < seconds ∧
      left = seconds - since.countP Incident.isTick
  /-- A countdown is told of the seconds that begin after it was armed, in their order, and that it
  has run out at the last one; it is told of all of them unless it is taken out, and after that of
  none. -/
  told : ∀ past serial name seconds scope since,
    w.log = past ++ .armed serial name seconds scope :: since →
    0 < seconds ∧ past.any (Incident.calls serial) = false ∧
    (∀ before x later, since = before ++ x :: later → x.harms name scope = true →
      later.any (Incident.calls serial) = false) ∧
    ∃ gone : Nat, since.filter (Incident.calls serial) = tally serial seconds gone ∧
      (gone : Int) ≤ min (since.countP Incident.isTick : Int) seconds ∧
      (since.any (Incident.harms name scope) = false →
        (gone : Int) = min (since.countP Incident.isTick : Int) seconds)
  /-- In the next second a countdown that is there is told that it loses it just if it has not been
  taken out when those before it have had their turns, and then it is told before anything else is
  done. -/
  turn : ∀ before c later, w.registry.countdowns = before ++ c :: later →
    ∃ early late,
      ((Table.advanceAll (bells behaviour) (before.map (·.serial))).runIn (record .ticked w)).2.log =
        w.log ++ .ticked :: early ∧
      (tick behaviour w).log = w.log ++ .ticked :: early ++ late ∧
      early.any (Incident.calls c.serial) = false ∧
      if early.any (Incident.harms c.name c.scope) then late.any (Incident.calls c.serial) = false
      else ∃ rest, late = Diary.told c ++ rest ∧ rest.any (Incident.calls c.serial) = false

/-- Countdowns are told what they should be, whatever is done with them from outside and when they
run out. -/
theorem punctual_of_after (behaviour : List Incident → Countdown α → List (Change α))
    (inputs : List (Input α)) : Punctual behaviour (after behaviour inputs) := by
  have h := Tracked.after behaviour inputs
  refine ⟨h.sound.valid, ?_, fun name left => h.remaining?_eq_some_iff, ?_,
    fun _ _ _ => h.turn behaviour⟩
  · intro c hc
    obtain ⟨past, seconds, since, hlog, hopen, -, hticks⟩ := h.of_mem hc
    refine ⟨past, seconds, since, hlog, hopen, ?_⟩
    simp only [List.not_mem_nil, if_false, Int.add_zero] at hticks
    omega
  · intro past serial name seconds scope since hlog
    obtain ⟨hpast, gone, hfate⟩ := h.fate past serial name seconds scope since hlog
    refine ⟨hfate.positive, hpast, ?_, gone, hfate.calls, ?_, hfate.gone_eq⟩
    · intro before x later hsince hharms
      simpa using hfate.silent before x later hsince hharms
    · have hticks := hfate.gone_le_ticks
      have hseconds := hfate.gone_le
      omega

/-- When the first of two countdowns runs out, the section is over and the first one is armed
again. -/
def breakOff (_ : List Incident) (c : Countdown Unit) : List (Change Unit) :=
  if c.name = "first" then [.nextSection, .arm "first" 1 .ofPlay ()] else []

/-- The second one, whose turn would be next, is told nothing, and the new one loses the next
second. -/
theorem punctual_of_breakOff :
    let w := after breakOff [.change (.arm "first" 1 .ofPlay ()),
      .change (.arm "second" 1 .ofSection ()), .change (.arm "third" 2 .ofPlay ()), .tick, .tick]
    Punctual breakOff w ∧
      w.log = [.armed 0 "first" 1 .ofPlay, .armed 1 "second" 1 .ofSection,
        .armed 2 "third" 2 .ofPlay, .ticked, .second 0 0, .expired 0, .sectionOver,
        .armed 3 "first" 1 .ofPlay, .second 2 1, .ticked, .second 2 0, .expired 2, .second 3 0,
        .expired 3, .sectionOver, .armed 4 "first" 1 .ofPlay] :=
  ⟨punctual_of_after _ _, by decide +kernel⟩

end Diary

end LearningGame.Play
