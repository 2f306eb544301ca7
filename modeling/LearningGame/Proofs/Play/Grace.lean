import LearningGame.Proofs.Play.LastLife

/-!
# The time that is granted

After the last life is lost a game goes on for the seconds that are granted, whatever is done in
them. A second that goes by is taken only off the countdowns that were there before, so the second
in which the last life is lost does not count.
-/

namespace LearningGame.Play

open Act Contract

/-- Whether a deed is a second that goes by. -/
def Deed.isTick : Deed → Bool
  | .tick => true
  | _ => false

namespace Session

variable {w v : Session} {serial number : Nat} {left seconds : Int}

/-! ### Seconds -/

/-- A second is taken off a countdown that was there before the last life could be lost. -/
lemma met_advance_watching {other : Nat} (hother : other < number) (w : Session) :
    (watching number seconds).Met (Table.advance bells other) w := by
  refine allows_keeping fun hw => ?_
  -- The countdown that may be armed meanwhile has another number, and so another name.
  have hname (c : Countdown SessionAlarm) (hc : w.table.registry.live? other = some c) :
      c.serial = other ∧ c.name ≠ lifeLossName := by
    obtain ⟨hmem, hserial⟩ := Registry.mem_of_live? hc
    refine ⟨hserial, ?_⟩
    rcases hw.state with hspared | ⟨serial, hle, hgraced⟩
    · exact hspared.quiet c hmem
    · exact hgraced.name_ne hmem (by omega)
  refine Session.met_advance covers_watching performs_watching (fun c hc hw => ?_)
    (fun _ _ _ _ _ hw => hw.of_same rfl rfl rfl rfl) fun c v hc _ hv => ?_
  · have hmem := (Registry.mem_of_live? hc).1
    refine ⟨hw.granted, hw.number_le, hw.state.imp (·.strike hmem) ?_⟩
    rintro ⟨serial, hle, hgraced⟩
    refine ⟨serial, hle, hgraced.strike hmem ?_⟩
    rw [(hname c hc).1]
    omega
  · refine ⟨hv.granted, hv.number_le, hv.state.imp (·.expire c.name) ?_⟩
    rintro ⟨serial, hle, hgraced⟩
    exact ⟨serial, hle, hgraced.expire (hname c hc).2⟩

/-- A second is taken off another countdown. -/
lemma met_advance_gracing {other : Nat} (hother : other ≠ serial) (w : Session) :
    (gracing serial left).Met (Table.advance bells other) w := by
  refine allows_keeping fun hw => ?_
  have hname (c : Countdown SessionAlarm) (hc : w.table.registry.live? other = some c) :
      c.serial ≠ serial ∧ c.name ≠ lifeLossName := by
    obtain ⟨hmem, rfl⟩ := Registry.mem_of_live? hc
    exact ⟨hother, hw.name_ne hmem hother⟩
  refine Session.met_advance covers_gracing performs_gracing (fun c hc hw => ?_)
    (fun _ _ _ _ _ hw => hw.of_same rfl rfl rfl) fun c v hc _ hv => ?_
  · exact hw.strike (Registry.mem_of_live? hc).1 (hname c hc).1
  · exact hv.expire (hname c hc).2

namespace Graced

/-- When no time is left, the game ends. -/
lemma goOff (hsound : w.table.registry.Sound) (hlives : w.state.lives = some 0)
    (hplaying : w.phase = .playing) {c : Countdown SessionAlarm} (hc : c.alarm = .lifeLoss)
    (hrun : (Table.goOff bells c).runIn w = (.ok (), v)) (serial : Nat) (left : Int) :
    Graced serial left v := by
  obtain ⟨table, htable, hgoOff⟩ : ∃ table, table.registry = w.table.registry.cancel c.name ∧
      (Table.goOff bells c).runIn w = (stop >>= fun _ => pure ()).runIn { w with table } := by
    simp only [Table.goOff, bells, hc]
    exact ⟨_, rfl, rfl⟩
  let u : Session := { w with table }
  obtain ⟨_, _, hstop, ⟨⟩⟩ := runIn_bind_eq_ok.1 (hgoOff ▸ hrun)
  rcases stop_spec (w := u) hplaying with ⟨e, _, -, -, hfailed⟩ | ⟨tier, after, -, hafter, hended⟩
  · rw [hfailed] at hstop
    cases hstop
  · rw [hended] at hstop
    cases hstop
    have hu : u.table.registry.Sound := htable ▸ hsound.cancel c.name
    exact finished hu hlives tier hafter serial left

/-- A second is taken off the countdown to the end for want of lives. -/
lemma advance (hw : Graced serial left w) {a : Option String}
    (hrun : (Table.advance bells serial).runIn w = (.ok a, v)) : Graced serial (left - 1) v := by
  by_cases hplaying : w.phase = .playing
  · obtain ⟨-, epochs, hmem⟩ := hw.due hplaying
    have hlive : w.table.registry.live? serial = some (grace serial left epochs) :=
      hw.sound.live?_eq_some_iff.2 ⟨hmem, rfl⟩
    have hsound := hw.sound.step hmem
    obtain ⟨u, htick, hend⟩ := Table.advance_spec (w := w) hlive hrun
    let struck : Session := Table.mapRegistry (fun r => r.step (grace serial left epochs)) w
    obtain rfl : struck = u := congrArg Prod.snd htick
    have hleft : (Table.registryOf struck).left (grace serial left epochs) = left - 1 :=
      Registry.left_step w.table.registry (grace serial left epochs)
    split_ifs at hend with hpositive
    · exact goOff (w := struck) hsound hw.lives hplaying rfl hend serial _
    · obtain rfl := hend
      refine ⟨hsound, hw.lives, hw.begun, fun _ _ _ => hplaying, fun _ => ⟨?_, epochs, ?_⟩⟩
      · exact hleft ▸ Int.not_le.1 hpositive
      · exact Registry.mem_step_self hmem
  · -- The game has ended, and this countdown is not told from any other one.
    have hmet : (gracing (serial + 1) 0).Met (Table.advance bells serial) w :=
      met_advance_gracing (by omega) w
    unfold Contract.Met at hmet
    rw [hrun] at hmet
    have hv : Graced (serial + 1) 0 v := hmet (hw.of_ended hplaying _ _)
    exact hv.of_ended (fun h => absurd (hv.due h).1 (Int.lt_irrefl 0)) _ _

/-- A second that goes by is taken off the countdown to the end for want of lives. -/
lemma tick (hw : Graced serial left w) (hrun : tick.runIn w = (.ok (), v)) :
    Graced serial (left - 1) v := by
  rw [runIn_tick] at hrun
  split_ifs at hrun with hplaying
  · obtain ⟨-, epochs, hmem⟩ := hw.due hplaying
    obtain ⟨before, after, hserials⟩ : ∃ before after,
        w.table.registry.serials = before ++ serial :: after :=
      List.append_of_mem (List.mem_map.2 ⟨_, hmem, rfl⟩)
    have hnodup := hw.sound.nodup_serials
    rw [hserials, List.nodup_append, List.nodup_cons] at hnodup
    obtain ⟨-, ⟨hafter, -⟩, hbefore⟩ := hnodup
    obtain ⟨names, _, hall, ⟨⟩⟩ := runIn_bind_eq_ok.1 hrun
    have hall : (Table.advanceAll bells (before ++ serial :: after)).runIn w.later =
        (.ok names, v) := by
      rw [← hserials]
      exact hall
    obtain ⟨_, v₁, _, hfirst, hrest, -⟩ := Table.runIn_advanceAll_append.1 hall
    obtain ⟨_, v₂, hown, hrest⟩ := runIn_bind_eq_ok.1 hrest
    obtain ⟨_, _, hlast, ⟨⟩⟩ := runIn_bind_eq_ok.1 hrest
    have hothers (n : Int) {others : List Nat} (hothers : serial ∉ others) (w : Session) :
        (gracing serial n).Met (Table.advanceAll bells others) w :=
      Table.met_advanceAll fun other hother => met_advance_gracing fun h => hothers (h ▸ hother)
    have h₁ := hothers left (fun h => hbefore serial h serial List.mem_cons_self rfl) w.later
    have h₂ := hothers (left - 1) hafter v₂
    unfold Contract.Met at h₁ h₂
    rw [hfirst] at h₁
    rw [hlast] at h₂
    have hlater : Graced serial left w.later := hw.of_same rfl rfl rfl
    exact h₂ ((h₁ hlater).advance hown)
  · cases hrun
    exact hw.of_ended hplaying _ _

end Graced

/-- The second in which the last life is lost is not taken off the time that is granted. -/
lemma Spared.tick (hw : Spared w) (hrun : tick.runIn w = (.ok (), v)) :
    Spared v ∨ ∃ serial, Graced serial w.settings.graceSeconds v := by
  rw [runIn_tick] at hrun
  split_ifs at hrun with hplaying
  · obtain ⟨_, _, hall, ⟨⟩⟩ := runIn_bind_eq_ok.1 hrun
    have hmet : (watching w.table.registry.armed w.settings.graceSeconds).Met
        (Table.advanceAll bells w.table.registry.serials) w.later :=
      Table.met_advanceAll fun other hother => met_advance_watching <| by
        obtain ⟨c, hc, rfl⟩ := List.mem_map.1 hother
        exact hw.sound.countdowns c hc
    have hall : (Table.advanceAll bells w.table.registry.serials).runIn w.later = _ := hall
    unfold Contract.Met at hmet
    rw [hall] at hmet
    have hv := hmet ⟨rfl, Nat.le_refl _, .inl (hw.of_same rfl rfl)⟩
    exact hv.state.imp_right fun ⟨serial, _, hgraced⟩ => ⟨serial, hgraced⟩
  · cases hrun
    exact .inl hw

/-! ### Deeds -/

lemma Spared.setsOut (hw : Spared w) (h : SetsOut w v) : Spared v := by
  cases h with
  | here => exact hw
  | begun table hintro htable =>
    refine ⟨invariant_sound.begun hintro htable hw.sound, hw.lives, ?_⟩
    show ∀ c ∈ table.registry.countdowns, c.name ≠ lifeLossName
    rw [htable]
    cases w.state.timeRemaining with
    | none => exact hw.quiet
    | some seconds =>
      unfold readied
      dsimp only
      split_ifs
      · exact hw.quiet
      · exact Registry.forall_arm hw.quiet (by simp [gameName, lifeLossName])

lemma spared_restart (hw : w.table.registry.Sound) (hlives : 0 < w.game.config.lives) :
    Spared (Deed.restart.after w) := by
  obtain ⟨table, htable, hrun⟩ := restart_spec w
  have hafter : Deed.restart.after w = w.restarted table := congrArg Prod.snd hrun
  rw [hafter]
  refine ⟨?_, ⟨w.game.config.lives, hlives, if_pos hlives⟩, ?_⟩
  · show table.registry.Sound
    exact htable ▸ hw.nextPhase
  · show ∀ c ∈ table.registry.countdowns, c.name ≠ lifeLossName
    exact htable ▸ Registry.forall_nextPhase

/-- As long as the last life is not lost some are left, and when it is, time is granted. -/
lemma Spared.after (hw : Spared w) (hlives : 0 < w.game.config.lives) {d : Deed}
    (hd : d.fault? w = none) :
    Spared (d.after w) ∨ ∃ serial, Graced serial w.settings.graceSeconds (d.after w) := by
  have hrun := Deed.runIn_act_of_fault? hd
  by_cases hrestart : d = .restart
  · subst hrestart
    exact .inl (spared_restart hw.sound hlives)
  by_cases htick : d = .tick
  · subst htick
    exact hw.tick hrun
  · have hC : Covers (watching 0 w.settings.graceSeconds) := covers_watching
    obtain ⟨u, hu, hallows⟩ :=
      allows_after_of hC performs_watching hrestart fun h => absurd h htick
    rw [hrun] at hallows
    have hsettings : u.settings = w.settings := by
      cases hu <;> rfl
    have hv := hallows ⟨by rw [hsettings], Nat.zero_le _, .inl (hw.setsOut hu)⟩
    exact hv.state.imp_right fun ⟨serial, _, hgraced⟩ => ⟨serial, hgraced⟩

namespace Graced

/-- Only seconds that go by and restarts change the time that is left. -/
lemma after (hw : Graced serial left w) {d : Deed} (hrestart : d ≠ .restart)
    (hd : d.fault? w = none) :
    Graced serial (left - if d.isTick then 1 else 0) (d.after w) := by
  have hrun := Deed.runIn_act_of_fault? hd
  by_cases htick : d = .tick
  · subst htick
    exact hw.tick hrun
  · have hC : Covers (gracing serial left) := covers_gracing
    obtain ⟨u, hu, hallows⟩ := allows_after_of hC performs_gracing hrestart fun h => absurd h htick
    rw [hrun] at hallows
    have hidle : d.isTick = false := by
      cases d <;> first | rfl | exact absurd rfl htick
    rw [hidle, if_neg Bool.false_ne_true, Int.sub_zero]
    cases hu with
    | here => exact hallows hw
    | begun table hintro => exact absurd hintro hw.begun

/-- The seconds that go by in some deeds are taken off the time that is left. -/
lemma played (hw : Graced serial left w) {deeds : List Deed} (hrestart : .restart ∉ deeds)
    (hdeeds : w.faults deeds = []) :
    Graced serial (left - deeds.countP Deed.isTick) (w.played deeds) := by
  induction deeds generalizing w left with
  | nil => simpa [Session.played] using hw
  | cons d rest ih =>
    obtain ⟨hd, hrest⟩ := List.append_eq_nil_iff.1 hdeeds
    obtain ⟨hne, hlater⟩ := not_or.1 (mt List.mem_cons.2 hrestart)
    have hafter := hw.after (Ne.symm hne) (Option.toList_eq_nil_iff.1 hd)
    have hleft : left - ((d :: rest).countP Deed.isTick : Nat) =
        (left - if d.isTick then 1 else 0) - (rest.countP Deed.isTick : Nat) := by
      rw [List.countP_cons]
      split_ifs <;> omega
    rw [hleft]
    exact ih hafter hlater hrest

/-- While the game is being played, the time that is left is that of the countdown. -/
lemma remaining? (hw : Graced serial left w) (hplaying : w.phase = .playing) :
    w.table.registry.remaining? lifeLossName = some left := by
  obtain ⟨-, epochs, hmem⟩ := hw.due hplaying
  exact hw.sound.remaining?_eq_some_iff.2 ⟨_, hmem, rfl, rfl⟩

lemma outro (hw : Graced serial left w) (hleft : left ≤ 0) : w.phase = .outro := by
  cases hphase : w.phase with
  | intro => exact absurd hphase hw.begun
  | playing => exact absurd (hw.due hphase).1 (Int.not_lt.2 hleft)
  | outro => rfl

end Graced

/-! ### Seconds in which nothing runs out -/

/-- A session that is being played, in which the countdowns whose turn is yet to come have more than
one second left. -/
structure Calm (serials : List Nat) (w : Session) : Prop where
  playing : w.phase = .playing
  many : ∀ c ∈ w.table.registry.countdowns, c.serial ∈ serials → 1 < c.remaining

namespace Calm

variable {serials : List Nat} {a : Option String}

/-- What is done with every second of a countdown changes neither the phase nor the countdowns. -/
lemma bells_tick (c : Countdown SessionAlarm) (left : Int) (w : Session) :
    ((bells.tick c left).runIn w).2.phase = w.phase ∧
      ((bells.tick c left).runIn w).2.table.registry = w.table.registry := by
  unfold bells
  dsimp only
  cases c.alarm with
  | game => exact ⟨rfl, rfl⟩
  | lifeLoss => exact ⟨rfl, rfl⟩
  | ofSeat index alarm =>
    dsimp only
    cases hseat : w.seats[index]? with
    | none =>
      rw [perform, runIn_ofFun, hseat]
      exact ⟨rfl, rfl⟩
    | some seat =>
      rw [runIn_perform activate hseat]
      have hquiet := Script.run_of_asks_nothing (Player.asks_tick alarm left seat.player)
        (reply activate index seat) seat.player w
      dsimp only [putPlayer]
      rw [hquiet]
      exact ⟨rfl, rfl⟩

/-- A countdown that has more than one second left does not run out. -/
lemma advance (hw : Calm (serial :: serials) w) (hserial : serial ∉ serials)
    (hrun : (Table.advance bells serial).runIn w = (.ok a, v)) : Calm serials v := by
  cases hc : w.table.registry.live? serial with
  | none =>
    rw [Table.runIn_advance_of_none (w := w) hc] at hrun
    cases hrun
    exact ⟨hw.playing, fun d hd hdue => hw.many d hd (List.mem_cons_of_mem serial hdue)⟩
  | some c =>
    obtain ⟨hmem, rfl⟩ := Registry.mem_of_live? hc
    have hmany : 1 < c.remaining := hw.many c hmem List.mem_cons_self
    obtain ⟨u, htick, hrun⟩ := Table.advance_spec (w := w) hc hrun
    obtain ⟨hphase, hregistry⟩ :=
      bells_tick c (c.remaining - 1) (Table.mapRegistry (fun r => r.step c) w)
    rw [htick] at hphase hregistry
    have hregistry : u.table.registry = w.table.registry.step c := hregistry
    have hleft : ¬(Table.registryOf u).left c ≤ 0 := by
      show ¬u.table.registry.left c ≤ 0
      rw [hregistry, Registry.left_step]
      omega
    rw [if_neg hleft] at hrun
    subst hrun
    refine ⟨hphase.trans hw.playing, fun d hd hdue => ?_⟩
    rw [hregistry] at hd
    obtain ⟨old, hold, rfl⟩ := List.mem_map.1 hd
    by_cases hsame : old.serial = c.serial
    · simp only [hsame, beq_self_eq_true, if_true] at hdue
      exact absurd hdue hserial
    · simp only [beq_iff_eq, hsame, if_false] at hdue ⊢
      exact hw.many old hold (List.mem_cons_of_mem _ hdue)

lemma advanceAll {names : List String} (hw : Calm serials w) (hserials : serials.Nodup)
    (hrun : (Table.advanceAll bells serials).runIn w = (.ok names, v)) : v.phase = .playing := by
  induction serials generalizing w names with
  | nil =>
    cases hrun
    exact hw.playing
  | cons serial rest ih =>
    obtain ⟨hserial, hrest⟩ := List.nodup_cons.1 hserials
    obtain ⟨_, u, hfirst, hrun⟩ := runIn_bind_eq_ok.1 hrun
    obtain ⟨_, _, hothers, ⟨⟩⟩ := runIn_bind_eq_ok.1 hrun
    exact ih (hw.advance hserial hfirst) hrest hothers

end Calm

/-- A second in which no countdown runs out does not end the game. -/
lemma playing_tick (hsound : w.table.registry.Sound) (hplaying : w.phase = .playing)
    (hmany : ∀ c ∈ w.table.registry.countdowns, 1 < c.remaining)
    (hrun : tick.runIn w = (.ok (), v)) : v.phase = .playing := by
  rw [runIn_tick, if_pos hplaying] at hrun
  obtain ⟨_, _, hall, ⟨⟩⟩ := runIn_bind_eq_ok.1 hrun
  have hall : (Table.advanceAll bells w.table.registry.serials).runIn w.later = _ := hall
  have hcalm : Calm w.table.registry.serials w.later := ⟨hplaying, fun c hc _ => hmany c hc⟩
  exact hcalm.advanceAll hsound.nodup_serials hall

/-! ### Plays -/

/-- A session with lives left, or without lives and with no more time left than was granted. -/
def Minded (w : Session) : Prop :=
  Spared w ∨ ∃ serial left, left ≤ w.settings.graceSeconds ∧ Graced serial left w

namespace Minded

lemma after (hw : Minded w) (hlives : 0 < w.game.config.lives) {d : Deed}
    (hd : d.fault? w = none) : Minded (d.after w) := by
  have hsettings : (d.after w).settings = w.settings :=
    ((invariant_game w.game w.settings).after d ⟨rfl, rfl⟩).2
  rcases hw with hspared | ⟨serial, left, hleft, hgraced⟩
  · refine (hspared.after hlives hd).imp_right fun ⟨serial, hgraced⟩ => ?_
    have hle := Int.le_of_eq (congrArg Settings.graceSeconds hsettings).symm
    exact ⟨serial, _, hle, hgraced⟩
  · by_cases hrestart : d = .restart
    · subst hrestart
      exact .inl (spared_restart hgraced.sound hlives)
    · refine .inr ⟨serial, _, ?_, hgraced.after hrestart hd⟩
      rw [hsettings]
      split_ifs <;> omega

lemma played (hw : Minded w) (hlives : 0 < w.game.config.lives) {deeds : List Deed}
    (hdeeds : w.faults deeds = []) : Minded (w.played deeds) := by
  induction deeds generalizing w with
  | nil => exact hw
  | cons d rest ih =>
    obtain ⟨hd, hrest⟩ := List.append_eq_nil_iff.1 hdeeds
    have hgame : (d.after w).game = w.game :=
      ((invariant_game w.game w.settings).after d ⟨rfl, rfl⟩).1
    exact ih (hw.after hlives (Option.toList_eq_nil_iff.1 hd)) (hgame ▸ hlives) hrest

lemma create {g : Game} (hg : 0 < g.config.lives) (settings : Settings) (dice : Dice) :
    Minded (create g settings dice) :=
  .inl ⟨.empty, ⟨g.config.lives, hg, if_pos hg⟩, by rintro c ⟨⟩⟩

end Minded

/-- A game in which lives are counted and nothing is broken off. While it is being played there are
no lives left just if the countdown to the end is armed, with no more time left than was granted;
and if no time is granted, lives are left. Once a deed has cost the last life, be it an answer or a
second in which an answer was due, and until the next restart, every second is taken off the time
that was granted: as long as the game is being played the countdown has the rest of it, when none
is left the game has ended, and it takes another countdown that runs out to end it in a second
before. -/
theorem lives_of_played (g : Game) (settings : Settings) (dice : Dice) (deeds : List Deed)
    (hlives : 0 < g.config.lives) (hdeeds : (create g settings dice).faults deeds = []) :
    let w := (create g settings dice).played deeds
    (w.phase = .playing →
      (1 ≤ settings.graceSeconds →
        (w.state.lives = some 0 ↔ (w.table.registry.remaining? lifeLossName).isSome = true) ∧
          ∀ left, w.table.registry.remaining? lifeLossName = some left →
            1 ≤ left ∧ left ≤ settings.graceSeconds) ∧
      (settings.graceSeconds ≤ 0 → w.state.lives ≠ some 0)) ∧
    ∀ d more, w.state.lives ≠ some 0 → (d.after w).state.lives = some 0 → .restart ∉ more →
      w.faults (d :: more) = [] →
      let v := (d.after w).played more
      let seconds : Int := more.countP Deed.isTick
      (v.phase = .playing → seconds < settings.graceSeconds ∧
        v.table.registry.remaining? lifeLossName = some (settings.graceSeconds - seconds)) ∧
      (settings.graceSeconds ≤ seconds → v.phase = .outro) ∧
      (v.phase = .playing → seconds + 1 < settings.graceSeconds →
        (∀ c ∈ v.table.registry.countdowns, c.name ≠ lifeLossName → 1 < c.remaining) →
        Deed.tick.fault? v = none → (Deed.tick.after v).phase = .playing) := by
  intro w
  have hminded : Minded w := (Minded.create hlives settings dice).played hlives hdeeds
  obtain ⟨hgame, hsettings⟩ : w.game = g ∧ w.settings = settings :=
    game_played g settings dice deeds
  clear_value w
  subst hgame hsettings
  refine ⟨fun hplaying => ⟨fun hgrace => ?_, fun hgrace hnone => ?_⟩, fun d more hsome hnone hmore
    hfaults => ?_⟩
  · rcases hminded with hspared | ⟨serial, left, hleft, hgraced⟩
    · obtain ⟨n, hn, hlives⟩ := hspared.lives
      have hquiet := hspared.sound.remaining?_eq_none_iff.2 hspared.quiet
      rw [hlives, hquiet]
      refine ⟨?_, by simp⟩
      simp only [Option.some.injEq, Option.isSome_none, Bool.false_eq_true, iff_false]
      omega
    · rw [hgraced.lives, hgraced.remaining? hplaying]
      refine ⟨by simp, fun n hn => ?_⟩
      obtain rfl : left = n := Option.some.inj hn
      exact ⟨(hgraced.due hplaying).1, hleft⟩
  · rcases hminded with hspared | ⟨serial, left, hleft, hgraced⟩
    · obtain ⟨n, hn, hlives⟩ := hspared.lives
      rw [hnone] at hlives
      cases hlives
      exact absurd hn (Int.lt_irrefl 0)
    · have hpositive := (hgraced.due hplaying).1
      omega
  · intro v seconds
    have hspared : Spared w := by
      rcases hminded with hspared | ⟨serial, left, -, hgraced⟩
      · exact hspared
      · exact absurd hgraced.lives hsome
    obtain ⟨hd, hlater⟩ := List.append_eq_nil_iff.1 hfaults
    obtain ⟨serial, hgraced⟩ : ∃ serial, Graced serial w.settings.graceSeconds (d.after w) := by
      rcases hspared.after hlives (Option.toList_eq_nil_iff.1 hd) with hspared | hgraced
      · obtain ⟨n, hn, hlives⟩ := hspared.lives
        rw [hnone] at hlives
        cases hlives
        exact absurd hn (Int.lt_irrefl 0)
      · exact hgraced
    have hv : Graced serial (w.settings.graceSeconds - seconds) v := hgraced.played hmore hlater
    refine ⟨fun hplaying => ⟨?_, hv.remaining? hplaying⟩, fun hgrace => hv.outro (by omega),
      fun hplaying hgrace hothers htick => ?_⟩
    · have hpositive := (hv.due hplaying).1
      omega
    · refine playing_tick hv.sound hplaying (fun c hc => ?_) (Deed.runIn_act_of_fault? htick)
      by_cases hname : c.name = lifeLossName
      · have hremaining := hv.sound.remaining?_eq_some_iff.2 ⟨c, hc, hname, rfl⟩
        rw [hv.remaining? hplaying] at hremaining
        have hleft := Option.some.inj hremaining
        omega
      · exact hothers c hc hname

/-- Settings with which a game goes on for three seconds after the last life is lost. -/
def threeSeconds : Settings := { Settings.default with graceSeconds := 3 }

/-- Two seconds, in which the section is begun anew and another mistake is made. -/
def twoSecondsOn : List Deed := [.tick, .navigateTo "a", .submit slip, .tick]

/-- After a mistake that costs the last life two seconds go by with the game being played, and the
third one ends it. -/
theorem lives_of_slip :
    ∃ g, (load shortLesson "info").result = .ok g ∧ 0 < g.config.lives ∧
      let created := create g threeSeconds (.repeating #[])
      let w := created.played [.start]
      created.faults [.start] = [] ∧ w.state.lives ≠ some 0 ∧
        ((Deed.submit slip).after w).state.lives = some 0 ∧
        w.faults (.submit slip :: (twoSecondsOn ++ [.tick])) = [] ∧
        (((Deed.submit slip).after w).played twoSecondsOn).table.registry.remaining? lifeLossName =
          some 1 ∧
        (((Deed.submit slip).after w).played (twoSecondsOn ++ [.tick])).phase = .outro := by
  obtain ⟨g, hg, hplay⟩ := Traced.exists_ok_of_any (x := load shortLesson "info")
    (p := fun g =>
      let created := create g threeSeconds (.repeating #[])
      let w := created.played [.start]
      decide (0 < g.config.lives ∧ created.faults [.start] = [] ∧ w.state.lives ≠ some 0 ∧
        ((Deed.submit slip).after w).state.lives = some 0 ∧
        w.faults (.submit slip :: twoSecondsOn) = [] ∧
        w.faults (.submit slip :: (twoSecondsOn ++ [.tick])) = [] ∧
        (((Deed.submit slip).after w).played twoSecondsOn).phase = .playing))
    (by decide +kernel)
  obtain ⟨hlives, hfaults, hsome, hnone, htwo, hthree, hplaying⟩ := of_decide_eq_true hplay
  obtain ⟨-, hafter⟩ := lives_of_played g threeSeconds (.repeating #[]) [.start] hlives hfaults
  have hrestart : Deed.restart ∉ twoSecondsOn ++ [.tick] := by simp [twoSecondsOn]
  obtain ⟨hleft, -, -⟩ := hafter (.submit slip) twoSecondsOn hsome hnone
    (fun h => hrestart (List.mem_append_left _ h)) htwo
  obtain ⟨-, hended, -⟩ :=
    hafter (.submit slip) (twoSecondsOn ++ [.tick]) hsome hnone hrestart hthree
  exact ⟨g, hg, hlives, hfaults, hsome, hnone, hthree, (hleft hplaying).2, hended (by decide)⟩

end Session

end LearningGame.Play
