import LearningGame.Proofs.Play.Countdown
import LearningGame.Proofs.Play.Path

/-!
# The time limit

A game that is limited in time keeps count of the seconds in three places: those that have gone by,
those that are shown to be left, and those left to a countdown. In every second the countdown of the
game is the first to lose one, so the three agree again before any other countdown can run out, and
the game is over when the last second has gone by. A game that is not limited never tells a time that
is left.
-/

namespace LearningGame.Play

open Act Contract

/-- The seconds of play since the last restart, after a deed. -/
def Deed.secondsAfter (w : Session) (seconds : Int) : Deed → Int
  | .restart => 0
  | .tick => if w.phase = .playing then seconds + 1 else seconds
  | _ => seconds

namespace Session

variable {w v : Session}

/-! ### The seconds that have gone by -/

/-- The seconds of play since the last restart, after some deeds. -/
def secondsIn (w : Session) (seconds : Int) : List Deed → Int
  | [] => seconds
  | d :: rest => secondsIn (d.after w) (d.secondsAfter w seconds) rest

/-- The contract to let no time go by. -/
def timeless : Contract Session where
  ends w v := v.state.timeElapsed = w.state.timeElapsed
  breaks _ w v := v.state.timeElapsed = w.state.timeElapsed
  refl _ := rfl
  trans huv hvw := hvw.trans huv
  breaks_self _ _ := rfl
  breaks_trans huv hvw := hvw.trans huv

lemma covers_timeless : Covers timeless :=
  .of_steps (fun h => h.time_eq.1) (fun _ _ _ _ => rfl) fun _ _ _ _ => rfl

lemma performs_timeless : Performs timeless :=
  performs_of covers_timeless (fun _ _ _ h => h) fun _ _ _ h => h

lemma eq_of_allows_timeless {α : Type} {r : Except Fault α} (h : timeless.Allows w r v) :
    v.state.timeElapsed = w.state.timeElapsed := by
  cases r <;> exact h

lemma timeElapsed_tick (w : Session) : (tick.runIn w).2.state.timeElapsed =
    if w.phase = .playing then w.state.timeElapsed + 1 else w.state.timeElapsed := by
  rw [runIn_tick]
  split_ifs with hw
  · have htick : timeless.Met (Table.tick bells) w.later := Table.met_tick fun serial w =>
      met_advance covers_timeless performs_timeless (fun _ _ => rfl) (fun _ _ _ _ _ => rfl)
        fun _ _ _ _ => rfl
    rw [(runIn_bind_pure (Table.tick bells) () w.later).1]
    exact eq_of_allows_timeless htick
  · rfl

lemma timeElapsed_after (d : Deed) (w : Session) :
    (d.after w).state.timeElapsed = d.secondsAfter w w.state.timeElapsed := by
  by_cases hrestart : d = .restart
  · subst hrestart
    obtain ⟨table, -, hrun⟩ := restart_spec w
    exact congrArg (·.2.state.timeElapsed) hrun
  by_cases htick : d = .tick
  · subst htick
    exact timeElapsed_tick w
  have hsame : (d.after w).state.timeElapsed = w.state.timeElapsed := by
    by_cases hstart : d = .start
    · subst hstart
      obtain ⟨u, hu, hallows⟩ := allows_start covers_timeless performs_timeless (w := w)
      have hw : u.state.timeElapsed = w.state.timeElapsed := by
        cases hu <;> rfl
      exact (eq_of_allows_timeless hallows).trans hw
    · have hmet := met_act covers_timeless performs_timeless (w := w) hstart hrestart
        fun h => absurd h htick
      exact d.runIn_act w ▸ eq_of_allows_timeless hmet
  cases d <;> first | exact hsame | contradiction

/-- The elapsed time is the number of seconds of play since the last restart. -/
lemma timeElapsed_played (deeds : List Deed) (w : Session) :
    (w.played deeds).state.timeElapsed = w.secondsIn w.state.timeElapsed deeds := by
  induction deeds generalizing w with
  | nil => rfl
  | cons d rest ih => exact (ih (d.after w)).trans (by rw [timeElapsed_after]; rfl)

/-! ### Games without a limit -/

/-- A session of a game without a limit, which tells no time that is left and has no countdown for
it. -/
structure Unlimited (w : Session) : Prop where
  limit : w.game.config.timeLimit ≤ 0
  remaining : w.state.timeRemaining = none
  ordinary : ∀ c ∈ w.table.registry.countdowns, c.Ordinary

namespace Unlimited

lemma of_same (hw : Unlimited w) (hgame : v.game = w.game)
    (hremaining : v.state.timeRemaining = w.state.timeRemaining)
    (hordinary : ∀ c ∈ v.table.registry.countdowns, c.Ordinary) : Unlimited v :=
  ⟨hgame ▸ hw.limit, hremaining.trans hw.remaining, hordinary⟩

lemma step (h : Step w v) (hw : Unlimited w) : Unlimited v :=
  hw.of_same h.game_eq.1 h.time_eq.2 <| h.registry
    (R := fun r => ∀ c ∈ r.countdowns, c.Ordinary) hw.ordinary
    (fun index alarm _ _ => Registry.forall_arm hw.ordinary (.ofSeat _ _ _ _ _ index alarm))
    (fun _ _ => Registry.forall_cancel hw.ordinary _)
    (fun _ => Registry.forall_arm hw.ordinary (.lifeLoss _ _ _ _))
    (Registry.forall_nextSection hw.ordinary) Registry.forall_nextPhase

end Unlimited

/-- The contract to keep a session of a game without a limit. -/
def unlimited : Contract Session := keeping Unlimited (fun _ => Unlimited) fun _ _ hw => hw

lemma covers_unlimited : Covers unlimited :=
  .of_steps (fun h hw => hw.step h)
    (fun _ _ _ htable hw => hw.of_same rfl rfl (htable ▸ hw.ordinary))
    fun _ _ _ _ hw => hw.of_same rfl rfl (Registry.forall_nextSection hw.ordinary)

lemma performs_unlimited : Performs unlimited :=
  performs_of covers_unlimited (fun _ _ _ h hw => (h hw).of_same rfl rfl (h hw).ordinary)
    fun _ _ _ h hw => (h hw).of_same rfl rfl (h hw).ordinary

lemma met_tick_unlimited (w : Session) : unlimited.Met tick w := by
  refine met_get_bind ?_
  split_ifs with hw
  · refine met_modify_bind (fun hw => hw.of_same rfl rfl hw.ordinary)
      (met_bind (Table.met_tick fun serial w => ?_) fun _ _ _ => met_pure _)
    -- No countdown that is there is that of the game, so none changes the time that is left.
    refine allows_keeping fun hw => met_advance covers_unlimited performs_unlimited
      (fun c _ hw => ?_) (fun c _ _ hc hgame => ?_) fun c _ _ _ hw => ?_
    · exact hw.of_same rfl rfl
        (Registry.forall_step (fun _ _ hd => ⟨hd.name, hd.alarm⟩) hw.ordinary c)
    · exact absurd hgame (hw.ordinary c (Registry.mem_of_live? hc).1).alarm
    · exact hw.of_same rfl rfl (Registry.forall_cancel hw.ordinary c.name)
  · exact met_pure _

lemma of_allows_unlimited {α : Type} {r : Except Fault α} (h : unlimited.Allows w r v)
    (hw : Unlimited w) : Unlimited v := by
  cases r <;> exact h hw

namespace Unlimited

lemma create {g : Game} (hg : g.config.timeLimit ≤ 0) (settings : Settings) (dice : Dice) :
    Unlimited (create g settings dice) where
  limit := hg
  remaining := if_neg (Int.not_lt.2 hg)
  ordinary := by rintro c ⟨⟩

lemma after (d : Deed) (hw : Unlimited w) : Unlimited (d.after w) := by
  by_cases hd : d = .restart
  · subst hd
    obtain ⟨table, htable, hrun⟩ := restart_spec w
    have hafter : Deed.restart.after w = w.restarted table := congrArg Prod.snd hrun
    rw [hafter]
    refine ⟨hw.limit, if_neg (Int.not_lt.2 hw.limit), ?_⟩
    show ∀ c ∈ table.registry.countdowns, c.Ordinary
    exact htable ▸ Registry.forall_nextPhase
  · obtain ⟨u, hu, hallows⟩ :=
      allows_after covers_unlimited performs_unlimited met_tick_unlimited hd w
    refine of_allows_unlimited hallows ?_
    cases hu with
    | here => exact hw
    | begun table _ htable =>
      rw [hw.remaining] at htable
      exact hw.of_same rfl rfl (show ∀ c ∈ table.registry.countdowns, c.Ordinary from
        htable ▸ hw.ordinary)

lemma played (deeds : List Deed) (hw : Unlimited w) : Unlimited (w.played deeds) := by
  induction deeds generalizing w with
  | nil => exact hw
  | cons d rest ih => exact ih (hw.after d)

end Unlimited

/-! ### Games with a limit -/

/-- A session of a game with a limit: what has gone by and what is left add up to it, and while the
game is being played its countdown has as much left. -/
structure Timed (serial : Nat) (left : Int) (w : Session) : Prop where
  limited : 0 < w.game.config.timeLimit
  remaining : w.state.timeRemaining = some left
  elapsed : w.state.timeElapsed + left = w.game.config.timeLimit
  positive : w.phase ≠ .outro → 0 < left
  leads : w.phase = .playing → w.table.registry.Leads serial left
  idle : w.phase ≠ .playing → w.table.registry.Idle

variable {serial : Nat} {left : Int}

namespace Timed

/-- Nothing changes as long as the time is told as before. -/
lemma of_same (hw : Timed serial left w) (hgame : v.game = w.game) (hphase : v.phase = w.phase)
    (hremaining : v.state.timeRemaining = w.state.timeRemaining)
    (helapsed : v.state.timeElapsed = w.state.timeElapsed)
    (hleads : w.table.registry.Leads serial left → v.table.registry.Leads serial left)
    (hidle : w.phase ≠ .playing → w.table.registry.Idle → v.table.registry.Idle) :
    Timed serial left v where
  limited := hgame ▸ hw.limited
  remaining := hremaining.trans hw.remaining
  elapsed := by rw [helapsed, hgame, hw.elapsed]
  positive h := hw.positive (hphase ▸ h)
  leads h := hleads (hw.leads (hphase ▸ h))
  idle h := hidle (hphase ▸ h) (hw.idle (hphase ▸ h))

/-- The end of the game voids all countdowns. -/
lemma finished (hlimited : 0 < w.game.config.timeLimit)
    (hremaining : w.state.timeRemaining = some left)
    (helapsed : w.state.timeElapsed + left = w.game.config.timeLimit) (tier : Content.RatingTier)
    {table : Table SessionAlarm} (htable : table.registry = w.table.registry.nextPhase) :
    Timed serial left (w.finished tier table) where
  limited := by simpa using hlimited
  remaining := by simpa [rated] using hremaining
  elapsed := by simpa [rated] using helapsed
  positive h := by simp at h
  leads h := by simp at h
  idle _ := by
    rw [table_finished, htable]
    exact Registry.forall_nextPhase

lemma step (h : Step w v) (hw : Timed serial left w) : Timed serial left v := by
  cases h with
  | aside | complete => exact hw.of_same rfl rfl rfl rfl id fun _ => id
  | arm index alarm =>
    exact hw.of_same rfl rfl rfl rfl (·.arm (.ofSeat _ _ _ _ _ index alarm))
      fun _ hidle => Registry.forall_arm hidle ⟨rfl, .ofSeat _ _ _ _ _ index alarm⟩
  | cancel alarm sectionId =>
    exact hw.of_same rfl rfl rfl rfl (·.cancel (alarm.fullName_ne_gameName sectionId))
      fun _ hidle => Registry.forall_cancel hidle _
  | grant hplaying =>
    exact hw.of_same rfl rfl rfl rfl (·.arm (.lifeLoss _ _ _ _))
      fun h => absurd hplaying h
  | reckon s _ hs =>
    exact hw.of_same rfl rfl (congrArg Course.timeRemaining hs) (congrArg Course.timeElapsed hs) id
      fun _ => id
  | sit id index s player dice table hplaying _ _ _ htable =>
    refine hw.of_same rfl rfl rfl rfl (fun hleads => ?_) fun h => absurd hplaying h
    show table.registry.Leads serial left
    exact htable ▸ hleads.nextSection
  | stray id index table hplaying _ _ htable =>
    refine hw.of_same rfl rfl rfl rfl (fun hleads => ?_) fun h => absurd hplaying h
    show table.registry.Leads serial left
    exact htable ▸ hleads.nextSection
  | finish tier table _ _ htable => exact finished hw.limited hw.remaining hw.elapsed tier htable

end Timed

/-- The countdown of the game tells what is left to it. -/
lemma runIn_advance_game {c : Countdown SessionAlarm} (hc : w.table.registry.live? serial = some c)
    (hgame : c.alarm = .game) :
    (Table.advance bells serial).runIn w =
      (if c.remaining - 1 ≤ 0 then Table.goOff bells c >>= fun _ => pure (some c.name)
        else pure none : Act Session (Option String)).runIn
        { Table.mapRegistry (fun r => r.step c) w with
          state := { w.state with timeRemaining := some (c.remaining - 1) } } := by
  have htick : bells.tick c (c.remaining - 1) =
      change fun s => { s with timeRemaining := some (c.remaining - 1) } := by
    simp only [bells, hgame]
  rw [Table.runIn_advance (w := w) hc, htick, change, runIn_modify_bind, runIn_get_bind,
    ← Registry.left_step w.table.registry c]
  rfl

/-- The contract to keep a session of a game with a limit, as long as nothing is broken off. -/
def timed (serial : Nat) (left : Int) : Contract Session :=
  keeping (Timed serial left) (fun _ _ => True) fun _ _ _ => trivial

lemma covers_timed : Covers (timed serial left) :=
  .of_steps (fun h hw => hw.step h) (fun _ _ _ _ _ => trivial) fun _ _ _ _ _ => trivial

lemma performs_timed : Performs (timed serial left) :=
  performs_of covers_timed (fun _ _ _ h hw => (h hw).of_same rfl rfl rfl rfl id fun _ => id)
    fun _ _ _ _ _ => trivial

namespace Timed

/-- The countdowns other than that of the game may end the game, but do not change its time. -/
lemma met_advance {other : Nat} (hother : other ≠ serial) (w : Session) :
    (timed serial left).Met (Table.advance bells other) w := by
  refine allows_keeping fun hw => ?_
  have hordinary (c : Countdown SessionAlarm) (hc : w.table.registry.live? other = some c) :
      c.serial ≠ serial ∧ c.Ordinary := by
    by_cases hplaying : w.phase = .playing
    · exact (hw.leads hplaying).ordinary hc hother
    · obtain ⟨hmem, hserial⟩ := Registry.mem_of_live? hc
      exact ⟨hserial ▸ hother, (hw.idle hplaying c hmem).2⟩
  refine Session.met_advance covers_timed performs_timed (fun c hc hw => ?_)
    (fun c _ _ hc hgame => absurd hgame (hordinary c hc).2.alarm) fun c v hc _ hv => ?_
  · exact hw.of_same rfl rfl rfl rfl (·.step (hordinary c hc).1) fun _ hidle =>
      Registry.forall_step (fun _ _ hd => ⟨hd.1, hd.2.name, hd.2.alarm⟩) hidle c
  · exact hv.of_same rfl rfl rfl rfl (·.cancel (hordinary c hc).2.name) fun _ hidle =>
      Registry.forall_cancel hidle _

/-- When no time is left, the game ends. -/
lemma goOff {c : Countdown SessionAlarm} (hc : c.alarm = .game)
    (hrun : (Table.goOff bells c).runIn w = (.ok (), v)) (hw : w.phase = .playing)
    (hlimited : 0 < w.game.config.timeLimit) (hremaining : w.state.timeRemaining = some left)
    (helapsed : w.state.timeElapsed + left = w.game.config.timeLimit) : Timed serial left v := by
  obtain ⟨table, htable⟩ : ∃ table,
      (Table.goOff bells c).runIn w = (stop >>= fun _ => pure ()).runIn { w with table } := by
    simp only [Table.goOff, bells, hc]
    exact ⟨_, rfl⟩
  let u : Session := { w with table }
  have hu : u.phase = .playing := hw
  obtain ⟨ended, _, hstop, ⟨⟩⟩ := runIn_bind_eq_ok.1 (htable ▸ hrun)
  rw [stop, runIn_whilePlaying hu] at hstop
  obtain ⟨_, _, hfinished, ⟨⟩⟩ := runIn_bind_eq_ok.1 hstop
  rcases finish_spec hu with ⟨e, _, -, -, hfinish⟩ | ⟨tier, after, -, hafter, hfinish⟩
  · rw [hfinish] at hfinished
    cases hfinished
  · rw [hfinish] at hfinished
    cases hfinished
    exact finished (w := u) hlimited hremaining helapsed tier hafter

/-- The first second that is taken off a countdown is taken off that of the game. -/
lemma advance (hw : Timed serial left w) (hplaying : w.phase = .playing) {a : Option String}
    (hrun : (Table.advance bells serial).runIn w.later = (.ok a, v)) :
    Timed serial (left - 1) v := by
  obtain ⟨c, hlive, hgame, rfl, hstep⟩ := (hw.leads hplaying).exists_live?
  rw [runIn_advance_game (w := w.later) hlive hgame] at hrun
  have helapsed : w.state.timeElapsed + 1 + (c.remaining - 1) = w.game.config.timeLimit := by
    have := hw.elapsed
    omega
  split_ifs at hrun with hpositive
  · obtain ⟨_, _, hgo, ⟨⟩⟩ := runIn_bind_eq_ok.1 hrun
    exact goOff hgame hgo hplaying hw.limited rfl helapsed
  · cases hrun
    exact ⟨hw.limited, rfl, helapsed, fun _ => Int.not_le.1 hpositive, fun _ => hstep,
      fun h => absurd hplaying h⟩

/-- A second that goes by is taken off the countdown of the game, and then off the others. -/
lemma tick (hw : Timed serial left w) (hrun : tick.runIn w = (.ok (), v)) :
    ∃ left, Timed serial left v := by
  rw [runIn_tick] at hrun
  split_ifs at hrun with hplaying
  · obtain ⟨others, hserials, hothers⟩ := (hw.leads hplaying).serials
    have hall : (Table.tick bells).runIn w.later =
        (Table.advanceAll bells (serial :: others)).runIn w.later := by
      rw [Table.tick, runIn_get_bind, ← hserials]
      rfl
    obtain ⟨_, _, htick, ⟨⟩⟩ := runIn_bind_eq_ok.1 hrun
    obtain ⟨a, u, hfirst, hrest⟩ := runIn_bind_eq_ok.1 (hall ▸ htick)
    obtain ⟨_, _, hrest, ⟨⟩⟩ := runIn_bind_eq_ok.1 hrest
    have hmet : (timed serial (left - 1)).Met (Table.advanceAll bells others) u :=
      Table.met_advanceAll fun other hother => met_advance fun h => hothers (h ▸ hother)
    refine ⟨left - 1, ?_⟩
    unfold Contract.Met at hmet
    rw [hrest] at hmet
    exact hmet (hw.advance hplaying hfirst)
  · cases hrun
    exact ⟨left, hw⟩

/-- A game that is being played has a countdown with all that is left of its time. -/
lemma of_leads (hw : Timed serial left w) (hphase : w.phase = .intro) (hgame : v.game = w.game)
    (hstate : v.state = w.state) (hplaying : v.phase = .playing) {other : Nat}
    (hleads : v.table.registry.Leads other left) : Timed other left v where
  limited := hgame ▸ hw.limited
  remaining := hstate ▸ hw.remaining
  elapsed := by rw [hstate, hgame, hw.elapsed]
  positive _ := hw.positive (by simp [hphase])
  leads _ := hleads
  idle h := absurd hplaying h

/-- The first section of a play begins with a countdown of the game that has just been armed. -/
lemma begin (hw : Timed serial left w) (hphase : w.phase = .intro) {table : Table SessionAlarm}
    (htable : table.registry = readied w.table.registry w.state.timeRemaining)
    (hrun : activate.runIn (w.begun table) = (.ok (), v)) : ∃ serial, Timed serial left v := by
  have hidle : w.table.registry.Idle := hw.idle (by simp [hphase])
  have hpositive : 0 < left := hw.positive (by simp [hphase])
  have hleads : table.registry.nextSection.Leads w.table.registry.armed left := by
    rw [htable, hw.remaining, readied, if_neg (Int.ne_of_gt hpositive)]
    exact hidle.leads left
  refine ⟨w.table.registry.armed, ?_⟩
  rw [activate, runIn_get_bind, longestChain] at hrun
  rcases allows_seated covers_timed performs_timed _ (w.begun table) with
    ⟨s, player, dice, after, -, -, -, hafter, hallows⟩ | ⟨after, -, hafter, hstray⟩
  · have hseated := hw.of_leads (v := (w.begun table).seated s player dice after) hphase rfl rfl rfl
      (hafter.symm ▸ hleads)
    rw [hrun] at hallows
    exact hallows hseated
  · have hleft := hw.of_leads (v := { w.begun table with table := after, current := none }) hphase
      rfl rfl rfl (hafter.symm ▸ hleads)
    rw [hrun] at hstray
    exact (show v = _ from hstray) ▸ hleft

lemma start (hw : Timed serial left w) {started : Bool} (hrun : start.runIn w = (.ok started, v)) :
    ∃ serial, Timed serial left v := by
  rcases start_spec w with ⟨-, table, htable, hrefused⟩ | ⟨hphase, table, htable, hbegun⟩
  · rw [hrefused] at hrun
    cases hrun
    exact ⟨serial, hw.step (.notes htable)⟩
  · obtain ⟨_, _, hactivate, ⟨⟩⟩ := runIn_bind_eq_ok.1 (hbegun ▸ hrun)
    exact hw.begin hphase htable hactivate

lemma restart (hlimited : 0 < w.game.config.timeLimit) {table : Table SessionAlarm}
    (htable : table.registry = w.table.registry.nextPhase) :
    Timed serial w.game.config.timeLimit (w.restarted table) where
  limited := hlimited
  remaining := if_pos hlimited
  elapsed := Int.zero_add _
  positive _ := hlimited
  leads h := by cases h
  idle _ := by
    show table.registry.Idle
    exact htable ▸ Registry.forall_nextPhase

lemma after (hw : Timed serial left w) {d : Deed} (hd : d.fault? w = none) :
    ∃ serial left, Timed serial left (d.after w) := by
  have hrun := Deed.runIn_act_of_fault? hd
  by_cases hrestart : d = .restart
  · subst hrestart
    obtain ⟨table, htable, hrun⟩ := restart_spec w
    have hafter : Deed.restart.after w = w.restarted table := congrArg Prod.snd hrun
    exact hafter ▸ ⟨0, _, restart hw.limited htable⟩
  by_cases hstart : d = .start
  · subst hstart
    obtain ⟨_, _, hstart, ⟨⟩⟩ := runIn_bind_eq_ok.1 hrun
    obtain ⟨serial, hv⟩ := hw.start hstart
    exact ⟨serial, left, hv⟩
  by_cases htick : d = .tick
  · subst htick
    exact ⟨serial, hw.tick hrun⟩
  · have hmet : (timed serial left).Met d.act w :=
      met_act covers_timed performs_timed hstart hrestart fun h => absurd h htick
    unfold Contract.Met at hmet
    rw [hrun] at hmet
    exact ⟨serial, left, hmet hw⟩

lemma played (hw : Timed serial left w) (deeds : List Deed) (hdeeds : w.faults deeds = []) :
    ∃ serial left, Timed serial left (w.played deeds) := by
  induction deeds generalizing w serial left with
  | nil => exact ⟨serial, left, hw⟩
  | cons d rest ih =>
    obtain ⟨hd, hrest⟩ := List.append_eq_nil_iff.1 hdeeds
    obtain ⟨serial, left, hafter⟩ := hw.after (Option.toList_eq_nil_iff.1 hd)
    exact ih hafter hrest

lemma create {g : Game} (hg : 0 < g.config.timeLimit) (settings : Settings) (dice : Dice) :
    Timed 0 g.config.timeLimit (create g settings dice) where
  limited := hg
  remaining := if_pos hg
  elapsed := Int.zero_add _
  positive _ := hg
  leads h := by cases h
  idle _ := by rintro c ⟨⟩

end Timed

/-- Whatever is done, the elapsed time is the number of seconds of play since the last restart. A game
without a limit never tells a time that is left. In a game with a limit, as long as nothing is broken
off, the elapsed time and the time that is left add up to the limit; and while the game is being
played, some time is left, and its countdown has just as much. -/
theorem timeRemaining_of_played (g : Game) (settings : Settings) (dice : Dice)
    (deeds : List Deed) :
    let w := (create g settings dice).played deeds
    w.state.timeElapsed = (create g settings dice).secondsIn 0 deeds ∧
      (g.config.timeLimit ≤ 0 → w.state.timeRemaining = none) ∧
      (0 < g.config.timeLimit → (create g settings dice).faults deeds = [] →
        ∃ left, w.state.timeRemaining = some left ∧
          w.state.timeElapsed + left = g.config.timeLimit ∧
          (w.phase = .playing → w.state.timeElapsed < g.config.timeLimit ∧
            w.table.registry.remaining? gameName = some left)) := by
  refine ⟨timeElapsed_played deeds _, fun hlimit => ?_, fun hlimit hdeeds => ?_⟩
  · exact ((Unlimited.create hlimit settings dice).played deeds).remaining
  · obtain ⟨serial, left, hw⟩ := (Timed.create hlimit settings dice).played deeds hdeeds
    generalize hrun : (create g settings dice).played deeds = w at hw
    have helapsed : w.state.timeElapsed + left = g.config.timeLimit := by
      rw [hw.elapsed, ← hrun, (game_played g settings dice deeds).1]
    refine ⟨left, hw.remaining, helapsed, fun hplaying => ⟨?_, (hw.leads hplaying).remaining?⟩⟩
    have hpositive : 0 < left := hw.positive (by simp [hplaying])
    omega

/-- A lesson for which two seconds are given. -/
def hurriedLesson : Value :=
  .map
    [("content", .map [("sections", .list [.map [("id", "a"), ("type", "info")]])]),
      ("config", .map [("timeLimit", .int 2)])]

/-- A second goes by, and the game is still played; the last second ends it. -/
theorem timeRemaining_of_hurriedLesson :
    ∃ g, (load hurriedLesson "info").result = .ok g ∧ 0 < g.config.timeLimit ∧
      let w := create g .default (.repeating #[])
      w.faults [.start, .tick] = [] ∧ (w.played [.start, .tick]).phase = .playing ∧
        ∃ left, (w.played [.start, .tick]).state.timeRemaining = some left ∧
          (w.played [.start, .tick]).state.timeElapsed + left = g.config.timeLimit ∧
          (w.played [.start, .tick]).state.timeElapsed < g.config.timeLimit ∧
          (w.played [.start, .tick]).table.registry.remaining? gameName = some left := by
  obtain ⟨g, hg, hplay⟩ := Traced.exists_ok_of_any (x := load hurriedLesson "info")
    (p := fun g =>
      decide (0 < g.config.timeLimit) &&
        ((create g .default (.repeating #[])).faults [.start, .tick]).isEmpty &&
        decide (((create g .default (.repeating #[])).played [.start, .tick]).phase = .playing))
    (by decide +kernel)
  simp only [Bool.and_eq_true, List.isEmpty_iff, decide_eq_true_eq] at hplay
  obtain ⟨⟨hlimit, hfaults⟩, hphase⟩ := hplay
  obtain ⟨-, -, htimed⟩ :=
    timeRemaining_of_played g .default (.repeating #[]) [.start, .tick]
  obtain ⟨left, hremaining, helapsed, hplaying⟩ := htimed hlimit hfaults
  exact ⟨g, hg, hlimit, hfaults, hphase, left, hremaining, helapsed, hplaying hphase⟩

end Session

end LearningGame.Play
