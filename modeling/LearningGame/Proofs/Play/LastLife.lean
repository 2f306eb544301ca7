import LearningGame.Proofs.Play.Path

/-!
# The last life

When the last life of a game is lost, a countdown is armed, unless no time is granted and the game
ends at once. The countdown belongs to the whole play: sections come and go under it, and further
mistakes find no life to take, so it is armed once.
-/

namespace LearningGame.Play

open Act Contract

namespace Session

variable {w v : Session} {serial number : Nat} {left seconds : Int}

/-! ### Lives left and lives lost -/

/-- A session with lives left, in which no countdown to the end for want of them is armed. -/
structure Spared (w : Session) : Prop where
  sound : w.table.registry.Sound
  lives : ∃ n, 0 < n ∧ w.state.lives = some n
  quiet : ∀ c ∈ w.table.registry.countdowns, c.name ≠ lifeLossName

/-- A countdown to the end for want of lives. -/
def grace (serial : Nat) (left : Int) (epochs : Epochs) : Countdown SessionAlarm :=
  ⟨serial, lifeLossName, left, .ofPlay, epochs, .lifeLoss⟩

/-- A session without lives whose game is to end in so many seconds, unless it has ended. -/
structure Graced (serial : Nat) (left : Int) (w : Session) : Prop where
  sound : w.table.registry.Sound
  lives : w.state.lives = some 0
  begun : w.phase ≠ .intro
  playing : ∀ c ∈ w.table.registry.countdowns, c.name = lifeLossName → w.phase = .playing
  due : w.phase = .playing →
    0 < left ∧ ∃ epochs, grace serial left epochs ∈ w.table.registry.countdowns

lemma sound_step (h : Step w v) (hw : w.table.registry.Sound) : v.table.registry.Sound :=
  invariant_sound.jolt (e := .endless) (.advance (.step h)) hw

namespace Spared

lemma of_sparing (hw : Spared w) (hv : v.table.registry.Sound) (h : Sparing w v) : Spared v where
  sound := hv
  lives := by
    rw [h.lives]
    exact hw.lives
  quiet c hc hname := hw.quiet c (h.fresh c hc hname).2 hname

lemma of_same (hw : Spared w) (hlives : v.state.lives = w.state.lives)
    (hregistry : v.table.registry = w.table.registry) : Spared v where
  sound := hregistry ▸ hw.sound
  lives := by
    rw [hlives]
    exact hw.lives
  quiet := hregistry ▸ hw.quiet

lemma strike (hw : Spared w) {c : Countdown SessionAlarm} (hc : c ∈ w.table.registry.countdowns) :
    Spared (Table.mapRegistry (fun r => r.step c) w) where
  sound := hw.sound.step hc
  lives := hw.lives
  quiet := Registry.forall_step (fun _ _ hd => hd) hw.quiet c

lemma expire (hw : Spared w) (name : String) :
    Spared (Table.mapRegistry (fun r => r.cancel name) w) where
  sound := hw.sound.cancel name
  lives := hw.lives
  quiet := Registry.forall_cancel hw.quiet name

end Spared

namespace Graced

lemma of_sparing (hw : Graced serial left w) (hv : v.table.registry.Sound) (h : Sparing w v) :
    Graced serial left v where
  sound := hv
  lives := h.lives.trans hw.lives
  begun := by
    rcases h.phase with hphase | hphase
    · rw [hphase]
      exact hw.begun
    · simp [hphase]
  playing c hc hname := by
    obtain ⟨hphase, hc⟩ := h.fresh c hc hname
    rw [hphase]
    exact hw.playing c hc hname
  due hplaying := by
    have hphase : w.phase = .playing := by
      rcases h.phase with hphase | hphase
      · exact hphase ▸ hplaying
      · simp [hphase] at hplaying
    obtain ⟨hpositive, epochs, hmem⟩ := hw.due hphase
    exact ⟨hpositive, epochs, h.kept hplaying _ hmem rfl rfl⟩

lemma of_same (hw : Graced serial left w) (hlives : v.state.lives = w.state.lives)
    (hphase : v.phase = w.phase) (hregistry : v.table.registry = w.table.registry) :
    Graced serial left v :=
  hw.of_sparing (hregistry ▸ hw.sound) (.of_registry_eq hlives hphase hregistry)

/-- A countdown that is there and has another serial number has another name. -/
lemma name_ne (hw : Graced serial left w) {c : Countdown SessionAlarm}
    (hc : c ∈ w.table.registry.countdowns) (hserial : c.serial ≠ serial) :
    c.name ≠ lifeLossName := by
  intro hname
  obtain ⟨-, epochs, hmem⟩ := hw.due (hw.playing c hc hname)
  have heq : c = grace serial left epochs := hw.sound.eq_of_name hc hmem hname
  exact hserial (congrArg Countdown.serial heq)

/-- Another countdown loses a second. -/
lemma strike (hw : Graced serial left w) {c : Countdown SessionAlarm}
    (hc : c ∈ w.table.registry.countdowns) (hserial : c.serial ≠ serial) :
    Graced serial left (Table.mapRegistry (fun r => r.step c) w) where
  sound := hw.sound.step hc
  lives := hw.lives
  begun := hw.begun
  playing := Registry.forall_step
    (P := fun c => c.name = lifeLossName → w.phase = .playing) (fun _ _ hd => hd) hw.playing c
  due hplaying := by
    obtain ⟨hpositive, epochs, hmem⟩ := hw.due hplaying
    refine ⟨hpositive, epochs, List.mem_map.2 ⟨grace serial left epochs, hmem, ?_⟩⟩
    exact if_neg (by simpa [grace] using hserial.symm)

/-- Another countdown runs out. -/
lemma expire (hw : Graced serial left w) {name : String} (hname : name ≠ lifeLossName) :
    Graced serial left (Table.mapRegistry (fun r => r.cancel name) w) where
  sound := hw.sound.cancel name
  lives := hw.lives
  begun := hw.begun
  playing := Registry.forall_cancel
    (P := fun c => c.name = lifeLossName → w.phase = .playing) hw.playing name
  due hplaying := by
    obtain ⟨hpositive, epochs, hmem⟩ := hw.due hplaying
    refine ⟨hpositive, epochs, List.mem_filter.2 ⟨hmem, ?_⟩⟩
    simpa [grace] using hname.symm

/-- Once the game has ended no seconds are counted. -/
lemma of_ended (hw : Graced serial left w) (hphase : w.phase ≠ .playing) (other : Nat) (n : Int) :
    Graced other n w :=
  ⟨hw.sound, hw.lives, hw.begun, hw.playing, fun h => absurd h hphase⟩

lemma finished (hw : w.table.registry.Sound) (hlives : w.state.lives = some 0)
    (tier : Content.RatingTier) {table : Table SessionAlarm}
    (htable : table.registry = w.table.registry.nextPhase) (serial : Nat) (left : Int) :
    Graced serial left (w.finished tier table) where
  sound := by
    rw [table_finished, htable]
    exact hw.nextPhase
  lives := by simpa [rated] using hlives
  begun := by simp
  playing := by
    rw [table_finished, htable]
    rintro c ⟨⟩
  due h := by simp at h

end Graced

/-! ### Losing lives -/

/-- A session whose last life may be lost; if it is, so many seconds are granted to a countdown
with at least some number. -/
structure Watched (number : Nat) (seconds : Int) (w : Session) : Prop where
  granted : w.settings.graceSeconds = seconds
  number_le : number ≤ w.table.registry.armed
  state : Spared w ∨ ∃ serial, number ≤ serial ∧ Graced serial seconds w

namespace Watched

lemma sound (hw : Watched number seconds w) : w.table.registry.Sound := by
  rcases hw.state with h | ⟨serial, -, h⟩
  · exact h.sound
  · exact h.sound

lemma of_sparing (hw : Watched number seconds w) (hsettings : v.settings = w.settings)
    (harmed : number ≤ v.table.registry.armed) (hv : v.table.registry.Sound) (h : Sparing w v) :
    Watched number seconds v := by
  refine ⟨hsettings ▸ hw.granted, harmed, ?_⟩
  rcases hw.state with hspared | ⟨serial, hserial, hgraced⟩
  · exact .inl (hspared.of_sparing hv h)
  · exact .inr ⟨serial, hserial, hgraced.of_sparing hv h⟩

lemma of_same (hw : Watched number seconds w) (hsettings : v.settings = w.settings)
    (hlives : v.state.lives = w.state.lives) (hphase : v.phase = w.phase)
    (hregistry : v.table.registry = w.table.registry) : Watched number seconds v :=
  hw.of_sparing hsettings (hregistry ▸ hw.number_le) (hregistry ▸ hw.sound)
    (.of_registry_eq hlives hphase hregistry)

lemma step (hw : Watched number seconds w) (h : Step w v) (hsparing : Sparing w v) :
    Watched number seconds v := by
  refine hw.of_sparing h.game_eq.2 ?_ (sound_step h hw.sound) hsparing
  exact h.registry (R := fun r => number ≤ r.armed) hw.number_le
    (fun _ _ _ _ => Nat.le_succ_of_le hw.number_le) (fun _ _ => hw.number_le)
    (fun _ => Nat.le_succ_of_le hw.number_le) hw.number_le hw.number_le

/-- Only the last life is lost to a countdown, and none after it. -/
lemma spared (hw : Watched number seconds w) {lives : Int} (hlives : w.state.lives = some lives)
    (hsome : 0 < lives) : Spared w := by
  rcases hw.state with hspared | ⟨serial, -, hgraced⟩
  · exact hspared
  · rw [hgraced.lives] at hlives
    cases hlives
    exact absurd hsome (Int.lt_irrefl 0)

/-- Some time is granted after the last life is lost. -/
lemma grant (hw : Watched number seconds w) (hplaying : w.phase = .playing)
    (hgrace : 0 < w.settings.graceSeconds) {table : Table SessionAlarm}
    (htable : table.registry = w.table.registry.arm lifeLossName w.settings.graceSeconds .ofPlay
      SessionAlarm.lifeLoss) : Watched number seconds { w.withLives 0 with table } where
  granted := hw.granted
  number_le := by
    show number ≤ table.registry.armed
    rw [htable]
    exact Nat.le_succ_of_le hw.number_le
  state := by
    rw [hw.granted] at htable hgrace
    refine .inr ⟨w.table.registry.armed, hw.number_le, ?_, rfl, ?_, fun _ _ _ => hplaying,
      fun _ => ⟨hgrace, w.table.registry.epochs, ?_⟩⟩
    · show table.registry.Sound
      rw [htable]
      exact hw.sound.arm _ _ _ _
    · show w.phase ≠ .intro
      simp [hplaying]
    · show _ ∈ table.registry.countdowns
      rw [htable]
      exact Registry.mem_place_self _ _

/-- The game ends at once when the last life is lost and no time is granted. -/
lemma finished (hw : Watched number seconds w) {tier : Content.RatingTier}
    {table after : Table SessionAlarm} (htable : table.registry = w.table.registry)
    (hafter : after.registry = table.registry.nextPhase) :
    Watched number seconds (({ w.withLives 0 with table } : Session).finished tier after) where
  granted := by
    rw [settings_finished]
    exact hw.granted
  number_le := by
    rw [table_finished, hafter, htable]
    exact hw.number_le
  state := by
    refine .inr ⟨number, Nat.le_refl _, .finished ?_ rfl tier hafter _ _⟩
    show table.registry.Sound
    exact htable ▸ hw.sound

end Watched

/-- The contract to keep a session one whose last life may be lost, as long as nothing is broken
off. -/
def watching (number : Nat) (seconds : Int) : Contract Session :=
  keeping (Watched number seconds) (fun _ _ => True) fun _ _ _ => trivial

lemma met_loseLife_watching (hplaying : w.phase = .playing) :
    (watching number seconds).Met loseLife w := by
  refine allows_keeping fun hw => ?_
  rcases loseLife_spec w with ⟨-, hrun⟩ | ⟨lives, hlives, hmany, hrun⟩ | ⟨hlast, hrun⟩
  · rw [hrun]
    exact id
  · rw [hrun]
    intro hw
    have hspared : Spared w := hw.spared hlives (by omega)
    exact ⟨hw.granted, hw.number_le,
      .inl ⟨hspared.sound, ⟨lives - 1, by omega, rfl⟩, hspared.quiet⟩⟩
  · rw [hrun]
    rcases scheduleEnd_spec (w.withLives 0) with
      ⟨hgrace, table, htable, hgranted⟩ | ⟨-, table, htable, hstopped⟩
    · rw [hgranted]
      exact fun hw => hw.grant hplaying hgrace htable
    · rw [hstopped, runIn_bind]
      rcases stop_spec (w := { w.withLives 0 with table }) hplaying with
        ⟨e, _, -, -, hstop⟩ | ⟨tier, after, -, hafter, hstop⟩
      · rw [hstop]
        exact fun _ => trivial
      · rw [hstop]
        exact fun hw => hw.finished htable hafter

lemma covers_watching : Covers (watching number seconds) where
  step h hsparing hw := hw.step h hsparing
  unrated _ _ _ _ _ := trivial
  lost _ _ _ _ _ := trivial
  loseLife := met_loseLife_watching

lemma performs_watching : Performs (watching number seconds) :=
  performs_of covers_watching (fun _ _ _ h hw => (h hw).of_same rfl rfl rfl rfl)
    fun _ _ _ _ _ => trivial

/-- The contract to let a countdown to the end for want of lives run, as long as nothing is broken
off. -/
def gracing (serial : Nat) (left : Int) : Contract Session :=
  keeping (Graced serial left) (fun _ _ => True) fun _ _ _ => trivial

/-- There is no life left to be lost. -/
lemma met_loseLife_gracing : (gracing serial left).Met loseLife w := by
  refine allows_keeping fun hw => ?_
  rcases loseLife_spec w with ⟨-, hrun⟩ | ⟨lives, hlives, hmany, -⟩ | ⟨hlast, -⟩
  · rw [hrun]
    exact id
  · rw [hw.lives] at hlives
    cases hlives
    omega
  · rw [hw.lives] at hlast
    cases hlast

lemma covers_gracing : Covers (gracing serial left) where
  step h hsparing hw := hw.of_sparing (sound_step h hw.sound) hsparing
  unrated _ _ _ _ _ := trivial
  lost _ _ _ _ _ := trivial
  loseLife _ := met_loseLife_gracing

lemma performs_gracing : Performs (gracing serial left) :=
  performs_of covers_gracing (fun _ _ _ h hw => (h hw).of_same rfl rfl rfl) fun _ _ _ _ _ => trivial

end Session

end LearningGame.Play
