import LearningGame.Proofs.Play.Announcing.Sections
import LearningGame.Proofs.Play.Contract
import LearningGame.Proofs.Play.Registry
import LearningGame.Proofs.Play.Step

/-!
# Contracts with sessions

A contract that allows all steps of a session is kept by all its operations, by every second that
goes by and by every move in a section. What the scripts of sections do is looked at apart, as it
may be more than the session can see.
-/

namespace LearningGame.Play

open Content Schema Rules Act Contract

namespace Session

/-- A session has gone on to another with the lives that it had, and with the countdown to the end
for want of lives that it had; if the game has ended there is none. -/
structure Sparing (w v : Session) : Prop where
  lives : v.state.lives = w.state.lives
  phase : v.phase = w.phase ∨ v.phase = .outro
  fresh : ∀ c ∈ v.table.registry.countdowns, c.name = lifeLossName →
    v.phase = w.phase ∧ c ∈ w.table.registry.countdowns
  kept : v.phase = .playing → ∀ c ∈ w.table.registry.countdowns, c.name = lifeLossName →
    c.scope = .ofPlay → c ∈ v.table.registry.countdowns

namespace Sparing

variable {w v : Session}

lemma of_registry_eq (hlives : v.state.lives = w.state.lives) (hphase : v.phase = w.phase)
    (h : v.table.registry = w.table.registry) : Sparing w v :=
  ⟨hlives, .inl hphase, fun _ hc _ => ⟨hphase, h ▸ hc⟩, fun _ _ hc _ _ => h ▸ hc⟩

lemma of_nextSection (hlives : v.state.lives = w.state.lives) (hphase : v.phase = w.phase)
    (h : v.table.registry = w.table.registry.nextSection) : Sparing w v := by
  refine ⟨hlives, .inl hphase, fun c hc _ => ?_, fun _ c hc _ hscope => ?_⟩
  · rw [h] at hc
    exact ⟨hphase, List.mem_of_mem_filter hc⟩
  · rw [h]
    exact List.mem_filter.2 ⟨hc, by simp [hscope]⟩

lemma finished (tier : RatingTier) {table : Table SessionAlarm}
    (htable : table.registry = w.table.registry.nextPhase) : Sparing w (w.finished tier table) := by
  refine ⟨by rw [state_finished]; rfl, .inr (phase_finished ..), fun c hc => ?_, fun h => ?_⟩
  · rw [table_finished, htable] at hc
    cases hc
  · rw [phase_finished] at h
    cases h

/-- Sections arm countdowns of other names. -/
lemma arm (w : Session) (index : Nat) (alarm : Alarm) (sectionId : String) (seconds : Int) :
    Sparing w (Table.mapRegistry (fun r => r.arm (alarm.fullName sectionId) seconds .ofSection
      (SessionAlarm.ofSeat index alarm)) w) where
  lives := rfl
  phase := .inl rfl
  fresh := Registry.forall_arm
    (P := fun c => c.name = lifeLossName → w.phase = w.phase ∧ c ∈ w.table.registry.countdowns)
    (fun _ hc _ => ⟨rfl, hc⟩) fun h => absurd h (alarm.fullName_ne_lifeLossName sectionId)
  kept _ _ hc hname _ := Registry.mem_place_of_ne hc
    (hname ▸ (alarm.fullName_ne_lifeLossName sectionId).symm)

/-- Sections take out countdowns of other names. -/
lemma cancel (w : Session) (alarm : Alarm) (sectionId : String) :
    Sparing w (Table.mapRegistry (fun r => r.cancel (alarm.fullName sectionId)) w) where
  lives := rfl
  phase := .inl rfl
  fresh _ hc _ := ⟨rfl, List.mem_of_mem_filter hc⟩
  kept _ _ hc hname _ := List.mem_filter.2
    ⟨hc, by simpa [hname] using (alarm.fullName_ne_lifeLossName sectionId).symm⟩

end Sparing

/-- A contract that allows the steps of a session that cost no life, and to break off when the score
cannot be rated, and when sections are begun one from within the other without end. -/
structure Admits (C : Contract Session) : Prop where
  step : ∀ {w v}, Step w v → Sparing w v → C.ends w v
  unrated : ∀ {w e} (table : Table SessionAlarm), w.phase = .playing →
    rate w.game.scoring w.state.score = .error e → table.registry = w.table.registry →
    C.breaks e w (w.unrated table)
  lost : ∀ {w} (id : String) (index : Int), w.phase = .playing → w.Reaches id →
    C.breaks .endless w (leaveSection (w.turned id index))

/-- A contract that allows the steps of a session, and the loss of lives as a whole. -/
structure Covers (C : Contract Session) : Prop extends Admits C where
  loseLife : ∀ {w}, w.phase = .playing → C.Met loseLife w

lemma mem_order_of_nextAfter {w : Session} {place : Nat} {id : String}
    (h : w.nextAfter place = some id) : id ∈ w.game.order :=
  List.mem_of_mem_drop (List.mem_of_find?_eq_some h)

section

variable {C : Contract Session} (hC : Admits C) {w : Session} {α : Type}

/-! ### Notes and phases -/

include hC

lemma freeNotes : Table.FreeNotes (α := SessionAlarm) C :=
  fun w notes => hC.step (.aside notes w.dice w.clock) (.of_registry_eq rfl rfl rfl)

lemma met_note (level : Log.Level) (message : String) : C.Met (note level message) w :=
  Table.met_note (freeNotes hC) _ _ _

lemma met_warn_pure (message : String) (a : α) :
    C.Met (warn message >>= fun _ => pure a) w :=
  Table.met_note_bind (freeNotes hC) (met_pure _)

lemma met_whilePlaying (operation : String) (refused : α) {x : Act Session α}
    (hx : w.phase = .playing → C.Met x w) : C.Met (whilePlaying operation refused x) w := by
  refine met_get_bind ?_
  split_ifs with hw
  · exact hx hw
  · exact met_warn_pure hC _ _

/-! ### The end -/

lemma met_finish (hw : w.phase = .playing) : C.Met finish w := by
  unfold Contract.Met
  rcases finish_spec hw with ⟨e, table, hrate, htable, hrun⟩ | ⟨tier, table, htier, htable, hrun⟩
  · rw [hrun]
    exact hC.unrated table hw hrate htable
  · rw [hrun]
    exact hC.step (.finish tier table hw htier htable) (.finished tier htable)

lemma met_stop : C.Met stop w :=
  met_whilePlaying hC _ _ fun hw => met_bind (met_finish hC hw) fun _ _ _ =>
    met_pure _

/-! ### Answers, hints and items -/

/-- A change of what answers, hints, variables and items are about. -/
lemma met_change_bind {β : Type} {f : GameState → GameState} {x : PUnit → Act Session β}
    (hw : w.phase = .playing) (hf : (f w.state).course = w.state.course)
    (hlives : (f w.state).lives = w.state.lives)
    (hstreak : 0 ≤ w.state.streak → 0 ≤ (f w.state).streak)
    (hx : C.Met (x ⟨⟩) { w with state := f w.state }) : C.Met (change f >>= x) w :=
  met_modify_bind (hC.step (.reckon _ hw hf hstreak) (.of_registry_eq hlives rfl rfl)) hx

lemma met_change {f : GameState → GameState} (hw : w.phase = .playing)
    (hf : (f w.state).course = w.state.course) (hlives : (f w.state).lives = w.state.lives)
    (hstreak : (f w.state).streak = w.state.streak) : C.Met (change f) w :=
  met_modify (hC.step (.reckon _ hw hf fun h => hstreak ▸ h) (.of_registry_eq hlives rfl rfl))

lemma met_useHint : C.Met useHint w := by
  refine met_whilePlaying hC _ _ fun hw => met_get_bind ?_
  split_ifs
  · exact met_pure _
  · exact met_change_bind hC hw rfl rfl id (met_pure _)

lemma met_updateVariables (patch : Fields) : C.Met (updateVariables patch) w :=
  met_whilePlaying hC _ _ fun hw => met_change hC hw rfl rfl rfl

lemma met_addItem (item : String) : C.Met (addItem item) w := by
  refine met_whilePlaying hC _ _ fun hw => met_change hC hw ?_ ?_ ?_ <;> split_ifs <;> rfl

lemma met_removeItem (item : String) : C.Met (removeItem item) w :=
  met_whilePlaying hC _ _ fun hw => met_change hC hw rfl rfl rfl

/-! ### Lives -/

omit hC in
/-- A contract that allows all steps allows lives to be lost. -/
lemma Covers.of_steps (hstep : ∀ {w v}, Step w v → C.ends w v)
    (hunrated : ∀ {w e} (table : Table SessionAlarm), w.phase = .playing →
      rate w.game.scoring w.state.score = .error e → table.registry = w.table.registry →
      C.breaks e w (w.unrated table))
    (hlost : ∀ {w} (id : String) (index : Int), w.phase = .playing → w.Reaches id →
      C.breaks .endless w (leaveSection (w.turned id index))) : Covers C := by
  have hC : Admits C := ⟨fun h _ => hstep h, hunrated, hlost⟩
  refine ⟨hC, fun {w} hw => ?_⟩
  unfold Contract.Met
  rcases loseLife_spec w with ⟨-, hrun⟩ | ⟨lives, -, -, hrun⟩ | ⟨-, hrun⟩
  · rw [hrun]
    exact C.refl w
  · rw [hrun]
    exact hstep (.reckon _ hw rfl id)
  · have hlost : C.ends w (w.withLives 0) := hstep (.reckon _ hw rfl id)
    have hplaying : (w.withLives 0).phase = .playing := hw
    have hlives : (w.withLives 0).state.lives = some 0 := rfl
    rw [hrun]
    generalize w.withLives 0 = u at hlost hplaying hlives
    refine Allows.after hlost ?_
    rcases scheduleEnd_spec u with ⟨hgrace, table, htable, hrun⟩ | ⟨-, table, htable, hrun⟩
    · rw [hrun]
      exact C.trans (hstep (.grant hplaying hlives hgrace)) (hstep (.notes htable))
    · rw [hrun]
      have hstop : C.Met (stop >>= fun _ => pure ()) { u with table } :=
        met_bind (met_stop hC) fun _ _ _ => met_pure _
      exact Allows.after (hstep (.notes htable)) hstop

/-! ### Completing and navigating -/

/-- Going to the sections of the game keeps to a contract. -/
def GoesBy (C : Contract Session) (activate : Act Session Unit) : Prop :=
  ∀ (w : Session) (id : String), w.phase = .playing →
    id ∈ w.game.order ∨ (w.game.section? id).isSome → C.Met (goTo activate id) w

section

variable {activate : Act Session Unit} (hgoTo : GoesBy C activate)

include hgoTo

lemma met_goOn (id : String) (place : Nat) (hw : w.phase = .playing) :
    C.Met (goOn activate id place) w := by
  refine Table.met_note_bind (freeNotes hC) (met_get_bind ?_)
  cases hnext : Session.nextAfter _ place with
  | none => exact met_bind (met_stop hC) fun _ _ _ => met_pure _
  | some next => exact hgoTo _ next hw (.inl (mem_order_of_nextAfter hnext))

lemma met_completeAt (id : String) (place : Nat) (hw : w.phase = .playing)
    (hplace : w.place? id = some place) : C.Met (completeAt activate id place) w := by
  refine met_get_bind ?_
  split_ifs with hahead
  · exact met_modify_bind
      (hC.step (.complete id place hw hplace hahead) (.of_registry_eq rfl rfl rfl))
      (met_goOn hC hgoTo id place hw)
  · exact Table.met_note_bind (freeNotes hC) (met_goOn hC hgoTo id place hw)

lemma met_completeBy (id : String) : C.Met (completeBy activate id) w := by
  refine met_whilePlaying hC _ _ fun hw => met_get_bind ?_
  split_ifs
  · exact met_warn_pure hC _ _
  · exact met_warn_pure hC _ _
  · cases hplace : w.place? id with
    | none =>
      exact Table.met_note_bind (freeNotes hC) (met_bind (met_stop hC) fun _ _ _ =>
        met_pure _)
    | some place =>
      exact met_bind (met_completeAt hC hgoTo id place hw hplace) fun _ _ _ =>
        met_pure _

lemma met_navigateBy (id : String) : C.Met (navigateBy activate id) w := by
  refine met_whilePlaying hC _ _ fun hw => met_get_bind ?_
  cases hs : w.game.section? id with
  | none => exact met_warn_pure hC _ _
  | some s =>
    exact met_bind (hgoTo _ id hw (.inr (by rw [hs]; rfl))) fun _ _ _ =>
      met_pure _

end

/-! ### What sections ask -/

lemma met_heard (seat : Seat) (operation : String) (refused : α) {x : Act Session α}
    (hx : C.Met x w) : C.Met (heard seat operation refused x) w := by
  refine met_get_bind ?_
  split_ifs
  · exact hx
  · exact Table.met_note_bind (freeNotes hC) (met_pure _)

end

section

variable {C : Contract Session} (hC : Covers C) {w : Session} {activate : Act Session Unit}

include hC

lemma met_enterAnswer (x : Submission) (hw : w.phase = .playing) : C.Met (enterAnswer x) w := by
  refine met_get_bind (met_lift_bind fun points _ => ?_)
  refine met_change_bind hC.toAdmits hw rfl rfl id (met_lift_bind fun score _ => ?_)
  have hstreak (h : 0 ≤ w.state.streak) : 0 ≤ if x.isCorrect then w.state.streak + 1 else 0 := by
    split_ifs <;> omega
  refine met_change_bind hC.toAdmits hw rfl rfl hstreak
    (Table.met_note_bind (freeNotes hC.toAdmits) ?_)
  split_ifs
  · exact met_pure _
  · exact met_bind (hC.loseLife hw) fun _ _ _ => met_pure _

lemma met_submitAnswer (x : Submission) : C.Met (submitAnswer x) w :=
  met_whilePlaying hC.toAdmits _ _ fun hw => met_bind (met_enterAnswer hC x hw) fun _ _ _ =>
    met_pure _

lemma met_reply (hgoTo : GoesBy C activate) (index : Nat) (seat : Seat) (r : Request) :
    C.Met (reply activate index seat r) w := by
  have hA : Admits C := hC.toAdmits
  cases r with
  | report item given isCorrect points time =>
    exact met_heard hA seat _ _ (met_bind (met_submitAnswer hC _) fun _ _ _ =>
      met_pure _)
  | complete =>
    exact met_heard hA seat _ _ (met_bind (met_completeBy hA hgoTo _) fun _ _ _ =>
      met_pure _)
  | spendHint => exact met_heard hA seat _ _ (met_useHint hA)
  | navigate id =>
    exact met_heard hA seat _ _ (met_bind (met_navigateBy hA hgoTo id) fun _ _ _ =>
      met_pure _)
  | updateVariables patch => exact met_heard hA seat _ _ (met_updateVariables hA patch)
  | addItem item => exact met_heard hA seat _ _ (met_addItem hA item)
  | removeItem item => exact met_heard hA seat _ _ (met_removeItem hA item)
  | look => exact met_get_bind (met_pure _)
  | arm alarm seconds =>
    exact Table.met_arm (freeNotes hA)
      (hA.step (.arm index alarm _ seconds) (.arm w index alarm _ seconds))
  | cancel alarm =>
    exact Table.met_cancel (freeNotes hA) (hA.step (.cancel alarm _) (.cancel w alarm _))
  | draw =>
    refine met_get_bind ?_
    exact hA.step (.aside w.table.notes w.dice.advance w.clock) (.of_registry_eq rfl rfl rfl)
  | now => exact met_get_bind (met_pure _)
  | note level message => exact Table.met_note (freeNotes hA) _ _ _

end

/-! ### Seconds -/

/-- A session a second later. -/
def later (w : Session) : Session :=
  { w with state := { w.state with timeElapsed := w.state.timeElapsed + 1 } }

lemma runIn_tick (w : Session) :
    tick.runIn w =
      if w.phase = .playing then (Table.tick bells >>= fun _ => pure ()).runIn w.later
      else (.ok (), w) := by
  rw [tick, runIn_get_bind]
  split_ifs <;> rfl

/-! ### Beginning sections -/

/-- A computation that begins the section that is to be played. -/
def IsActivation (x : Act Session Unit) : Prop :=
  ∀ w, ∃ n, x.runIn w = (activateWithin n).runIn w

lemma isActivation_activateWithin (n : Nat) : IsActivation (activateWithin n) := fun _ => ⟨n, rfl⟩

lemma isActivation_activate : IsActivation activate :=
  fun w => ⟨longestChain w.game, by rw [activate, runIn_get_bind]⟩

/-- The section in a seat keeps to a contract whenever going to sections does, if its scripts are
orderly. -/
def Performs (C : Contract Session) : Prop :=
  ∀ ⦃activate : Act Session Unit⦄, IsActivation activate → GoesBy C activate →
    ∀ (index : Nat) {α : Type} (script : Setting → Player → Script Player α) (w : Session),
      (∀ seat, w.seats[index]? = some seat →
        Player.Orderly (script seat.setting seat.player) seat.player) →
      C.Met (perform activate index script) w

section

variable {C : Contract Session} (hC : Covers C) (hperform : Performs C) {w : Session}

include hC hperform

/-- Going to a section, or staying at the present one, and beginning it. -/
lemma allows_activateWithin (n : Nat) {id : String} {index : Int} (hw : w.phase = .playing)
    (hid : w.Reaches id) :
    C.Allows w ((activateWithin n).runIn (w.turned id index)).1
      ((activateWithin n).runIn (w.turned id index)).2 := by
  induction n generalizing w id index with
  | zero => exact hC.lost id index hw hid
  | succ n ih =>
    have hgoTo : GoesBy C (activateWithin n) := fun w id hw hid => ih hw (.inr hid)
    rcases activateWithin_spec n (w.turned id index) with
      ⟨s, player, dice, table, hs, hsits, htable, hrun⟩ | ⟨r, table, hs, -, htable, hrun⟩
    · rw [hrun]
      obtain ⟨hplayer, hkind⟩ := hsits.fresh
      have hsit := hC.step (.sit id index s player dice table hw hs hplayer hkind htable)
        (.of_nextSection rfl rfl htable)
      exact Allows.after hsit
        (hperform (isActivation_activateWithin n) hgoTo _ Player.enter _
          fun seat _ => Player.orderly_enter _ _)
    · rw [hrun]
      have hstray := hC.step (.stray id index table hw hid hs htable)
        (.of_nextSection rfl rfl htable)
      cases r with
      | ok a => exact hstray
      | error e => exact C.breaks_trans hstray (C.breaks_self e _)

lemma goesBy_activateWithin (n : Nat) : GoesBy C (activateWithin n) :=
  fun _ _ hw hid => allows_activateWithin hC hperform n hw (.inr hid)

lemma goesBy_activate : GoesBy C activate := by
  intro w id hw hid
  unfold Contract.Met
  rw [goTo, change, runIn_modify_bind, activate, runIn_get_bind]
  exact allows_activateWithin hC hperform (longestChain w.game) hw (.inr hid)

/-- A section is begun at once, unless there is none to be begun. -/
lemma allows_seated (n : Nat) (w : Session) :
    (∃ s player dice table, w.game.section? w.state.sectionId = some s ∧
        player.completed = false ∧ player.kind = s.kind ∧
        table.registry = w.table.registry.nextSection ∧
        C.Allows (w.seated s player dice table) ((activateWithin (n + 1)).runIn w).1
          ((activateWithin (n + 1)).runIn w).2) ∨
      ∃ table, (∀ s, w.game.section? w.state.sectionId = some s → s.content.kind ≠ s.kind) ∧
        table.registry = w.table.registry.nextSection ∧
        ((activateWithin (n + 1)).runIn w).2 = { w with table, current := none } := by
  rcases activateWithin_spec n w with
    ⟨s, player, dice, table, hs, hsits, htable, hrun⟩ | ⟨r, table, hs, -, htable, hrun⟩
  · obtain ⟨hplayer, hkind⟩ := hsits.fresh
    refine .inl ⟨s, player, dice, table, hs, hplayer, hkind, htable, ?_⟩
    rw [hrun]
    exact hperform (isActivation_activateWithin n) (goesBy_activateWithin hC hperform n) _
      Player.enter _ fun seat _ => Player.orderly_enter _ _
  · rw [hrun]
    exact .inr ⟨table, hs, htable, rfl⟩

lemma met_activate (hw : w.phase = .playing) : C.Met activate w :=
  met_get_bind (allows_activateWithin hC hperform _ hw (.inl rfl))

lemma met_perform (index : Nat) {α : Type} (script : Setting → Player → Script Player α)
    (hscript : ∀ seat, w.seats[index]? = some seat →
      Player.Orderly (script seat.setting seat.player) seat.player) :
    C.Met (perform activate index script) w :=
  hperform isActivation_activate (goesBy_activate hC hperform) index script w hscript

/-! ### Time -/

lemma met_bells_tick (c : Countdown SessionAlarm) (left : Int) (w : Session)
    (hremain : c.alarm = .game →
      C.ends w { w with state := { w.state with timeRemaining := some left } }) :
    C.Met (bells.tick c left) w := by
  unfold bells
  dsimp only
  cases hc : c.alarm with
  | game => exact met_modify (hremain hc)
  | lifeLoss => exact met_pure _
  | ofSeat index alarm =>
    exact met_perform hC hperform index _ fun seat _ => Player.orderly_tick alarm left _

lemma met_bells_expire (c : Countdown SessionAlarm) (w : Session) :
    C.Met (bells.expire c) w := by
  unfold bells
  dsimp only
  cases c.alarm with
  | game =>
    exact Table.met_note_bind (freeNotes hC.toAdmits)
      (met_bind (met_stop hC.toAdmits) fun _ _ _ => met_pure _)
  | lifeLoss => exact met_bind (met_stop hC.toAdmits) fun _ _ _ => met_pure _
  | ofSeat index alarm =>
    exact met_perform hC hperform index _ fun seat _ => Player.orderly_expire _ alarm _

/-- A second is taken off a countdown, with all that comes of it. -/
lemma met_advance {serial : Nat}
    (hstrike : ∀ c, w.table.registry.live? serial = some c →
      C.ends w (Table.mapRegistry (fun r => r.step c) w))
    (hremain : ∀ c left v, w.table.registry.live? serial = some c → c.alarm = .game →
      C.ends v { v with state := { v.state with timeRemaining := some left } })
    (hexpire : ∀ c v, w.table.registry.live? serial = some c → v.table.registry.left c ≤ 0 →
      C.ends v (Table.mapRegistry (fun r => r.cancel c.name) v)) :
    C.Met (Table.advance bells serial) w :=
  Table.met_advance hstrike
    (fun c v hc => met_bells_tick hC hperform c _ v fun hgame => hremain c _ v hc hgame)
    fun c v hc hleft =>
      Table.met_goOff (freeNotes hC.toAdmits) (met_bells_expire hC hperform c)
        (hexpire c v hc hleft)

/-- A second that goes by keeps to a contract, if the steps by which time goes by do. -/
lemma met_tick (hlapse : ∀ {w v}, Lapse w v → C.ends w v) : C.Met tick w := by
  refine met_get_bind ?_
  split_ifs with hw
  · refine met_modify_bind (hlapse (.elapse hw)) (met_bind (Table.met_tick fun serial w => ?_)
      fun _ _ _ => met_pure _)
    exact met_advance hC hperform (fun c hc => hlapse (.strike serial c hc))
      (fun _ left _ _ _ => hlapse (.remain left)) fun c _ _ hleft => hlapse (.expire c hleft)
  · exact met_pure _

end

end Session

end LearningGame.Play
