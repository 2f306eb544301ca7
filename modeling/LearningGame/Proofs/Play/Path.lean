import LearningGame.Proofs.Play.Deeds
import LearningGame.Proofs.Play.Covers
import Mathlib.Logic.Relation

/-!
# Paths of a session

A deed takes a session along a path of steps. Only a start, which opens the playing phase, and a
restart, which drops the play, are not made up of such steps alone. A property of sessions that
every step keeps therefore holds of every session, whatever is done with it.
-/

namespace LearningGame.Play

open Act Contract Relation Schema

/-! ### Deeds as computations -/

namespace Deed

/-- What is done in a deed, whatever comes of it. -/
def act : Deed → Act Session Unit
  | .start => do
    let _ ← Session.start
  | .stop => do
    let _ ← Session.stop
  | .restart => Session.restart
  | .completeSection id => do
    let _ ← Session.completeSection id
  | .navigateTo id => do
    let _ ← Session.navigateTo id
  | .submit x => do
    let _ ← Session.submitAnswer x
  | .useHint => do
    let _ ← Session.useHint
  | .updateVariables patch => Session.updateVariables patch
  | .addItem item => Session.addItem item
  | .removeItem item => Session.removeItem item
  | .tick => Session.tick
  | .moveClock seconds => modify (Session.moveClock seconds)
  | .move index m => do
    let w ← get
    match Session.act? index m w with
    | none => return ()
    | some x =>
      let _ ← x
  | .request index r => do
    let w ← get
    match w.seats[index]? with
    | none => return ()
    | some seat =>
      let _ ← Session.reply Session.activate index seat r

/-- The session after a deed is the one its computation leaves. -/
lemma runIn_act (d : Deed) (w : Session) : (d.act.runIn w).2 = d.after w := by
  cases d with
  | restart | updateVariables | addItem | removeItem | tick | moveClock => rfl
  | start | stop | completeSection | navigateTo | submit | useHint =>
    exact (runIn_bind_pure _ _ w).1
  | move index m =>
    simp only [act, after, runIn_get_bind]
    cases Session.act? index m w with
    | none => rfl
    | some x => exact (runIn_bind_pure _ _ w).1
  | request index r =>
    simp only [act, after, runIn_get_bind]
    cases w.seats[index]? with
    | none => rfl
    | some seat => exact (runIn_bind_pure _ _ w).1

/-- The fault with which a deed is broken off, if it is. -/
def fault? (w : Session) (d : Deed) : Option Fault :=
  match (d.act.runIn w).1 with
  | .ok _ => none
  | .error e => some e

lemma runIn_act_of_fault? {w : Session} {d : Deed} (h : d.fault? w = none) :
    d.act.runIn w = (.ok (), d.after w) := by
  refine Prod.ext ?_ (d.runIn_act w)
  unfold fault? at h
  split at h
  · assumption
  · cases h

lemma fault?_eq_some {w : Session} {d : Deed} {e : Fault} :
    d.fault? w = some e ↔ (d.act.runIn w).1 = .error e := by
  unfold fault?
  cases (d.act.runIn w).1 <;> simp

lemma fault?_request {w : Session} {index : Nat} {seat : Seat} (hseat : w.seats[index]? = some seat)
    (r : Request) (e : Fault) :
    (request index r).fault? w = some e ↔
      ((Session.reply Session.activate index seat r).runIn w).1 = .error e := by
  have hact : (request index r).act.runIn w =
      (Session.reply Session.activate index seat r >>= fun _ => pure ()).runIn w := by
    rw [act, runIn_get_bind, hseat]
  rw [fault?_eq_some, hact, runIn_bind_pure_eq_error]

end Deed

namespace Session

/-- The faults with which some deeds are broken off, one after the other. -/
def faults (w : Session) : List Deed → List Fault
  | [] => []
  | d :: rest => (d.fault? w).toList ++ faults (d.after w) rest

/-! ### Deeds under a contract -/

/-- What a deed sets out from: the session as it is, or as it has just begun to be played. -/
inductive SetsOut (w : Session) : Session → Prop
  | here : SetsOut w w
  | begun (table : Table SessionAlarm) (hw : w.phase = .intro)
      (htable : table.registry = readied w.table.registry w.state.timeRemaining) :
      SetsOut w (w.begun table)

section

variable {C : Contract Session} (hC : Covers C) (hperform : Performs C) {w : Session}

include hC hperform

lemma allows_start : ∃ u, SetsOut w u ∧ C.Allows u (start.runIn w).1 (start.runIn w).2 := by
  rcases start_spec w with ⟨-, table, htable, hrun⟩ | ⟨hw, table, htable, hrun⟩
  · rw [hrun]
    exact ⟨w, .here, hC.step (.notes htable) (.of_registry_eq rfl rfl htable)⟩
  · rw [hrun]
    exact ⟨w.begun table, .begun table hw htable,
      met_bind (met_activate hC hperform rfl) fun _ _ _ => met_pure _⟩

/-- A move keeps to a contract, if what sections do does. -/
lemma met_move (index : Nat) (m : Move) : C.Met (Deed.move index m).act w := by
  refine met_get_bind ?_
  cases hact : act? index m w with
  | none => exact met_pure _
  | some x =>
    obtain ⟨seat, hseat, script, hscript, rfl⟩ := eq_perform_of_act? hact
    refine met_bind (met_perform hC hperform index _ fun s hs => ?_) fun _ _ _ => met_pure _
    rw [hseat] at hs
    cases hs
    exact Player.orderly_act? _ hscript

lemma met_request (index : Nat) (r : Request) : C.Met (Deed.request index r).act w := by
  refine met_get_bind ?_
  cases w.seats[index]? with
  | none => exact met_pure _
  | some seat =>
    exact met_bind (met_reply hC (goesBy_activate hC hperform) index seat r) fun _ _ _ => met_pure _

/-- Every deed but a start and a restart keeps to a contract, if the steps of a session, what its
sections do and the seconds that go by keep to it. -/
lemma met_act {d : Deed} (hstart : d ≠ .start) (hrestart : d ≠ .restart)
    (htick : d = .tick → C.Met tick w) : C.Met d.act w := by
  have hgoTo : GoesBy C activate := goesBy_activate hC hperform
  cases d with
  | start => exact absurd rfl hstart
  | restart => exact absurd rfl hrestart
  | stop => exact met_bind (met_stop hC.toAdmits) fun _ _ _ => met_pure _
  | completeSection id =>
    exact met_bind (met_completeBy hC.toAdmits hgoTo id) fun _ _ _ => met_pure _
  | navigateTo id =>
    exact met_bind (met_navigateBy hC.toAdmits hgoTo id) fun _ _ _ => met_pure _
  | submit x => exact met_bind (met_submitAnswer hC x) fun _ _ _ => met_pure _
  | useHint => exact met_bind (met_useHint hC.toAdmits) fun _ _ _ => met_pure _
  | updateVariables patch => exact met_updateVariables hC.toAdmits patch
  | addItem item => exact met_addItem hC.toAdmits item
  | removeItem item => exact met_removeItem hC.toAdmits item
  | tick => exact htick rfl
  | moveClock seconds =>
    exact met_modify (hC.step (.aside w.table.notes w.dice _) (.of_registry_eq rfl rfl rfl))
  | move index m => exact met_move hC hperform index m
  | request index r => exact met_request hC hperform index r

/-- So does a start, from where it sets out. -/
lemma allows_after_of {d : Deed} (hd : d ≠ .restart) (htick : d = .tick → C.Met tick w) :
    ∃ u, SetsOut w u ∧ C.Allows u (d.act.runIn w).1 (d.after w) := by
  by_cases hstart : d = .start
  · subst hstart
    obtain ⟨u, hu, hallows⟩ := allows_start hC hperform (w := w)
    exact ⟨u, hu, Deed.start.runIn_act w ▸ hallows.drop ()⟩
  · exact ⟨w, .here, d.runIn_act w ▸ met_act hC hperform hstart hd htick⟩

lemma allows_after {d : Deed} (htick : ∀ w, C.Met tick w) (hd : d ≠ .restart) (w : Session) :
    ∃ u, SetsOut w u ∧ C.Allows u (d.act.runIn w).1 (d.after w) :=
  allows_after_of hC hperform hd fun _ => htick w

end

/-! ### Sections that go on -/

lemma performs_of {C : Contract Session} (hC : Covers C)
    (hends : ∀ {u v : Session} {index : Nat} {seat : Seat} (player : Player),
      u.seats[index]? = some seat → player.kind = seat.player.kind →
      C.ends u v → C.ends u (putPlayer index player v))
    (hbreaks : ∀ {e : Fault} {u v : Session} {index : Nat} {seat : Seat} (player : Player),
      u.seats[index]? = some seat → player.kind = seat.player.kind →
      C.breaks e u v → C.breaks e u (putPlayer index player v)) : Performs C := by
  intro activate _ hgoTo index α script w hscript
  unfold Contract.Met
  cases hseat : w.seats[index]? with
  | none =>
    rw [perform, runIn_ofFun, hseat]
    exact C.breaks_self _ w
  | some seat =>
    rw [runIn_perform activate hseat]
    have hrun := allows_run (fun r w => met_reply hC hgoTo (w := w) index seat r)
      (script seat.setting seat.player) seat.player w
    have hkind := Script.run_puts (hscript seat hseat).puts (reply activate index seat) rfl w
    generalize (script seat.setting seat.player).run (reply activate index seat) seat.player w = out
      at hrun hkind
    obtain ⟨result, player, v⟩ := out
    cases result with
    | ok a => exact hends player hseat hkind hrun
    | error e => exact hbreaks player hseat hkind hrun

/-! ### Paths -/

/-- What happens to a session: a step is taken, time goes by, or the section in a seat goes on. -/
inductive Advance : Session → Session → Prop
  | step {w v : Session} (h : Step w v) : Advance w v
  | lapse {w v : Session} (h : Lapse w v) : Advance w v
  | play {w : Session} (index : Nat) (player : Player)
      (hkind : ∀ seat, w.seats[index]? = some seat → player.kind = seat.player.kind) :
      Advance w (putPlayer index player w)

/-- What happens to a session in a deed that is broken off. -/
inductive Jolt (e : Fault) : Session → Session → Prop
  | advance {w v : Session} (h : Advance w v) : Jolt e w v
  /-- The game was to end, but the score could not be rated. -/
  | unrated {w : Session} (table : Table SessionAlarm) (hw : w.phase = .playing)
      (htable : table.registry = w.table.registry) : Jolt e w (w.unrated table)
  /-- Sections were begun one from within the other without end. -/
  | lost {w : Session} (id : String) (index : Int) (hw : w.phase = .playing) (hid : w.Reaches id)
      (he : e = .endless) : Jolt e w (leaveSection (w.turned id index))

lemma jolts_of_advances {e : Fault} {w v : Session} (h : ReflTransGen Advance w v) :
    ReflTransGen (Jolt e) w v :=
  h.lift id fun _ _ => .advance

/-! ### What becomes of a seat -/

/-- A session has gone on to another: the seats are still there, whatever has been played in them,
and no old one has become current again. -/
structure KeepsSeats (w v : Session) : Prop where
  seats : ∀ (i : Nat) (seat : Seat), w.seats[i]? = some seat →
    ∃ player, player.kind = seat.player.kind ∧ v.seats[i]? = some { seat with player }
  current : ∀ i, i < w.seats.length → v.current = some i → w.current = some i

namespace KeepsSeats

variable {e : Fault} {u v w : Session}

lemma of_same (hseats : v.seats = w.seats) (hcurrent : v.current = w.current ∨ v.current = none) :
    KeepsSeats w v where
  seats i seat hseat := ⟨seat.player, rfl, hseats ▸ hseat⟩
  current i _ hi := by
    rcases hcurrent with h | h
    · exact h ▸ hi
    · rw [h] at hi
      cases hi

protected lemma refl (w : Session) : KeepsSeats w w := of_same rfl (.inl rfl)

lemma lt_length (h : KeepsSeats w v) {i : Nat} (hi : i < w.seats.length) : i < v.seats.length := by
  obtain ⟨player, -, hseat⟩ := h.seats i _ (List.getElem?_eq_getElem hi)
  exact (List.getElem?_eq_some_iff.1 hseat).1

protected lemma trans (h : KeepsSeats u v) (h' : KeepsSeats v w) : KeepsSeats u w where
  seats i seat hseat := by
    obtain ⟨player, hplayer, hv⟩ := h.seats i seat hseat
    obtain ⟨after, hafter, hw⟩ := h'.seats i _ hv
    exact ⟨after, hafter.trans hplayer, hw⟩
  current i hi hw := h.current i hi (h'.current i (h.lt_length hi) hw)

lemma step (h : Step w v) : KeepsSeats w v := by
  cases h with
  | aside | arm | cancel | grant | reckon | complete => exact of_same rfl (.inl rfl)
  | stray => exact of_same rfl (.inr rfl)
  | finish => exact of_same (seats_finished ..) (.inr (current_finished ..))
  | sit id index s player dice table =>
    refine ⟨fun i seat hseat => ⟨seat.player, rfl, ?_⟩, fun i hi hcurrent => ?_⟩
    · have hi : i < w.seats.length := (List.getElem?_eq_some_iff.1 hseat).1
      simp [seated, turned, List.getElem?_append_left hi, hseat]
    · cases hcurrent
      exact absurd hi (Nat.lt_irrefl _)

lemma lapse (h : Lapse w v) : KeepsSeats w v := by
  cases h with
  | elapse | strike | remain | expire => exact of_same rfl (.inl rfl)

lemma putPlayer {index : Nat} {player : Player} {w : Session}
    (hkind : ∀ seat, w.seats[index]? = some seat → player.kind = seat.player.kind) :
    KeepsSeats w (putPlayer index player w) where
  seats i seat hseat := by
    simp only [Session.putPlayer, List.getElem?_modify, hseat]
    by_cases hi : index = i
    · exact ⟨player, hkind seat (hi ▸ hseat), by simp [hi]⟩
    · exact ⟨seat.player, rfl, by simp [hi]⟩
  current _ _ hi := hi

lemma jolts (h : ReflTransGen (Jolt e) w v) : KeepsSeats w v := by
  induction h with
  | refl => exact .refl w
  | tail _ h ih =>
    cases h with
    | unrated => exact ih.trans (.of_same rfl (.inl rfl))
    | lost => exact ih.trans (.of_same rfl (.inr rfl))
    | advance h =>
      cases h with
      | step h => exact ih.trans (.step h)
      | lapse h => exact ih.trans (.lapse h)
      | play index player hkind => exact ih.trans (.putPlayer hkind)

/-- The seat of a section is still one of a section of its kind. -/
lemma kind_eq (h : KeepsSeats w v) {index : Nat} {seat after : Seat}
    (hw : w.seats[index]? = some seat) (hv : v.seats[index]? = some after) :
    after.player.kind = seat.player.kind := by
  obtain ⟨player, hkind, hseat⟩ := h.seats index seat hw
  rw [hv] at hseat
  cases hseat
  exact hkind

end KeepsSeats

/-! ### Deeds along paths -/

/-- The contract to go on step by step. -/
def stepwise : Contract Session where
  ends := ReflTransGen Advance
  breaks e := ReflTransGen (Jolt e)
  refl _ := .refl
  trans := .trans
  breaks_self _ _ := .refl
  breaks_trans huv hvw := (jolts_of_advances huv).trans hvw

lemma covers_stepwise : Covers stepwise :=
  .of_steps (fun h => .single (.step h)) (fun table hw _ htable => .single (.unrated table hw htable))
    fun id index hw hid => .single (.lost id index hw hid rfl)

lemma performs_stepwise : Performs stepwise := by
  have hplay {e : Fault} {u v : Session} {index : Nat} {seat : Seat} {player : Player}
      (hseat : u.seats[index]? = some seat) (hkind : player.kind = seat.player.kind)
      (h : ReflTransGen (Jolt e) u v) : Advance v (putPlayer index player v) :=
    .play index player fun _ hv => hkind.trans ((KeepsSeats.jolts h).kind_eq hseat hv).symm
  refine performs_of covers_stepwise (fun player hseat hkind h => h.tail ?_)
    fun player hseat hkind h => h.tail (.advance (hplay hseat hkind h))
  exact hplay hseat hkind (jolts_of_advances (e := .endless) h)

lemma met_tick_stepwise (w : Session) : stepwise.Met tick w :=
  met_tick covers_stepwise performs_stepwise fun h => .single (.lapse h)

lemma jolts_of_allows {w v : Session} {α : Type} {r : Except Fault α}
    (h : stepwise.Allows w r v) : ∃ e, ReflTransGen (Jolt e) w v := by
  cases r with
  | ok a => exact ⟨.endless, jolts_of_advances h⟩
  | error e => exact ⟨e, h⟩

/-- A deed goes step by step. -/
lemma jolts_after {d : Deed} (hd : d ≠ .restart) (w : Session) :
    ∃ u, SetsOut w u ∧ ∃ e, ReflTransGen (Jolt e) u (d.after w) := by
  obtain ⟨u, hu, hallows⟩ :=
    allows_after covers_stepwise performs_stepwise met_tick_stepwise hd w
  exact ⟨u, hu, jolts_of_allows hallows⟩

/-- A deed that is not broken off never fails to rate a score. -/
lemma advances_after {d : Deed} (hd : d ≠ .restart) {w : Session} (h : d.fault? w = none) :
    ∃ u, SetsOut w u ∧ ReflTransGen Advance u (d.after w) := by
  obtain ⟨u, hu, hallows⟩ :=
    allows_after covers_stepwise performs_stepwise met_tick_stepwise hd w
  refine ⟨u, hu, ?_⟩
  unfold Deed.fault? at h
  cases hresult : (d.act.runIn w).1 with
  | ok a =>
    rw [hresult] at hallows
    exact hallows
  | error e =>
    rw [hresult] at h
    cases h

/-! ### Invariants -/

/-- A property that starts and restarts keep, and all that happens in between. -/
structure Invariant (I : Session → Prop) : Prop where
  begun : ∀ {w table}, w.phase = .intro →
    table.registry = readied w.table.registry w.state.timeRemaining → I w → I (w.begun table)
  restarted : ∀ {w table}, table.registry = w.table.registry.nextPhase → I w → I (w.restarted table)
  jolt : ∀ {e w v}, Jolt e w v → I w → I v

namespace Invariant

variable {I : Session → Prop} (hI : Invariant I) {e : Fault} {w v : Session}

include hI

lemma jolts (h : ReflTransGen (Jolt e) w v) (hw : I w) : I v := by
  induction h with
  | refl => exact hw
  | tail _ hjolt ih => exact hI.jolt hjolt ih

lemma setsOut (h : SetsOut w v) (hw : I w) : I v := by
  cases h with
  | here => exact hw
  | begun table hintro htable => exact hI.begun hintro htable hw

lemma after (d : Deed) (hw : I w) : I (d.after w) := by
  by_cases hd : d = .restart
  · subst hd
    obtain ⟨table, htable, hrun⟩ := restart_spec w
    have hafter : Deed.restart.after w = w.restarted table := congrArg Prod.snd hrun
    exact hafter ▸ hI.restarted htable hw
  · obtain ⟨u, hu, e, hjolts⟩ := jolts_after hd w
    exact hI.jolts hjolts (hI.setsOut hu hw)

/-- An invariant holds whatever is done. -/
lemma played (deeds : List Deed) (hw : I w) : I (w.played deeds) := by
  induction deeds generalizing w with
  | nil => exact hw
  | cons d rest ih => exact ih (hI.after d hw)

end Invariant

/-- A property of the countdowns that is kept by all that is done with them. -/
lemma invariant_registry {R : Registry SessionAlarm → Prop}
    (harm : ∀ {r} (name : String) (seconds : Int) (scope : Scope) (alarm : SessionAlarm),
      R r → R (r.arm name seconds scope alarm))
    (hcancel : ∀ {r} (name : String), R r → R (r.cancel name))
    (hsection : ∀ {r}, R r → R r.nextSection) (hphase : ∀ {r}, R r → R r.nextPhase)
    (hstep : ∀ {r c}, c ∈ r.countdowns → R r → R (r.step c)) :
    Invariant fun w => R w.table.registry where
  begun {w table} _ htable hw := by
    show R table.registry
    rw [htable]
    cases w.state.timeRemaining with
    | none => exact hw
    | some seconds =>
      unfold readied
      dsimp only
      split_ifs
      · exact hw
      · exact harm _ _ _ _ hw
  restarted {w table} htable hw := by
    show R table.registry
    exact htable ▸ hphase hw
  jolt {e w v} h hw := by
    cases h with
    | unrated table _ htable =>
      show R table.registry
      exact htable ▸ hw
    | lost => exact hsection hw
    | advance h =>
      cases h with
      | step h =>
        exact h.registry hw (fun _ _ _ _ => harm _ _ _ _ hw) (fun _ _ => hcancel _ hw)
          (fun _ => harm _ _ _ _ hw) (hsection hw) (hphase hw)
      | lapse h =>
        cases h with
        | elapse | remain => exact hw
        | strike serial c hc => exact hstep (Registry.mem_of_live? hc).1 hw
        | expire => exact hcancel _ hw
      | play => exact hw

lemma invariant_sound : Invariant fun w => w.table.registry.Sound :=
  invariant_registry (fun _ _ _ _ h => h.arm _ _ _ _) (fun _ h => h.cancel _) (·.nextSection)
    (·.nextPhase) fun hc h => h.step hc

lemma invariant_game (g : Game) (settings : Settings) :
    Invariant fun w => w.game = g ∧ w.settings = settings where
  begun _ _ hw := hw
  restarted _ hw := hw
  jolt h hw := by
    cases h with
    | unrated | lost => exact hw
    | advance h =>
      cases h with
      | step h => exact ⟨h.game_eq.1.trans hw.1, h.game_eq.2.trans hw.2⟩
      | lapse h => cases h <;> exact hw
      | play => exact hw

/-- A session stays one of the same game. -/
lemma game_played (g : Game) (settings : Settings) (dice : Dice) (deeds : List Deed) :
    ((create g settings dice).played deeds).game = g ∧
      ((create g settings dice).played deeds).settings = settings :=
  (invariant_game g settings).played deeds ⟨rfl, rfl⟩

/-! ### A lesson to be played -/

/-- A lesson of three pages. -/
def threePages : Value :=
  .map [("content", .map [("sections", .list
    [.map [("id", "a"), ("type", "info")], .map [("id", "b"), ("type", "info")],
      .map [("id", "c"), ("type", "info")]])])]

end Session

end LearningGame.Play
