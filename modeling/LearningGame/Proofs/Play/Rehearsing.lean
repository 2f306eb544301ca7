import LearningGame.Play.Rehearsal
import LearningGame.Proofs.Number.Float
import LearningGame.Proofs.Play.Act
import LearningGame.Proofs.Play.Registry
import LearningGame.Proofs.Play.Script
import Mathlib.Data.List.Forall2
import Mathlib.Data.List.Induction

/-!
# Rehearsing a section

A section is played on its own: moves are made, seconds go by for its countdowns, and the clock goes
on. What matters of a rehearsal is its stage: the state of the section and its surroundings, which
are the time, what has been reported, the countdown that is running, if there is one, and the
numbers that the dice show. All that is asked in a rehearsal is answered, so a script leads from one
stage to another unless it fails itself, and a rehearsal is a course of such turns.
-/

namespace LearningGame.Play

open Content Act Script

/-! ### The only countdown -/

/-- There is no countdown, or only one of a section, with so many seconds left. -/
def Registry.Holds (sectionId : String) (r : Registry Alarm) : Option (Alarm × Int) → Prop
  | none => r.countdowns = []
  | some (alarm, left) =>
    ∃ serial, r.countdowns = [⟨serial, alarm.fullName sectionId, left, .ofSection, r.epochs, alarm⟩]

namespace Registry.Holds

variable {sectionId : String} {r : Registry Alarm} {alarm : Alarm} {left : Int}

lemma arm (h : r.Holds sectionId none) (seconds : Int) :
    (r.arm (alarm.fullName sectionId) seconds .ofSection alarm).Holds sectionId
      (some (alarm, seconds)) :=
  ⟨r.armed, by rw [Registry.arm, show r.countdowns = [] from h]; rfl⟩

lemma cancel {running : Option (Alarm × Int)} (h : r.Holds sectionId running)
    (hrunning : ∀ a left, running = some (a, left) → a = alarm) :
    (r.cancel (alarm.fullName sectionId)).Holds sectionId none := by
  cases running with
  | none => simp [Holds, Registry.cancel, show r.countdowns = [] from h]
  | some running =>
    obtain ⟨serial, h⟩ := h
    simp [Holds, Registry.cancel, h, hrunning running.1 running.2 rfl]

lemma remaining? {running : Option (Alarm × Int)} (h : r.Holds sectionId running)
    (hrunning : ∀ a left, running = some (a, left) → a = alarm) :
    r.remaining? (alarm.fullName sectionId) = running.map (·.2) := by
  cases running with
  | none => simp [Registry.remaining?, find?, show r.countdowns = [] from h]
  | some running =>
    obtain ⟨serial, h⟩ := h
    simp [Registry.remaining?, find?, h, isCurrent, Epochs.current,
      hrunning running.1 running.2 rfl]

end Registry.Holds

namespace Rehearsal

/-! ### Cues -/

/-- Something that happens in a rehearsal once it has begun. -/
inductive Cue where
  | move (m : Move)
  /-- A second goes by for the countdowns. -/
  | second
  /-- The clock shows a time. -/
  | clock (time : Float)

/-- Follow a cue. A move that the section does not know comes to nothing. -/
def follow : Cue → Act Rehearsal Unit
  | .move m => do
    let w ← get
    match act? m w with
    | none => return ()
    | some x =>
      let _ ← x
  | .second => do
    let _ ← tick
  | .clock time => modify fun w => { w with clock := time }

/-- The rehearsal after a cue; what is broken off leaves the changes made before. -/
def after (w : Rehearsal) (cue : Cue) : Rehearsal := ((follow cue).runIn w).2

/-- The rehearsal that has begun and in which some cues have been followed. -/
def rehearsed (w : Rehearsal) (cues : List Cue) : Rehearsal := cues.foldl after (enter.runIn w).2

lemma rehearsed_append (w : Rehearsal) (before since : List Cue) :
    w.rehearsed (before ++ since) = since.foldl after (w.rehearsed before) := List.foldl_append

lemma rehearsed_concat {w v : Rehearsal} {cues : List Cue} {cue : Cue} {result : Except Fault Unit}
    (h : (follow cue).runIn (w.rehearsed cues) = (result, v)) :
    w.rehearsed (cues ++ [cue]) = v := by
  rw [rehearsed_append, List.foldl_cons, List.foldl_nil]
  exact congrArg Prod.snd h

/-- The clock shows only times of some sort. -/
def Cue.Within (T : Float → Prop) : Cue → Prop
  | .clock time => T time
  | _ => True

/-- Times that a clock can show, from zero on: the time between any two of them can be counted. -/
structure Steady (T : Float → Prop) : Prop where
  zero : T 0
  finite : ∀ s t, T s → T t → (t - s).isFinite = true

lemma steady_zero_or_one : Steady fun t => t = 0 ∨ t = 1 where
  zero := .inl rfl
  finite := by rintro s t (rfl | rfl) (rfl | rfl) <;> decide

/-- The seconds that go by. -/
def seconds (cues : List Cue) : Nat :=
  cues.countP fun
    | .second => true
    | _ => false

@[simp] lemma seconds_concat (cues : List Cue) (cue : Cue) :
    seconds (cues ++ [cue]) = seconds cues + seconds [cue] := List.countP_append

/-! ### Reports -/

/-- The answers among some reports, in the order in which they were given. -/
def answers (reports : List Report) : List Report :=
  (reports.filter fun
    | .answer .. => true
    | _ => false).reverse

/-- How often the end is reported. -/
def ends (reports : List Report) : Nat :=
  reports.countP fun
    | .complete => true
    | _ => false

/-- How many hints are granted. -/
def hintsSpent (reports : List Report) : Nat :=
  reports.countP fun
    | .hint granted => granted
    | _ => false

section

variable {rs : List Report} {item : String} {given : Value} {isCorrect granted : Bool}
  {points time : Int}

@[simp] lemma answers_cons_answer : answers (.answer item given isCorrect points time :: rs) =
    answers rs ++ [.answer item given isCorrect points time] := by
  simp [answers]

@[simp] lemma answers_cons_complete : answers (.complete :: rs) = answers rs := rfl

@[simp] lemma answers_cons_hint : answers (.hint granted :: rs) = answers rs := rfl

@[simp] lemma answers_cons_update {patch : Fields} :
    answers (.update patch :: rs) = answers rs := rfl

@[simp] lemma answers_cons_add : answers (.add item :: rs) = answers rs := rfl

@[simp] lemma ends_cons_add : ends (.add item :: rs) = ends rs := rfl

@[simp] lemma ends_cons_answer :
    ends (.answer item given isCorrect points time :: rs) = ends rs := rfl

@[simp] lemma ends_cons_complete : ends (.complete :: rs) = ends rs + 1 := by simp [ends]

@[simp] lemma ends_cons_hint : ends (.hint granted :: rs) = ends rs := rfl

@[simp] lemma hintsSpent_cons_answer :
    hintsSpent (.answer item given isCorrect points time :: rs) = hintsSpent rs := rfl

@[simp] lemma hintsSpent_cons_complete : hintsSpent (.complete :: rs) = hintsSpent rs := rfl

@[simp] lemma hintsSpent_cons_hint :
    hintsSpent (.hint granted :: rs) = hintsSpent rs + granted.toNat := by
  cases granted <;> simp [hintsSpent]

/-- If the first of some items have been answered, so have they and the next one with its answer. -/
lemma forall₂_answers_concat {ι : Type} {R : ι → Report → Prop} {items : List ι} {k : Nat} {i : ι}
    {r : Report} (h : List.Forall₂ R (items.take k) (answers rs)) (hi : items[k]? = some i)
    (hr : R i r) : List.Forall₂ R (items.take (k + 1)) (answers rs ++ [r]) := by
  rw [List.take_add_one, hi]
  exact List.rel_append h (.cons hr .nil)

end

/-! ### Stages -/

/-- What matters of a rehearsal besides the state of the section. -/
structure Surroundings where
  clock : Float
  /-- The reports, the latest first. -/
  reports : List Report
  /-- The countdown that is running, and the seconds that are left to it. -/
  running : Option (Alarm × Int)
  /-- The numbers that the dice show. -/
  throws : Nat → Float

/-- The state of a section with its surroundings. -/
abbrev Stage (σ : Type) := σ × Surroundings

/-- A rehearsal gives a section some surroundings. -/
structure Shows (c : Setting) (x : Surroundings) (w : Rehearsal) : Prop where
  setting : w.setting = c
  clock : w.clock = x.clock
  reports : w.reports = x.reports
  countdown : w.table.registry.Holds c.sectionId x.running
  throws : w.dice.throws = x.throws

/-- A rehearsal is at a stage of a section of some kind. -/
structure Stands {σ : Type} (into : σ → Player) (c : Setting) (p : Stage σ) (w : Rehearsal) :
    Prop extends w.Shows c p.2 where
  player : w.player = into p.1

/-- Where the player is known, so is the state of the section. -/
lemma Stands.state_eq {σ : Type} {into : σ → Player} {c : Setting} {p : Stage σ} {w : Rehearsal}
    {s : σ} (h : w.Stands into c p) (hinto : ∀ {s t : σ}, into s = into t → s = t)
    (hs : w.player = into s) : p.1 = s :=
  hinto (h.player.symm.trans hs)

/-- The same rehearsal with other countdowns and notes. -/
def withTable (w : Rehearsal) (r : Registry Alarm) (notes : List Log.Record) : Rehearsal :=
  { w with table := ⟨r, notes⟩ }

lemma runIn_cancel (name : String) (w : Rehearsal) : ∃ notes,
    (Table.cancel name).runIn w = (.ok (), w.withTable (w.table.registry.cancel name) notes) := by
  rw [Table.cancel, runIn_get_bind]
  cases hfind : (Table.registryOf w).find? name with
  | none =>
    refine ⟨w.table.notes, ?_⟩
    rw [show w.table.registry.cancel name = w.table.registry from
      Registry.cancel_of_find?_eq_none hfind]
    rfl
  | some c => exact ⟨_, rfl⟩

lemma Shows.cancel {c : Setting} {x : Surroundings} {w : Rehearsal} {alarm : Alarm}
    (h : w.Shows c x) (hrunning : ∀ a left, x.running = some (a, left) → a = alarm)
    (notes : List Log.Record) :
    (w.withTable (w.table.registry.cancel (alarm.fullName c.sectionId)) notes).Shows c
      { x with running := none } :=
  ⟨h.setting, h.clock, h.reports, Registry.Holds.cancel h.countdown hrunning, h.throws⟩

lemma Shows.remaining? {c : Setting} {x : Surroundings} {w : Rehearsal} {alarm : Alarm}
    (h : w.Shows c x) (hrunning : ∀ a left, x.running = some (a, left) → a = alarm) :
    w.remaining? alarm = x.running.map (·.2) := by
  rw [Rehearsal.remaining?, h.setting]
  exact Registry.Holds.remaining? h.countdown hrunning

end Rehearsal

open Rehearsal

/-! ### Scripts -/

section

variable {σ α β : Type} {c : Setting} {Q : α → Stage σ → Prop} {p : Stage σ} {s : σ}
  {x : Surroundings}

/-- A script that is run at a stage comes to its end, with a result and at a stage of some sort. -/
def Script.Yields (c : Setting) (Q : α → Stage σ → Prop) (y : Script σ α) (p : Stage σ) : Prop :=
  ∀ w, w.Shows c p.2 → ∃ a q v,
    y.run (Rehearsal.answer c) p.1 w = (.ok a, q.1, v) ∧ v.Shows c q.2 ∧ Q a q

lemma Script.Yields.mono {R : α → Stage σ → Prop} {y : Script σ α} (h : y.Yields c Q p)
    (hQ : ∀ a q, Q a q → R a q) : y.Yields c R p := by
  intro w hw
  obtain ⟨a, q, v, hrun, hv, hq⟩ := h w hw
  exact ⟨a, q, v, hrun, hv, hQ a q hq⟩

lemma yields_pure {a : α} (h : Q a p) : (pure a : Script σ α).Yields c Q p :=
  fun w hw => ⟨a, p, w, rfl, hw, h⟩

lemma yields_bind {Q : β → Stage σ → Prop} {y : Script σ α} {f : α → Script σ β}
    (h : y.Yields c (fun a q => (f a).Yields c Q q) p) : (y >>= f).Yields c Q p := by
  intro w hw
  obtain ⟨a, q, v, hrun, hv, hf⟩ := h w hw
  rw [run_bind, hrun]
  exact hf v hv

lemma yields_map {Q : β → Stage σ → Prop} {y : Script σ α} {f : α → β}
    (h : y.Yields c (fun a q => Q (f a) q) p) : (f <$> y).Yields c Q p :=
  yields_bind (f := fun a => pure (f a)) fun w hw => by
    obtain ⟨a, q, v, hrun, hv, hQ⟩ := h w hw
    exact ⟨a, q, v, hrun, hv, yields_pure hQ⟩

lemma yields_state_bind {f : σ → Script σ α} (h : (f p.1).Yields c Q p) :
    (state >>= f).Yields c Q p := h

lemma yields_setState {t : σ} {Q : PUnit → Stage σ → Prop} (h : Q ⟨⟩ (t, p.2)) :
    (setState t).Yields c Q p := fun w hw => ⟨⟨⟩, (t, p.2), w, rfl, hw, h⟩

lemma yields_setState_bind {t : σ} {f : PUnit → Script σ α} (h : (f ⟨⟩).Yields c Q (t, p.2)) :
    (setState t >>= f).Yields c Q p := h

lemma yields_change {g : σ → σ} {Q : PUnit → Stage σ → Prop} (h : Q ⟨⟩ (g p.1, p.2)) :
    (change g).Yields c Q p := fun w hw => ⟨⟨⟩, (g p.1, p.2), w, rfl, hw, h⟩

lemma yields_change_bind {g : σ → σ} {f : PUnit → Script σ α}
    (h : (f ⟨⟩).Yields c Q (g p.1, p.2)) : (change g >>= f).Yields c Q p := h

lemma yields_lift_bind {r : Except Fault β} {b : β} {f : β → Script σ α} (hr : r = .ok b)
    (h : (f b).Yields c Q p) : (Script.lift r >>= f).Yields c Q p := by
  rw [hr]
  exact h

/-! ### Requests -/

lemma yields_note {level : Log.Level} {message : String} {Q : Unit → Stage σ → Prop} (h : Q () p) :
    (note level message).Yields c Q p :=
  fun _ hw => ⟨_, p, _, rfl, ⟨hw.setting, hw.clock, hw.reports, hw.countdown, hw.throws⟩, h⟩

lemma yields_note_bind {level : Log.Level} {message : String} {f : PUnit → Script σ α}
    (h : (f ⟨⟩).Yields c Q p) : (note level message >>= f).Yields c Q p :=
  yields_bind (yields_note h)

/-- What is reported is the latest of the reports then. -/
lemma yields_recorded {y : Script σ α} {a : Rehearsal → α} {r : Rehearsal → Report}
    {hints : Rehearsal → Int}
    (hrun : ∀ w, y.run (Rehearsal.answer c) s w =
      (.ok (a w), s, { w.record (r w) with hints := hints w }))
    (h : ∀ w, Q (a w) (s, { x with reports := r w :: x.reports })) : y.Yields c Q (s, x) :=
  fun w hw => ⟨a w, (s, { x with reports := r w :: x.reports }), _, hrun w,
    ⟨hw.setting, hw.clock, congrArg _ hw.reports, hw.countdown, hw.throws⟩, h w⟩

lemma yields_report {item : String} {given : Value} {isCorrect : Bool} {points time : Int}
    {Q : Unit → Stage σ → Prop}
    (h : Q () (s, { x with reports := .answer item given isCorrect points time :: x.reports })) :
    (report item given isCorrect points time).Yields c Q (s, x) :=
  yields_recorded (fun _ => rfl) fun _ => h

lemma yields_reportEnd {Q : Unit → Stage σ → Prop}
    (h : Q () (s, { x with reports := .complete :: x.reports })) :
    reportEnd.Yields c Q (s, x) :=
  yields_recorded (fun _ => rfl) fun _ => h

/-- A hint is granted if there is one left. -/
lemma yields_spendHint {Q : Bool → Stage σ → Prop}
    (h : ∀ granted, Q granted (s, { x with reports := .hint granted :: x.reports })) :
    spendHint.Yields c Q (s, x) :=
  yields_recorded (fun _ => rfl) fun _ => h _

/-- Unless the rehearsal is plain, what is reported is the latest of the reports then. -/
lemma yields_recordedUnlessPlain {y : Script σ Unit} {r : Report}
    {change : Rules.Circumstances → Rules.Circumstances} {Q : Unit → Stage σ → Prop}
    (hrun : ∀ w, y.run (Rehearsal.answer c) s w = (.ok (), s, w.recordUnlessPlain r change))
    (h : ∀ reports, reports = x.reports ∨ reports = r :: x.reports →
      Q () (s, { x with reports })) : y.Yields c Q (s, x) := by
  intro w hw
  cases hplain : w.plain with
  | true =>
    refine ⟨(), (s, x), _, hrun w, ?_, h _ (.inl rfl)⟩
    rwa [recordUnlessPlain, hplain]
  | false =>
    refine ⟨(), (s, { x with reports := r :: x.reports }), _, hrun w, ?_, h _ (.inr rfl)⟩
    rw [recordUnlessPlain, hplain]
    exact ⟨hw.setting, hw.clock, congrArg _ hw.reports, hw.countdown, hw.throws⟩

/-- Variables that are set are reported unless the rehearsal is plain. -/
lemma yields_updateVariables {patch : Fields} {Q : Unit → Stage σ → Prop}
    (h : ∀ reports, reports = x.reports ∨ reports = .update patch :: x.reports →
      Q () (s, { x with reports })) : (updateVariables patch).Yields c Q (s, x) :=
  yields_recordedUnlessPlain (fun _ => rfl) h

/-- An item that is added is reported unless the rehearsal is plain. -/
lemma yields_addItem {item : String} {Q : Unit → Stage σ → Prop}
    (h : ∀ reports, reports = x.reports ∨ reports = .add item :: x.reports →
      Q () (s, { x with reports })) : (Script.addItem item).Yields c Q (s, x) :=
  yields_recordedUnlessPlain (fun _ => rfl) h

lemma yields_draw {Q : Float → Stage σ → Prop} (h : ∀ k, Q (x.throws k) (s, x)) :
    draw.Yields c Q (s, x) :=
  fun w hw => ⟨w.dice.top, (s, x), { w with dice := w.dice.advance }, rfl,
    ⟨hw.setting, hw.clock, hw.reports, hw.countdown, hw.throws⟩, by
      rw [Dice.top, hw.throws]
      exact h _⟩

/-- With fair dice one of several things can be chosen. -/
lemma yields_choose {xs : List α} (hfair : ∀ k, Dice.index (x.throws k) xs.length < xs.length)
    (h : ∀ a ∈ xs, Q a (s, x)) : (choose xs).Yields c Q (s, x) := by
  refine yields_bind (yields_draw fun k => ?_)
  rw [List.getElem?_eq_getElem (hfair k)]
  exact yields_pure (h _ (List.getElem_mem _))

/-- Some of several things are kept by a script that leaves the stage as it is. -/
lemma yields_filter {f : β → Script σ Bool}
    (hf : ∀ b {Q : Bool → Stage σ → Prop}, (∀ keep, Q keep p) → (f b).Yields c Q p) {bs : List β}
    {Q : List β → Stage σ → Prop} (h : ∀ kept, kept.Sublist bs → Q kept p) :
    (Script.filter f bs).Yields c Q p := by
  induction bs generalizing Q with
  | nil => exact yields_pure (h [] (.refl _))
  | cons b rest ih =>
    refine yields_bind (hf b fun keep => yields_bind (ih fun kept hkept => yields_pure (h _ ?_)))
    cases keep with
    | true => exact hkept.cons_cons b
    | false => exact hkept.cons b

lemma yields_arm {alarm : Alarm} {seconds : Int} {Q : Unit → Stage σ → Prop}
    (hrunning : x.running = none) (h : Q () (s, { x with running := some (alarm, seconds) })) :
    (arm alarm seconds).Yields c Q (s, x) :=
  fun _ hw => ⟨(), (s, { x with running := some (alarm, seconds) }), _, rfl,
    ⟨hw.setting, hw.clock, hw.reports, Registry.Holds.arm (hrunning ▸ hw.countdown) seconds,
      hw.throws⟩, h⟩

lemma yields_cancel {alarm : Alarm} {Q : Unit → Stage σ → Prop}
    (hrunning : ∀ a left, x.running = some (a, left) → a = alarm)
    (h : Q () (s, { x with running := none })) :
    (cancel alarm).Yields c Q (s, x) := by
  intro w hw
  obtain ⟨notes, hrun⟩ := runIn_cancel (alarm.fullName c.sectionId) w
  refine ⟨(), (s, { x with running := none }), _, ?_, hw.cancel hrunning notes, h⟩
  rw [Script.cancel, run, show (Rehearsal.answer c (.cancel alarm)).runIn w = _ from hrun]
  rfl

/-- A hint that is not visible yet is spent if there is one left, and becomes visible then. -/
lemma yields_revealHint (hint? : σ → Option String) (visible : σ → Bool) (reveal : Bool → σ → σ)
    {Q : Option String → Stage σ → Prop} (hhidden : visible p.1 = false → reveal false p.1 = p.1)
    (hrefused : Q none p)
    (hspent : ∀ granted hint, visible p.1 = false →
      Q hint (reveal granted p.1, { p.2 with reports := .hint granted :: p.2.reports })) :
    Script.Yields c Q (do
      let s ← state
      match hint? s with
      | none => return none
      | some hint =>
        if hint == "" || visible s then return none
        else
          let granted ← spendHint
          if granted then
            change (reveal true)
            return some hint
          else return none) p := by
  refine yields_state_bind ?_
  cases hhint : hint? p.1 with
  | none => exact yields_pure hrefused
  | some hint =>
    cases hvisible : visible p.1 with
    | true =>
      simp only [Bool.or_true, if_true]
      exact yields_pure hrefused
    | false =>
      simp only [Bool.or_false]
      split
      · exact yields_pure hrefused
      · refine yields_bind (yields_spendHint fun granted => ?_)
        cases granted with
        | true => exact yields_change_bind (yields_pure (hspent true hint hvisible))
        | false => exact yields_pure (hhidden hvisible ▸ hspent false none hvisible)

/-! ### What all sections do -/

variable [Seated σ]

lemma yields_elapsed {Q : Int → Stage σ → Prop}
    (hfinite : (x.clock - (Seated.sitting s).started).isFinite = true) (h : ∀ time, Q time (s, x)) :
    Setting.elapsed.Yields c Q (s, x) := by
  intro w hw
  rw [← hw.clock] at hfinite
  obtain ⟨n, hn⟩ := (Number.round_eq_ok_iff _).2 hfinite
  have htime : (Number.float (w.clock - (Seated.sitting s).started)).toNearest = .ok n := by
    rw [Number.toNearest, hn]
    rfl
  exact yields_lift_bind (f := fun time => pure (max 0 time)) htime (yields_pure (h _)) w hw

lemma yields_startClock {Q : Unit → Stage σ → Prop}
    (h : Q () (Seated.seat s { Seated.sitting s with started := x.clock }, x)) :
    Setting.startClock.Yields c Q (s, x) := fun w hw => by
  rw [← hw.clock] at h
  exact ⟨_, (_, x), _, rfl, hw, h⟩

lemma yields_answer {item : String} {given : Value} {isCorrect : Bool} {points : Int}
    {Q : Unit → Stage σ → Prop}
    (hfinite : (x.clock - (Seated.sitting s).started).isFinite = true)
    (h : ∀ time, Q () (s,
      { x with reports := .answer item given isCorrect points time :: x.reports })) :
    (Setting.answer item given isCorrect points).Yields c Q (s, x) :=
  yields_bind (yields_elapsed hfinite fun time => yields_report (h time))

/-- An unfinished section reports its end. -/
lemma yields_complete {Q : Unit → Stage σ → Prop} (hopen : (Seated.sitting s).completed = false)
    (h : Q () (Seated.seat s { Seated.sitting s with completed := true },
      { x with reports := .complete :: x.reports })) :
    c.complete.Yields c Q (s, x) := by
  refine yields_state_bind ?_
  simp only [hopen]
  exact yields_setState_bind (yields_reportEnd h)

/-- A finished section is not finished again. -/
lemma yields_complete_again {Q : Unit → Stage σ → Prop}
    (hdone : (Seated.sitting s).completed = true) (h : Q () (s, x)) :
    c.complete.Yields c Q (s, x) := by
  refine yields_state_bind ?_
  rw [if_pos hdone]
  exact yields_note h

lemma yields_unlessCompleted {action : String} {refused : α} {y : Script σ α}
    (hdone : (Seated.sitting s).completed = true → Q refused (s, x))
    (hopen : (Seated.sitting s).completed = false → y.Yields c Q (s, x)) :
    (c.unlessCompleted action refused y).Yields c Q (s, x) := by
  refine yields_state_bind ?_
  cases h : (Seated.sitting s).completed with
  | true =>
    rw [if_pos rfl]
    exact yields_note_bind (yields_pure (hdone h))
  | false =>
    rw [if_neg Bool.false_ne_true]
    exact hopen h

end

namespace Rehearsal

variable {σ α : Type} {c : Setting} {w : Rehearsal} {into : σ → Player} {p : Stage σ}

/-! ### Following cues -/

lemma runIn_perform {Q : α → Stage σ → Prop} {y : Script σ α} (hplayer : w.player = into p.1)
    (hw : w.Shows c p.2) (hy : y.Yields c Q p) :
    ∃ a q v, (perform fun _ => y.embed into p.1).runIn w = (.ok a, v) ∧ v.Stands into c q ∧
      Q a q := by
  obtain ⟨a, q, v, hrun, hv, hQ⟩ := hy w hw
  refine ⟨a, q, { v with player := into q.1 }, ?_,
    ⟨⟨hv.setting, hv.clock, hv.reports, hv.countdown, hv.throws⟩, rfl⟩, hQ⟩
  rw [perform, runIn_ofFun, hplayer, run_embed, hw.setting, hrun]

/-- Where one has sat down to a section, nothing has been reported and no countdown is running, and
play begins with a script. -/
lemma exists_begun {content : SectionContent} {dice later : Dice} {s : σ} {Q : Stage σ → Prop}
    {y : Script σ Unit} (hsit : (Player.sitDown c content 0).runIn dice = (.ok (into s), later))
    (henter : Player.enter c (into s) = y.embed into s)
    (hy : y.Yields c (fun _ => Q) (s, ⟨0, [], none, later.throws⟩)) (plain : Bool) (hints : Int)
    (circumstances : Rules.Circumstances) :
    ∃ w, create c content dice plain hints circumstances = .ok w ∧
      (enter.runIn w).1 = .ok () ∧ ∃ p, (w.rehearsed []).Stands into c p ∧ Q p := by
  let w : Rehearsal := ⟨c, into s, .empty, later, 0, plain, hints, circumstances, []⟩
  have hcreate : create c content dice plain hints circumstances = .ok w := by
    unfold create
    rw [hsit]
  have hw : w.Shows c ⟨0, [], none, later.throws⟩ := ⟨rfl, rfl, rfl, rfl, rfl⟩
  obtain ⟨a, p, v, hrun, hv, hQ⟩ := runIn_perform (p := (s, _)) rfl hw hy
  have henter : enter.runIn w = (.ok (), v) := by
    rw [← hrun, enter, runIn_get_bind]
    simp only [perform, runIn_ofFun, w, henter]
  refine ⟨w, hcreate, congrArg Prod.fst henter, p, ?_, hQ⟩
  rw [rehearsed, List.foldl_nil, henter]
  exact hv

lemma follow_clock (h : w.Stands into c p) (time : Float) :
    ∃ v, (follow (.clock time)).runIn w = (.ok (), v) ∧
      v.Stands into c (p.1, { p.2 with clock := time }) :=
  ⟨_, rfl, ⟨h.setting, rfl, h.reports, h.countdown, h.throws⟩, h.player⟩

/-- A move that is made gives something back. -/
def Gives (w : Rehearsal) (m : Move) (a : Value) : Prop :=
  ∃ x, act? m w = some x ∧ (x.runIn w).1 = .ok a

lemma Gives.unique {m : Move} {a b : Value} (ha : w.Gives m a) (hb : w.Gives m b) : a = b := by
  obtain ⟨x, hx, ha⟩ := ha
  obtain ⟨y, hy, hb⟩ := hb
  obtain rfl := Option.some.inj (hx.symm.trans hy)
  exact Except.ok.inj (ha.symm.trans hb)

/-- A move is made by its script, which tells what it gives back. -/
lemma follow_move_gives {Q : Value → Stage σ → Prop} {m : Move} {y : Script σ Value}
    (h : w.Stands into c p) (hmove : Player.act? c m (into p.1) = some (y.embed into p.1))
    (hy : y.Yields c Q p) :
    ∃ a q v, (follow (.move m)).runIn w = (.ok (), v) ∧ w.Gives m a ∧ v.Stands into c q ∧
      Q a q := by
  obtain ⟨a, q, v, hrun, hv, hQ⟩ := runIn_perform h.player h.toShows hy
  have hact : act? m w = some (perform fun _ => y.embed into p.1) := by
    rw [act?, h.setting, h.player, hmove, Option.map_some]
  refine ⟨a, q, v, ?_, ⟨_, hact, congrArg Prod.fst hrun⟩, hv, hQ⟩
  rw [follow, runIn_get_bind, hact, runIn_bind, hrun]
  rfl

/-- A move is made by its script. -/
lemma follow_move {Q : Stage σ → Prop} {m : Move} {y : Script σ Value} (h : w.Stands into c p)
    (hmove : Player.act? c m (into p.1) = some (y.embed into p.1))
    (hy : y.Yields c (fun _ => Q) p) :
    ∃ q v, (follow (.move m)).runIn w = (.ok (), v) ∧ v.Stands into c q ∧ Q q := by
  obtain ⟨-, q, v, hrun, -, hv, hQ⟩ := follow_move_gives h hmove hy
  exact ⟨q, v, hrun, hv, hQ⟩

/-- A move that the section does not know is not made. -/
lemma follow_unknown {m : Move} (h : w.Stands into c p)
    (hmove : Player.act? c m (into p.1) = none) : (follow (.move m)).runIn w = (.ok (), w) := by
  rw [follow, runIn_get_bind, act?, h.setting, h.player, hmove]
  rfl

/-- A second that goes by when no countdown is running changes nothing. -/
lemma follow_second_of_idle (h : w.Stands into c p) (hrunning : p.2.running = none) :
    (follow .second).runIn w = (.ok (), w) := by
  have hserials : (Table.registryOf w).serials = [] := by
    have hcountdown := h.countdown
    rw [hrunning] at hcountdown
    exact congrArg (List.map Countdown.serial) hcountdown
  rw [follow, tick, Table.tick, runIn_bind, runIn_get_bind, hserials]
  rfl

/-- What is done when the countdown that is running has run out is told by a script. -/
lemma runIn_goOff {Q : Stage σ → Prop} {d : Countdown Alarm} {left : Int} {y : Script σ Unit}
    (hname : d.name = d.alarm.fullName c.sectionId) (h : w.Stands into c p)
    (hrunning : p.2.running = some (d.alarm, left))
    (hexpire : Player.expire c d.alarm (into p.1) = y.embed into p.1)
    (hy : y.Yields c (fun _ => Q) (p.1, { p.2 with running := none })) :
    ∃ a q v, (Table.goOff bells d).runIn w = (.ok a, v) ∧ v.Stands into c q ∧ Q q := by
  rw [Table.goOff, runIn_modify_bind, hname]
  let u : Rehearsal := w.withTable (w.table.registry.cancel (d.alarm.fullName c.sectionId))
    (⟨.debug, countdownSource, expiredNote (d.alarm.fullName c.sectionId)⟩ :: w.table.notes)
  have hu : u.Shows c { p.2 with running := none } := by
    refine h.toShows.cancel (fun a left h => ?_) _
    rw [hrunning] at h
    cases h
    rfl
  obtain ⟨a, q, v, hrun, hv, hQ⟩ :=
    runIn_perform (w := u) (p := (p.1, { p.2 with running := none })) h.player hu hy
  refine ⟨a, q, v, ?_, hv, hQ⟩
  show (perform (Player.expire u.setting d.alarm)).runIn u = _
  rw [← hrun, hu.setting]
  simp only [perform, runIn_ofFun, show u.player = into p.1 from h.player, hexpire]

/-- A second that goes by is taken off the countdown that is running, of which the section may take
note. The last one takes the countdown out, and what is done then is told by a script. -/
lemma follow_second_noting {Q : Stage σ → Prop} {alarm : Alarm} {left : Int} {t : σ}
    {y : Script σ Unit} (h : w.Stands into c p) (hrunning : p.2.running = some (alarm, left))
    (htick : ∀ v, (Player.tick alarm (left - 1) (into p.1)).run (Rehearsal.answer c) (into p.1) v =
      (.ok (), into t, v))
    (hexpire : Player.expire c alarm (into t) = y.embed into t)
    (hwait : 1 < left → Q (t, { p.2 with running := some (alarm, left - 1) }))
    (hy : left ≤ 1 → y.Yields c (fun _ => Q) (t, { p.2 with running := none })) :
    ∃ q v, (follow .second).runIn w = (.ok (), v) ∧ v.Stands into c q ∧ Q q := by
  obtain ⟨serial, hcountdowns⟩ : ∃ serial, w.table.registry.countdowns =
      [⟨serial, alarm.fullName c.sectionId, left, .ofSection, w.table.registry.epochs, alarm⟩] := by
    have hcountdown := h.countdown
    rwa [hrunning] at hcountdown
  let d : Countdown Alarm :=
    ⟨serial, alarm.fullName c.sectionId, left, .ofSection, w.table.registry.epochs, alarm⟩
  have hserials : (Table.registryOf w).serials = [serial] :=
    congrArg (List.map Countdown.serial) hcountdowns
  have hlive : (Table.registryOf w).live? serial = some d := by
    show (List.find? _ w.table.registry.countdowns).filter _ = _
    rw [hcountdowns]
    simp [Registry.isCurrent, Epochs.current, Table.registryOf, Tabled.table, d]
  let u : Rehearsal := Table.mapRegistry (fun r => r.step d) w
  have hu : u.Stands into c (p.1, { p.2 with running := some (alarm, left - 1) }) := by
    refine ⟨⟨h.setting, h.clock, h.reports, ⟨serial, ?_⟩, h.throws⟩, h.player⟩
    show w.table.registry.countdowns.map _ = _
    rw [hcountdowns]
    simp [d, u, Registry.step, Table.mapRegistry, Table.registryOf, Tabled.table, Tabled.setTable]
  let v : Rehearsal := { u with player := into t }
  have hv : v.Stands into c (t, { p.2 with running := some (alarm, left - 1) }) :=
    ⟨⟨hu.setting, hu.clock, hu.reports, hu.countdown, hu.throws⟩, rfl⟩
  have hnote : (bells.tick d (d.remaining - 1)).runIn u = (.ok (), v) := by
    simp only [bells, perform, runIn_ofFun, d, hu.player, hu.setting, htick, v]
  have hleft : (Table.registryOf v).left d = left - 1 := Registry.left_step _ d
  have hadvance : (Table.advance bells serial).runIn w =
      (if left - 1 ≤ 0 then do
          Table.goOff bells d
          return some d.name
        else return none : Act Rehearsal (Option String)).runIn v := by
    rw [Table.runIn_advance hlive, runIn_bind,
      show (bells.tick d (d.remaining - 1)).runIn (Table.mapRegistry _ w) = _ from hnote]
    simp only [runIn_get_bind, hleft]
  rw [follow, tick, Table.tick, runIn_bind, runIn_get_bind, hserials, Table.advanceAll, runIn_bind,
    hadvance]
  by_cases hlast : left ≤ 1
  · obtain ⟨a, q, v', hrun, hv', hQ⟩ := runIn_goOff (d := d) rfl hv rfl hexpire (hy hlast)
    refine ⟨q, v', ?_, hv', hQ⟩
    rw [if_pos (by omega), runIn_bind, hrun]
    rfl
  · refine ⟨_, v, ?_, hv, hwait (by omega)⟩
    rw [if_neg (by omega)]
    rfl

/-- A section that takes no note of the seconds stays as it is until the countdown has run out. -/
lemma follow_second {Q : Stage σ → Prop} {alarm : Alarm} {left : Int} {y : Script σ Unit}
    (h : w.Stands into c p) (hrunning : p.2.running = some (alarm, left))
    (htick : Player.tick alarm (left - 1) (into p.1) = pure ())
    (hexpire : Player.expire c alarm (into p.1) = y.embed into p.1)
    (hwait : 1 < left → Q (p.1, { p.2 with running := some (alarm, left - 1) }))
    (hy : left ≤ 1 → y.Yields c (fun _ => Q) (p.1, { p.2 with running := none })) :
    ∃ q v, (follow .second).runIn w = (.ok (), v) ∧ v.Stands into c q ∧ Q q :=
  follow_second_noting h hrunning (fun v => by rw [htick]; rfl) hexpire hwait hy

/-! ### Courses -/

/-- Turns lead from one stage to another while some cues are followed. -/
inductive Passes (turn : Stage σ → Cue → Stage σ → Prop) : Stage σ → List Cue → Stage σ → Prop
  | rest (p : Stage σ) : Passes turn p [] p
  | go {p q r : Stage σ} {cues : List Cue} {cue : Cue} (h : Passes turn p cues q)
      (hturn : turn q cue r) : Passes turn p (cues ++ [cue]) r

/-- A sort of stages at which every cue of some sort can be followed, which is a turn to a stage
that is of that sort too. -/
structure Proceeds (into : σ → Player) (c : Setting) (A : Cue → Prop) (Sound : Stage σ → Prop)
    (turn : Stage σ → Cue → Stage σ → Prop) : Prop where
  follow : ∀ {w : Rehearsal} {p : Stage σ} {cue : Cue}, w.Stands into c p → Sound p → A cue →
    ∃ q v, (Rehearsal.follow cue).runIn w = (.ok (), v) ∧ v.Stands into c q ∧ turn p cue q
  sound : ∀ {p q : Stage σ} {cue : Cue}, Sound p → turn p cue q → A cue → Sound q

namespace Proceeds

variable {A : Cue → Prop} {Sound : Stage σ → Prop} {turn : Stage σ → Cue → Stage σ → Prop}
  (h : Proceeds into c A Sound turn)

include h

/-- Cues that are followed one after the other are a course of turns. -/
lemma passes (hw : w.Stands into c p) (hp : Sound p) {cues : List Cue}
    (hcues : ∀ cue ∈ cues, A cue) :
    ∃ q, (cues.foldl after w).Stands into c q ∧ Sound q ∧ Passes turn p cues q := by
  induction cues using List.reverseRecOn with
  | nil => exact ⟨p, hw, hp, .rest p⟩
  | append_singleton cues cue ih =>
    obtain ⟨q, hq, hsound, hpasses⟩ := ih fun cue h => hcues cue (List.mem_append_left _ h)
    have hcue : A cue := hcues cue (by simp)
    obtain ⟨r, v, hrun, hr, hturn⟩ := h.follow hq hsound hcue
    refine ⟨r, ?_, h.sound hsound hturn hcue, .go hpasses hturn⟩
    rw [List.foldl_append, List.foldl_cons, List.foldl_nil, after, hrun]
    exact hr

section

variable (hw : (w.rehearsed []).Stands into c p) (hp : Sound p)

include hw hp

/-- Cues between two points of a rehearsal are a course of turns. -/
lemma between {before since : List Cue} (hcues : ∀ cue ∈ before ++ since, A cue) :
    ∃ q r, (w.rehearsed before).Stands into c q ∧ Sound q ∧
      (w.rehearsed (before ++ since)).Stands into c r ∧ Sound r ∧ Passes turn q since r := by
  obtain ⟨q, hq, hqsound, -⟩ :=
    h.passes hw hp fun cue hcue => hcues cue (List.mem_append_left _ hcue)
  obtain ⟨r, hr, hrsound, hpasses⟩ :=
    h.passes hq hqsound fun cue hcue => hcues cue (List.mem_append_right _ hcue)
  rw [rehearsed_append]
  exact ⟨q, r, hq, hqsound, hr, hrsound, hpasses⟩

/-- What the cues tell of a stage at the beginning, and after every turn, they always tell. -/
lemma exists_told (Told : List Cue → Stage σ → Prop) (hstart : Told [] p)
    (hturn : ∀ {cues cue q r}, Told cues q → Sound q → Sound r → turn q cue r →
      Told (cues ++ [cue]) r) {cues : List Cue} (hcues : ∀ cue ∈ cues, A cue) :
    ∃ q, (w.rehearsed cues).Stands into c q ∧ Sound q ∧ Told cues q := by
  induction cues using List.reverseRecOn with
  | nil => exact ⟨p, hw, hp, hstart⟩
  | append_singleton cues cue ih =>
    obtain ⟨q, hq, hsound, htold⟩ := ih fun cue h => hcues cue (List.mem_append_left _ h)
    have hcue : A cue := hcues cue (by simp)
    obtain ⟨r, v, hrun, hr, hnext⟩ := h.follow hq hsound hcue
    have hsound' := h.sound hsound hnext hcue
    exact ⟨r, rehearsed_concat hrun ▸ hr, hsound', hturn htold hsound hsound' hnext⟩

/-- Every further cue can be followed, and is a turn. -/
lemma onward {cues : List Cue} {cue : Cue} (hcues : ∀ cue ∈ cues, A cue)
    (hcue : A cue) :
    ∃ q r, (w.rehearsed cues).Stands into c q ∧ Sound q ∧
      ((Rehearsal.follow cue).runIn (w.rehearsed cues)).1 = .ok () ∧
      (w.rehearsed (cues ++ [cue])).Stands into c r ∧ turn q cue r := by
  obtain ⟨q, hq, hqsound, -⟩ := h.passes hw hp hcues
  obtain ⟨r, v, hrun, hr, hturn⟩ := h.follow hq hqsound hcue
  exact ⟨q, r, hq, hqsound, congrArg Prod.fst hrun, rehearsed_concat hrun ▸ hr, hturn⟩

variable (hinto : ∀ {s t : σ}, into s = into t → s = t) {s t : σ}

include hinto

/-- The states between which a further cue is followed are those of a turn. -/
lemma exists_turn {cues : List Cue} {cue : Cue} (hcues : ∀ cue ∈ cues, A cue) (hcue : A cue)
    (hs : (w.rehearsed cues).player = into s) (ht : (w.rehearsed (cues ++ [cue])).player = into t) :
    ∃ x y, (w.rehearsed cues).Stands into c (s, x) ∧ Sound (s, x) ∧
      (w.rehearsed (cues ++ [cue])).Stands into c (t, y) ∧ turn (s, x) cue (t, y) := by
  obtain ⟨q, r, hq, hqsound, -, hr, hturn⟩ := h.onward hw hp hcues hcue
  obtain rfl := hq.state_eq hinto hs
  obtain rfl := hr.state_eq hinto ht
  exact ⟨q.2, r.2, hq, hqsound, hr, hturn⟩

/-- The states at two points of a rehearsal are those of a course of turns. -/
lemma exists_passes {before since : List Cue} (hcues : ∀ cue ∈ before ++ since, A cue)
    (hs : (w.rehearsed before).player = into s)
    (ht : (w.rehearsed (before ++ since)).player = into t) :
    ∃ x y, (w.rehearsed before).Stands into c (s, x) ∧
      (w.rehearsed (before ++ since)).Stands into c (t, y) ∧ Passes turn (s, x) since (t, y) := by
  obtain ⟨q, r, hq, -, hr, -, hpasses⟩ := h.between hw hp hcues
  obtain rfl := hq.state_eq hinto hs
  obtain rfl := hr.state_eq hinto ht
  exact ⟨q.2, r.2, hq, hr, hpasses⟩

end

end Proceeds

end Rehearsal

end LearningGame.Play
