import LearningGame.Play.Session.Course
import Mathlib.Data.List.Basic
import Mathlib.Tactic.Common

/-!
# The countdown of the game

The countdown of the game is armed before all others and is never armed anew in the same play, so
it stays in front of them: sections and lost lives arm countdowns under names of their own, which
are put behind it, and only seconds that go by take anything off it.
-/

namespace LearningGame.Play

namespace Registry

variable {α : Type} {r : Registry α} {P : Countdown α → Prop}

/-! ### What all countdowns have in common -/

lemma forall_place {c : Countdown α} {cs : List (Countdown α)} (hc : P c) (hcs : ∀ d ∈ cs, P d) :
    ∀ d ∈ place c cs, P d := by
  induction cs with
  | nil => simpa [place] using hc
  | cons first rest ih =>
    obtain ⟨hfirst, hrest⟩ := List.forall_mem_cons.1 hcs
    unfold place
    split_ifs
    · exact List.forall_mem_cons.2 ⟨hc, hrest⟩
    · exact List.forall_mem_cons.2 ⟨hfirst, ih hrest⟩

/-- A countdown with a new name is put at the end. -/
lemma place_eq_append {c : Countdown α} {cs : List (Countdown α)} (hcs : ∀ d ∈ cs, d.name ≠ c.name) :
    place c cs = cs ++ [c] := by
  induction cs with
  | nil => rfl
  | cons first rest ih =>
    obtain ⟨hfirst, hrest⟩ := List.forall_mem_cons.1 hcs
    simp [place, hfirst, ih hrest]

lemma forall_arm {name : String} {seconds : Int} {scope : Scope} {alarm : α}
    (hr : ∀ d ∈ r.countdowns, P d) (hc : P ⟨r.armed, name, seconds, scope, r.epochs, alarm⟩) :
    ∀ d ∈ (r.arm name seconds scope alarm).countdowns, P d :=
  forall_place hc hr

lemma forall_cancel (hr : ∀ d ∈ r.countdowns, P d) (name : String) :
    ∀ d ∈ (r.cancel name).countdowns, P d :=
  fun d hd => hr d (List.mem_of_mem_filter hd)

lemma forall_nextSection (hr : ∀ d ∈ r.countdowns, P d) : ∀ d ∈ r.nextSection.countdowns, P d :=
  fun d hd => hr d (List.mem_of_mem_filter hd)

lemma forall_nextPhase : ∀ d ∈ r.nextPhase.countdowns, P d := by
  rintro d ⟨⟩

/-- The seconds that are left to one countdown change, and nothing else does. -/
lemma forall_step (hP : ∀ d left, P d → P { d with remaining := left })
    (hr : ∀ d ∈ r.countdowns, P d) (c : Countdown α) : ∀ d ∈ (r.step c).countdowns, P d := by
  intro d hd
  obtain ⟨old, hold, rfl⟩ := List.mem_map.1 hd
  split_ifs
  · exact hP old _ (hr old hold)
  · exact hr old hold

/-- A countdown that is still valid is one of those that there are. -/
lemma mem_of_live? {serial : Nat} {c : Countdown α} (h : r.live? serial = some c) :
    c ∈ r.countdowns ∧ c.serial = serial := by
  obtain ⟨hfind, -⟩ := Option.filter_eq_some_iff.1 h
  exact ⟨List.mem_of_find?_eq_some hfind, by simpa using List.find?_some hfind⟩

end Registry

/-! ### Other countdowns -/

/-- The name of a countdown of a section has a colon in it. -/
lemma Alarm.colon_mem_fullName (alarm : Alarm) (sectionId : String) :
    ':' ∈ (alarm.fullName sectionId).toList := by
  simp [fullName]

lemma Alarm.fullName_ne_gameName (alarm : Alarm) (sectionId : String) :
    alarm.fullName sectionId ≠ Session.gameName := by
  intro h
  have hcolon := alarm.colon_mem_fullName sectionId
  rw [h] at hcolon
  exact absurd hcolon (by decide)

lemma Alarm.fullName_ne_lifeLossName (alarm : Alarm) (sectionId : String) :
    alarm.fullName sectionId ≠ Session.lifeLossName := by
  intro h
  have hcolon := alarm.colon_mem_fullName sectionId
  rw [h] at hcolon
  exact absurd hcolon (by decide)

/-- A countdown other than that of the game. -/
structure Countdown.Ordinary (c : Countdown SessionAlarm) : Prop where
  name : c.name ≠ Session.gameName
  alarm : c.alarm ≠ .game

lemma Countdown.Ordinary.ofSeat (serial : Nat) (sectionId : String) (seconds : Int) (scope : Scope)
    (epochs : Epochs) (index : Nat) (alarm : Alarm) :
    Ordinary ⟨serial, alarm.fullName sectionId, seconds, scope, epochs, .ofSeat index alarm⟩ where
  name := alarm.fullName_ne_gameName sectionId
  alarm := by simp

lemma Countdown.Ordinary.lifeLoss (serial : Nat) (seconds : Int) (scope : Scope) (epochs : Epochs) :
    Ordinary ⟨serial, Session.lifeLossName, seconds, scope, epochs, .lifeLoss⟩ where
  name := show Session.lifeLossName ≠ Session.gameName by decide
  alarm := by simp

/-! ### The countdown of the game -/

namespace Registry

variable {r : Registry SessionAlarm} {serial : Nat} {left : Int}

/-- The countdown of the game comes first, valid and with so many seconds left, and no other one is
for the game. -/
structure Leads (serial : Nat) (left : Int) (r : Registry SessionAlarm) : Prop where
  armed : serial < r.armed
  countdowns : ∃ epochs rest, epochs.plays = r.epochs.plays ∧
    r.countdowns = ⟨serial, Session.gameName, left, .ofPlay, epochs, .game⟩ :: rest ∧
      ∀ d ∈ rest, d.serial ≠ serial ∧ d.Ordinary

namespace Leads

lemma arm (h : r.Leads serial left) {name : String} {seconds : Int} {scope : Scope}
    {alarm : SessionAlarm}
    (hc : Countdown.Ordinary ⟨r.armed, name, seconds, scope, r.epochs, alarm⟩) :
    (r.arm name seconds scope alarm).Leads serial left := by
  obtain ⟨epochs, rest, hepochs, hcountdowns, hrest⟩ := h.countdowns
  refine ⟨Nat.lt_succ_of_lt h.armed, epochs, place _ rest, hepochs, ?_,
    forall_place ⟨Nat.ne_of_gt h.armed, hc⟩ hrest⟩
  simp [Registry.arm, hcountdowns, place, hc.name.symm]

lemma cancel (h : r.Leads serial left) {name : String} (hname : name ≠ Session.gameName) :
    (r.cancel name).Leads serial left := by
  obtain ⟨epochs, rest, hepochs, hcountdowns, hrest⟩ := h.countdowns
  refine ⟨h.armed, epochs, rest.filter (·.name != name), hepochs, ?_,
    fun d hd => hrest d (List.mem_of_mem_filter hd)⟩
  simp [Registry.cancel, hcountdowns, hname.symm]

lemma nextSection (h : r.Leads serial left) : r.nextSection.Leads serial left := by
  obtain ⟨epochs, rest, hepochs, hcountdowns, hrest⟩ := h.countdowns
  refine ⟨h.armed, epochs, rest.filter (·.scope != .ofSection), hepochs, ?_,
    fun d hd => hrest d (List.mem_of_mem_filter hd)⟩
  simp [Registry.nextSection, hcountdowns]

/-- Another countdown loses a second. -/
lemma step (h : r.Leads serial left) {c : Countdown SessionAlarm} (hc : c.serial ≠ serial) :
    (r.step c).Leads serial left := by
  obtain ⟨epochs, rest, hepochs, hcountdowns, hrest⟩ := h.countdowns
  refine ⟨h.armed, epochs, _, hepochs, ?_, forall_step (r := { r with countdowns := rest })
    (fun d left hd => ⟨hd.1, hd.2.name, hd.2.alarm⟩) hrest c⟩
  simp [Registry.step, hcountdowns, hc.symm]

/-- The countdown of the game is valid, and has one second less after it has lost one. -/
lemma exists_live? (h : r.Leads serial left) : ∃ c, r.live? serial = some c ∧ c.alarm = .game ∧
    c.remaining = left ∧ (r.step c).Leads serial (left - 1) := by
  obtain ⟨epochs, rest, hepochs, hcountdowns, hrest⟩ := h.countdowns
  refine ⟨⟨serial, Session.gameName, left, .ofPlay, epochs, .game⟩, ?_, rfl, rfl, h.armed, epochs,
    rest, hepochs, ?_, hrest⟩
  · simp [live?, hcountdowns, isCurrent, Epochs.current, hepochs]
  · have hothers : ∀ d ∈ rest, (d.serial == serial) = false := by
      intro d hd
      simpa using (hrest d hd).1
    simp only [Registry.step, hcountdowns, List.map_cons, beq_self_eq_true, if_true]
    congr 1
    refine (List.map_congr_left fun d hd => ?_).trans (List.map_id _)
    rw [hothers d hd]
    rfl

/-- The countdown of the game is the only one with its name. -/
lemma remaining? (h : r.Leads serial left) : r.remaining? Session.gameName = some left := by
  obtain ⟨epochs, rest, hepochs, hcountdowns, -⟩ := h.countdowns
  simp [Registry.remaining?, find?, hcountdowns, isCurrent, Epochs.current, hepochs]

/-- The other countdowns are told from that of the game by their serial numbers. -/
lemma serials (h : r.Leads serial left) :
    ∃ others, r.serials = serial :: others ∧ serial ∉ others := by
  obtain ⟨epochs, rest, -, hcountdowns, hrest⟩ := h.countdowns
  refine ⟨rest.map (·.serial), by simp [Registry.serials, hcountdowns], ?_⟩
  simp only [List.mem_map, not_exists, not_and]
  exact fun d hd => (hrest d hd).1

lemma ordinary (h : r.Leads serial left) {c : Countdown SessionAlarm} {other : Nat}
    (hc : r.live? other = some c) (hother : other ≠ serial) : c.serial ≠ serial ∧ c.Ordinary := by
  obtain ⟨epochs, rest, -, hcountdowns, hrest⟩ := h.countdowns
  obtain ⟨hmem, rfl⟩ := mem_of_live? hc
  rw [hcountdowns] at hmem
  rcases List.mem_cons.1 hmem with rfl | hmem
  · exact absurd rfl hother
  · exact hrest c hmem

end Leads

/-- There are countdowns of sections only. -/
def Idle (r : Registry SessionAlarm) : Prop :=
  ∀ c ∈ r.countdowns, c.scope = .ofSection ∧ c.Ordinary

/-- The countdowns that are left over when a play begins do not outlast its first section. -/
lemma Idle.leads (h : r.Idle) (seconds : Int) :
    ((r.arm Session.gameName seconds .ofPlay SessionAlarm.game).nextSection).Leads r.armed
      seconds := by
  refine ⟨Nat.lt_succ_self _, r.epochs, [], rfl, ?_, by simp⟩
  have hplace := place_eq_append (c := ⟨r.armed, Session.gameName, seconds, .ofPlay, r.epochs,
    SessionAlarm.game⟩) fun d hd => (h d hd).2.name
  have hvoid : r.countdowns.filter (·.scope != .ofSection) = [] := by
    simpa using fun d hd => (h d hd).1
  simp [Registry.nextSection, Registry.arm, hplace, hvoid]

end Registry

end LearningGame.Play
