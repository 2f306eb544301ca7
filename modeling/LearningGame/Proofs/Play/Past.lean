import LearningGame.Play.Session.Course
import Mathlib.Tactic.Common

/-!
# Sessions with a past

A session that has been restarted still has what was there before: the seats that were taken, the
plays that were reported as ended, the notes, and the numbers of the epochs and the countdowns that
have gone by. Such a past can be put behind any session. The epochs and the serial numbers then count
on from it, and the seats are counted from behind those of the past; nothing else changes, so all that
countdowns and conditions look at stays the same.
-/

namespace LearningGame.Play

/-- What is left of the plays that are over. -/
structure Past where
  epochs : Epochs
  /-- The number of countdowns that were armed. -/
  armed : Nat
  /-- The seconds that were left to countdowns. -/
  lefts : List (Nat × Int)
  notes : List Log.Record
  seats : List Seat
  completions : List GameState
  /-- Only countdowns that were armed have lost seconds. -/
  lt_armed : ∀ x ∈ lefts, x.1 < armed

/-! ### Epochs and countdowns -/

/-- Epochs that are counted on from a past. -/
def Epochs.withPast (e : Epochs) (p : Past) : Epochs :=
  ⟨p.epochs.plays + e.plays, p.epochs.sections + e.sections⟩

/-- What a countdown is for, with the seats counted from behind a past. -/
def SessionAlarm.withPast (a : SessionAlarm) (p : Past) : SessionAlarm :=
  match a with
  | .game => .game
  | .lifeLoss => .lifeLoss
  | .ofSeat index alarm => .ofSeat (p.seats.length + index) alarm

/-- A countdown after a past. -/
def Countdown.withPast (c : Countdown SessionAlarm) (p : Past) : Countdown SessionAlarm :=
  { c with
    serial := p.armed + c.serial
    epochs := c.epochs.withPast p
    alarm := c.alarm.withPast p }

/-- The countdowns of a session after a past. -/
def Registry.withPast (r : Registry SessionAlarm) (p : Past) : Registry SessionAlarm where
  epochs := r.epochs.withPast p
  armed := p.armed + r.armed
  countdowns := r.countdowns.map (·.withPast p)
  lefts := r.lefts.map (fun x => (p.armed + x.1, x.2)) ++ p.lefts

section

variable (p : Past)

/-- Numbers that are counted on from the same one are told apart as before. -/
private lemma beq_add_left (k m n : Nat) : (k + m == k + n) = (m == n) := by
  rw [Bool.eq_iff_iff]
  simp

@[simp] lemma Epochs.current_withPast (made now : Epochs) (scope : Scope) :
    (made.withPast p).current (now.withPast p) scope = made.current now scope := by
  cases scope <;> simp only [current, withPast, beq_add_left]

@[simp] lemma Countdown.name_withPast (c : Countdown SessionAlarm) :
    (c.withPast p).name = c.name := rfl

@[simp] lemma Countdown.remaining_withPast (c : Countdown SessionAlarm) :
    (c.withPast p).remaining = c.remaining := rfl

@[simp] lemma Countdown.alarm_withPast (c : Countdown SessionAlarm) :
    (c.withPast p).alarm = c.alarm.withPast p := rfl

@[simp] lemma Countdown.scope_withPast (c : Countdown SessionAlarm) :
    (c.withPast p).scope = c.scope := rfl

namespace Registry

variable (r : Registry SessionAlarm)

@[simp] lemma epochs_withPast : (r.withPast p).epochs = r.epochs.withPast p := rfl

@[simp] lemma isCurrent_withPast (c : Countdown SessionAlarm) :
    (r.withPast p).isCurrent (c.withPast p) = r.isCurrent c :=
  Epochs.current_withPast p c.epochs r.epochs c.scope

@[simp] lemma find?_withPast (name : String) :
    (r.withPast p).find? name = (r.find? name).map (·.withPast p) := by
  simp [find?, withPast, List.find?_map, Function.comp_def]

@[simp] lemma remaining?_withPast (name : String) :
    (r.withPast p).remaining? name = r.remaining? name := by
  cases h : r.find? name with
  | none => simp [remaining?, h]
  | some c => simp [remaining?, h]

@[simp] lemma live?_withPast (serial : Nat) :
    (r.withPast p).live? (p.armed + serial) = (r.live? serial).map (·.withPast p) := by
  have hfind : (r.withPast p).countdowns.find? (·.serial == p.armed + serial) =
      (r.countdowns.find? (·.serial == serial)).map (·.withPast p) := by
    simp only [withPast, List.find?_map, Function.comp_def, Countdown.withPast, beq_add_left]
  cases h : r.countdowns.find? (·.serial == serial) with
  | none => simp [live?, hfind, h]
  | some c => by_cases hc : r.isCurrent c <;> simp [live?, hfind, h, Option.filter, hc]

lemma serials_withPast : (r.withPast p).serials = r.serials.map (p.armed + ·) := by
  simp [serials, withPast, Countdown.withPast]

lemma place_withPast (c : Countdown SessionAlarm) (cs : List (Countdown SessionAlarm)) :
    place (c.withPast p) (cs.map (·.withPast p)) = (place c cs).map (·.withPast p) := by
  induction cs with
  | nil => rfl
  | cons d rest ih => by_cases h : d.name = c.name <;> simp [place, h, ih]

lemma arm_withPast (name : String) (seconds : Int) (scope : Scope) (alarm : SessionAlarm) :
    (r.withPast p).arm name seconds scope (alarm.withPast p) =
      (r.arm name seconds scope alarm).withPast p := by
  have hplace := place_withPast p ⟨r.armed, name, seconds, scope, r.epochs, alarm⟩ r.countdowns
  simp only [arm, withPast, Nat.add_assoc, ← hplace]
  rfl

lemma cancel_withPast (name : String) :
    (r.withPast p).cancel name = (r.cancel name).withPast p := by
  simp [cancel, withPast, List.filter_map, Function.comp_def]

lemma nextSection_withPast : (r.withPast p).nextSection = r.nextSection.withPast p := by
  simp [nextSection, withPast, Epochs.withPast, List.filter_map, Function.comp_def, Nat.add_assoc]

/-- A countdown that has been armed after the past is none of those that had lost seconds in it. -/
lemma ne_of_mem_lefts {x : Nat × Int} (hx : x ∈ p.lefts) (serial : Nat) :
    x.1 ≠ p.armed + serial :=
  Nat.ne_of_lt (Nat.lt_of_lt_of_le (p.lt_armed x hx) (Nat.le_add_right _ _))

lemma step_withPast (c : Countdown SessionAlarm) :
    (r.withPast p).step (c.withPast p) = (r.step c).withPast p := by
  have hpast : p.lefts.filter (·.1 != p.armed + c.serial) = p.lefts := by
    simpa using fun n left hx => ne_of_mem_lefts p hx c.serial
  have hlefts : (r.lefts.map fun x => (p.armed + x.1, x.2)).filter (·.1 != p.armed + c.serial) =
      (r.lefts.filter (·.1 != c.serial)).map fun x => (p.armed + x.1, x.2) := by
    simp only [List.filter_map, Function.comp_def, bne, beq_add_left]
  have hstruck (d : Countdown SessionAlarm) :
      (if (d.withPast p).serial == (c.withPast p).serial then
        { d.withPast p with remaining := c.remaining - 1 } else d.withPast p) =
      Countdown.withPast
        (if d.serial == c.serial then { d with remaining := c.remaining - 1 } else d) p := by
    simp only [Countdown.withPast, beq_add_left]
    split_ifs <;> rfl
  have hcountdowns : ((r.withPast p).step (c.withPast p)).countdowns =
      ((r.step c).withPast p).countdowns := by
    simp only [step, withPast, List.map_map, Function.comp_def, ← hstruck]
    rfl
  have hafter : ((r.withPast p).step (c.withPast p)).lefts = ((r.step c).withPast p).lefts := by
    simp only [step, withPast, List.filter_append, List.map_cons, List.cons_append, ← hlefts]
    rw [show (c.withPast p).serial = p.armed + c.serial from rfl, hpast]
    rfl
  exact congrArg₂ (Registry.mk (r.epochs.withPast p) (p.armed + r.armed)) hcountdowns hafter

lemma lookup_withPast (serial : Nat) :
    (r.withPast p).lefts.lookup (p.armed + serial) = r.lefts.lookup serial := by
  have hpast : p.lefts.lookup (p.armed + serial) = none := by
    simpa [List.lookup_eq_none_iff] using fun n left hx => (ne_of_mem_lefts p hx serial).symm
  have hlefts (lefts : List (Nat × Int)) :
      (lefts.map fun x => (p.armed + x.1, x.2)).lookup (p.armed + serial) = lefts.lookup serial := by
    induction lefts with
    | nil => rfl
    | cons x rest ih =>
      obtain ⟨n, left⟩ := x
      simp only [List.map_cons, List.lookup_cons, beq_add_left, ih]
  rw [withPast, List.lookup_append, hpast, hlefts, Option.or_none]

lemma left_withPast (c : Countdown SessionAlarm) :
    (r.withPast p).left (c.withPast p) = r.left c :=
  congrArg (·.getD c.remaining) (lookup_withPast p r c.serial)

end Registry

end

/-! ### Sessions -/

/-- Countdowns and notes after a past. -/
def Table.withPast (t : Table SessionAlarm) (p : Past) : Table SessionAlarm :=
  ⟨t.registry.withPast p, t.notes ++ p.notes⟩

/-- A seat that has been taken after a past. -/
def Seat.withPast (s : Seat) (p : Past) : Seat := { s with epochs := s.epochs.withPast p }

namespace Session

/-- A session with a past behind it. -/
def withPast (w : Session) (p : Past) : Session :=
  { w with
    table := w.table.withPast p
    seats := p.seats ++ w.seats.map (·.withPast p)
    current := w.current.map (p.seats.length + ·)
    completions := p.completions ++ w.completions }

variable (w : Session) (p : Past)

@[simp] lemma game_withPast : (w.withPast p).game = w.game := rfl

@[simp] lemma clock_withPast : (w.withPast p).clock = w.clock := rfl

@[simp] lemma phase_withPast : (w.withPast p).phase = w.phase := rfl

@[simp] lemma state_withPast : (w.withPast p).state = w.state := rfl

@[simp] lemma reported_withPast : (w.withPast p).reported = w.reported := rfl

@[simp] lemma registry_withPast : (w.withPast p).table.registry = w.table.registry.withPast p := rfl

@[simp] lemma getElem?_seats_withPast (index : Nat) :
    (w.withPast p).seats[p.seats.length + index]? = w.seats[index]?.map (·.withPast p) := by
  simp [withPast, List.getElem?_append_right]

@[simp] lemma length_seats_withPast :
    (w.withPast p).seats.length = p.seats.length + w.seats.length := by
  simp [withPast]

lemma currentSeat?_withPast :
    (w.withPast p).currentSeat? = w.currentSeat?.map (·.withPast p) := by
  unfold currentSeat?
  cases hcurrent : w.current with
  | none => simp [withPast, hcurrent]
  | some index =>
    have hbehind : (w.withPast p).current = some (p.seats.length + index) := by
      simp [withPast, hcurrent]
    simp [hbehind]

/-- What the player sees of a section has nothing to do with the past. -/
lemma view_withPast (seat : Seat) : (w.withPast p).view (seat.withPast p) = w.view seat := by
  have hremaining : (w.withPast p).remaining? seat.setting = w.remaining? seat.setting := by
    funext alarm
    simp [remaining?]
  exact congrArg (seat.player.view seat.setting w.circumstances) hremaining

/-- An element behind a list is changed as it is without the list. -/
private lemma modify_append {α : Type} (front back : List α) (index : Nat) (f : α → α) :
    (front ++ back).modify (front.length + index) f = front ++ back.modify index f := by
  induction front with
  | nil => simp
  | cons a rest ih => simp [Nat.add_right_comm, ih]

/-- A player is put back into the same seat. -/
lemma putPlayer_withPast (index : Nat) (player : Player) :
    putPlayer (p.seats.length + index) player (w.withPast p) =
      (putPlayer index player w).withPast p := by
  have hseats (seats : List Seat) :
      (seats.map (·.withPast p)).modify index (fun seat => { seat with player }) =
        (seats.modify index fun seat => { seat with player }).map (·.withPast p) := by
    induction seats generalizing index with
    | nil => simp
    | cons seat rest ih =>
      cases index with
      | zero => rfl
      | succ index => simp [ih]
  simp only [putPlayer, withPast, modify_append, hseats]

end Session

end LearningGame.Play
