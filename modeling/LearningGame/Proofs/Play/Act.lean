import LearningGame.Play.Table
import Mathlib.Tactic.Common

/-!
# What computations on a world keep

A computation keeps a property of worlds if the property holds after it whenever it holds before,
whether the computation ends or is broken off. Ticking keeps what its countdowns keep.
-/

namespace LearningGame.Play

variable {ω α β : Type}

namespace Act

@[simp] lemma runIn_get (w : ω) : runIn (get : Act ω ω) w = (.ok w, w) := rfl

@[simp] lemma runIn_set (v w : ω) : runIn (set v : Act ω PUnit) w = (.ok ⟨⟩, v) := rfl

@[simp] lemma runIn_modify (f : ω → ω) (w : ω) :
    runIn (modify f : Act ω PUnit) w = (.ok ⟨⟩, f w) := rfl

@[simp] lemma runIn_fault (e : Fault) (w : ω) : runIn (fault e : Act ω α) w = (.error e, w) := rfl

/-- A computation goes on with its result, unless it is broken off. -/
lemma runIn_bind (x : Act ω α) (f : α → Act ω β) (w : ω) :
    (x >>= f).runIn w =
      match x.runIn w with
      | (.ok a, v) => (f a).runIn v
      | (.error e, v) => (.error e, v) := by
  simp only [runIn, ExceptT.run, StateT.run, bind, ExceptT.bind, ExceptT.mk, StateT.bind,
    ExceptT.bindCont]
  cases x w with
  | mk r v => cases r <;> rfl

/-- A computation that ends has ended with all its parts. -/
lemma runIn_bind_eq_ok {x : Act ω α} {f : α → Act ω β} {b : β} {v w : ω} :
    (x >>= f).runIn w = (.ok b, v) ↔
      ∃ a u, x.runIn w = (.ok a, u) ∧ (f a).runIn u = (.ok b, v) := by
  rw [runIn_bind]
  cases x.runIn w with
  | mk r u => cases r <;> simp

lemma runIn_get_bind (f : ω → Act ω β) (w : ω) : (get >>= f).runIn w = (f w).runIn w := rfl

lemma runIn_modify_bind (f : ω → ω) (x : PUnit → Act ω β) (w : ω) :
    (modify f >>= x).runIn w = (x ⟨⟩).runIn (f w) := rfl

lemma runIn_lift_bind (r : Except Fault α) (f : α → Act ω β) (w : ω) :
    (lift r >>= f).runIn w =
      match r with
      | .ok a => (f a).runIn w
      | .error e => (.error e, w) := by
  rw [runIn_bind, runIn_lift]
  cases r <;> rfl

/-- A computation that ends with a fixed result leaves the world as its beginning does. -/
lemma runIn_bind_pure (x : Act ω α) (b : β) (w : ω) :
    ((x >>= fun _ => pure b).runIn w).2 = (x.runIn w).2 ∧
      ∀ r, ((x >>= fun _ => pure b).runIn w).1 = .ok r → r = b := by
  rw [runIn_bind]
  cases x.runIn w with
  | mk result v =>
    cases result with
    | ok a => exact ⟨rfl, fun r h => (Except.ok.inj h).symm⟩
    | error e => exact ⟨rfl, fun r h => by cases h⟩

/-- A computation whose result is only put into another form leaves the world as it does itself. -/
lemma snd_runIn_bind_pure (x : Act ω α) (f : α → β) (w : ω) :
    ((x >>= fun a => pure (f a)).runIn w).2 = (x.runIn w).2 := by
  rw [runIn_bind]
  cases x.runIn w with
  | mk r v => cases r <;> rfl

/-- Such a computation is broken off where the computation itself is. -/
lemma runIn_bind_pure_eq_error {x : Act ω α} {b : β} {e : Fault} {w : ω} :
    ((x >>= fun _ => pure b).runIn w).1 = .error e ↔ (x.runIn w).1 = .error e := by
  rw [runIn_bind]
  cases x.runIn w with
  | mk r v => cases r <;> simp

/-! ### Keeping -/

/-- A property that holds after a computation if it holds before. -/
def Keeps (I : ω → Prop) (x : Act ω α) : Prop := ∀ w, I w → I (x.runIn w).2

variable {I : ω → Prop}

lemma keeps_pure (a : α) : Keeps I (pure a : Act ω α) := fun _ h => h

lemma keeps_fault (e : Fault) : Keeps I (fault e : Act ω α) := fun _ h => h

lemma keeps_get : Keeps I (get : Act ω ω) := fun _ h => h

lemma keeps_set {v : ω} (h : I v) : Keeps I (set v : Act ω PUnit) := fun _ _ => h

lemma keeps_modify {f : ω → ω} (h : ∀ w, I w → I (f w)) : Keeps I (modify f : Act ω PUnit) := h

lemma keeps_bind {x : Act ω α} {f : α → Act ω β} (hx : Keeps I x) (hf : ∀ a, Keeps I (f a)) :
    Keeps I (x >>= f) := by
  intro w hw
  rw [runIn_bind]
  have hv := hx w hw
  cases h : x.runIn w with
  | mk r v =>
    rw [h] at hv
    cases r with
    | ok a => exact hf a v hv
    | error e => exact hv

/-- What goes on from the world may use what holds of it. -/
lemma keeps_get_bind {f : ω → Act ω β} (hf : ∀ w, I w → I ((f w).runIn w).2) :
    Keeps I (get >>= f) := by
  intro w hw
  rw [runIn_bind]
  exact hf w hw

end Act

/-! ### The table -/

namespace Table

open Act

variable [Tabled ω α]

/-- A second is taken off a countdown that is still valid. -/
lemma runIn_advance {bells : Bells ω α} {serial : Nat} {c : Countdown α} {w : ω}
    (hc : (registryOf w).live? serial = some c) :
    (advance bells serial).runIn w =
      (do
        bells.tick c (c.remaining - 1)
        let w ← get
        if (registryOf w).left c ≤ 0 then
          goOff bells c
          return some c.name
        else return none : Act ω (Option String)).runIn (mapRegistry (fun r => r.step c) w) := by
  rw [advance, runIn_get_bind, hc]
  rfl

/-- A countdown that is not valid, or not there, loses nothing. -/
lemma runIn_advance_of_none {bells : Bells ω α} {serial : Nat} {w : ω}
    (h : (registryOf w).live? serial = none) : (advance bells serial).runIn w = (.ok none, w) := by
  rw [advance, runIn_get_bind, h]
  rfl

/-- A countdown goes off if no seconds are left to it after what is done with every second of it. -/
lemma advance_spec {bells : Bells ω α} {serial : Nat} {c : Countdown α} {expired : Option String}
    {w v : ω} (hc : (registryOf w).live? serial = some c)
    (h : (advance bells serial).runIn w = (.ok expired, v)) :
    ∃ u, (bells.tick c (c.remaining - 1)).runIn (mapRegistry (fun r => r.step c) w) = (.ok (), u) ∧
      if (registryOf u).left c ≤ 0 then (goOff bells c).runIn u = (.ok (), v) else v = u := by
  rw [runIn_advance hc] at h
  obtain ⟨_, u, htick, h⟩ := runIn_bind_eq_ok.1 h
  refine ⟨u, htick, ?_⟩
  rw [runIn_get_bind] at h
  split_ifs at h ⊢ with hleft
  · obtain ⟨_, _, hgo, ⟨⟩⟩ := runIn_bind_eq_ok.1 h
    exact hgo
  · cases h
    rfl

/-- Seconds that are taken off some countdowns and then off others. -/
lemma runIn_advanceAll_append {bells : Bells ω α} {xs ys : List Nat} {names : List String}
    {w v : ω} : (advanceAll bells (xs ++ ys)).runIn w = (.ok names, v) ↔
      ∃ first u rest, (advanceAll bells xs).runIn w = (.ok first, u) ∧
        (advanceAll bells ys).runIn u = (.ok rest, v) ∧ names = first ++ rest := by
  induction xs generalizing w names with
  | nil =>
    constructor
    · exact fun h => ⟨[], w, names, rfl, h, rfl⟩
    · rintro ⟨_, _, rest, ⟨⟩, hrest, rfl⟩
      exact hrest
  | cons serial xs ih =>
    constructor
    · intro h
      obtain ⟨expired, u, hone, h⟩ := runIn_bind_eq_ok.1 h
      obtain ⟨others, u', hothers, ⟨⟩⟩ := runIn_bind_eq_ok.1 h
      obtain ⟨first, u'', rest, hfirst, hrest, rfl⟩ := ih.1 hothers
      refine ⟨expired.toList ++ first, u'', rest, ?_, hrest, (List.append_assoc ..).symm⟩
      exact runIn_bind_eq_ok.2 ⟨expired, u, hone, runIn_bind_eq_ok.2 ⟨first, u'', hfirst, rfl⟩⟩
    · rintro ⟨_, u, rest, h, hrest, rfl⟩
      obtain ⟨expired, u', hone, h⟩ := runIn_bind_eq_ok.1 h
      obtain ⟨first, _, hfirst, ⟨⟩⟩ := runIn_bind_eq_ok.1 h
      refine runIn_bind_eq_ok.2 ⟨expired, u', hone, runIn_bind_eq_ok.2 ⟨first ++ rest, v, ?_, ?_⟩⟩
      · exact ih.2 ⟨first, u, rest, hfirst, hrest, rfl⟩
      · rw [List.append_assoc]
        rfl

/-- A property that has nothing to do with countdowns and notes. -/
def Untabled (I : ω → Prop) : Prop := ∀ w (t : Table α), I w → I (Tabled.setTable w t)

variable {I : ω → Prop} (hI : Untabled (α := α) I)

include hI

lemma keeps_note (level : Log.Level) (source message : String) :
    Keeps I (note level source message : Act ω Unit) :=
  keeps_modify fun w hw => hI w _ hw

lemma keeps_mapRegistry (f : Registry α → Registry α) :
    Keeps I (modify (mapRegistry f) : Act ω PUnit) :=
  keeps_modify fun w hw => hI w _ hw

lemma keeps_arm (name : String) (seconds : Int) (scope : Scope) (alarm : α) :
    Keeps I (arm name seconds scope alarm : Act ω Unit) :=
  keeps_bind (keeps_mapRegistry hI _) fun _ => keeps_note hI _ _ _

lemma keeps_cancel (name : String) : Keeps I (cancel name : Act ω Unit) := by
  refine keeps_bind keeps_get fun w => ?_
  cases (registryOf w).find? name with
  | none => exact keeps_pure _
  | some c => exact keeps_bind (keeps_mapRegistry hI _) fun _ => keeps_note hI _ _ _

lemma keeps_take (x : Traced Fault β) : Keeps I (take x : Act ω β) := by
  have hwrite (notes : List Log.Record) (w : ω) (hw : I w) :
      I (notes.foldl (fun w r => write r w) w) := by
    induction notes generalizing w with
    | nil => exact hw
    | cons r rest ih => exact ih (write r w) (hI w _ hw)
  exact fun w hw => hwrite x.notes w hw

variable {bells : Bells ω α} (htick : ∀ c left, Keeps I (bells.tick c left))
  (hexpire : ∀ c, Keeps I (bells.expire c))

include hexpire

lemma keeps_goOff (c : Countdown α) : Keeps I (goOff bells c) :=
  keeps_bind (keeps_mapRegistry hI _) fun _ =>
    keeps_bind (keeps_note hI _ _ _) fun _ => hexpire c

include htick

lemma keeps_advance (serial : Nat) : Keeps I (advance bells serial) := by
  refine keeps_bind keeps_get fun w => ?_
  cases (registryOf w).live? serial with
  | none => exact keeps_pure _
  | some c =>
    refine keeps_bind (keeps_mapRegistry hI _) fun _ => keeps_bind (htick c _) fun _ =>
      keeps_bind keeps_get fun v => ?_
    split_ifs
    · exact keeps_bind (keeps_goOff hI hexpire c) fun _ => keeps_pure _
    · exact keeps_pure _

lemma keeps_advanceAll (serials : List Nat) : Keeps I (advanceAll bells serials) := by
  induction serials with
  | nil => exact keeps_pure _
  | cons serial rest ih =>
    exact keeps_bind (keeps_advance hI htick hexpire serial) fun _ =>
      keeps_bind ih fun _ => keeps_pure _

/-- A second that goes by keeps what the countdowns keep. -/
lemma keeps_tick : Keeps I (tick bells) :=
  keeps_bind keeps_get fun _ => keeps_advanceAll hI htick hexpire _

end Table

end LearningGame.Play
