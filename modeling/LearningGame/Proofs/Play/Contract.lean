import LearningGame.Proofs.Play.Script

/-!
# Contracts

A contract tells what a computation may do to a world: one relation holds between the world before
and after a computation that ends, another one if it is broken off. Contracts are kept by pieces:
what goes on after a computation that has ended may rely on where it has ended.
-/

namespace LearningGame.Play

open Act

/-- What computations may do to a world, when they end and when they are broken off. -/
structure Contract (ω : Type) where
  ends : ω → ω → Prop
  breaks : Fault → ω → ω → Prop
  refl : ∀ w, ends w w
  trans : ∀ {u v w}, ends u v → ends v w → ends u w
  breaks_self : ∀ e w, breaks e w w
  breaks_trans : ∀ {e u v w}, ends u v → breaks e v w → breaks e u w

variable {ω σ α β : Type}

namespace Contract

/-- What holds between two worlds by a contract, given the result between them. -/
def Allows (C : Contract ω) (w : ω) : Except Fault α → ω → Prop
  | .ok _, v => C.ends w v
  | .error e, v => C.breaks e w v

/-- A computation keeps to a contract when it starts in a world. -/
def Met (C : Contract ω) (x : Act ω α) (w : ω) : Prop := C.Allows w (x.runIn w).1 (x.runIn w).2

variable {C : Contract ω} {w : ω}

lemma Allows.after {u v : ω} {r : Except Fault α} (huv : C.ends u v) (h : C.Allows v r w) :
    C.Allows u r w := by
  cases r with
  | ok a => exact C.trans huv h
  | error e => exact C.breaks_trans huv h

/-- A computation whose result is dropped. -/
lemma Allows.drop {u : ω} {x : Act ω α} (h : C.Allows u (x.runIn w).1 (x.runIn w).2) (b : β) :
    C.Allows u ((x >>= fun _ => pure b).runIn w).1 ((x >>= fun _ => pure b).runIn w).2 := by
  rw [runIn_bind]
  cases hrun : x.runIn w with
  | mk r v =>
    rw [hrun] at h
    cases r <;> exact h

lemma met_pure (a : α) : C.Met (pure a) w := C.refl w

lemma met_modify {f : ω → ω} (h : C.ends w (f w)) : C.Met (modify f) w := h

lemma met_bind {x : Act ω α} {f : α → Act ω β} (hx : C.Met x w)
    (hf : ∀ a v, x.runIn w = (.ok a, v) → C.Met (f a) v) : C.Met (x >>= f) w := by
  unfold Met at hx ⊢
  rw [runIn_bind]
  cases hrun : x.runIn w with
  | mk r v =>
    rw [hrun] at hx
    cases r with
    | ok a => exact (hf a v hrun).after hx
    | error e => exact hx

lemma met_get_bind {f : ω → Act ω β} (hf : C.Met (f w) w) : C.Met (get >>= f) w := by
  unfold Met
  rw [runIn_get_bind]
  exact hf

lemma met_modify_bind {g : ω → ω} {f : PUnit → Act ω β} (hg : C.ends w (g w))
    (hf : C.Met (f ⟨⟩) (g w)) : C.Met (modify g >>= f) w := by
  unfold Met
  rw [runIn_modify_bind]
  exact Allows.after hg hf

lemma met_lift_bind {r : Except Fault α} {f : α → Act ω β} (hf : ∀ a, r = .ok a → C.Met (f a) w) :
    C.Met (lift r >>= f) w := by
  cases r with
  | ok a => exact hf a rfl
  | error e => exact C.breaks_self e w

/-- A script keeps to a contract if every answer to a request does. -/
lemma allows_run {answer : (r : Request) → Act ω r.Reply} (hanswer : ∀ r w, C.Met (answer r) w)
    (x : Script σ α) (s : σ) (w : ω) :
    C.Allows w (x.run answer s w).1 (x.run answer s w).2.2 := by
  induction x generalizing s w with
  | done a => exact C.refl w
  | fail e => exact C.breaks_self e w
  | get next ih => exact ih s s w
  | put t next ih => exact ih t w
  | ask r next ih =>
    have hr := hanswer r w
    unfold Met at hr
    unfold Script.run
    cases hrun : (answer r).runIn w with
    | mk result v =>
      rw [hrun] at hr
      cases result with
      | ok a => exact (ih a s v).after hr
      | error e => exact hr

/-! ### Keeping a property -/

/-- The contract to keep a property, and to leave something else behind when broken off. -/
def keeping (I : ω → Prop) (J : Fault → ω → Prop) (hIJ : ∀ e w, I w → J e w) : Contract ω where
  ends w v := I w → I v
  breaks e w v := I w → J e v
  refl _ := id
  trans huv hvw := hvw ∘ huv
  breaks_self := hIJ
  breaks_trans huv hvw := hvw ∘ huv

/-- What keeps a property may rely on it. -/
lemma allows_keeping {I : ω → Prop} {J : Fault → ω → Prop} {hIJ : ∀ e w, I w → J e w} {v : ω}
    {r : Except Fault α} (h : I w → (keeping I J hIJ).Allows w r v) :
    (keeping I J hIJ).Allows w r v := by
  cases r with
  | ok a => exact fun hw => h hw hw
  | error e => exact fun hw => h hw hw

end Contract

/-! ### The table -/

namespace Table

open Contract

variable [Tabled ω α] {C : Contract ω} {w : ω}

/-- A contract that leaves the notes free. -/
def FreeNotes (C : Contract ω) : Prop :=
  ∀ (w : ω) (notes : List Log.Record),
    C.ends w (Tabled.setTable w { Tabled.table w with notes := notes })

variable (hC : FreeNotes (α := α) C)

include hC

lemma met_note (level : Log.Level) (source message : String) :
    C.Met (note level source message : Act ω Unit) w :=
  met_modify (hC w _)

lemma met_note_bind {level : Log.Level} {source message : String} {f : PUnit → Act ω β}
    (hf : C.Met (f ⟨⟩) (write ⟨level, source, message⟩ w)) :
    C.Met (note level source message >>= f) w :=
  met_modify_bind (hC w _) hf

lemma met_arm {name : String} {seconds : Int} {scope : Scope} {alarm : α}
    (harm : C.ends w (mapRegistry (fun r => r.arm name seconds scope alarm) w)) :
    C.Met (arm name seconds scope alarm : Act ω Unit) w :=
  met_modify_bind harm (met_note hC _ _ _)

lemma met_cancel {name : String} (hcancel : C.ends w (mapRegistry (fun r => r.cancel name) w)) :
    C.Met (cancel name : Act ω Unit) w := by
  refine met_get_bind ?_
  cases (registryOf w).find? name with
  | none => exact met_pure _
  | some c => exact met_modify_bind hcancel (met_note hC _ _ _)

variable {bells : Bells ω α}

lemma met_goOff {c : Countdown α} (hexpire : ∀ w, C.Met (bells.expire c) w)
    (hcancel : C.ends w (mapRegistry (fun r => r.cancel c.name) w)) : C.Met (goOff bells c) w :=
  met_modify_bind hcancel (met_note_bind hC (hexpire _))

omit hC in
/-- A second is taken off a countdown, which goes off if none is left. -/
lemma met_advance {serial : Nat}
    (hstrike : ∀ c, (registryOf w).live? serial = some c →
      C.ends w (mapRegistry (fun r => r.step c) w))
    (htick : ∀ c v, (registryOf w).live? serial = some c →
      C.Met (bells.tick c (c.remaining - 1)) v)
    (hgoOff : ∀ c v, (registryOf w).live? serial = some c → (registryOf v).left c ≤ 0 →
      C.Met (goOff bells c) v) :
    C.Met (advance bells serial) w := by
  refine met_get_bind ?_
  cases hc : (registryOf w).live? serial with
  | none => exact met_pure _
  | some c =>
    refine met_modify_bind (hstrike c hc) (met_bind (htick c _ hc) fun _ v _ => met_get_bind ?_)
    split_ifs with hleft
    · exact met_bind (hgoOff c v hc hleft) fun _ _ _ => met_pure _
    · exact met_pure _

omit hC in
/-- Seconds are taken off several countdowns, one after the other. -/
lemma met_advanceAll {serials : List Nat}
    (hadvance : ∀ serial ∈ serials, ∀ w, C.Met (advance bells serial) w) :
    C.Met (advanceAll bells serials) w := by
  induction serials generalizing w with
  | nil => exact met_pure _
  | cons serial rest ih =>
    refine met_bind (hadvance serial List.mem_cons_self w) fun _ v _ =>
      met_bind (ih fun other hother => ?_) fun _ _ _ => met_pure _
    exact hadvance other (List.mem_cons_of_mem serial hother)

omit hC in
lemma met_tick (hadvance : ∀ serial w, C.Met (advance bells serial) w) : C.Met (tick bells) w :=
  met_get_bind (met_advanceAll fun serial _ => hadvance serial)

end Table

end LearningGame.Play
