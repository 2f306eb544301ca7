import LearningGame.Proofs.Play.Asking
import LearningGame.Proofs.Play.Hearing

/-!
# Sections that are not heard

A section that has been left still acts when it is asked to. What it reports is not heard, but the
countdowns that it arms and takes out are those of the session. What becomes of them is told by the
script alone, by the time it reads and by what conditions look at. Only quizzes, matching games and
challenges arm and take out countdowns.
-/

namespace LearningGame.Play

open Content Rules Act

/-! ### Requests that leave the countdowns alone -/

/-- A request that is not about countdowns. -/
class Request.Untimed (r : Request) : Prop where
  ne_arm : ∀ alarm seconds, r ≠ .arm alarm seconds
  ne_cancel : ∀ alarm, r ≠ .cancel alarm

instance : Request.Everyday Request.Untimed where
  report _ _ _ _ _ := ⟨nofun, nofun⟩
  complete := ⟨nofun, nofun⟩
  navigate _ := ⟨nofun, nofun⟩
  addItem _ := ⟨nofun, nofun⟩
  removeItem _ := ⟨nofun, nofun⟩
  look := ⟨nofun, nofun⟩
  draw := ⟨nofun, nofun⟩
  now := ⟨nofun, nofun⟩
  note _ _ := ⟨nofun, nofun⟩
  assign _ := ⟨nofun, nofun⟩

lemma Request.untimed_spendHint : Request.spendHint.Untimed := ⟨nofun, nofun⟩

lemma Request.untimed_updateVariables (patch : Fields) : (Request.updateVariables patch).Untimed :=
  ⟨nofun, nofun⟩

/-- Whatever it is answered, a script asks nothing about countdowns. -/
abbrev Script.Untimed {σ α : Type} (x : Script σ α) : Prop := x.Asks Request.Untimed

/-! ### Requests that are not heard -/

/-- What a section sees of a session. -/
structure Outlook where
  clock : Float
  circumstances : Circumstances

/-- The replies to a request that is not heard. -/
def Request.Unheard (o : Outlook) : (r : Request) → r.Reply → Prop
  | .spendHint, (granted : Bool) => granted = false
  | .look, (c : Circumstances) => c = o.circumstances
  | .now, (t : Float) => t = o.clock
  | _, _ => True

/-- What a request of the section in a seat makes of the countdowns. -/
def Request.handle (sectionId : String) (index : Nat) (r : Request)
    (registry : Registry SessionAlarm) : Registry SessionAlarm :=
  match r with
  | .arm alarm seconds =>
    registry.arm (alarm.fullName sectionId) seconds .ofSection (.ofSeat index alarm)
  | .cancel alarm => registry.cancel (alarm.fullName sectionId)
  | _ => registry

lemma Request.handle_of_untimed (r : Request) [hr : r.Untimed] (sectionId : String) (index : Nat)
    (registry : Registry SessionAlarm) : r.handle sectionId index registry = registry := by
  cases r with
  | arm alarm seconds => exact absurd rfl (hr.ne_arm alarm seconds)
  | cancel alarm => exact absurd rfl (hr.ne_cancel alarm)
  | _ => rfl

/-- To take out a countdown that is there changes the countdowns. -/
lemma Registry.cancel_ne_of_find?_eq_some {α : Type} {r : Registry α} {name : String}
    {c : Countdown α} (h : r.find? name = some c) : r.cancel name ≠ r := by
  intro hsame
  have hall : r.countdowns.filter (·.name != name) = r.countdowns :=
    congrArg Registry.countdowns hsame
  have hname := List.filter_eq_self.1 hall c (List.mem_of_find?_eq_some h)
  have heq := List.find?_some h
  simp [beq_iff_eq.1 heq] at hname

/-! ### Scripts that are not heard -/

namespace Script

variable {σ α β ρ : Type}

/-- After a script that is not heard, a property holds of its result, the state of the section and
what its requests have made of something. -/
def Unheard (o : Outlook) (handle : Request → ρ → ρ) (Q : Except Fault α → σ → ρ → Prop) :
    Script σ α → σ → ρ → Prop
  | .done a, s, t => Q (.ok a) s t
  | .fail e, s, t => Q (.error e) s t
  | .get next, s, t => (next s).Unheard o handle Q s t
  | .put s next, _, t => next.Unheard o handle Q s t
  | .ask r next, s, t => ∀ x, r.Unheard o x → (next x).Unheard o handle Q s (handle r t)

section

variable {o : Outlook} {handle : Request → ρ → ρ} {Q Q' : Except Fault α → σ → ρ → Prop} {s : σ}
  {t : ρ}

lemma Unheard.mono {x : Script σ α} (h : x.Unheard o handle Q s t)
    (hQ : ∀ a s t, Q a s t → Q' a s t) : x.Unheard o handle Q' s t := by
  induction x generalizing s t with
  | done a => exact hQ _ _ _ h
  | fail e => exact hQ _ _ _ h
  | get next ih => exact ih s h
  | put u next ih => exact ih h
  | ask r next ih => exact fun x hx => ih x (h x hx)

/-- A script goes on where the one before it has ended. -/
lemma unheard_bind {Q : Except Fault β → σ → ρ → Prop} {x : Script σ α} {f : α → Script σ β} :
    (x >>= f).Unheard o handle Q s t ↔
      x.Unheard o handle (fun r s t =>
        match r with
        | .ok a => (f a).Unheard o handle Q s t
        | .error e => Q (.error e) s t) s t := by
  induction x generalizing s t with
  | done a => exact Iff.rfl
  | fail e => exact Iff.rfl
  | get next ih => exact ih s
  | put u next ih => exact ih
  | ask r next ih => exact forall₂_congr fun x _ => ih x

/-- What is asked nothing about stays as it is. -/
lemma unheard_of_asks {x : Script σ α} (hx : x.Asks fun r => ∀ t, handle r t = t)
    (hQ : ∀ a s, Q a s t) : x.Unheard o handle Q s t := by
  induction x generalizing s with
  | done a => exact hQ _ s
  | fail e => exact hQ _ s
  | get next ih => exact ih s (hx s)
  | put u next ih => exact ih hx
  | ask r next ih =>
    intro a _
    rw [hx.1 t]
    exact ih a (hx.2 a)

end

end Script

namespace Session

variable {activate : Act Session Unit} {index : Nat} {seat : Seat} {w : Session}

/-- What the section in a seat sees. -/
def outlook (w : Session) : Outlook := ⟨w.clock, w.circumstances⟩

lemma cancel_spec (name : String) (w : Session) :
    ∃ v, (Table.cancel name).runIn w = (.ok (), v) ∧
      v.table.registry = w.table.registry.cancel name ∧ v.outlook = w.outlook := by
  rw [Table.cancel, runIn_get_bind]
  cases hfind : (Table.registryOf w).find? name with
  | none => exact ⟨_, rfl, (Registry.cancel_of_find?_eq_none hfind).symm, rfl⟩
  | some c => exact ⟨_, rfl, rfl, rfl⟩

/-- A request of a section that has been left is answered as one that is not heard. -/
lemma reply_spec (activate : Act Session Unit) (index : Nat)
    (hleft : seat.epochs.sections < w.epochs.sections) (r : Request) :
    ∃ x v, (reply activate index seat r).runIn w = (.ok x, v) ∧ r.Unheard w.outlook x ∧
      v.table.registry = r.handle seat.setting.sectionId index w.table.registry ∧
      v.outlook = w.outlook := by
  have hstale : seat.epochs.current w.table.registry.epochs .ofSection = false := by
    have hne : seat.epochs.sections ≠ w.table.registry.epochs.sections := Nat.ne_of_lt hleft
    simp [Epochs.current, hne]
  have hheard {α : Type} (operation : String) (refused : α) (x : Act Session α) :
      (heard seat operation refused x).runIn w =
        (.ok refused, Table.write ⟨.warning, countdownSource, staleNote operation⟩ w) := by
    rw [heard, runIn_get_bind, hstale]
    rfl
  cases r with
  | report | complete | navigate | updateVariables | addItem | removeItem =>
    exact ⟨_, _, hheard _ _ _, trivial, rfl, rfl⟩
  | spendHint => exact ⟨_, _, hheard _ _ _, rfl, rfl, rfl⟩
  | look | now => exact ⟨_, _, rfl, rfl, rfl, rfl⟩
  | arm | draw | note => exact ⟨_, _, rfl, trivial, rfl, rfl⟩
  | cancel alarm =>
    obtain ⟨v, hrun, hv⟩ := cancel_spec (alarm.fullName seat.setting.sectionId) w
    exact ⟨_, v, hrun, trivial, hv⟩

/-- What holds of a script that is not heard holds when a section that has been left runs it. -/
lemma run_unheard {σ α : Type} {Q : Except Fault α → σ → Registry SessionAlarm → Prop}
    {x : Script σ α} {s : σ} (hleft : seat.epochs.sections < w.epochs.sections)
    (hx : x.Unheard w.outlook (Request.handle seat.setting.sectionId index) Q s w.table.registry) :
    Q (x.run (reply activate index seat) s w).1 (x.run (reply activate index seat) s w).2.1
      (x.run (reply activate index seat) s w).2.2.table.registry := by
  induction x generalizing s w with
  | done a => exact hx
  | fail e => exact hx
  | get next ih => exact ih s hleft hx
  | put u next ih => exact ih hleft hx
  | ask r next ih =>
    obtain ⟨a, v, hrun, hunheard, hregistry, houtlook⟩ := reply_spec activate index hleft r
    have hepochs : v.epochs = w.epochs := by
      rw [epochs, hregistry]
      cases r <;> rfl
    simp only [Script.run, hrun]
    refine ih a (hepochs ▸ hleft) ?_
    rw [houtlook, hregistry]
    exact hx a hunheard

end Session

end LearningGame.Play
