import LearningGame.Play.Player
import LearningGame.Proofs.Play.Script

/-!
# Finishing is reported

A section that finishes reports this at once: no script of a section leaves the section finished
without a report, whatever it is answered. So it is enough to look at what becomes of a report to
know what becomes of a finished section.
-/

namespace LearningGame.Play

open Content

namespace Script

variable {σ τ ω α β : Type}

/-- A script that begins by reporting the end of the section. -/
def IsReport : Script σ α → Prop
  | .ask .complete _ => True
  | _ => False

/-- A script that starts in a state and does not finish the section without reporting it at once. -/
def Announces (finished : σ → Bool) : Script σ α → σ → Prop
  | .done _, _ => True
  | .fail _, _ => True
  | .get next, s => (next s).Announces finished s
  | .put t next, s =>
    next.Announces finished t ∧ (finished t = true → finished s = true ∨ next.IsReport)
  | .ask _ next, s => ∀ x, (next x).Announces finished s

/-! ### Running -/

/-- After a script the section is unfinished, or its end has been taken note of: this is said by
`K`, which a report brings about and no request undoes as long as `W` holds. -/
lemma run_announces {finished : σ → Bool} {W K : ω → Prop}
    {answer : (r : Request) → Act ω r.Reply} (hW : ∀ r w, W w → W ((answer r).runIn w).2)
    (hK : ∀ r w, W w → K w → K ((answer r).runIn w).2)
    (hreport : ∀ w, W w → ((answer .complete).runIn w).1 ≠ .error .endless →
      K ((answer .complete).runIn w).2)
    (x : Script σ α) (s : σ) (w : ω) (hx : x.Announces finished s) (hw : W w)
    (hs : (finished s = true → K w) ∨ x.IsReport)
    (hresult : (x.run answer s w).1 ≠ .error .endless)
    (hfinished : finished (x.run answer s w).2.1 = true) : K (x.run answer s w).2.2 := by
  induction x generalizing s w with
  | done a => exact hs.elim (fun h => h hfinished) False.elim
  | fail e => exact hs.elim (fun h => h hfinished) False.elim
  | get next ih => exact ih s s w hx hw (hs.imp_right False.elim) hresult hfinished
  | put t next ih =>
    refine ih t w hx.1 hw ?_ hresult hfinished
    by_cases hnext : next.IsReport
    · exact .inr hnext
    · have hold (ht : finished t = true) : finished s = true := (hx.2 ht).resolve_right hnext
      exact .inl fun ht => hs.elim (fun h => h (hold ht)) False.elim
  | ask r next ih =>
    have hafter (hr : ((answer r).runIn w).1 ≠ .error .endless) :
        finished s = true → K ((answer r).runIn w).2 := by
      rcases hs with hs | hs
      · exact fun h => hK r w hw (hs h)
      · cases r <;> first | exact fun _ => hreport w hw hr | exact hs.elim
    have hkept := hW r w hw
    unfold run at hresult hfinished ⊢
    cases hrun : (answer r).runIn w with
    | mk result v =>
      simp only [hrun] at hafter hkept hresult hfinished ⊢
      cases result with
      | ok a =>
        exact ih a s v (hx a) hkept (.inl (hafter (by simp))) hresult hfinished
      | error e => exact hafter (fun h => hresult (by cases h; rfl)) hfinished

/-! ### Scripts that announce -/

variable {finished : σ → Bool} {s : σ}

lemma announces_pure (a : α) : (pure a : Script σ α).Announces finished s := trivial

lemma announces_bind {x : Script σ α} {f : α → Script σ β} (hx : x.Announces finished s)
    (hf : ∀ a s, (f a).Announces finished s) : (x >>= f).Announces finished s := by
  have hreport {x : Script σ α} (h : x.IsReport) : (x.andThen f).IsReport := by
    cases x with
    | ask r next => cases r <;> exact h
    | _ => exact h.elim
  induction x generalizing s with
  | done a => exact hf a s
  | fail e => trivial
  | get next ih => exact ih s hx
  | put t next ih => exact ⟨ih hx.1, fun ht => (hx.2 ht).imp_right hreport⟩
  | ask r next ih => exact fun a => ih a (hx a)

lemma announces_map {x : Script σ α} (f : α → β) (hx : x.Announces finished s) :
    (f <$> x).Announces finished s :=
  announces_bind hx fun _ _ => trivial

lemma announces_state_bind {f : σ → Script σ α} (hf : (f s).Announces finished s) :
    (state >>= f).Announces finished s := hf

lemma announces_setState {t : σ} (ht : finished t = finished s) :
    (setState t).Announces finished s := ⟨trivial, fun h => .inl (ht ▸ h)⟩

lemma announces_change {f : σ → σ} (hf : ∀ s, finished (f s) = finished s) :
    (change f).Announces finished s := ⟨trivial, fun h => .inl (hf s ▸ h)⟩

lemma announces_setState_bind {t : σ} {f : PUnit → Script σ α} (ht : finished t = finished s)
    (hf : (f ⟨⟩).Announces finished t) : (setState t >>= f).Announces finished s :=
  ⟨hf, fun h => .inl (ht ▸ h)⟩

lemma announces_ask (r : Request) (f : r.Reply → α) :
    (ask r fun x => .done (f x) : Script σ α).Announces finished s := fun _ => trivial

lemma announces_ask_bind {r : Request} {f : r.Reply → α} {g : α → Script σ β}
    (hg : ∀ a, (g a).Announces finished s) :
    ((ask r fun x => .done (f x)) >>= g).Announces finished s := fun _ => hg _

lemma announces_lift_bind {r : Except Fault α} {f : α → Script σ β}
    (hf : ∀ a, (f a).Announces finished s) : (lift r >>= f).Announces finished s := by
  cases r with
  | ok a => exact hf a
  | error e => trivial

lemma announces_lift (r : Except Fault α) : (lift r : Script σ α).Announces finished s := by
  cases r <;> trivial

lemma announces_forEach {f : β → Script σ Unit} (hf : ∀ b s, (f b).Announces finished s)
    (bs : List β) : (forEach f bs).Announces finished s := by
  induction bs generalizing s with
  | nil => trivial
  | cons b rest ih => exact announces_bind (hf b s) fun _ _ => ih

lemma announces_filter {p : β → Script σ Bool} (hp : ∀ b s, (p b).Announces finished s)
    (bs : List β) : (filter p bs).Announces finished s := by
  induction bs generalizing s with
  | nil => trivial
  | cons b rest ih => exact announces_bind (hp b s) fun _ _ => announces_bind ih fun _ _ => trivial

/-- A part of a state is finished when the state is. -/
lemma announces_embed {into : σ → τ} {done : τ → Bool} (hinto : ∀ s, done (into s) = finished s)
    {x : Script σ α} (hx : x.Announces finished s) :
    (x.embed into s).Announces done (into s) := by
  have hreport {x : Script σ α} (s : σ) (h : x.IsReport) : (x.embed into s).IsReport := by
    cases x with
    | ask r next => cases r <;> exact h
    | _ => exact h.elim
  induction x generalizing s with
  | done a => trivial
  | fail e => trivial
  | get next ih => exact ih s hx
  | put t next ih =>
    refine ⟨ih hx.1, fun ht => ?_⟩
    rw [hinto] at ht ⊢
    exact (hx.2 ht).imp_right (hreport t)
  | ask r next ih => exact fun a => ih a (hx a)

lemma announces_of_map_embed (into : σ → τ) {done : τ → Bool}
    (hinto : ∀ s, done (into s) = finished s) {x? : Option (Script σ α)}
    (hx : ∀ x, x? = some x → x.Announces finished s) {y : Script τ α}
    (hy : x?.map (·.embed into s) = some y) : y.Announces done (into s) := by
  obtain ⟨x, hx?, rfl⟩ := Option.map_eq_some_iff.1 hy
  exact announces_embed hinto (hx x hx?)

end Script

open Script

/-! ### What all sections do -/

/-- States in which the sitting can be replaced. -/
class LawfulSeated (σ : Type) [Seated σ] : Prop where
  sitting_seat : ∀ (s : σ) (t : Sitting), Seated.sitting (Seated.seat s t) = t

/-- Whether the section is finished. -/
def isFinished {σ : Type} [Seated σ] (s : σ) : Bool := (Seated.sitting s).completed

/-- A script that does not finish a section without reporting it at once. -/
abbrev Script.Announcing {σ α : Type} [Seated σ] (x : Script σ α) : Prop :=
  ∀ s, x.Announces isFinished s

instance : LawfulSeated QuizSitting := ⟨fun _ _ => rfl⟩
instance : LawfulSeated FlashcardSitting := ⟨fun _ _ => rfl⟩
instance : LawfulSeated MatchingSitting := ⟨fun _ _ => rfl⟩
instance : LawfulSeated SortingSitting := ⟨fun _ _ => rfl⟩
instance : LawfulSeated NarrativeSitting := ⟨fun _ _ => rfl⟩
instance : LawfulSeated SimulationSitting := ⟨fun _ _ => rfl⟩
instance : LawfulSeated ExplorationSitting := ⟨fun _ _ => rfl⟩
instance : LawfulSeated ChallengeSitting := ⟨fun _ _ => rfl⟩
instance : LawfulSeated ReadingSitting := ⟨fun _ _ => rfl⟩

namespace Setting

variable {σ α : Type} [Seated σ] (c : Setting)

lemma announcing_warn (message : String) : (warn message : Script σ Unit).Announcing :=
  fun _ => announces_ask _ _

lemma announcing_elapsed : (elapsed : Script σ Int).Announcing := fun _ =>
  announces_ask_bind fun _ => announces_state_bind (announces_lift_bind fun _ => announces_pure _)

lemma announcing_startClock [LawfulSeated σ] : (startClock : Script σ Unit).Announcing := fun _ =>
  announces_ask_bind fun _ => announces_change fun s => by
    simp [isFinished, LawfulSeated.sitting_seat]

lemma announcing_answer (itemId : String) (given : Value) (isCorrect : Bool) (points : Int) :
    (answer itemId given isCorrect points : Script σ Unit).Announcing := fun s =>
  announces_bind (announcing_elapsed s) fun _ _ => announces_ask _ _

/-- Finishing a section is reported. -/
lemma announcing_complete : (c.complete : Script σ Unit).Announcing := by
  refine fun s => announces_state_bind ?_
  split_ifs
  · exact announcing_warn _ s
  · exact ⟨fun _ => trivial, fun _ => .inr trivial⟩

lemma announcing_unlessCompleted (action : String) (refused : α) {x : Script σ α}
    (hx : x.Announcing) : (c.unlessCompleted action refused x).Announcing := by
  refine fun s => announces_state_bind ?_
  split_ifs
  · exact announces_ask_bind fun _ => announces_pure _
  · exact hx s

end Setting

end LearningGame.Play
