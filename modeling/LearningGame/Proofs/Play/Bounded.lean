import LearningGame.Proofs.Play.Step

/-!
# What does not go on without end

Sums, points and ratings may not be computable, and scripts and operations may be broken off by what
they compute. None of that is because one thing calls for the next without end: only sections that
are begun one from within the other do.
-/

namespace LearningGame

variable {α β : Type}

/-- A result that is not broken off because one thing calls for the next without end. -/
def Bounded (r : Except Fault α) : Prop := r ≠ .error .endless

namespace Bounded

lemma ok (a : α) : Bounded (.ok a : Except Fault α) := nofun

lemma bind {r : Except Fault α} {f : α → Except Fault β} (hr : Bounded r)
    (hf : ∀ a, Bounded (f a)) : Bounded (r >>= f) := by
  cases r with
  | ok a => exact hf a
  | error e => exact fun h => hr (by cases h; rfl)

lemma map {r : Except Fault α} (hr : Bounded r) (f : α → β) : Bounded (r.map f) := by
  cases r with
  | ok a => exact ok (f a)
  | error e => exact fun h => hr (by cases h; rfl)

/-! ### Arithmetic -/

lemma toFloat (n : Number) : Bounded n.toFloat := by
  unfold Number.toFloat
  split <;> nofun

lemma toFault (r : Except Number.NoWholePart α) :
    Bounded (r.mapError Number.NoWholePart.toFault) := by
  rcases r with e | a
  · cases e <;> nofun
  · nofun

lemma toInt (n : Number) : Bounded n.toInt := by
  cases n with
  | int n => exact ok n
  | float x => exact toFault _

lemma toFloor (n : Number) : Bounded n.toFloor := by
  cases n with
  | int n => exact ok n
  | float x => exact toFault _

lemma toNearest (n : Number) : Bounded n.toNearest := by
  cases n with
  | int n => exact ok n
  | float x => exact toFault _

lemma onFloats (f : Float → Float → Float) (a b : Number) : Bounded (Number.onFloats f a b) :=
  (toFloat a).bind fun _ => (toFloat b).bind fun _ => ok _

lemma add (a b : Number) : Bounded (a.add b) := by
  cases a <;> cases b <;> first | exact ok _ | exact onFloats _ _ _

lemma sub (a b : Number) : Bounded (a.sub b) := by
  cases a <;> cases b <;> first | exact ok _ | exact onFloats _ _ _

lemma mul (a b : Number) : Bounded (a.mul b) := by
  cases a <;> cases b <;> first | exact ok _ | exact onFloats _ _ _

lemma divInt (a : Number) (b : Int) : Bounded (a.divInt b) := by
  cases a with
  | int n =>
    show Bounded (Number.quotient n b)
    unfold Number.quotient
    split <;> nofun
  | float x => exact (toFloat _).bind fun _ => ok _

end Bounded

open Content Rules

lemma Rules.bounded_rate (scoring : Scoring) (score : Number) : Bounded (rate scoring score) := by
  unfold rate percentage
  split_ifs
  · exact (Bounded.ok _).bind fun _ => .ok _
  · exact ((Bounded.divInt _ _).bind fun _ => .ok _).bind fun _ => .ok _
  · exact .ok _

lemma Value.bounded_toKey (v : Value) : Bounded v.toKey := by
  unfold toKey
  split <;> nofun

namespace Play

lemma bounded_earned (scoring : Scoring) (isCorrect : Bool) (points : Number) (streak : Int) :
    Bounded (earned scoring isCorrect points streak) := by
  refine Bounded.bind ?_ fun bonus => (Bounded.add _ _).bind fun points => ?_
  · unfold bonusOf
    split_ifs
    · exact (Bounded.sub _ _).bind fun _ => (Bounded.mul _ _).bind fun _ => .toFloor _
    · exact .ok _
  · split_ifs
    · exact .sub _ _
    · exact .ok _

lemma NarrativeSitting.bounded_pointsOf (v : Value) : Bounded (pointsOf v) := by
  refine Bounded.bind ?_ fun x => ?_
  · unfold floatOf?
    split
    · exact .ok _
    · split
      · exact (Bounded.toFloat _).map some
      · exact .ok _
  · cases x with
    | none => exact .ok _
    | some x =>
      dsimp only
      split_ifs
      · exact .ok _
      · exact .toInt _

/-! ### Scripts -/

namespace Script

variable {σ τ ω : Type}

/-- Whatever it is answered, what a script computes goes on only for some time. -/
def Computes : Script σ α → Prop
  | .done _ => True
  | .fail e => e ≠ .endless
  | .get next => ∀ s, (next s).Computes
  | .put _ next => next.Computes
  | .ask _ next => ∀ x, (next x).Computes

lemma computes_bind {x : Script σ α} {f : α → Script σ β} (hx : x.Computes)
    (hf : ∀ a, (f a).Computes) : (x >>= f).Computes := by
  induction x with
  | done a => exact hf a
  | fail e => exact hx
  | get next ih => exact fun s => ih s (hx s)
  | put t next ih => exact ih hx
  | ask r next ih => exact fun a => ih a (hx a)

lemma computes_lift {r : Except Fault α} (hr : Bounded r) : (lift r : Script σ α).Computes := by
  cases r with
  | ok a => trivial
  | error e => exact fun h => hr (h ▸ rfl)

lemma computes_forEach {f : β → Script σ Unit} (hf : ∀ b, (f b).Computes) (bs : List β) :
    (forEach f bs).Computes := by
  induction bs with
  | nil => trivial
  | cons b rest ih => exact computes_bind (hf b) fun _ => ih

lemma computes_embed {τ : Type} {x : Script σ α} (hx : x.Computes) (into : σ → τ) (s : σ) :
    (x.embed into s).Computes := by
  induction x generalizing s with
  | done a => trivial
  | fail e => exact hx
  | get next ih => exact ih s (hx s) s
  | put t next ih => exact ih hx t
  | ask r next ih => exact fun a => ih a (hx a) s

/-- A script goes on without end only if an answer to one of its requests does. -/
lemma bounded_run {P : Request → Prop} {answer : (r : Request) → Act ω r.Reply}
    (hanswer : ∀ r, P r → ∀ w, Bounded ((answer r).runIn w).1) {x : Script σ α} (hx : x.Asks P)
    (hcomputes : x.Computes) (s : σ) (w : ω) : Bounded (x.run answer s w).1 := by
  induction x generalizing s w with
  | done a => exact .ok a
  | fail e => exact fun h => hcomputes (by cases h; rfl)
  | get next ih => exact ih s (hx s) (hcomputes s) s w
  | put t next ih => exact ih hx hcomputes t w
  | ask r next ih =>
    have hr := hanswer r hx.1 w
    unfold run
    cases hrun : (answer r).runIn w with
    | mk result v =>
      rw [hrun] at hr
      cases result with
      | ok a => exact ih a (hx.2 a) (hcomputes a) s v
      | error e => exact fun h => hr (by cases h; rfl)

end Script

/-! ### Operations that come to an end -/

namespace Act

variable {ω α β : Type}

/-- A computation that never goes on without end. -/
def Ends (x : Act ω α) : Prop := ∀ w, Bounded (x.runIn w).1

lemma ends_pure (a : α) : Ends (pure a : Act ω α) := fun _ => .ok a

lemma ends_bind {x : Act ω α} {f : α → Act ω β} (hx : Ends x) (hf : ∀ a, Ends (f a)) :
    Ends (x >>= f) := by
  intro w
  have hw := hx w
  rw [runIn_bind]
  cases hrun : x.runIn w with
  | mk r v =>
    rw [hrun] at hw
    cases r with
    | ok a => exact hf a v
    | error e => exact fun h => hw (by cases h; rfl)

lemma ends_get : Ends (get : Act ω ω) := fun _ => .ok _

lemma ends_modify (f : ω → ω) : Ends (modify f : Act ω PUnit) := fun _ => .ok _

lemma ends_set (w : ω) : Ends (set w : Act ω PUnit) := fun _ => .ok _

lemma ends_lift {r : Except Fault α} (hr : Bounded r) : Ends (lift r : Act ω α) := fun _ => hr

end Act

namespace Session

open Act

lemma ends_note (level : Log.Level) (message : String) : Ends (note level message) := ends_modify _

lemma ends_whilePlaying {α : Type} {operation : String} {refused : α} {x : Act Session α}
    (hx : Ends x) : Ends (whilePlaying operation refused x) := by
  refine ends_bind ends_get fun w => ?_
  split_ifs
  · exact hx
  · exact ends_bind (ends_note _ _) fun _ => ends_pure _

lemma ends_transition (e : PhaseEvent) : Ends (transition e) := by
  refine ends_bind ends_get fun w => ?_
  cases w.phase.after? e with
  | none => exact ends_bind (ends_note _ _) fun _ => ends_pure _
  | some p => exact ends_bind (ends_set _) fun _ => ends_bind (ends_modify _) fun _ => ends_pure _

lemma ends_rateScore : Ends rateScore := by
  refine ends_bind ends_get fun w v => ?_
  obtain ⟨table, -, hrun⟩ := runIn_take (rateNoted w.game.scoring w.state.score) v
  rw [hrun, result_rateNoted]
  exact bounded_rate _ _

lemma ends_reportEnd : Ends reportEnd := by
  refine ends_bind ends_get fun w => ?_
  split_ifs
  · exact ends_pure _
  · exact ends_set _

lemma ends_stop : Ends stop := by
  refine ends_whilePlaying (ends_bind ?_ fun _ => ends_pure _)
  exact ends_bind (ends_modify _) fun _ => ends_bind ends_rateScore fun _ =>
    ends_bind (ends_modify _) fun _ => ends_bind (ends_modify _) fun _ =>
    ends_bind (ends_transition _) fun _ => ends_bind ends_get fun _ =>
    ends_bind (ends_note _ _) fun _ => ends_reportEnd

lemma ends_loseLife : Ends loseLife := by
  refine ends_bind ends_get fun w => ?_
  cases w.state.lives with
  | none => exact ends_pure _
  | some lives =>
    dsimp only
    split_ifs
    · refine ends_bind (ends_modify _) fun _ => ends_bind ends_get fun _ =>
        ends_bind (ends_note _ _) fun _ => ?_
      split_ifs
      · exact ends_bind ends_stop fun _ => ends_pure _
      · exact ends_bind (ends_modify _) fun _ => ends_modify _
    · exact ends_bind (ends_modify _) fun _ => ends_pure _
    · exact ends_pure _

lemma ends_submitAnswer (x : Submission) : Ends (submitAnswer x) := by
  refine ends_whilePlaying (ends_bind ?_ fun _ => ends_pure _)
  refine ends_bind ends_get fun w => ends_bind (ends_lift (bounded_earned _ _ _ _)) fun points =>
    ends_bind (ends_modify _) fun _ => ends_bind (ends_lift (Bounded.add _ _)) fun score =>
    ends_bind (ends_modify _) fun _ => ends_bind (ends_note _ _) fun _ => ?_
  split_ifs
  · exact ends_pure _
  · exact ends_bind ends_loseLife fun _ => ends_pure _

end Session

end Play

end LearningGame
