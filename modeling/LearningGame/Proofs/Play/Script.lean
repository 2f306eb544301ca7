import LearningGame.Proofs.Play.Act

/-!
# What scripts ask, and what running them keeps

Whatever it is answered, a script asks only requests and puts only states of some sort. A property
that may count the hints that are granted is kept by a script if it is kept by every answer to a
request.
-/

namespace LearningGame.Play

/-- The hints that a reply grants. -/
def Request.granted : (r : Request) → r.Reply → Nat
  | .spendHint, (granted : Bool) => if granted then 1 else 0
  | _, _ => 0

namespace Script

variable {σ τ ω α β : Type} {P : Request → Prop}

/-- Whatever it is answered, a script asks only requests with a property. -/
def Asks (P : Request → Prop) : Script σ α → Prop
  | .done _ => True
  | .fail _ => True
  | .get next => ∀ s, (next s).Asks P
  | .put _ next => next.Asks P
  | .ask r next => P r ∧ ∀ x, (next x).Asks P

/-- Whatever it is answered, a script puts only states with a property. -/
def Puts (Q : σ → Prop) : Script σ α → Prop
  | .done _ => True
  | .fail _ => True
  | .get next => ∀ s, (next s).Puts Q
  | .put t next => Q t ∧ next.Puts Q
  | .ask _ next => ∀ x, (next x).Puts Q

/-- Whatever it is answered, from states with a property a script asks only requests of some sort
and puts only states with that property. -/
def Minds (Q : σ → Prop) (P : Request → Prop) : Script σ α → Prop
  | .done _ => True
  | .fail _ => True
  | .get next => ∀ s, Q s → (next s).Minds Q P
  | .put t next => Q t ∧ next.Minds Q P
  | .ask r next => P r ∧ ∀ x, (next x).Minds Q P

/-- The hints that are granted while a script runs. -/
def grants (answer : (r : Request) → Act ω r.Reply) : Script σ α → σ → ω → Nat
  | .done _, _, _ => 0
  | .fail _, _, _ => 0
  | .get next, s, w => (next s).grants answer s w
  | .put s next, _, w => next.grants answer s w
  | .ask r next, s, w =>
    match (answer r).runIn w with
    | (.ok x, w) => r.granted x + (next x).grants answer s w
    | (.error _, _) => 0

/-! ### Asking -/

lemma asks_pure (a : α) : (pure a : Script σ α).Asks P := trivial

lemma asks_bind {x : Script σ α} {f : α → Script σ β} (hx : x.Asks P) (hf : ∀ a, (f a).Asks P) :
    (x >>= f).Asks P := by
  induction x with
  | done a => exact hf a
  | fail e => trivial
  | get next ih => exact fun s => ih s (hx s)
  | put t next ih => exact ih hx
  | ask r next ih => exact ⟨hx.1, fun a => ih a (hx.2 a)⟩

lemma asks_state : (state : Script σ σ).Asks P := fun _ => trivial

/-- What goes on from the state asks what it asks from any state. -/
lemma asks_state_bind {f : σ → Script σ α} (hf : ∀ s, (f s).Asks P) : (state >>= f).Asks P :=
  asks_bind asks_state hf

lemma asks_setState (s : σ) : (setState s).Asks P := trivial

lemma asks_change (f : σ → σ) : (change f).Asks P := fun _ => trivial

lemma asks_lift (r : Except Fault α) : (lift r : Script σ α).Asks P := by
  cases r <;> trivial

lemma asks_embed {x : Script σ α} (hx : x.Asks P) (into : σ → τ) (s : σ) :
    (x.embed into s).Asks P := by
  induction x generalizing s with
  | done a => trivial
  | fail e => trivial
  | get next ih => exact ih s (hx s) s
  | put t next ih => exact ih hx t
  | ask r next ih => exact ⟨hx.1, fun a => ih a (hx.2 a) s⟩

lemma asks_forEach {f : β → Script σ Unit} {bs : List β} (hf : ∀ b ∈ bs, (f b).Asks P) :
    (forEach f bs).Asks P := by
  induction bs with
  | nil => trivial
  | cons b rest ih =>
    exact asks_bind (hf b List.mem_cons_self) fun _ =>
      ih fun b hb => hf b (List.mem_cons_of_mem _ hb)

/-- A script that asks nothing leaves the world as it is. -/
lemma run_of_asks_nothing {x : Script σ α} (hx : x.Asks fun _ => False)
    (answer : (r : Request) → Act ω r.Reply) (s : σ) (w : ω) : (x.run answer s w).2.2 = w := by
  induction x generalizing s with
  | done a => rfl
  | fail e => rfl
  | get next ih => exact ih s (hx s) s
  | put t next ih => exact ih hx t
  | ask r next ih => exact hx.1.elim

/-! ### Putting -/

lemma puts_true (x : Script σ α) : x.Puts fun _ => True := by
  induction x with
  | done a => trivial
  | fail e => trivial
  | get next ih => exact ih
  | put t next ih => exact ⟨trivial, ih⟩
  | ask r next ih => exact ih

lemma puts_embed {Q : τ → Prop} {into : σ → τ} {x : Script σ α} {s : σ}
    (hinto : ∀ s, Q (into s)) : (x.embed into s).Puts Q := by
  induction x generalizing s with
  | done a => trivial
  | fail e => trivial
  | get next ih => exact ih s
  | put t next ih => exact ⟨hinto t, ih⟩
  | ask r next ih => exact fun a => ih a

/-- What is put and what was there before is all that can be there after a script. -/
lemma run_puts {Q : σ → Prop} {x : Script σ α} (hx : x.Puts Q)
    (answer : (r : Request) → Act ω r.Reply) {s : σ} (hs : Q s) (w : ω) :
    Q (x.run answer s w).2.1 := by
  induction x generalizing s w with
  | done a => exact hs
  | fail e => exact hs
  | get next ih => exact ih s (hx s) hs w
  | put t next ih => exact ih hx.2 hx.1 w
  | ask r next ih =>
    unfold run
    cases (answer r).runIn w with
    | mk result v =>
      cases result with
      | ok a => exact ih a (hx a) hs v
      | error e => exact hs

/-! ### Minding the state -/

section

variable {Q : σ → Prop}

lemma minds_pure (a : α) : (pure a : Script σ α).Minds Q P := trivial

lemma minds_bind {x : Script σ α} {f : α → Script σ β} (hx : x.Minds Q P)
    (hf : ∀ a, (f a).Minds Q P) : (x >>= f).Minds Q P := by
  induction x with
  | done a => exact hf a
  | fail e => trivial
  | get next ih => exact fun s hs => ih s (hx s hs)
  | put t next ih => exact ⟨hx.1, ih hx.2⟩
  | ask r next ih => exact ⟨hx.1, fun a => ih a (hx.2 a)⟩

lemma minds_map {x : Script σ α} (f : α → β) (hx : x.Minds Q P) : (f <$> x).Minds Q P :=
  minds_bind hx fun _ => trivial

lemma minds_state_bind {f : σ → Script σ α} (hf : ∀ s, Q s → (f s).Minds Q P) :
    (state >>= f).Minds Q P := hf

lemma minds_setState {s : σ} (hs : Q s) : (setState s : Script σ Unit).Minds Q P := ⟨hs, trivial⟩

lemma minds_change {f : σ → σ} (hf : ∀ s, Q s → Q (f s)) : (change f).Minds Q P :=
  fun s hs => ⟨hf s hs, trivial⟩

lemma minds_lift (r : Except Fault α) : (lift r : Script σ α).Minds Q P := by
  cases r <;> trivial

lemma minds_forEach {f : β → Script σ Unit} {bs : List β} (hf : ∀ b ∈ bs, (f b).Minds Q P) :
    (forEach f bs).Minds Q P := by
  induction bs with
  | nil => trivial
  | cons b rest ih =>
    exact minds_bind (hf b List.mem_cons_self) fun _ =>
      ih fun b hb => hf b (List.mem_cons_of_mem _ hb)

/-- A script that minds the part of a state minds the whole. -/
lemma minds_embed {R : τ → Prop} (into : σ → τ) (hinto : ∀ s, Q s → R (into s)) {x : Script σ α}
    (hx : x.Minds Q P) {s : σ} (hs : Q s) : (x.embed into s).Minds R P := by
  induction x generalizing s with
  | done a => trivial
  | fail e => trivial
  | get next ih => exact ih s (hx s hs) hs
  | put t next ih => exact ⟨hinto t hx.1, ih hx.2 hx.1⟩
  | ask r next ih => exact ⟨hx.1, fun a => ih a (hx.2 a) hs⟩

lemma minds_of_asks {x : Script σ α} (hasks : x.Asks P) (hputs : x.Puts Q) : x.Minds Q P := by
  induction x with
  | done a => trivial
  | fail e => trivial
  | get next ih => exact fun s _ => ih s (hasks s) (hputs s)
  | put t next ih => exact ⟨hputs.1, ih hasks hputs.2⟩
  | ask r next ih => exact ⟨hasks.1, fun a => ih a (hasks.2 a) (hputs a)⟩

/-- What holds of all states does not have to be minded. -/
lemma asks_of_minds (hQ : ∀ s, Q s) {x : Script σ α} (hx : x.Minds Q P) : x.Asks P := by
  induction x with
  | done a => trivial
  | fail e => trivial
  | get next ih => exact fun s => ih s (hx s (hQ s))
  | put t next ih => exact ih hx.2
  | ask r next ih => exact ⟨hx.1, fun a => ih a (hx.2 a)⟩

/-- What the answers to its requests keep is kept by a script, and so is what it minds. -/
lemma run_minds {I : ω → Prop} {answer : (r : Request) → Act ω r.Reply}
    (hanswer : ∀ r, P r → Act.Keeps I (answer r)) {x : Script σ α} (hx : x.Minds Q P) {s : σ}
    (hs : Q s) {w : ω} (hw : I w) :
    Q (x.run answer s w).2.1 ∧ I (x.run answer s w).2.2 := by
  induction x generalizing s w with
  | done a => exact ⟨hs, hw⟩
  | fail e => exact ⟨hs, hw⟩
  | get next ih => exact ih s (hx s hs) hs hw
  | put t next ih => exact ih hx.2 hx.1 hw
  | ask r next ih =>
    have hv := hanswer r hx.1 w hw
    unfold run
    cases hrun : (answer r).runIn w with
    | mk result v =>
      rw [hrun] at hv
      cases result with
      | ok a => exact ih a (hx.2 a) hs hv
      | error e => exact ⟨hs, hv⟩

/-- What the answers to the requests that it asks keep is kept by a script. -/
lemma run_keeps_of_asks {I : ω → Prop} {answer : (r : Request) → Act ω r.Reply}
    (hanswer : ∀ r, P r → Act.Keeps I (answer r)) {x : Script σ α} (hx : x.Asks P) (s : σ) {w : ω}
    (hw : I w) : I (x.run answer s w).2.2 :=
  (run_minds hanswer (minds_of_asks hx (puts_true x)) trivial hw).2

end

/-! ### Running -/

/-- A script that does not ask for hints is granted none. -/
lemma grants_eq_zero {x : Script σ α} (hx : x.Asks (· ≠ .spendHint))
    (answer : (r : Request) → Act ω r.Reply) (s : σ) (w : ω) : x.grants answer s w = 0 := by
  induction x generalizing s w with
  | done a => rfl
  | fail e => rfl
  | get next ih => exact ih s (hx s) s w
  | put t next ih => exact ih hx t w
  | ask r next ih =>
    unfold grants
    cases (answer r).runIn w with
    | mk result v =>
      cases result with
      | error e => rfl
      | ok a =>
        have hgranted : r.granted a = 0 := by
          cases r <;> first | rfl | exact absurd rfl hx.1
        show r.granted a + (next a).grants answer s v = 0
        rw [hgranted, ih a (hx.2 a) s v]

/-- What every answer keeps while it counts the hints that are granted, a script keeps. -/
lemma run_keeps_counting {J : Nat → ω → Prop} {answer : (r : Request) → Act ω r.Reply}
    (herror : ∀ r n w e v, J n w → (answer r).runIn w = (.error e, v) → J n v)
    (hok : ∀ r n w a v, J n w → (answer r).runIn w = (.ok a, v) → J (n + r.granted a) v)
    (x : Script σ α) (s : σ) (w : ω) (n : Nat) (hw : J n w) :
    J (n + x.grants answer s w) (x.run answer s w).2.2 := by
  induction x generalizing s w n with
  | done a => exact hw
  | fail e => exact hw
  | get next ih => exact ih s s w n hw
  | put t next ih => exact ih t w n hw
  | ask r next ih =>
    unfold grants run
    cases h : (answer r).runIn w with
    | mk result v =>
      cases result with
      | error e => exact herror r n w e v hw h
      | ok a =>
        have hv := ih a s v (n + r.granted a) (hok r n w a v hw h)
        rw [Nat.add_assoc] at hv
        exact hv

/-- What every answer keeps, a script keeps. -/
lemma run_keeps {I : ω → Prop} {answer : (r : Request) → Act ω r.Reply}
    (hanswer : ∀ r, Act.Keeps I (answer r)) (x : Script σ α) (s : σ) {w : ω} (hw : I w) :
    I (x.run answer s w).2.2 :=
  run_keeps_counting (J := fun _ => I)
    (fun r _ w _ _ hw h => by simpa [h] using hanswer r w hw)
    (fun r _ w _ _ hw h => by simpa [h] using hanswer r w hw) x s w 0 hw

/-- A mere request leaves the state of the section as it is. -/
lemma run_ask (answer : (r : Request) → Act ω r.Reply) (r : Request) (f : r.Reply → α) (s : σ)
    (w : ω) : (.ask r fun x => .done (f x) : Script σ α).run answer s w =
      (((answer r).runIn w).1.map f, s, ((answer r).runIn w).2) := by
  unfold run
  rcases (answer r).runIn w with ⟨_ | _, _⟩ <;> rfl

/-- A result that is put into another form does not change what a script does. -/
lemma run_map (answer : (r : Request) → Act ω r.Reply) (f : α → β) (x : Script σ α) (s : σ)
    (w : ω) : (f <$> x).run answer s w = ((x.run answer s w).1.map f, (x.run answer s w).2) := by
  show (x >>= fun a => pure (f a)).run answer s w = _
  rw [run_bind]
  rcases x.run answer s w with ⟨_ | _, _, _⟩ <;> rfl

lemma run_state_bind (answer : (r : Request) → Act ω r.Reply) (f : σ → Script σ α) (s : σ) (w : ω) :
    (state >>= f).run answer s w = (f s).run answer s w := rfl

lemma embed_state_bind (into : σ → τ) (f : σ → Script σ α) (s : σ) :
    (state >>= f).embed into s = (f s).embed into s := rfl

lemma run_lift_bind (answer : (r : Request) → Act ω r.Reply) {x : Except Fault α} {a : α}
    (h : x = .ok a) (f : α → Script σ β) (s : σ) (w : ω) :
    (lift x >>= f).run answer s w = (f a).run answer s w := by
  rw [h]
  rfl

end Script

end LearningGame.Play
