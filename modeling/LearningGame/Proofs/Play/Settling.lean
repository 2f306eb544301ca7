import LearningGame.Play.Session.Sections
import LearningGame.Proofs.Play.Bounded

/-!
# Sections that are begun for good

When there is something in a section to be played, and it is no story, then it is begun without any
other section being begun: what it asks for leads nowhere and comes to an end.
-/

namespace LearningGame.Play

open Content Schema Rules Act Script

/-- A request that leads to no other section. -/
def Request.Stays : Request → Prop
  | .complete | .navigate _ => False
  | _ => True

/-- Whatever it is answered, a script leads to no other section and comes to an end. -/
structure Script.Settles {σ α : Type} (x : Script σ α) : Prop where
  asks : x.Asks Request.Stays
  computes : x.Computes

namespace Script

variable {σ α β : Type}

lemma settles_pure (a : α) : (pure a : Script σ α).Settles := ⟨trivial, trivial⟩

lemma settles_bind {x : Script σ α} {f : α → Script σ β} (hx : x.Settles)
    (hf : ∀ a, (f a).Settles) : (x >>= f).Settles where
  asks := asks_bind hx.asks fun a => (hf a).asks
  computes := computes_bind hx.computes fun a => (hf a).computes

lemma settles_state_bind {f : σ → Script σ α} (hf : ∀ s, (f s).Settles) :
    (state >>= f).Settles where
  asks s := (hf s).asks
  computes s := (hf s).computes

lemma settles_setState (s : σ) : (setState s).Settles := ⟨trivial, trivial⟩

lemma settles_change (f : σ → σ) : (change f).Settles := ⟨fun _ => trivial, fun _ => trivial⟩

lemma settles_lift {r : Except Fault α} (hr : Bounded r) : (lift r : Script σ α).Settles :=
  ⟨asks_lift r, computes_lift hr⟩

lemma settles_embed {τ : Type} {x : Script σ α} (hx : x.Settles) (into : σ → τ) (s : σ) :
    (x.embed into s).Settles where
  asks := asks_embed hx.asks into s
  computes := computes_embed hx.computes into s

/-- What is done unless there is nothing to be played. -/
lemma settles_of_not_void {isVoid : Bool} (hvoid : isVoid = false) {void rest : Script σ α}
    (hrest : rest.Settles) : (if isVoid then void else rest).Settles := by
  rw [if_neg (Bool.eq_false_iff.1 hvoid)]
  exact hrest

/-- What is asked when it leads to no other section. -/
lemma settles_ask {r : Request} (hr : r.Stays) (f : r.Reply → α) :
    (Script.ask r fun x => .done (f x) : Script σ α).Settles :=
  ⟨⟨hr, fun _ => trivial⟩, fun _ => trivial⟩

end Script

/-! ### Sections of each kind -/

namespace Setting

variable {σ : Type} [Seated σ]

lemma settles_elapsed : (elapsed : Script σ Int).Settles := by
  refine settles_bind (settles_ask (by trivial) _) fun _ => settles_state_bind fun _ => ?_
  exact settles_bind (settles_lift (Bounded.toNearest _)) fun _ => settles_pure _

lemma settles_startClock : (startClock : Script σ Unit).Settles :=
  settles_bind (settles_ask (by trivial) _) fun _ => settles_change _

end Setting

variable (c : Setting)

/-- A question that is asked. -/
lemma QuizSitting.settles_ask : (ask c).Settles := by
  refine settles_bind (settles_change _) fun _ => settles_bind Setting.settles_startClock fun _ =>
    settles_state_bind fun s => ?_
  cases s.current? with
  | none => exact settles_pure _
  | some q =>
    dsimp only
    split_ifs
    · exact Script.settles_ask (by trivial) _
    · exact settles_pure _

namespace ExplorationSitting

lemma settles_reveal : reveal.Settles := by
  refine settles_state_bind fun s => ?_
  split_ifs
  · exact settles_bind (settles_setState _) fun _ => Script.settles_ask (by trivial) _
  · exact settles_pure _

/-- A location that is reached. -/
lemma settles_arrive (id : String) : (arrive id).Settles := by
  refine settles_bind (settles_change _) fun _ => settles_bind Setting.settles_startClock fun _ =>
    settles_state_bind fun s => ?_
  split_ifs
  · exact settles_pure _
  · refine settles_bind (settles_change _) fun _ => settles_state_bind fun s => ?_
    cases (s.locations.find? id).bind gift? with
    | none => exact settles_reveal
    | some item =>
      exact settles_bind (Script.settles_ask (by trivial) _) fun _ => settles_reveal

end ExplorationSitting

/-- A challenge, even if there is nothing in it. -/
lemma ChallengeSitting.settles_enter : (enter c).Settles := by
  refine settles_state_bind fun s => ?_
  split_ifs
  · refine settles_state_bind fun s => ?_
    split_ifs
    · exact settles_pure _
    · exact settles_bind (settles_ask (by trivial) _) fun _ =>
        settles_bind (settles_setState _) fun _ => settles_bind Setting.settles_elapsed fun _ =>
        settles_bind (settles_ask (by trivial) _) fun _ => settles_ask (by trivial) _
  · exact settles_ask (by trivial) _
  · exact settles_pure _

/-! ### Answers that come to an end -/

namespace Session

variable {activate : Act Session Unit} {index : Nat} {seat : Seat}

lemma ends_heard {α : Type} (operation : String) (refused : α) {x : Act Session α} (hx : Ends x) :
    Ends (heard seat operation refused x) := by
  refine ends_bind ends_get fun w => ?_
  split_ifs
  · exact hx
  · exact ends_bind (ends_modify _) fun _ => ends_pure _

lemma ends_cancel (name : String) : Ends (Table.cancel name : Act Session Unit) := by
  refine ends_bind ends_get fun w => ?_
  cases (Table.registryOf w).find? name with
  | none => exact ends_pure _
  | some c => exact ends_bind (ends_modify _) fun _ => ends_modify _

/-- A request that leads to no other section is answered. -/
lemma ends_reply {r : Request} (hr : r.Stays) : Ends (reply activate index seat r) := by
  cases r with
  | complete | navigate => exact hr.elim
  | report => exact ends_heard _ _ (ends_bind (ends_submitAnswer _) fun _ => ends_pure _)
  | spendHint =>
    refine ends_heard _ _ (ends_whilePlaying (ends_bind ends_get fun w => ?_))
    split_ifs
    · exact ends_pure _
    · exact ends_bind (ends_modify _) fun _ => ends_pure _
  | updateVariables => exact ends_heard _ _ (ends_whilePlaying (ends_modify _))
  | addItem => exact ends_heard _ _ (ends_whilePlaying (ends_modify _))
  | removeItem => exact ends_heard _ _ (ends_whilePlaying (ends_modify _))
  | look | now => exact ends_bind ends_get fun _ => ends_pure _
  | draw => exact ends_bind ends_get fun _ => ends_bind (ends_set _) fun _ => ends_pure _
  | arm => exact ends_bind (ends_modify _) fun _ => ends_modify _
  | cancel => exact ends_cancel _
  | note => exact ends_modify _

end Session

/-- A section that leads to no other one comes to an end of what it does. -/
lemma Script.Settles.bounded {σ α : Type} {x : Script σ α} (hx : x.Settles)
    (activate : Act Session Unit) (index : Nat) (seat : Seat) (s : σ) (w : Session) :
    Bounded (x.run (Session.reply activate index seat) s w).1 :=
  bounded_run (fun _ hr => Session.ends_reply hr) hx.asks hx.computes s w

end LearningGame.Play
