import LearningGame.Proofs.Play.Announcing.Basic

/-!
# Sections of each kind report their end

Beginning a section, every move in it and every countdown of it announce the end of the section if
they bring it about.
-/

namespace LearningGame.Play

open Content Rules Script Setting

variable (c : Setting)

namespace QuizSitting

lemma announcing_ask : (ask c).Announcing := fun s => by
  refine announces_bind (announces_change fun _ => rfl) fun _ s =>
    announces_bind (announcing_startClock s) fun _ s => announces_state_bind ?_
  cases s.current? with
  | none => exact announces_pure _
  | some q =>
    show Script.Announces _ (if _ then _ else _) s
    split_ifs
    · exact announces_ask _ _
    · exact announces_pure _

lemma announcing_enter : (enter c).Announcing := fun s => by
  refine announces_state_bind ?_
  split_ifs
  · exact announces_ask_bind fun _ => c.announcing_complete s
  · exact announcing_ask c s

lemma announcing_submit (answer : Value) : (submit c answer).Announcing := by
  refine c.announcing_unlessCompleted _ _ fun s => announces_state_bind ?_
  cases s.current? with
  | none => exact announces_pure _
  | some q =>
    show Script.Announces _ (if _ then _ else _) s
    split_ifs
    · exact announces_ask_bind fun _ => announces_pure _
    · exact announces_ask_bind fun _ => announces_bind (announcing_answer _ _ _ _ s) fun _ _ =>
        announces_bind (announces_change fun _ => rfl) fun _ _ => announces_pure _

lemma announcing_expire : (expire c).Announcing := fun s => by
  refine announces_state_bind ?_
  cases s.current? with
  | none => exact announces_lift _
  | some q =>
    exact announces_ask_bind fun _ => announces_bind (announcing_submit c _ s) fun _ _ =>
      announces_pure _

lemma announcing_next : (next c).Announcing := by
  refine c.announcing_unlessCompleted _ _ fun s => announces_state_bind ?_
  split_ifs
  · exact announcing_warn _ s
  · exact c.announcing_complete s
  · exact announces_setState_bind rfl (announcing_ask c _)

lemma announcing_useHint : useHint.Announcing := fun s => by
  refine announces_state_bind ?_
  cases s.current?.bind (·.hint) with
  | none => exact announces_pure _
  | some hint =>
    show Script.Announces _ (if _ then _ else _) s
    split_ifs
    · exact announces_pure _
    · refine announces_ask_bind fun granted => ?_
      split_ifs
      · exact announces_bind (announces_change fun _ => rfl) fun _ _ => announces_pure _
      · exact announces_pure _

end QuizSitting

namespace FlashcardSitting

lemma announcing_enter : (enter c).Announcing := fun s => by
  refine announces_state_bind ?_
  split_ifs
  · exact announces_ask_bind fun _ => c.announcing_complete s
  · exact announces_pure _

lemma announcing_flip : flip.Announcing := fun _ =>
  announces_state_bind (announces_setState_bind rfl (announces_pure _))

lemma announcing_resetCard : resetCard.Announcing := fun _ =>
  announces_bind (announces_change fun _ => rfl) fun _ s => announcing_startClock s

lemma announcing_advance : (advance c).Announcing := fun s => by
  refine announces_state_bind ?_
  split_ifs
  · exact c.announcing_complete s
  · exact announces_setState_bind rfl (announcing_resetCard _)
  · cases s.cards.findIdx? fun card => !s.isReviewed card.id with
    | none => exact announces_lift _
    | some i => exact announces_setState_bind rfl (announcing_resetCard _)

lemma announcing_review {α : Type} (action : String) (refused : α)
    {x : Flashcard → Script FlashcardSitting α} (hx : ∀ card, (x card).Announcing) :
    (review c action refused x).Announcing := by
  refine c.announcing_unlessCompleted _ _ fun s => announces_state_bind ?_
  cases s.current? with
  | none => exact announces_pure _
  | some card =>
    show Script.Announces _ (if _ then _ else _) s
    split_ifs
    · exact announces_ask_bind fun _ => announces_pure _
    · exact hx card s

lemma announcing_record (card : Flashcard) (answer : Value) (known : Bool) :
    (record c card answer known).Announcing := fun _ =>
  announces_bind (announces_change fun _ => rfl) fun _ s => announcing_answer _ _ _ _ s

lemma announcing_mark (known : Bool) : (mark c known).Announcing := fun s => by
  refine announces_state_bind ?_
  by_cases hmode : s.testMode = .typeAnswer
  · rw [if_pos hmode]
    exact announcing_warn _ s
  · rw [if_neg hmode]
    exact announcing_review c _ _ (fun card s =>
      announces_bind (announcing_record c card _ known s) fun _ s => announcing_advance c s) s

lemma announcing_grade (card : Flashcard) (text : String) : (grade c card text).Announcing :=
  fun s => announces_bind (announcing_record c card _ _ s) fun _ _ =>
    announces_bind (announces_change fun _ => rfl) fun _ _ => announces_pure _

lemma announcing_submit (answer : Value) : (submit c answer).Announcing := fun s => by
  refine announces_state_bind ?_
  split_ifs
  · exact announces_ask_bind fun _ => announces_pure _
  · exact announces_pure _
  · split
    · split_ifs
      · exact announces_pure _
      · exact announcing_review c _ _ (fun card => announcing_grade c card _) s
    · exact announces_lift _

lemma announcing_next : (next c).Announcing := by
  refine c.announcing_unlessCompleted _ _ fun s => announces_state_bind ?_
  cases s.current? with
  | none => exact announces_pure _
  | some card =>
    show Script.Announces _ (if _ then _ else _) s
    split_ifs
    · exact announcing_advance c s
    · exact announcing_warn _ s

lemma announcing_previous : (previous c).Announcing := by
  refine c.announcing_unlessCompleted _ _ fun s => announces_state_bind ?_
  split_ifs
  · exact announcing_warn _ s
  · exact announces_setState_bind rfl (announcing_resetCard _)
  · exact announces_pure _

lemma announcing_useHint : useHint.Announcing := fun s => by
  refine announces_state_bind ?_
  cases s.current?.bind (·.hint) with
  | none => exact announces_pure _
  | some hint =>
    show Script.Announces _ (if _ then _ else _) s
    split_ifs
    · exact announces_pure _
    · refine announces_ask_bind fun granted => ?_
      split_ifs
      · exact announces_bind (announces_change fun _ => rfl) fun _ _ => announces_pure _
      · exact announces_pure _

end FlashcardSitting

namespace MatchingSitting

lemma announcing_enter : (enter c).Announcing := fun s => by
  refine announces_state_bind ?_
  split_ifs
  · exact announces_ask_bind fun _ => c.announcing_complete s
  · show Script.Announces _ (if _ then _ else _) s
    split_ifs
    · exact announces_ask _ _
    · exact announces_pure _

lemma announcing_expire : (expire c).Announcing := fun _ =>
  announces_ask_bind fun _ => announces_bind (announces_change fun _ => rfl) fun _ s =>
    c.announcing_complete s

lemma announcing_found (id : String) : (found c id).Announcing := fun s => by
  refine announces_state_bind (announces_setState_bind rfl ?_)
  split_ifs
  · exact announces_ask_bind fun _ => c.announcing_complete _
  · exact announces_pure _

lemma announcing_attempt (left right : String) : (attempt c left right).Announcing := fun s => by
  refine announces_bind (announces_change fun _ => rfl) fun _ s =>
    announces_bind (announcing_answer _ _ _ _ s) fun _ s => ?_
  split_ifs
  · exact announcing_found c left s
  · exact announces_change fun _ => rfl

lemma announcing_resolve : (resolve c).Announcing := fun s => by
  refine announces_state_bind ?_
  split
  · exact announcing_attempt c _ _ s
  · exact announces_pure _

lemma announcing_select (column : Column) (id : String) : (select c column id).Announcing := by
  refine c.announcing_unlessCompleted _ _ fun s => announces_state_bind ?_
  split_ifs
  · exact announcing_warn _ s
  · exact announces_pure _
  · exact announces_setState_bind (by cases column <;> rfl) (announcing_resolve c _)

end MatchingSitting

namespace SortingSitting

lemma announcing_place (itemId categoryId : String) : (place c itemId categoryId).Announcing := by
  refine c.announcing_unlessCompleted _ _ fun s => announces_state_bind ?_
  split_ifs
  · exact announces_pure _
  · exact announces_setState_bind rfl (announces_pure _)
  · exact announces_ask_bind fun _ => announces_pure _

lemma announcing_remove (itemId : String) : (remove itemId).Announcing := fun s => by
  refine announces_state_bind ?_
  split_ifs
  · exact announces_pure _
  · exact announces_setState rfl

lemma announcing_grade : (grade c).Announcing := fun _ =>
  announces_state_bind (announces_setState_bind rfl (announces_lift_bind fun _ =>
    announces_bind (announcing_answer _ _ _ _ _) fun _ _ =>
      announces_bind (announces_change fun _ => rfl) fun _ _ => announces_pure _))

lemma announcing_submit : (submit c).Announcing := by
  refine c.announcing_unlessCompleted _ _ fun s => announces_state_bind ?_
  split_ifs
  · exact announces_ask_bind fun _ => announces_pure _
  · exact announcing_grade c s
  · exact announces_ask_bind fun _ => announces_pure _

lemma announcing_leave : (leave c).Announcing := fun s => by
  refine announces_state_bind ?_
  split_ifs
  · exact announcing_warn _ s
  · exact c.announcing_complete s

end SortingSitting

namespace NarrativeSitting

lemma announcing_act (scene : Scene) (a : SceneAction) (index : Nat) :
    (act c scene a index).Announcing := fun s => by
  unfold act
  split
  · exact announces_lift_bind fun _ => announces_ask _ _
  · exact announces_lift_bind fun _ => announces_ask _ _
  · exact announces_ask _ _
  · exact announces_ask _ _
  · exact announces_ask _ _
  · exact announcing_warn _ s

lemma announcing_enterScene (id : String) : (enterScene c id).Announcing := fun s => by
  refine announces_state_bind ?_
  cases s.scenes.find? id with
  | none => exact announces_ask_bind fun _ => c.announcing_complete s
  | some scene =>
    exact announces_setState_bind rfl (announces_bind (announcing_startClock _) fun _ _ =>
      announces_forEach (fun a s => announcing_act c scene a.1 a.2 s) _)

lemma announcing_enter : (enter c).Announcing := fun s =>
  announces_state_bind (announcing_enterScene c _ s)

lemma announcing_bringAbout (sceneId : String) (choice : Choice) (time : Int) (e : Effect) :
    (bringAbout sceneId choice time e).Announcing := fun s => by
  unfold bringAbout
  cases e.kind with
  | setVariable => exact announces_ask _ _
  | addScore => exact announces_lift_bind fun _ => announces_ask _ _
  | addItem => exact announces_ask _ _
  | removeItem => exact announces_ask _ _

lemma announcing_take (sceneId : String) (choice : Choice) : (take c sceneId choice).Announcing :=
  fun s => announces_bind (announcing_elapsed s) fun time _ =>
    announces_bind (announces_forEach (fun e s => announcing_bringAbout sceneId choice time e s) _)
      fun _ s => announcing_enterScene c _ s

lemma announcing_choose (id : String) : (choose c id).Announcing := by
  refine c.announcing_unlessCompleted _ _ fun s => announces_ask_bind fun _ =>
    announces_state_bind (announces_lift_bind fun choices => ?_)
  cases choices.find? (·.id == id) with
  | none => exact announces_ask_bind fun _ => announces_pure _
  | some choice => exact announces_bind (announcing_take c _ choice s) fun _ _ => announces_pure _

lemma announcing_finish (scene : Scene) : (finish c scene).Announcing := fun s =>
  announces_bind (announcing_answer _ _ _ _ s) fun _ s => c.announcing_complete s

lemma announcing_goOn : (goOn c).Announcing := by
  refine c.announcing_unlessCompleted _ _ fun s => announces_state_bind ?_
  cases s.current? with
  | none => exact announces_pure _
  | some scene =>
    show Script.Announces _ (if _ then _ else _) s
    split_ifs
    · exact announcing_finish c scene s
    · exact announcing_enterScene c _ s
    · exact announcing_warn _ s
    · exact announces_ask_bind fun _ => c.announcing_complete s

end NarrativeSitting

namespace SimulationSitting

lemma announcing_applyEffects (effects : Amounts) : (applyEffects effects).Announcing := by
  induction effects with
  | nil => exact fun _ => announces_pure _
  | cons e rest ih =>
    exact fun _ => announces_state_bind (announces_lift_bind fun _ =>
      announces_setState_bind rfl (ih _))

lemma announcing_pay (cost : Amounts) : (pay cost).Announcing := by
  induction cost with
  | nil => exact fun _ => announces_pure _
  | cons e rest ih =>
    exact fun _ => announces_state_bind (announces_lift_bind fun _ =>
      announces_setState_bind rfl (ih _))

lemma announcing_evaluate (o : Objective) : (evaluate o).Announcing := fun _ => by
  refine announces_bind (announces_change fun s => by split_ifs <;> rfl) fun _ s =>
    announces_state_bind ?_
  split_ifs
  · exact announces_setState_bind rfl (announces_ask _ _)
  · exact announces_pure _

lemma announcing_finish (won : Bool) : (finish c won).Announcing := fun _ =>
  announces_bind (announces_change fun _ => rfl) fun _ s => announces_state_bind
    (announces_bind (announcing_answer _ _ _ _ s) fun _ _ => announces_ask _ _)

lemma announcing_afterChange : (afterChange c).Announcing := fun s => by
  refine announces_state_bind (announces_bind
    (announces_forEach (fun o s => announcing_evaluate o s) _) fun _ s => announces_state_bind ?_)
  cases s.outcome? with
  | none => exact announces_pure _
  | some won => exact announcing_finish c won s

lemma announcing_unlessBlocked {α : Type} (action : String) (refused : α)
    {x : Script SimulationSitting α} (hx : x.Announcing) :
    (unlessBlocked c action refused x).Announcing := by
  refine c.announcing_unlessCompleted _ _ fun s => announces_state_bind ?_
  split_ifs
  · exact announces_ask_bind fun _ => announces_pure _
  · cases s.currentEvent with
    | none => exact hx s
    | some e => exact announces_ask_bind fun _ => announces_pure _

lemma announcing_carryOut (a : SimAction) : (carryOut c a).Announcing := fun s =>
  announces_bind (announcing_pay _ s) fun _ s => announces_bind (announcing_applyEffects _ s)
    fun _ _ => announces_bind (announces_change fun _ => rfl) fun _ s => announcing_afterChange c s

lemma announcing_perform (id : String) : (perform c id).Announcing := by
  refine announcing_unlessBlocked c _ _ fun s => announces_state_bind ?_
  cases (Catalogue.ofList SimAction.id s.content.actions).find? id with
  | none => exact announces_ask_bind fun _ => announces_pure _
  | some a =>
    show Script.Announces _ (if _ then _ else _) s
    split_ifs
    · exact announces_bind (announcing_carryOut c a s) fun _ _ => announces_pure _
    · exact announces_ask_bind fun _ => announces_pure _

lemma announcing_unlock (id : String) : (unlock id).Announcing := fun _ =>
  announces_change fun _ => rfl

lemma announcing_nextTurn : (nextTurn c).Announcing := fun _ =>
  announces_bind (announces_change fun _ => rfl) fun _ s =>
    announces_state_bind (announces_ask_bind fun _ => announcing_afterChange c s)

lemma announcing_raise (events : List SimEvent) : (raise events).Announcing := fun _ => by
  refine announces_bind (announces_ask_bind fun x => ?_) fun e _ =>
    announces_bind (announces_change fun _ => rfl) fun _ _ =>
      announces_state_bind (announces_ask_bind fun _ => announces_pure _)
  split <;> trivial

lemma announcing_endTurn : (endTurn c).Announcing := by
  refine announcing_unlessBlocked c _ _ fun s => announces_bind (announces_change fun _ => rfl)
    fun _ s => announces_state_bind (announces_bind (announces_filter (fun _ _ =>
      announces_ask_bind fun _ => announces_pure _) _) fun events s => ?_)
  split_ifs
  · exact announces_bind (announcing_nextTurn c s) fun _ _ => announces_pure _
  · exact announcing_raise events s

lemma announcing_resolveEvent (choice : Option Int) : (resolveEvent c choice).Announcing :=
  fun s => by
    refine announces_state_bind ?_
    split
    · exact announcing_warn _ s
    · exact announces_bind (announcing_applyEffects _ s) fun _ _ =>
        announces_bind (announces_change fun _ => rfl) fun _ s => announcing_nextTurn c s

lemma announcing_leave : (leave c).Announcing := fun s => by
  refine announces_state_bind ?_
  split_ifs
  · exact c.announcing_complete s
  · exact announcing_warn _ s

end SimulationSitting

namespace ExplorationSitting

lemma announcing_reveal : reveal.Announcing := fun s => by
  refine announces_state_bind ?_
  split_ifs
  · exact announces_setState_bind rfl (announces_ask _ _)
  · exact announces_pure _

lemma announcing_discover (id : String) : (discover id).Announcing := fun _ => by
  refine announces_bind (announces_change fun _ => rfl) fun _ s => announces_state_bind ?_
  cases (s.locations.find? id).bind gift? with
  | none => exact announcing_reveal s
  | some item => exact announces_ask_bind fun _ => announcing_reveal s

lemma announcing_arrive (id : String) : (arrive id).Announcing := fun _ => by
  refine announces_bind (announces_change fun _ => rfl) fun _ s =>
    announces_bind (announcing_startClock s) fun _ s => announces_state_bind ?_
  split_ifs
  · exact announces_pure _
  · exact announcing_discover id s

lemma announcing_enter : (enter c).Announcing := fun s => by
  refine announces_state_bind ?_
  split_ifs
  · exact announcing_arrive _ s
  · exact announces_setState_bind rfl (announcing_arrive _ _)
  · exact announces_ask_bind fun _ => c.announcing_complete s

lemma announcing_visit (id : String) : (visit c id).Announcing := by
  refine c.announcing_unlessCompleted _ _ fun s => announces_state_bind ?_
  split_ifs
  · exact announces_bind (announcing_arrive id s) fun _ _ => announces_pure _
  · exact announces_ask_bind fun _ => announces_pure _

lemma announcing_pickUp (id : String) (thing : Collectible) : (pickUp c id thing).Announcing :=
  fun _ => by
    refine announces_bind (announces_change fun _ => rfl) fun _ s => announces_ask_bind fun _ =>
      announces_bind (announcing_answer _ _ _ _ s) fun _ s => announces_state_bind ?_
    split_ifs
    · exact c.announcing_complete s
    · exact announces_pure _

lemma announcing_collect (id : String) : (collect c id).Announcing := by
  refine c.announcing_unlessCompleted _ _ fun s => announces_state_bind ?_
  split
  · exact announces_bind (announcing_pickUp c id _ s) fun _ _ => announces_pure _
  · exact announces_ask_bind fun _ => announces_pure _

lemma announcing_finish : (finish c).Announcing :=
  c.announcing_unlessCompleted _ _ c.announcing_complete

end ExplorationSitting

namespace ChallengeSitting

lemma announcing_finish (reason : String) : (finish c reason).Announcing := fun s => by
  refine announces_state_bind ?_
  split_ifs
  · exact announces_pure _
  · exact announces_ask_bind fun _ => announces_setState_bind rfl
      (announces_bind (announcing_elapsed _) fun _ _ => announces_ask_bind fun _ =>
        announces_ask _ _)

lemma announcing_enter : (enter c).Announcing := fun s => by
  refine announces_state_bind ?_
  split_ifs
  · exact announcing_finish c _ s
  · exact announces_ask _ _
  · exact announces_pure _

lemma announcing_tick (remaining : Int) : (tick remaining).Announcing := fun _ =>
  announces_change fun _ => rfl

lemma announcing_credit (item : ChallengeItem) (correct : Bool) :
    (credit item correct).Announcing := fun _ => by
  refine announces_state_bind ?_
  split_ifs
  · exact announces_lift_bind fun _ => announces_setState rfl
  · exact announces_setState rfl

lemma announcing_advance : (advance c).Announcing := fun s => by
  refine announces_state_bind ?_
  split_ifs
  · exact announcing_finish c _ s
  · exact announcing_finish c _ s
  · exact announces_setState rfl

lemma announcing_grade (answer : Value) : (grade c answer).Announcing := fun s => by
  refine announces_state_bind ?_
  cases s.current? with
  | none => exact announces_lift _
  | some item =>
    dsimp only
    generalize sameAnswer answer.text item.answer.toValue.text = correct
    exact announces_bind (announcing_credit item correct s) fun _ s =>
      announces_bind (announcing_advance c s) fun _ _ => announces_pure _

lemma announcing_answer (value : Value) : (answer c value).Announcing := by
  refine c.announcing_unlessCompleted _ _ fun s => announces_state_bind ?_
  split_ifs
  · exact announces_pure _
  · exact announcing_grade c value s

lemma announcing_leave : (leave c).Announcing := fun s => by
  refine announces_state_bind ?_
  split_ifs
  · exact c.announcing_complete s
  · exact announcing_warn _ s

end ChallengeSitting

namespace ReadingSitting

lemma announcing_leave : (leave c).Announcing :=
  c.announcing_unlessCompleted _ _ fun s =>
    announces_bind (announcing_answer _ _ _ _ s) fun _ s => c.announcing_complete s

end ReadingSitting

/-! ### Players -/

namespace Player

/-- Beginning a section announces. -/
lemma announces_enter (p : Player) : (p.enter c).Announces completed p := by
  cases p with
  | quiz s => exact announces_embed (fun _ => rfl) (QuizSitting.announcing_enter c s)
  | flashcards s => exact announces_embed (fun _ => rfl) (FlashcardSitting.announcing_enter c s)
  | matching s => exact announces_embed (fun _ => rfl) (MatchingSitting.announcing_enter c s)
  | narrative s => exact announces_embed (fun _ => rfl) (NarrativeSitting.announcing_enter c s)
  | exploration s => exact announces_embed (fun _ => rfl) (ExplorationSitting.announcing_enter c s)
  | challenge s => exact announces_embed (fun _ => rfl) (ChallengeSitting.announcing_enter c s)
  | sorting s => exact announces_pure _
  | simulation s => exact announces_pure _
  | reading content s => exact announces_pure _

/-- A second of a countdown that goes by announces. -/
lemma announces_tick (alarm : Alarm) (remaining : Int) (p : Player) :
    (p.tick alarm remaining).Announces completed p := by
  unfold tick
  split
  · split_ifs
    · exact announces_embed (fun _ => rfl) (ChallengeSitting.announcing_tick _ _)
    · exact announces_pure _
  · exact announces_pure _

/-- A countdown that runs out announces. -/
lemma announces_expire (alarm : Alarm) (p : Player) :
    (p.expire c alarm).Announces completed p := by
  unfold expire
  split
  · split_ifs
    · exact announces_embed (fun _ => rfl) (QuizSitting.announcing_expire c _)
    · exact announces_pure _
  · split_ifs
    · exact announces_embed (fun _ => rfl) (MatchingSitting.announcing_expire c _)
    · exact announces_pure _
  · split_ifs
    · exact announces_embed (fun _ => rfl) (ChallengeSitting.announcing_finish c _ _)
    · exact announces_pure _
  · exact announces_pure _

/-! ### Moves -/

lemma announcing_inQuiz {m : Move} {x : Script QuizSitting Value} (h : inQuiz c m = some x) :
    x.Announcing := by
  intro s
  unfold inQuiz at h
  split at h <;> cases h
  · exact announces_map _ (QuizSitting.announcing_submit c _ s)
  · exact announces_map _ (QuizSitting.announcing_next c s)
  · exact announces_map _ (QuizSitting.announcing_useHint s)

lemma announcing_inFlashcards {m : Move} {x : Script FlashcardSitting Value}
    (h : inFlashcards c m = some x) : x.Announcing := by
  intro s
  unfold inFlashcards at h
  split at h <;> cases h
  · exact announces_map _ (FlashcardSitting.announcing_flip s)
  · exact announces_map _ (FlashcardSitting.announcing_mark c _ s)
  · exact announces_map _ (FlashcardSitting.announcing_submit c _ s)
  · exact announces_map _ (FlashcardSitting.announcing_next c s)
  · exact announces_map _ (FlashcardSitting.announcing_previous c s)
  · exact announces_map _ (FlashcardSitting.announcing_useHint s)

lemma announcing_inMatching {m : Move} {x : Script MatchingSitting Value}
    (h : inMatching c m = some x) : x.Announcing := by
  intro s
  unfold inMatching at h
  split at h <;> cases h
  exact announces_map _ (MatchingSitting.announcing_select c _ _ s)

lemma announcing_inSorting {m : Move} {x : Script SortingSitting Value}
    (h : inSorting c m = some x) : x.Announcing := by
  intro s
  unfold inSorting at h
  split at h <;> cases h
  · exact announces_map _ (SortingSitting.announcing_place c _ _ s)
  · exact announces_map _ (SortingSitting.announcing_remove _ s)
  · exact announces_map _ (SortingSitting.announcing_submit c s)
  · exact announces_map _ (SortingSitting.announcing_leave c s)

lemma announcing_inNarrative {m : Move} {x : Script NarrativeSitting Value}
    (h : inNarrative c m = some x) : x.Announcing := by
  intro s
  unfold inNarrative at h
  split at h <;> cases h
  · exact announces_map _ (announces_change fun _ => rfl)
  · exact announces_map _ (NarrativeSitting.announcing_choose c _ s)
  · exact announces_map _ (NarrativeSitting.announcing_goOn c s)

lemma announcing_inSimulation {m : Move} {x : Script SimulationSitting Value}
    (h : inSimulation c m = some x) : x.Announcing := by
  intro s
  unfold inSimulation at h
  split at h <;> cases h
  · exact announces_map _ (SimulationSitting.announcing_perform c _ s)
  · exact announces_map _ (SimulationSitting.announcing_unlock _ s)
  · exact announces_map _ (SimulationSitting.announcing_endTurn c s)
  · exact announces_map _ (SimulationSitting.announcing_resolveEvent c _ s)
  · exact announces_map _ (SimulationSitting.announcing_leave c s)

lemma announcing_inExploration {m : Move} {x : Script ExplorationSitting Value}
    (h : inExploration c m = some x) : x.Announcing := by
  intro s
  unfold inExploration at h
  split at h <;> cases h
  · exact announces_map _ (ExplorationSitting.announcing_visit c _ s)
  · exact announces_map _ (ExplorationSitting.announcing_collect c _ s)
  · exact announces_map _ (ExplorationSitting.announcing_finish c s)

lemma announcing_inChallenge {m : Move} {x : Script ChallengeSitting Value}
    (h : inChallenge c m = some x) : x.Announcing := by
  intro s
  unfold inChallenge at h
  split at h <;> cases h
  · exact announces_map _ (ChallengeSitting.announcing_answer c _ s)
  · exact announces_map _ (ChallengeSitting.announcing_leave c s)

lemma announcing_inReading {m : Move} {x : Script ReadingSitting Value}
    (h : inReading c m = some x) : x.Announcing := by
  intro s
  unfold inReading at h
  split at h <;> cases h
  · exact announces_map _ (announces_change fun _ => rfl)
  · exact announces_map _ (ReadingSitting.announcing_leave c s)

/-- A move announces. -/
lemma announces_act? {m : Move} {p : Player} {x : Script Player Value} (h : p.act? c m = some x) :
    x.Announces completed p := by
  cases p with
  | quiz s =>
    exact announces_of_map_embed quiz (fun _ => rfl) (fun _ hx => announcing_inQuiz c hx s) h
  | flashcards s =>
    exact announces_of_map_embed flashcards (fun _ => rfl)
      (fun _ hx => announcing_inFlashcards c hx s) h
  | matching s =>
    exact announces_of_map_embed matching (fun _ => rfl)
      (fun _ hx => announcing_inMatching c hx s) h
  | sorting s =>
    exact announces_of_map_embed sorting (fun _ => rfl) (fun _ hx => announcing_inSorting c hx s) h
  | narrative s =>
    exact announces_of_map_embed narrative (fun _ => rfl)
      (fun _ hx => announcing_inNarrative c hx s) h
  | simulation s =>
    exact announces_of_map_embed simulation (fun _ => rfl)
      (fun _ hx => announcing_inSimulation c hx s) h
  | exploration s =>
    exact announces_of_map_embed exploration (fun _ => rfl)
      (fun _ hx => announcing_inExploration c hx s) h
  | challenge s =>
    exact announces_of_map_embed challenge (fun _ => rfl)
      (fun _ hx => announcing_inChallenge c hx s) h
  | reading content s =>
    exact announces_of_map_embed (reading content) (fun _ => rfl)
      (fun _ hx => announcing_inReading c hx s) h

/-! ### Orderly scripts -/

/-- What the scripts of all players have in common: they announce the end of the section, which
remains one of its kind. -/
structure Orderly {α : Type} (x : Script Player α) (p : Player) : Prop where
  announces : x.Announces completed p
  puts : x.Puts fun q => q.kind = p.kind

lemma orderly_enter (p : Player) : Orderly (p.enter c) p where
  announces := announces_enter c p
  puts := by
    cases p with
    | quiz | flashcards | matching | narrative | exploration | challenge =>
      exact puts_embed fun _ => rfl
    | sorting | simulation | reading => trivial

lemma orderly_tick (alarm : Alarm) (remaining : Int) (p : Player) :
    Orderly (p.tick alarm remaining) p where
  announces := announces_tick alarm remaining p
  puts := by
    unfold tick
    split
    · split_ifs
      · exact puts_embed fun _ => rfl
      · trivial
    · trivial

lemma orderly_expire (alarm : Alarm) (p : Player) : Orderly (p.expire c alarm) p where
  announces := announces_expire c alarm p
  puts := by
    unfold expire
    split
    · split_ifs
      · exact puts_embed fun _ => rfl
      · trivial
    · split_ifs
      · exact puts_embed fun _ => rfl
      · trivial
    · split_ifs
      · exact puts_embed fun _ => rfl
      · trivial
    · trivial

lemma orderly_act? {m : Move} {p : Player} {x : Script Player Value} (h : p.act? c m = some x) :
    Orderly x p where
  announces := announces_act? c h
  puts := by
    cases p <;>
      · obtain ⟨y, -, rfl⟩ := Option.map_eq_some_iff.1 h
        exact puts_embed fun _ => rfl

end Player

end LearningGame.Play
