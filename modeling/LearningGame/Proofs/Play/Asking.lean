import LearningGame.Play.Player
import LearningGame.Proofs.Play.Script

/-!
# What sections ask

Most requests are made in sections of every kind. Hints are asked for in quizzes and with flashcards
only; quizzes, matching games and challenges arm and take out countdowns; and a variable whose name
is not a text can be set by the action of a scene only. So for a sort of requests it is enough to
know which of these it takes in.
-/

namespace LearningGame

/-- An action of a scene sets a variable of this name. What is not a number is a name of its own at
every place. -/
def Content.SceneAction.Sets (a : SceneAction) (k : Key) : Prop :=
  a.kind = "set-variable" ∧ ∃ name place,
    ((a.payload.lookup "variable").getD .null).toKey? = some name ∧ k = name.givenAt place

namespace Play

open Content Schema Rules Script Setting

/-! ### Sorts of requests -/

/-- A sort of requests takes in a request. -/
class Request.TakesIn (P : Request → Prop) (r : Request) : Prop where
  holds : P r

/-- A sort of requests that takes in all that are made in sections of every kind, and to set
variables that are named by texts. -/
class Request.Everyday (P : Request → Prop) : Prop where
  report : ∀ id answer isCorrect points time, P (.report id answer isCorrect points time)
  complete : P .complete
  navigate : ∀ id, P (.navigate id)
  addItem : ∀ item, P (.addItem item)
  removeItem : ∀ item, P (.removeItem item)
  look : P .look
  draw : P .draw
  now : P .now
  note : ∀ level message, P (.note level message)
  assign : ∀ patch : List (String × Value),
    P (.updateVariables (patch.map fun e => ((e.1 : Key), e.2)))

/-- A sort of requests that takes in to set and take out countdowns. -/
class Request.Timed (P : Request → Prop) : Prop where
  arm : ∀ alarm seconds, P (.arm alarm seconds)
  cancel : ∀ alarm, P (.cancel alarm)

section

variable {P : Request → Prop} (id : String) (answer : Value) (isCorrect : Bool) (points time : Int)
  (alarm : Alarm) (level : Log.Level)

open Request

instance [h : Everyday P] : TakesIn P (.report id answer isCorrect points time) := ⟨h.report ..⟩
instance [h : Everyday P] : TakesIn P .complete := ⟨h.complete⟩
instance [h : Everyday P] : TakesIn P (.navigate id) := ⟨h.navigate id⟩
instance [h : Everyday P] : TakesIn P (.addItem id) := ⟨h.addItem id⟩
instance [h : Everyday P] : TakesIn P (.removeItem id) := ⟨h.removeItem id⟩
instance [h : Everyday P] : TakesIn P .look := ⟨h.look⟩
instance [h : Everyday P] : TakesIn P .draw := ⟨h.draw⟩
instance [h : Everyday P] : TakesIn P .now := ⟨h.now⟩
instance [h : Everyday P] : TakesIn P (.note level id) := ⟨h.note level id⟩
instance [h : Everyday P] : TakesIn P (.updateVariables [(id, answer)]) := ⟨h.assign [(id, answer)]⟩
instance [h : Timed P] : TakesIn P (.arm alarm time) := ⟨h.arm alarm time⟩
instance [h : Timed P] : TakesIn P (.cancel alarm) := ⟨h.cancel alarm⟩

end

variable {σ α β : Type} {P : Request → Prop} {Q : σ → Prop}

namespace Script

lemma minds_request {r : Request} [hr : r.TakesIn P] (f : r.Reply → α) :
    (ask r fun x => .done (f x) : Script σ α).Minds Q P :=
  ⟨hr.holds, fun _ => trivial⟩

lemma minds_request_bind {r : Request} [r.TakesIn P] {f : r.Reply → α} {g : α → Script σ β}
    (hg : ∀ a, (g a).Minds Q P) : ((ask r fun x => .done (f x)) >>= g).Minds Q P :=
  minds_bind (minds_request f) hg

lemma asks_request {r : Request} [hr : r.TakesIn P] (f : r.Reply → α) :
    (ask r fun x => .done (f x) : Script σ α).Asks P :=
  ⟨hr.holds, fun _ => trivial⟩

lemma asks_request_bind {r : Request} [r.TakesIn P] {f : r.Reply → α} {g : α → Script σ β}
    (hg : ∀ a, (g a).Asks P) : ((ask r fun x => .done (f x)) >>= g).Asks P :=
  asks_bind (asks_request f) hg

lemma asks_warn [Request.Everyday P] (message : String) : (warn message : Script σ Unit).Asks P :=
  asks_request _

lemma asks_map (f : α → β) {x : Script σ α} (hx : x.Asks P) : (f <$> x).Asks P :=
  asks_bind hx fun _ => trivial

lemma asks_filter {p : β → Script σ Bool} (hp : ∀ b, (p b).Asks P) (bs : List β) :
    (filter p bs).Asks P := by
  induction bs with
  | nil => trivial
  | cons b rest ih => exact asks_bind (hp b) fun _ => asks_bind ih fun _ => asks_pure _

end Script

variable [Request.Everyday P]

/-! ### What all sections do -/

namespace Setting

variable [Seated σ] (c : Setting)

section

variable (hseat : ∀ s t, Q s → Q (Seated.seat s t))

lemma minds_elapsed : (elapsed : Script σ Int).Minds Q P :=
  minds_request_bind fun _ => minds_state_bind fun _ _ => minds_bind (minds_lift _) fun _ =>
    minds_pure _

lemma minds_answer (itemId : String) (given : Value) (isCorrect : Bool) (points : Int) :
    (answer itemId given isCorrect points : Script σ Unit).Minds Q P :=
  minds_bind minds_elapsed fun _ => minds_request _

lemma minds_unlessCompleted (action : String) (refused : α) {x : Script σ α} (hx : x.Minds Q P) :
    (c.unlessCompleted action refused x).Minds Q P := by
  refine minds_state_bind fun s _ => ?_
  split_ifs
  · exact minds_request_bind fun _ => minds_pure _
  · exact hx

include hseat

lemma minds_startClock : (startClock : Script σ Unit).Minds Q P :=
  minds_request_bind fun _ => minds_change fun s hs => hseat s _ hs

lemma minds_complete : (c.complete : Script σ Unit).Minds Q P := by
  refine minds_state_bind fun s hs => ?_
  split_ifs
  · exact minds_request _
  · exact minds_bind (minds_setState (hseat s _ hs)) fun _ => minds_request _

end

lemma asks_elapsed : (elapsed : Script σ Int).Asks P :=
  asks_of_minds (Q := fun _ => True) (fun _ => trivial) minds_elapsed

lemma asks_startClock : (startClock : Script σ Unit).Asks P :=
  asks_of_minds (fun _ => trivial) (minds_startClock fun _ _ _ => trivial)

lemma asks_answer (itemId : String) (given : Value) (isCorrect : Bool) (points : Int) :
    (answer itemId given isCorrect points : Script σ Unit).Asks P :=
  asks_of_minds (Q := fun _ => True) (fun _ => trivial) (minds_answer ..)

lemma asks_complete : (c.complete : Script σ Unit).Asks P :=
  asks_of_minds (fun _ => trivial) (c.minds_complete fun _ _ _ => trivial)

lemma asks_unlessCompleted (action : String) (refused : α) {x : Script σ α}
    (hx : x.Asks P) : (c.unlessCompleted action refused x).Asks P := by
  refine asks_state_bind fun s => ?_
  split_ifs
  · exact asks_request_bind fun _ => asks_pure _
  · exact hx

end Setting

variable (c : Setting)

/-! ### Quizzes -/

namespace QuizSitting

section

variable [Request.Timed P]

lemma asks_ask : (ask c).Asks P := by
  refine asks_bind (asks_change _) fun _ => asks_bind asks_startClock fun _ =>
    asks_state_bind fun s => ?_
  cases s.current? with
  | none => exact asks_pure _
  | some q =>
    show Script.Asks _ (if _ then _ else _)
    split_ifs
    · exact asks_request _
    · exact asks_pure _

lemma asks_enter : (enter c).Asks P := by
  refine asks_state_bind fun s => ?_
  split_ifs
  · exact asks_bind (asks_warn _) fun _ => c.asks_complete
  · exact asks_ask c

lemma asks_grade (q : QuizQuestion) (given : Value) : (grade c q given).Asks P :=
  asks_request_bind fun _ => asks_bind (asks_answer _ _ _ _) fun _ => asks_bind (asks_change _)
    fun _ => asks_pure _

lemma asks_submit (given : Value) : (submit c given).Asks P := by
  refine c.asks_unlessCompleted _ _ (asks_state_bind fun s => ?_)
  cases s.current? with
  | none => exact asks_pure _
  | some q =>
    show Script.Asks _ (if _ then _ else _)
    split_ifs
    · exact asks_request_bind fun _ => asks_pure _
    · exact asks_grade c q given

lemma asks_expire : (expire c).Asks P := by
  refine asks_state_bind fun s => ?_
  cases s.current? with
  | none => exact asks_lift _
  | some q =>
    exact asks_request_bind fun _ => asks_bind (asks_submit c _) fun _ => asks_pure _

lemma asks_next : (next c).Asks P := by
  refine c.asks_unlessCompleted _ _ (asks_state_bind fun s => ?_)
  split_ifs
  · exact asks_warn _
  · exact c.asks_complete
  · exact asks_bind (asks_setState _) fun _ => asks_ask c

end

omit [Request.Everyday P] in
lemma asks_useHint (hhint : P .spendHint) : useHint.Asks P := by
  have : Request.TakesIn P .spendHint := ⟨hhint⟩
  refine asks_state_bind fun s => ?_
  cases s.current?.bind (·.hint) with
  | none => exact asks_pure _
  | some hint =>
    show Script.Asks _ (if _ then _ else _)
    split_ifs
    · exact asks_pure _
    · refine asks_request_bind fun granted => ?_
      split_ifs
      · exact asks_bind (asks_change _) fun _ => asks_pure _
      · exact asks_pure _

end QuizSitting

/-! ### Flashcards -/

namespace FlashcardSitting

lemma asks_enter : (enter c).Asks P := by
  refine asks_state_bind fun s => ?_
  split_ifs
  · exact asks_bind (asks_warn _) fun _ => c.asks_complete
  · exact asks_pure _

lemma asks_resetCard : resetCard.Asks P :=
  asks_bind (asks_change _) fun _ => asks_startClock

lemma asks_advance : (advance c).Asks P := by
  refine asks_state_bind fun s => ?_
  split_ifs
  · exact c.asks_complete
  · exact asks_bind (asks_setState _) fun _ => asks_resetCard
  · cases s.cards.findIdx? fun card => !s.isReviewed card.id with
    | none => exact asks_lift _
    | some i => exact asks_bind (asks_setState _) fun _ => asks_resetCard

lemma asks_review (action : String) (refused : α) {x : Flashcard → Script FlashcardSitting α}
    (hx : ∀ card, (x card).Asks P) : (review c action refused x).Asks P := by
  refine c.asks_unlessCompleted _ _ (asks_state_bind fun s => ?_)
  cases s.current? with
  | none => exact asks_pure _
  | some card =>
    show Script.Asks _ (if _ then _ else _)
    split_ifs
    · exact asks_request_bind fun _ => asks_pure _
    · exact hx card

lemma asks_record (card : Flashcard) (given : Value) (known : Bool) :
    (record c card given known).Asks P :=
  asks_bind (asks_change _) fun _ => asks_answer _ _ _ _

lemma asks_mark (known : Bool) : (mark c known).Asks P := by
  refine asks_state_bind fun s => ?_
  by_cases hmode : s.testMode = .typeAnswer
  · rw [if_pos hmode]
    exact asks_warn _
  · rw [if_neg hmode]
    exact asks_review c _ _ fun card =>
      asks_bind (asks_record c card _ known) fun _ => asks_advance c

lemma asks_submit (given : Value) : (submit c given).Asks P := by
  refine asks_state_bind fun s => ?_
  split_ifs
  · exact asks_request_bind fun _ => asks_pure _
  · exact asks_pure _
  · split
    · split_ifs
      · exact asks_pure _
      · exact asks_review c _ _ fun card => asks_bind (asks_record c card _ _) fun _ =>
          asks_bind (asks_change _) fun _ => asks_pure _
    · exact asks_lift _

lemma asks_next : (next c).Asks P := by
  refine c.asks_unlessCompleted _ _ (asks_state_bind fun s => ?_)
  cases s.current? with
  | none => exact asks_pure _
  | some card =>
    show Script.Asks _ (if _ then _ else _)
    split_ifs
    · exact asks_advance c
    · exact asks_warn _

lemma asks_previous : (previous c).Asks P := by
  refine c.asks_unlessCompleted _ _ (asks_state_bind fun s => ?_)
  split_ifs
  · exact asks_warn _
  · exact asks_bind (asks_setState _) fun _ => asks_resetCard
  · exact asks_pure _

omit [Request.Everyday P] in
lemma asks_useHint (hhint : P .spendHint) : useHint.Asks P := by
  have : Request.TakesIn P .spendHint := ⟨hhint⟩
  refine asks_state_bind fun s => ?_
  cases s.current?.bind (·.hint) with
  | none => exact asks_pure _
  | some hint =>
    show Script.Asks _ (if _ then _ else _)
    split_ifs
    · exact asks_pure _
    · refine asks_request_bind fun granted => ?_
      split_ifs
      · exact asks_bind (asks_change _) fun _ => asks_pure _
      · exact asks_pure _

end FlashcardSitting

/-! ### Matching games -/

namespace MatchingSitting

variable [Request.Timed P]

lemma asks_enter : (enter c).Asks P := by
  refine asks_state_bind fun s => ?_
  split_ifs
  · exact asks_bind (asks_warn _) fun _ => c.asks_complete
  · show Script.Asks _ (if _ then _ else _)
    split_ifs
    · exact asks_request _
    · exact asks_pure _

omit [Request.Timed P] in
lemma asks_expire : (expire c).Asks P :=
  asks_request_bind fun _ => asks_bind (asks_change _) fun _ => c.asks_complete

lemma asks_found (id : String) : (found c id).Asks P := by
  refine asks_state_bind fun s => asks_bind (asks_setState _) fun _ => ?_
  split_ifs
  · exact asks_request_bind fun _ => c.asks_complete
  · exact asks_pure _

lemma asks_attempt (left right : String) : (attempt c left right).Asks P := by
  refine asks_bind (asks_change _) fun _ => asks_bind (asks_answer _ _ _ _) fun _ => ?_
  split_ifs
  · exact asks_found c left
  · exact asks_change _

lemma asks_resolve : (resolve c).Asks P := by
  refine asks_state_bind fun s => ?_
  split
  · exact asks_attempt c _ _
  · exact asks_pure _

lemma asks_select (column : Column) (id : String) : (select c column id).Asks P := by
  refine c.asks_unlessCompleted _ _ (asks_state_bind fun s => ?_)
  split_ifs
  · exact asks_warn _
  · exact asks_pure _
  · exact asks_bind (asks_setState _) fun _ => asks_resolve c

end MatchingSitting

/-! ### Sorting games -/

namespace SortingSitting

lemma asks_place (itemId categoryId : String) : (place c itemId categoryId).Asks P := by
  refine c.asks_unlessCompleted _ _ (asks_state_bind fun s => ?_)
  split_ifs
  · exact asks_pure _
  · exact asks_bind (asks_setState _) fun _ => asks_pure _
  · exact asks_request_bind fun _ => asks_pure _

omit [Request.Everyday P] in
lemma asks_remove (itemId : String) : (remove itemId).Asks P := by
  refine asks_state_bind fun s => ?_
  split_ifs
  · exact asks_pure _
  · exact asks_setState _

lemma asks_grade : (grade c).Asks P :=
  asks_state_bind fun _ => asks_bind (asks_setState _) fun _ => asks_bind (asks_lift _) fun _ =>
    asks_bind (asks_answer _ _ _ _) fun _ => asks_bind (asks_change _) fun _ => asks_pure _

lemma asks_submit : (submit c).Asks P := by
  refine c.asks_unlessCompleted _ _ (asks_state_bind fun s => ?_)
  split_ifs
  · exact asks_request_bind fun _ => asks_pure _
  · exact asks_grade c
  · exact asks_request_bind fun _ => asks_pure _

lemma asks_leave : (leave c).Asks P := by
  refine asks_state_bind fun s => ?_
  split_ifs
  · exact asks_warn _
  · exact c.asks_complete

end SortingSitting

/-! ### Narratives -/

namespace NarrativeSitting

/-- A property of narratives that tells which scenes there are, where no scene has an action that
sets a variable but by a request of some sort. -/
structure Tells (Q : NarrativeSitting → Prop) (P : Request → Prop) : Prop where
  same : ∀ s t : NarrativeSitting, t.scenes = s.scenes → Q s → Q t
  sets : ∀ s, Q s → ∀ id scene, s.scenes.find? id = some scene → ∀ a ∈ scene.actions,
    ∀ k v, a.Sets k → P (.updateVariables [(k, v)])

section

variable {Q : NarrativeSitting → Prop} (hQ : Tells Q P)

omit [Request.Everyday P] in
lemma Tells.of_all (hP : ∀ patch, P (.updateVariables patch)) : Tells (fun _ => True) P where
  same _ _ _ _ := trivial
  sets _ _ _ _ _ _ _ _ _ _ := hP _

lemma minds_act (scene : Scene) (a : SceneAction) (index : Nat)
    (ha : ∀ k v, a.Sets k → P (.updateVariables [(k, v)])) : (act c scene a index).Minds Q P := by
  unfold act
  split
  case h_1 hkind =>
    dsimp only [Value.toKey]
    cases hname : ((a.payload.lookup "variable").getD .null).toKey? with
    | none => trivial
    | some name => exact ⟨ha _ _ ⟨hkind, name, _, hname, rfl⟩, fun _ => trivial⟩
  case h_2 => exact minds_bind (minds_lift _) fun _ => minds_request _
  all_goals exact minds_request _

lemma minds_bringAbout (sceneId : String) (choice : Choice) (time : Int) (e : Effect) :
    (bringAbout sceneId choice time e).Minds Q P := by
  unfold bringAbout
  cases e.kind with
  | setVariable => exact minds_request _
  | addScore => exact minds_bind (minds_lift _) fun _ => minds_request _
  | addItem => exact minds_request _
  | removeItem => exact minds_request _

include hQ

omit [Request.Everyday P] in
lemma Tells.seat (s : NarrativeSitting) (t : Sitting) (hs : Q s) : Q (Seated.seat s t) :=
  hQ.same s _ rfl hs

lemma minds_enterScene (id : String) : (enterScene c id).Minds Q P := by
  refine minds_state_bind fun s hs => ?_
  cases hscene : s.scenes.find? id with
  | none => exact minds_request_bind fun _ => c.minds_complete hQ.seat
  | some scene =>
    refine minds_bind (minds_setState (hQ.same s _ rfl hs)) fun _ =>
      minds_bind (minds_startClock hQ.seat) fun _ => minds_forEach fun a ha => ?_
    exact minds_act c scene a.1 a.2
      (hQ.sets s hs id scene hscene a.1 (List.fst_mem_of_mem_zipIdx ha))

lemma minds_enter : (enter c).Minds Q P := minds_state_bind fun _ _ => minds_enterScene c hQ _

lemma minds_choose (id : String) : (choose c id).Minds Q P := by
  refine c.minds_unlessCompleted _ _ (minds_request_bind fun _ =>
    minds_state_bind fun s _ => minds_bind (minds_lift _) fun choices => ?_)
  cases choices.find? (·.id == id) with
  | none => exact minds_request_bind fun _ => minds_pure _
  | some choice =>
    refine minds_bind (minds_bind minds_elapsed fun time => ?_) fun _ => minds_pure _
    exact minds_bind (minds_forEach fun e _ => minds_bringAbout _ choice time e) fun _ =>
      minds_enterScene c hQ _

lemma minds_goOn : (goOn c).Minds Q P := by
  refine c.minds_unlessCompleted _ _ (minds_state_bind fun s _ => ?_)
  cases s.current? with
  | none => exact minds_pure _
  | some scene =>
    show Script.Minds _ _ (if _ then _ else _)
    split_ifs
    · exact minds_bind (minds_answer _ _ _ _) fun _ => c.minds_complete hQ.seat
    · exact minds_enterScene c hQ _
    · exact minds_request _
    · exact minds_request_bind fun _ => c.minds_complete hQ.seat

end

end NarrativeSitting

/-! ### Simulations -/

namespace SimulationSitting

omit [Request.Everyday P] in
lemma asks_applyEffects (effects : Amounts) : (applyEffects effects).Asks P := by
  induction effects with
  | nil => exact asks_pure _
  | cons e rest ih =>
    exact asks_state_bind fun _ => asks_bind (asks_lift _) fun _ =>
      asks_bind (asks_setState _) fun _ => ih

omit [Request.Everyday P] in
lemma asks_pay (cost : Amounts) : (pay cost).Asks P := by
  induction cost with
  | nil => exact asks_pure _
  | cons e rest ih =>
    exact asks_state_bind fun _ => asks_bind (asks_lift _) fun _ =>
      asks_bind (asks_setState _) fun _ => ih

lemma asks_evaluate (o : Objective) : (evaluate o).Asks P := by
  refine asks_bind (asks_change _) fun _ => asks_state_bind fun s => ?_
  split_ifs
  · exact asks_bind (asks_setState _) fun _ => asks_request _
  · exact asks_pure _

lemma asks_afterChange : (afterChange c).Asks P := by
  refine asks_state_bind fun s => asks_bind (asks_forEach fun _ _ => asks_evaluate _) fun _ =>
    asks_state_bind fun s => ?_
  cases s.outcome? with
  | none => exact asks_pure _
  | some won =>
    exact asks_bind (asks_change _) fun _ => asks_state_bind fun _ =>
      asks_bind (asks_answer _ _ _ _) fun _ => asks_request _

lemma asks_unlessBlocked (action : String) (refused : α) {x : Script SimulationSitting α}
    (hx : x.Asks P) : (unlessBlocked c action refused x).Asks P := by
  refine c.asks_unlessCompleted _ _ (asks_state_bind fun s => ?_)
  split_ifs
  · exact asks_request_bind fun _ => asks_pure _
  · cases s.currentEvent with
    | none => exact hx
    | some e => exact asks_request_bind fun _ => asks_pure _

lemma asks_carryOut (a : SimAction) : (carryOut c a).Asks P :=
  asks_bind (asks_pay _) fun _ => asks_bind (asks_applyEffects _) fun _ =>
    asks_bind (asks_change _) fun _ => asks_afterChange c

lemma asks_perform (id : String) : (perform c id).Asks P := by
  refine asks_unlessBlocked c _ _ (asks_state_bind fun s => ?_)
  cases (Catalogue.ofList SimAction.id s.content.actions).find? id with
  | none => exact asks_request_bind fun _ => asks_pure _
  | some a =>
    show Script.Asks _ (if _ then _ else _)
    split_ifs
    · exact asks_bind (asks_carryOut c a) fun _ => asks_pure _
    · exact asks_request_bind fun _ => asks_pure _

/-- The variables that are set at the end of a turn are named by resources. -/
lemma asks_nextTurn : (nextTurn c).Asks P := by
  refine asks_bind (asks_change _) fun _ => asks_state_bind fun s => ?_
  have hpatch := Request.Everyday.assign (P := P) (s.resources.map fun e => (e.1, e.2.toValue))
  rw [List.map_map] at hpatch
  exact asks_bind ⟨hpatch, fun _ => trivial⟩ fun _ => asks_afterChange c

lemma asks_raise (events : List SimEvent) : (raise events).Asks P := by
  refine asks_bind (asks_request_bind fun x => ?_) fun e => asks_bind (asks_change _)
    fun _ => asks_state_bind fun _ => asks_request_bind fun _ => asks_pure _
  split <;> trivial

lemma asks_endTurn : (endTurn c).Asks P := by
  refine asks_unlessBlocked c _ _ (asks_bind (asks_change _) fun _ => asks_state_bind fun s =>
    asks_bind (asks_filter (fun _ => asks_request_bind fun _ => asks_pure _) _)
      fun events => ?_)
  split_ifs
  · exact asks_bind (asks_nextTurn c) fun _ => asks_pure _
  · exact asks_raise events

lemma asks_resolveEvent (choice : Option Int) : (resolveEvent c choice).Asks P := by
  refine asks_state_bind fun s => ?_
  split
  · exact asks_warn _
  · exact asks_bind (asks_applyEffects _) fun _ => asks_bind (asks_change _) fun _ =>
      asks_nextTurn c

lemma asks_leave : (leave c).Asks P := by
  refine asks_state_bind fun s => ?_
  split_ifs
  · exact c.asks_complete
  · exact asks_warn _

end SimulationSitting

/-! ### Explorations -/

namespace ExplorationSitting

lemma asks_reveal : reveal.Asks P := by
  refine asks_state_bind fun s => ?_
  split_ifs
  · exact asks_bind (asks_setState _) fun _ => asks_request _
  · exact asks_pure _

lemma asks_discover (id : String) : (discover id).Asks P := by
  refine asks_bind (asks_change _) fun _ => asks_state_bind fun s => ?_
  cases (s.locations.find? id).bind gift? with
  | none => exact asks_reveal
  | some item => exact asks_request_bind fun _ => asks_reveal

lemma asks_arrive (id : String) : (arrive id).Asks P := by
  refine asks_bind (asks_change _) fun _ => asks_bind asks_startClock fun _ =>
    asks_state_bind fun s => ?_
  split_ifs
  · exact asks_pure _
  · exact asks_discover id

lemma asks_enter : (enter c).Asks P := by
  refine asks_state_bind fun s => ?_
  split_ifs
  · exact asks_arrive _
  · exact asks_bind (asks_setState _) fun _ => asks_arrive _
  · exact asks_bind (asks_warn _) fun _ => c.asks_complete

lemma asks_visit (id : String) : (visit c id).Asks P := by
  refine c.asks_unlessCompleted _ _ (asks_state_bind fun s => ?_)
  split_ifs
  · exact asks_bind (asks_arrive id) fun _ => asks_pure _
  · exact asks_request_bind fun _ => asks_pure _

lemma asks_pickUp (id : String) (thing : Collectible) : (pickUp c id thing).Asks P := by
  refine asks_bind (asks_change _) fun _ => asks_request_bind fun _ =>
    asks_bind (asks_answer _ _ _ _) fun _ => asks_state_bind fun s => ?_
  split_ifs
  · exact c.asks_complete
  · exact asks_pure _

lemma asks_collect (id : String) : (collect c id).Asks P := by
  refine c.asks_unlessCompleted _ _ (asks_state_bind fun s => ?_)
  split
  · exact asks_bind (asks_pickUp c id _) fun _ => asks_pure _
  · exact asks_request_bind fun _ => asks_pure _

end ExplorationSitting

/-! ### Challenges -/

namespace ChallengeSitting

section

variable [Request.Timed P]

lemma asks_finish (reason : String) : (finish c reason).Asks P := by
  refine asks_state_bind fun s => ?_
  split_ifs
  · exact asks_pure _
  · exact asks_request_bind fun _ => asks_bind (asks_setState _) fun _ =>
      asks_bind asks_elapsed fun _ => asks_request_bind fun _ => asks_request _

lemma asks_enter : (enter c).Asks P := by
  refine asks_state_bind fun s => ?_
  split_ifs
  · exact asks_finish c _
  · exact asks_request _
  · exact asks_pure _

lemma asks_advance : (advance c).Asks P := by
  refine asks_state_bind fun s => ?_
  split_ifs
  · exact asks_finish c _
  · exact asks_finish c _
  · exact asks_setState _

omit [Request.Everyday P] [Request.Timed P] in
lemma asks_credit (item : ChallengeItem) (correct : Bool) : (credit item correct).Asks P := by
  refine asks_state_bind fun s => ?_
  split_ifs
  · exact asks_bind (asks_lift _) fun _ => asks_setState _
  · exact asks_setState _

lemma asks_grade (given : Value) : (grade c given).Asks P := by
  refine asks_state_bind fun s => ?_
  cases s.current? with
  | none => exact asks_lift _
  | some item =>
    dsimp only
    generalize sameAnswer given.text item.answer.toValue.text = correct
    exact asks_bind (asks_credit item correct) fun _ =>
      asks_bind (asks_advance c) fun _ => asks_pure _

lemma asks_answer (given : Value) : (answer c given).Asks P := by
  refine c.asks_unlessCompleted _ _ (asks_state_bind fun s => ?_)
  split_ifs
  · exact asks_pure _
  · exact asks_grade c given

end

lemma asks_leave : (leave c).Asks P := by
  refine asks_state_bind fun s => ?_
  split_ifs
  · exact c.asks_complete
  · exact asks_warn _

end ChallengeSitting

/-! ### Reading -/

lemma ReadingSitting.asks_leave : (ReadingSitting.leave c).Asks P :=
  c.asks_unlessCompleted _ _ (asks_bind (asks_answer _ _ _ _) fun _ => c.asks_complete)

/-! ### Moves -/

namespace Player

lemma asks_inQuiz [Request.Timed P] (hhint : P .spendHint) {m : Move}
    {x : Script QuizSitting Value} (h : inQuiz c m = some x) : x.Asks P := by
  unfold inQuiz at h
  split at h <;> cases h
  · exact asks_map _ (QuizSitting.asks_submit c _)
  · exact asks_map _ (QuizSitting.asks_next c)
  · exact asks_map _ (QuizSitting.asks_useHint hhint)

lemma asks_inFlashcards (hhint : P .spendHint) {m : Move} {x : Script FlashcardSitting Value}
    (h : inFlashcards c m = some x) : x.Asks P := by
  unfold inFlashcards at h
  split at h <;> cases h
  · exact asks_map _ (asks_state_bind fun _ => asks_bind (asks_setState _) fun _ => asks_pure _)
  · exact asks_map _ (FlashcardSitting.asks_mark c _)
  · exact asks_map _ (FlashcardSitting.asks_submit c _)
  · exact asks_map _ (FlashcardSitting.asks_next c)
  · exact asks_map _ (FlashcardSitting.asks_previous c)
  · exact asks_map _ (FlashcardSitting.asks_useHint hhint)

lemma asks_inMatching [Request.Timed P] {m : Move} {x : Script MatchingSitting Value}
    (h : inMatching c m = some x) : x.Asks P := by
  unfold inMatching at h
  split at h <;> cases h
  exact asks_map _ (MatchingSitting.asks_select c _ _)

lemma asks_inSorting {m : Move} {x : Script SortingSitting Value} (h : inSorting c m = some x) :
    x.Asks P := by
  unfold inSorting at h
  split at h <;> cases h
  · exact asks_map _ (SortingSitting.asks_place c _ _)
  · exact asks_map _ (SortingSitting.asks_remove _)
  · exact asks_map _ (SortingSitting.asks_submit c)
  · exact asks_map _ (SortingSitting.asks_leave c)

lemma minds_inNarrative {Q : NarrativeSitting → Prop} (hQ : NarrativeSitting.Tells Q P) {m : Move}
    {x : Script NarrativeSitting Value} (h : inNarrative c m = some x) : x.Minds Q P := by
  unfold inNarrative at h
  split at h <;> cases h
  · exact minds_map _ (minds_change fun s hs => hQ.same s _ rfl hs)
  · exact minds_map _ (NarrativeSitting.minds_choose c hQ _)
  · exact minds_map _ (NarrativeSitting.minds_goOn c hQ)

lemma asks_inSimulation {m : Move} {x : Script SimulationSitting Value}
    (h : inSimulation c m = some x) : x.Asks P := by
  unfold inSimulation at h
  split at h <;> cases h
  · exact asks_map _ (SimulationSitting.asks_perform c _)
  · exact asks_map _ (asks_change _)
  · exact asks_map _ (SimulationSitting.asks_endTurn c)
  · exact asks_map _ (SimulationSitting.asks_resolveEvent c _)
  · exact asks_map _ (SimulationSitting.asks_leave c)

lemma asks_inExploration {m : Move} {x : Script ExplorationSitting Value}
    (h : inExploration c m = some x) : x.Asks P := by
  unfold inExploration at h
  split at h <;> cases h
  · exact asks_map _ (ExplorationSitting.asks_visit c _)
  · exact asks_map _ (ExplorationSitting.asks_collect c _)
  · exact asks_map _ (c.asks_unlessCompleted _ _ c.asks_complete)

lemma asks_inChallenge [Request.Timed P] {m : Move} {x : Script ChallengeSitting Value}
    (h : inChallenge c m = some x) : x.Asks P := by
  unfold inChallenge at h
  split at h <;> cases h
  · exact asks_map _ (ChallengeSitting.asks_answer c _)
  · exact asks_map _ (ChallengeSitting.asks_leave c)

lemma asks_inReading {m : Move} {x : Script ReadingSitting Value} (h : inReading c m = some x) :
    x.Asks P := by
  unfold inReading at h
  split at h <;> cases h
  · exact asks_map _ (asks_change _)
  · exact asks_map _ (ReadingSitting.asks_leave c)

/-! ### Players -/

/-- A property of narratives, said of a section of any kind. -/
def Narrates (Q : NarrativeSitting → Prop) : Player → Prop
  | .narrative s => Q s
  | _ => True

lemma narrates_of_all {Q : NarrativeSitting → Prop} (hQ : ∀ s, Q s) (p : Player) :
    p.Narrates Q := by
  cases p with
  | narrative s => exact hQ s
  | _ => trivial

section

variable {Q : NarrativeSitting → Prop}

omit [Request.Everyday P] in
/-- In a section of any other kind there are no scenes to be minded. -/
lemma minds_embed_of_asks (into : σ → Player) (hinto : ∀ s, Narrates Q (into s)) {x : Script σ α}
    (hx : x.Asks P) (s : σ) : (x.embed into s).Minds (Narrates Q) P :=
  minds_of_asks (asks_embed hx into s) (puts_embed hinto)

variable (hQ : NarrativeSitting.Tells Q P) [Request.Timed P] {p : Player} (hp : p.Narrates Q)

omit [Request.Everyday P] [Request.Timed P] in
/-- A second of a countdown that goes by asks nothing at all. -/
lemma minds_tick (alarm : Alarm) (remaining : Int) (p : Player) :
    (p.tick alarm remaining).Minds (Narrates Q) P := by
  unfold tick
  split
  · split_ifs
    · exact minds_embed_of_asks challenge (fun _ => trivial) (asks_change _) _
    · exact minds_pure _
  · exact minds_pure _

lemma minds_expire (alarm : Alarm) (p : Player) : (p.expire c alarm).Minds (Narrates Q) P := by
  unfold expire
  split
  · split_ifs
    · exact minds_embed_of_asks quiz (fun _ => trivial) (QuizSitting.asks_expire c) _
    · exact minds_pure _
  · split_ifs
    · exact minds_embed_of_asks matching (fun _ => trivial) (MatchingSitting.asks_expire c) _
    · exact minds_pure _
  · split_ifs
    · exact minds_embed_of_asks challenge (fun _ => trivial) (ChallengeSitting.asks_finish c _) _
    · exact minds_pure _
  · exact minds_pure _

include hp in
/-- A move minds what the moves in a narrative do. -/
lemma minds_act?_of (hhint : P .spendHint)
    (hnarrative : ∀ {m : Move} {x : Script NarrativeSitting Value},
      inNarrative c m = some x → x.Minds Q P)
    {m : Move} {x : Script Player Value} (h : p.act? c m = some x) : x.Minds (Narrates Q) P := by
  cases p <;> obtain ⟨y, hy, rfl⟩ := Option.map_eq_some_iff.1 h
  case quiz s => exact minds_embed_of_asks quiz (fun _ => trivial) (asks_inQuiz c hhint hy) s
  case flashcards s =>
    exact minds_embed_of_asks flashcards (fun _ => trivial) (asks_inFlashcards c hhint hy) s
  case matching s => exact minds_embed_of_asks matching (fun _ => trivial) (asks_inMatching c hy) s
  case sorting s => exact minds_embed_of_asks sorting (fun _ => trivial) (asks_inSorting c hy) s
  case narrative s => exact minds_embed narrative (fun _ => id) (hnarrative hy) hp
  case simulation s =>
    exact minds_embed_of_asks simulation (fun _ => trivial) (asks_inSimulation c hy) s
  case exploration s =>
    exact minds_embed_of_asks exploration (fun _ => trivial) (asks_inExploration c hy) s
  case challenge s =>
    exact minds_embed_of_asks challenge (fun _ => trivial) (asks_inChallenge c hy) s
  case reading content s =>
    exact minds_embed_of_asks (reading content) (fun _ => trivial) (asks_inReading c hy) s

include hQ hp

/-- Beginning a section minds the scenes. -/
lemma minds_enter : (p.enter c).Minds (Narrates Q) P := by
  cases p with
  | quiz s => exact minds_embed_of_asks quiz (fun _ => trivial) (QuizSitting.asks_enter c) s
  | flashcards s =>
    exact minds_embed_of_asks flashcards (fun _ => trivial) (FlashcardSitting.asks_enter c) s
  | matching s =>
    exact minds_embed_of_asks matching (fun _ => trivial) (MatchingSitting.asks_enter c) s
  | narrative s => exact minds_embed narrative (fun _ => id) (NarrativeSitting.minds_enter c hQ) hp
  | exploration s =>
    exact minds_embed_of_asks exploration (fun _ => trivial) (ExplorationSitting.asks_enter c) s
  | challenge s =>
    exact minds_embed_of_asks challenge (fun _ => trivial) (ChallengeSitting.asks_enter c) s
  | sorting s => exact minds_pure _
  | simulation s => exact minds_pure _
  | reading content s => exact minds_pure _

/-- A move minds the scenes. -/
lemma minds_act? (hhint : P .spendHint) {m : Move} {x : Script Player Value}
    (h : p.act? c m = some x) : x.Minds (Narrates Q) P :=
  minds_act?_of c hp hhint (minds_inNarrative c hQ) h

end

end Player

/-! ### Sections that ask for no hint -/

/-- Whatever it is answered, a script asks for no hint. -/
abbrev Script.Hintless {σ α : Type} (x : Script σ α) : Prop := x.Asks (· ≠ .spendHint)

instance : Request.Everyday (· ≠ .spendHint) := by
  constructor <;> nofun

instance : Request.Timed (· ≠ .spendHint) := by
  constructor <;> nofun

namespace Player

/-- What minds no scene at all is said of any player. -/
private lemma narrates (p : Player) : p.Narrates fun _ => True :=
  narrates_of_all (fun _ => trivial) p

/-- Beginning a section asks for no hint. -/
lemma hintless_enter (c : Setting) (p : Player) : (p.enter c).Hintless :=
  asks_of_minds narrates (minds_enter c (.of_all fun _ => nofun) (narrates p))

/-- A second of a countdown that goes by asks nothing at all. -/
lemma asks_tick {P : Request → Prop} (alarm : Alarm) (remaining : Int) (p : Player) :
    (p.tick alarm remaining).Asks P :=
  asks_of_minds narrates (minds_tick alarm remaining p)

lemma hintless_tick (alarm : Alarm) (remaining : Int) (p : Player) :
    (p.tick alarm remaining).Hintless :=
  asks_tick alarm remaining p

/-- A countdown that runs out asks for no hint. -/
lemma hintless_expire (c : Setting) (alarm : Alarm) (p : Player) : (p.expire c alarm).Hintless :=
  asks_of_minds narrates (minds_expire c alarm p)

end Player

end Play

end LearningGame
