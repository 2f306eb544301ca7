import LearningGame.Proofs.Play.WayOut

/-!
# Choices and their effects

A choice that is open has its effects brought about one after the other, and then leads to its
scene. An effect that cannot be brought about breaks the choice off: the player stays in the scene,
and what the effects before it have done stays done.
-/

namespace LearningGame.Play

open Content Schema Rules Act Script

/-- What choices have effects on. -/
structure Belongings where
  vars : Fields
  score : Number
  answers : List AnswerRecord
  streak : Int
  inventory : List String

/-- What belongs to the player. -/
def GameState.belongings (s : GameState) : Belongings :=
  ⟨s.vars, s.score, s.answers, s.streak, s.inventory⟩

namespace Session

/-! ### Effects -/

section

variable (seat : Seat) (sceneId : String) (choice : Choice) (time : Int)

/-- What an effect of a choice does to a session that hears the section. -/
def bringAbout (e : Effect) : Act Session Unit :=
  match e.kind with
  | .setVariable => heard seat "update_variables" () (updateVariables [(e.target, e.value)])
  | .addScore => do
    let points ← Act.lift (NarrativeSitting.pointsOf e.value)
    heard seat "submit_answer" () do
      let _ ← submitAnswer ⟨seat.setting.sectionId, sceneId ++ "-" ++ choice.id, choice.text, true,
        .int points, .int time⟩
  | .addItem => heard seat "add_item" () (addItem (NarrativeSitting.itemOf e))
  | .removeItem => heard seat "remove_item" () (removeItem (NarrativeSitting.itemOf e))

/-- What some effects do, each of them once and one after the other. -/
def bringAllAbout : List Effect → Act Session Unit
  | [] => pure ()
  | e :: rest => do
    bringAbout seat sceneId choice time e
    bringAllAbout rest

variable {seat sceneId choice time} {w v : Session} {f : Fault}

/-- Effects that cannot all be brought about are brought about up to one that cannot. -/
lemma exists_of_bringAllAbout_error {effects : List Effect}
    (h : (bringAllAbout seat sceneId choice time effects).runIn w = (.error f, v)) :
    ∃ before e after u, effects = before ++ e :: after ∧
      (bringAllAbout seat sceneId choice time before).runIn w = (.ok (), u) ∧
        (bringAbout seat sceneId choice time e).runIn u = (.error f, v) := by
  induction effects generalizing w with
  | nil => cases h
  | cons e rest ih =>
    rw [bringAllAbout, runIn_bind] at h
    rcases hfirst : (bringAbout seat sceneId choice time e).runIn w with ⟨_ | _, u⟩
    · rw [hfirst] at h
      cases h
      exact ⟨[], e, rest, w, rfl, rfl, hfirst⟩
    · rw [hfirst] at h
      obtain ⟨before, last, after, u', rfl, hbefore, hlast⟩ := ih h
      refine ⟨e :: before, last, after, u', rfl, ?_, hlast⟩
      rw [bringAllAbout, runIn_bind, hfirst]
      exact hbefore

/-! ### Effects that break off -/

/-- What is not heard is not broken off. -/
lemma runIn_heard_of_error {α : Type} {operation : String} {refused : α} {x : Act Session α}
    (h : (heard seat operation refused x).runIn w = (.error f, v)) : x.runIn w = (.error f, v) := by
  rw [heard, runIn_get_bind] at h
  split_ifs at h
  · exact h
  · cases h

lemma runIn_whilePlaying_of_error {α : Type} {operation : String} {refused : α} {x : Act Session α}
    (h : (whilePlaying operation refused x).runIn w = (.error f, v)) :
    x.runIn w = (.error f, v) := by
  rw [whilePlaying, runIn_get_bind] at h
  split_ifs at h
  · exact h
  · cases h

lemma runIn_bind_pure_of_error {α β : Type} {x : Act Session α} {g : α → β}
    (h : (x >>= fun a => pure (g a)).runIn w = (.error f, v)) : x.runIn w = (.error f, v) := by
  rw [runIn_bind] at h
  rcases hx : x.runIn w with ⟨_ | _, _⟩ <;> rw [hx] at h <;> cases h
  rfl

/-- A correct answer that cannot be taken is not taken at all, or it is entered without its points
being added. -/
lemma of_enterAnswer_error {x : Submission} (hx : x.isCorrect = true)
    (h : (enterAnswer x).runIn w = (.error f, v)) :
    v = w ∨ ∃ entry,
      v = { w with state := { w.state with answers := w.state.answers ++ [entry] } } := by
  rw [enterAnswer, runIn_get_bind, runIn_lift_bind] at h
  split at h
  case h_2 =>
    cases h
    exact .inl rfl
  case h_1 points _ =>
    dsimp only at h
    rw [change, runIn_modify_bind, runIn_lift_bind] at h
    split at h
    case h_2 =>
      cases h
      exact .inr ⟨_, rfl⟩
    case h_1 score _ =>
      rw [change, runIn_modify_bind, note, Table.note, runIn_modify_bind, if_pos hx] at h
      cases h

/-- Only points can be refused. -/
lemma of_bringAbout_error {e : Effect}
    (h : (bringAbout seat sceneId choice time e).runIn w = (.error f, v)) :
    e.kind = .addScore ∧ (v = w ∨
      ∃ entry, v = { w with state := { w.state with answers := w.state.answers ++ [entry] } }) := by
  unfold bringAbout at h
  split at h
  case h_1 | h_3 | h_4 => cases runIn_whilePlaying_of_error (runIn_heard_of_error h)
  case h_2 hkind =>
    refine ⟨hkind, ?_⟩
    rw [runIn_lift_bind] at h
    split at h
    case h_2 =>
      cases h
      exact .inl rfl
    case h_1 points _ =>
      have hsubmit := runIn_bind_pure_of_error (runIn_heard_of_error h)
      exact of_enterAnswer_error rfl
        (runIn_bind_pure_of_error (runIn_whilePlaying_of_error hsubmit))

/-! ### What effects leave as it is -/

/-- The seats are the same, and no answer has been taken back. -/
structure Extends (w v : Session) : Prop where
  seats : v.seats = w.seats
  answers : w.state.answers <+: v.state.answers

instance : Aloof (Extends w) where
  of_same hw _ haccount _ hseats :=
    ⟨hseats.trans hw.seats, by
      have hanswers := congrArg Account.answers haccount
      simp only [GameState.account] at hanswers
      exact hanswers ▸ hw.answers⟩

lemma keeps_enterAnswer {x : Submission} (hx : x.isCorrect = true) :
    Keeps (Extends w) (enterAnswer x) := by
  refine keeps_bind keeps_get fun _ => keeps_bind (fun _ hv => hv) fun _ =>
    keeps_bind (keeps_modify fun v hv => ⟨hv.1, hv.2.trans (List.prefix_append ..)⟩) fun _ =>
      keeps_bind (fun _ hv => hv) fun _ =>
        keeps_bind (keeps_modify fun v hv => ⟨hv.1, hv.2⟩) fun _ =>
          keeps_bind (keeps_note _ _) fun _ => ?_
  rw [if_pos hx]
  exact keeps_pure _

lemma keeps_bringAbout (e : Effect) :
    Keeps (Extends w) (bringAbout seat sceneId choice time e) := by
  unfold bringAbout
  cases e.kind with
  | setVariable => exact keeps_heard seat _ _ (keeps_updateVariables fun _ hv => ⟨hv.1, hv.2⟩)
  | addScore =>
    refine keeps_bind (fun _ hv => hv) fun _ => keeps_heard seat _ _ ?_
    refine keeps_bind (keeps_whilePlaying _ _ ?_) fun _ => keeps_pure _
    exact keeps_bind (keeps_enterAnswer rfl) fun _ => keeps_pure _
  | addItem =>
    refine keeps_heard seat _ _ (keeps_whilePlaying _ _ (keeps_modify fun v hv => ⟨hv.1, ?_⟩))
    dsimp only
    split_ifs <;> exact hv.2
  | removeItem =>
    exact keeps_heard seat _ _ (keeps_whilePlaying _ _ (keeps_modify fun _ hv => ⟨hv.1, hv.2⟩))

lemma extends_of_bringAllAbout {effects : List Effect} {r : Except Fault Unit}
    (h : (bringAllAbout seat sceneId choice time effects).runIn w = (r, v)) : Extends w v := by
  have hkeeps : Keeps (Extends w) (bringAllAbout seat sceneId choice time effects) := by
    clear h
    induction effects with
    | nil => exact keeps_pure _
    | cons e rest ih => exact keeps_bind (keeps_bringAbout e) fun _ => ih
  simpa [h] using hkeeps w ⟨rfl, List.prefix_rfl⟩

/-- When an effect is broken off, everything belongs to the player as before just if this effect did
nothing and the effects before it had changed nothing. -/
lemma belongings_eq_iff_of_error {before : List Effect} {e : Effect} {u : Session}
    (hbefore : (bringAllAbout seat sceneId choice time before).runIn w = (.ok (), u))
    (hbreak : (bringAbout seat sceneId choice time e).runIn u = (.error f, v)) :
    v.state.belongings = w.state.belongings ↔ v = u ∧ u.state.belongings = w.state.belongings := by
  rcases (of_bringAbout_error hbreak).2 with rfl | ⟨entry, rfl⟩
  · simp
  · have hlength := (extends_of_bringAllAbout hbefore).answers.length_le
    refine iff_of_false (fun h => ?_) fun h => ?_
    · have := congrArg (fun b => b.answers.length) h
      simp only [GameState.belongings, List.length_append, List.length_singleton] at this
      omega
    · simpa using congrArg (fun w : Session => w.state.answers.length) h.1

end

/-! ### Making a choice -/

/-- The story offers a choice as the one with an id. -/
def Offers (w : Session) (s : NarrativeSitting) (id : String) (k : Choice) : Prop :=
  s.completed = false ∧ ∃ choices, s.choices w.circumstances = .ok choices ∧
    choices.find? (·.id == id) = some k

/-- The story is over, or none of the choices that are open is one with an id. -/
def Refuses (w : Session) (s : NarrativeSitting) (id : String) : Prop :=
  s.completed = true ∨ ∃ choices, s.choices w.circumstances = .ok choices ∧ ∀ k ∈ choices, k.id ≠ id

/-- The whole seconds that have been spent in a scene, if the clock can tell. -/
def timeSpent (w : Session) (s : NarrativeSitting) : Except Fault Int :=
  (Number.float (w.clock - s.started)).toNearest.map (max 0)

/-- What comes of it when the player of a story makes the choice with an id: a result, and the
session afterwards. -/
inductive Chosen (w : Session) (index : Nat) (seat : Seat) (s : NarrativeSitting) (id : String) :
    Except Fault Value → Session → Prop
  /-- The choice is not open, and nothing happens. -/
  | refused (table : Table SessionAlarm) (htable : table.registry = w.table.registry)
      (hid : w.Refuses s id) : Chosen w index seat s id (.ok (.bool false)) { w with table }
  /-- Nothing happens either if it cannot be told which choices are open, or what time it is. -/
  | unclear (f : Fault) (hopen : s.completed = false)
      (hf : s.choices w.circumstances = .error f ∨
        (∃ k, w.Offers s id k) ∧ w.timeSpent s = .error f) :
      Chosen w index seat s id (.error f) w
  /-- All effects are brought about, and then the scene is entered to which the choice leads. -/
  | taken (k : Choice) (time : Int) (u v : Session) (r : Except Fault Unit) (t : NarrativeSitting)
      (hoffers : w.Offers s id k) (htime : w.timeSpent s = .ok time)
      (heffects : (bringAllAbout seat s.sceneId k time k.effects).runIn w = (.ok (), u))
      (henter : (NarrativeSitting.enterScene seat.setting k.targetScene).run
        (reply activate index seat) s u = (r, t, v))
      (hentered : s.scenes.find? k.targetScene = none ∧ t.completed = true ∨
        (s.scenes.find? k.targetScene).isSome = true ∧ s.HasEntered k.targetScene t) :
      Chosen w index seat s id (r.map fun _ => .bool true) (putPlayer index (.narrative t) v)
  /-- Points that cannot be had break the choice off. -/
  | brokenOff (k : Choice) (time : Int) (before after : List Effect) (e : Effect) (u v : Session)
      (f : Fault) (hoffers : w.Offers s id k) (htime : w.timeSpent s = .ok time)
      (heffects : k.effects = before ++ e :: after) (hkind : e.kind = .addScore)
      (hbefore : (bringAllAbout seat s.sceneId k time before).runIn w = (.ok (), u))
      (hbreak : (bringAbout seat s.sceneId k time e).runIn u = (.error f, v))
      (hseats : v.seats = w.seats)
      (hbelongings : v.state.belongings = w.state.belongings ↔
        v = u ∧ u.state.belongings = w.state.belongings) :
      Chosen w index seat s id (.error f) v

section

variable {index : Nat} {seat : Seat} {s : NarrativeSitting} {w : Session}

lemma putPlayer_self {player : Player} (hseat : w.seats[index]? = some seat)
    (hplayer : seat.player = player) : putPlayer index player w = w := by
  have hseats : w.seats.modify index (fun seat => { seat with player }) = w.seats := by
    refine List.ext_getElem? fun i => ?_
    rw [List.getElem?_modify]
    by_cases hi : index = i
    · subst hi hplayer
      simp [hseat]
    · simp [hi]
  rw [putPlayer, hseats]

/-- The section does to the session what its effect does. -/
lemma run_bringAbout (sceneId : String) (choice : Choice) (time : Int) (e : Effect) :
    (NarrativeSitting.bringAbout sceneId choice time e).run (reply activate index seat) s w =
      (((bringAbout seat sceneId choice time e).runIn w).1, s,
        ((bringAbout seat sceneId choice time e).runIn w).2) := by
  have hunit (r : Except Fault Unit) : (r.map fun _ => ()) = r := by
    cases r <;> rfl
  unfold NarrativeSitting.bringAbout bringAbout
  cases e.kind with
  | setVariable => exact (run_ask ..).trans (Prod.ext (hunit _) rfl)
  | addItem => exact (run_ask ..).trans (Prod.ext (hunit _) rfl)
  | removeItem => exact (run_ask ..).trans (Prod.ext (hunit _) rfl)
  | addScore =>
    dsimp only
    rw [run_bind, runIn_lift_bind]
    cases NarrativeSitting.pointsOf e.value with
    | error f => rfl
    | ok points => exact (run_ask ..).trans (Prod.ext (hunit _) rfl)

lemma run_bringAllAbout (sceneId : String) (choice : Choice) (time : Int) (effects : List Effect) :
    (Script.forEach (NarrativeSitting.bringAbout sceneId choice time) effects).run
        (reply activate index seat) s w =
      (((bringAllAbout seat sceneId choice time effects).runIn w).1, s,
        ((bringAllAbout seat sceneId choice time effects).runIn w).2) := by
  induction effects generalizing w with
  | nil => rfl
  | cons e rest ih =>
    rw [Script.forEach, run_bind, run_bringAbout, bringAllAbout, runIn_bind]
    rcases (bringAbout seat sceneId choice time e).runIn w with ⟨_ | _, _⟩
    · rfl
    · exact ih

lemma run_elapsed :
    (Setting.elapsed : Script NarrativeSitting Int).run (reply activate index seat) s w =
      (w.timeSpent s, s, w) := by
  have hrun : (Setting.elapsed : Script NarrativeSitting Int).run (reply activate index seat) s w =
      (do
        let time ← Script.lift (Number.float (w.clock - s.started)).toNearest
        return max 0 time : Script NarrativeSitting Int).run (reply activate index seat) s w := rfl
  rw [hrun, run_bind, timeSpent]
  cases (Number.float (w.clock - s.started)).toNearest <;> rfl

/-- What comes of an open choice. -/
lemma chosen_of_offers {id : String} {k : Choice} (hseat : w.seats[index]? = some seat)
    (hs : seat.player = .narrative s) (hoffers : w.Offers s id k) {out}
    (hout : (NarrativeSitting.take seat.setting s.sceneId k).run (reply activate index seat) s w =
      out) :
    Chosen w index seat s id (out.1.map fun _ => .bool true)
      (putPlayer index (.narrative out.2.1) out.2.2) := by
  rw [NarrativeSitting.take, run_bind, run_elapsed] at hout
  cases htime : w.timeSpent s with
  | error f =>
    rw [htime] at hout
    subst hout
    rw [putPlayer_self hseat hs]
    exact .unclear f hoffers.1 (.inr ⟨⟨k, hoffers⟩, htime⟩)
  | ok time =>
    rw [htime] at hout
    dsimp only at hout
    rw [run_bind, run_bringAllAbout] at hout
    rcases heffects : (bringAllAbout seat s.sceneId k time k.effects).runIn w with ⟨f | _, u⟩
    · rw [heffects] at hout
      subst hout
      obtain ⟨before, e, after, u', hsplit, hbefore, hbreak⟩ :=
        exists_of_bringAllAbout_error heffects
      have hseats : u.seats = w.seats := (extends_of_bringAllAbout heffects).seats
      rw [putPlayer_self (hseats ▸ hseat) hs]
      exact .brokenOff k time before after e u' u f hoffers htime hsplit
        (of_bringAbout_error hbreak).1 hbefore hbreak hseats
        (belongings_eq_iff_of_error hbefore hbreak)
    · rw [heffects] at hout
      obtain ⟨r, t, v⟩ := out
      refine .taken k time u v r t hoffers htime heffects hout ?_
      have hspec := NarrativeSitting.enterScene_spec (reply activate index seat) seat.setting
        (InScenes.runIn_reply_note _ _ _) k.targetScene s u
      rwa [show (NarrativeSitting.enterScene seat.setting k.targetScene).run
        (reply activate index seat) s u = _ from hout] at hspec

/-- What comes of the choice with an id, be it open or not. -/
lemma chosen_of_run {id : String} (hseat : w.seats[index]? = some seat)
    (hs : seat.player = .narrative s) {out}
    (hout : (NarrativeSitting.choose seat.setting id).run (reply activate index seat) s w = out) :
    Chosen w index seat s id (out.1.map .bool) (putPlayer index (.narrative out.2.1) out.2.2) := by
  have hrefused (message : String) (hid : w.Refuses s id) :
      (do Script.warn message; return false : Script NarrativeSitting Bool).run
          (reply activate index seat) s w = out →
        Chosen w index seat s id (out.1.map .bool)
          (putPlayer index (.narrative out.2.1) out.2.2) := by
    rintro rfl
    refine (putPlayer_self (w := Table.write _ w) hseat hs).symm ▸ ?_
    exact .refused _ rfl hid
  by_cases hcompleted : s.completed = true
  · have hrun : (NarrativeSitting.choose seat.setting id).run (reply activate index seat) s w =
        (do
          Script.warn ("Ignoring choose on completed section '" ++ seat.setting.sectionId ++ "'")
          return false : Script NarrativeSitting Bool).run (reply activate index seat) s w := by
      show Script.run _ (if s.completed = true then _ else _) s w = _
      rw [if_pos hcompleted]
      rfl
    exact hrefused _ (.inl hcompleted) (hrun.symm.trans hout)
  · have hopen : s.completed = false := by simpa using hcompleted
    change Script.run _ (if s.completed = true then _ else _) s w = out at hout
    rw [if_neg hcompleted] at hout
    change Script.run _ (Script.lift (s.choices w.circumstances) >>= _) s w = out at hout
    cases hchoices : s.choices w.circumstances with
    | error f =>
      obtain rfl : out = (.error f, s, w) := by
        rw [← hout, hchoices]
        rfl
      rw [putPlayer_self hseat hs]
      exact .unclear f hopen (.inl hchoices)
    | ok choices =>
      rw [run_lift_bind _ hchoices] at hout
      cases hfind : choices.find? (·.id == id) with
      | none =>
        rw [hfind] at hout
        exact hrefused _ (.inr ⟨choices, hchoices, by simpa using hfind⟩) hout
      | some k =>
        rw [hfind] at hout
        have hchosen := chosen_of_offers hseat hs ⟨hopen, choices, hchoices, hfind⟩ rfl
        change (NarrativeSitting.take seat.setting s.sceneId k >>= fun _ => pure true).run _ s w =
          out at hout
        rw [run_bind] at hout
        subst hout
        rcases htake : (NarrativeSitting.take seat.setting s.sceneId k).run
          (reply activate index seat) s w with ⟨_ | _, t, v⟩ <;>
        · rw [htake] at hchosen
          exact hchosen

/-- In any session whatever: a choice is refused and nothing happens; or all its effects are brought
about, each of them once and in order, and then its scene is entered, or the story is over if there
is none; or the choice is broken off because of points that cannot be had, and then everything
belongs to the player as before if and only if not even an answer was entered for these points and
the effects before them had changed nothing. -/
theorem chosen_of_choose (w : Session) (index : Nat) (seat : Seat) (s : NarrativeSitting)
    (id : String) (hseat : w.seats[index]? = some seat) (hs : seat.player = .narrative s) :
    ∃ x, act? index (.choose id) w = some x ∧
      Chosen w index seat s id (x.runIn w).1 (x.runIn w).2 := by
  let script : Script Player Value :=
    (Value.bool <$> NarrativeSitting.choose seat.setting id).embed .narrative s
  have hact : act? index (.choose id) w = some (perform activate index fun _ _ => script) := by
    simp [act?, hseat, hs, Player.act?, Player.inNarrative, script]
  refine ⟨_, hact, ?_⟩
  rw [runIn_perform activate hseat, hs, run_embed, run_map]
  exact chosen_of_run hseat hs rfl

end

/-- A story in which the same choice can be made again and again. -/
def rewardStory (effects : List Value) : Value :=
  .map [("content", .map [("sections", .list [.map
    [("id", "a"), ("type", "narrative"),
      ("content", .map [("scenes", .list [.map
        [("id", "here"), ("text", "So it goes on."),
          ("choices", .list [.map [("id", "k"), ("text", "Again"), ("targetScene", "here"),
            ("effects", .list effects)]])]])])]])])]

/-- Points as an effect of a choice. -/
def award (v : Value) : Value := .map [("type", "add-score"), ("value", v)]

/-- A choice for which there are points. -/
theorem chosen_of_award :
    ∃ g, (load (rewardStory [award (.int 5)]) "narrative").result = .ok g ∧
      let w := (create g .default (.repeating #[])).played [.start]
      ∃ seat s, w.seats[0]? = some seat ∧ seat.player = .narrative s ∧
        ∃ x, act? 0 (.choose "k") w = some x ∧
          Chosen w 0 seat s "k" (x.runIn w).1 (x.runIn w).2 := by
  obtain ⟨g, hg, hplay⟩ := Traced.exists_ok_of_any
    (x := load (rewardStory [award (.int 5)]) "narrative")
    (p := fun g => (((create g .default (.repeating #[])).played [.start]).story? 0).isSome)
    (by decide +kernel)
  obtain ⟨s, hs⟩ := Option.isSome_iff_exists.1 hplay
  obtain ⟨seat, hseat, hplayer⟩ := exists_seat_of_story? hs
  exact ⟨g, hg, seat, s, hseat, hplayer, chosen_of_choose _ 0 seat s "k" hseat hplayer⟩

/-- Points that are had before others cannot be had are kept, and had again with every try. -/
theorem not_allOrNothing_of_award :
    ∃ g, (load (rewardStory [award (.int 5), award "nan"]) "narrative").result = .ok g ∧
      let w := (create g .default (.repeating #[])).played [.start]
      let v := (Deed.move 0 (.choose "k")).after w
      let u := (Deed.move 0 (.choose "k")).after v
      (∃ x f, act? 0 (.choose "k") w = some x ∧ (x.runIn w).1 = .error f) ∧
        w.state.score.same (.int 0) = true ∧ v.state.score.same (.int 5) = true ∧
          u.state.score.same (.int 10) = true ∧ v.state.belongings ≠ w.state.belongings := by
  obtain ⟨g, hg, hplay⟩ := Traced.exists_ok_of_any
    (x := load (rewardStory [award (.int 5), award "nan"]) "narrative")
    (p := fun g =>
      let w := (create g .default (.repeating #[])).played [.start]
      let v := (Deed.move 0 (.choose "k")).after w
      let u := (Deed.move 0 (.choose "k")).after v
      (act? 0 (.choose "k") w).any (fun x => (x.runIn w).1.toOption.isNone) &&
        w.state.score.same (.int 0) && v.state.score.same (.int 5) &&
          u.state.score.same (.int 10) && w.state.answers.length != v.state.answers.length)
    (by decide +kernel)
  simp only [Bool.and_eq_true, bne_iff_ne] at hplay
  obtain ⟨⟨⟨⟨hact, hbefore⟩, honce⟩, htwice⟩, hanswers⟩ := hplay
  obtain ⟨x, hx, hfault⟩ := (Option.any_eq_true ..).1 hact
  refine ⟨g, hg, ⟨x, ?_⟩, hbefore, honce, htwice, fun h => hanswers ?_⟩
  · cases hrun : (x.runIn ((create g .default (.repeating #[])).played [.start])).1 with
    | error f => exact ⟨f, hx, rfl⟩
    | ok a => simp [hrun, Except.toOption] at hfault
  · exact (congrArg (fun b => b.answers.length) h).symm

end Session

end LearningGame.Play
