import LearningGame.Proofs.Play.Dice
import LearningGame.Proofs.Play.Nesting
import LearningGame.Proofs.Play.Settling
import LearningGame.Proofs.Play.Unheard

/-!
# Where a section leads when it is begun

Of all that a section does when it is begun, only the end of a section in which there is nothing to
be played and the actions of the first scene of a story can lead to another section. They lead where
the standing of the session tells. Once another section has been begun, the one from which it was
begun is not heard any more, and so leads nowhere.
-/

namespace LearningGame.Play

open Content Schema Rules Act

lemma QuizSitting.isEmpty_create (c : Setting) (quiz : Quiz) (started : Float) (dice : Dice) :
    (StateT.run (create c quiz started) dice).1.questions.isEmpty = quiz.questions.isEmpty := by
  unfold create
  split_ifs
  · exact (Dice.perm_shuffle _ dice).isEmpty_eq
  · rfl

lemma FlashcardSitting.isEmpty_create (c : Setting) (deck : Flashcards) (started : Float)
    (dice : Dice) :
    (StateT.run (create c deck started) dice).1.cards.isEmpty = deck.cards.isEmpty := by
  unfold create
  split_ifs
  · exact (Dice.perm_shuffle _ dice).isEmpty_eq
  · rfl

/-- What a script computes goes on only for some time, also when it is not heard. -/
lemma Script.unheard_of_computes {σ α ρ : Type} {o : Outlook} {handle : Request → ρ → ρ}
    {x : Script σ α} (hx : x.Computes) {s : σ} {t : ρ} :
    x.Unheard o handle (fun r _ _ => Bounded r) s t := by
  induction x generalizing s t with
  | done a => exact .ok a
  | fail e => exact fun h => hx (by cases h; rfl)
  | get next ih => exact ih s (hx s)
  | put u next ih => exact ih hx
  | ask r next ih => exact fun a _ => ih a (hx a)

lemma NarrativeSitting.computes_act (c : Setting) (scene : Scene) (a : SceneAction) (place : Nat) :
    (act c scene a place).Computes := by
  unfold act
  split
  · exact Script.computes_bind (Script.computes_lift (Value.bounded_toKey _)) fun _ _ => trivial
  · exact Script.computes_bind (Script.computes_lift (bounded_pointsOf _)) fun _ _ => trivial
  all_goals exact fun _ => trivial

namespace Session

/-- A session in which the section in a seat is heard. -/
structure Attended (g : Game) (seat : Seat) (w : Session) : Prop extends Underway g w where
  heard : seat.epochs.current w.table.registry.epochs .ofSection = true

/-- A way to begin sections, by which so many are begun one from within the other before that is
broken off, and which leaves the old section behind. -/
structure Nests (g : Game) (n : Nat) (activate : Act Session Unit) : Prop where
  endless : ∀ {w}, Underway g w →
    ((activate.runIn w).1 = .error .endless ↔ (Standing.chain g n w.standing).isSome = true)
  later : ∀ {w v}, activate.runIn w = (.ok (), v) → w.epochs.sections < v.epochs.sections

variable {g : Game} {n : Nat} {w : Session} {activate : Act Session Unit} {index : Nat}
  {seat : Seat}

namespace Nests

variable (h : Nests g n activate)

include h

/-- To complete a section goes on without end if the section to which that leads does. -/
lemma completeBy_eq_endless (hw : Underway g w) (id : String) :
    ((completeBy activate id).runIn w).1 = .error .endless ↔
      ((w.standing.complete? g id).bind (Standing.chain g n)).isSome = true := by
  rcases completeBy_spec hw id with ⟨hnone, x, v, hends, hrun⟩ | ⟨next, v, hsome, hv, rfl, hrun⟩
  · rw [hrun activate, hnone]
    exact iff_of_false (hends v) (by simp)
  · rw [hrun activate, hsome, Option.bind_some, ← h.endless hv, runIn_bind_pure_eq_error]

/-- So it is with navigating. -/
lemma navigateBy_eq_endless (hw : Underway g w) (id : String) :
    ((navigateBy activate id).runIn w).1 = .error .endless ↔
      ((w.standing.navigate? g id).bind (Standing.chain g n)).isSome = true := by
  rcases navigateBy_spec hw id with ⟨hnone, table, -, hrun⟩ | ⟨next, v, hsome, hv, rfl, -, hrun⟩
  · rw [hrun activate, hnone]
    simp
  · rw [hrun activate, hsome, Option.bind_some, ← h.endless hv, runIn_bind_pure_eq_error]

end Nests

/-! ### Requests -/

namespace Attended

variable (hw : Attended g seat w)

include hw

lemma runIn_heard {α : Type} (operation : String) (refused : α) (x : Act Session α) :
    (Session.heard seat operation refused x).runIn w = x.runIn w := by
  rw [Session.heard, runIn_get_bind, if_pos hw.heard]

/-- The notes are none of what a standing tells. -/
lemma of_notes {table : Table SessionAlarm} (htable : table.registry = w.table.registry) :
    Attended g seat { w with table } :=
  ⟨⟨hw.game, hw.playing, hw.streak⟩, by
    show seat.epochs.current table.registry.epochs .ofSection = true
    exact htable ▸ hw.heard⟩

/-- Neither are variables and items. -/
lemma runIn_change (operation : String) (f : GameState → GameState)
    (hcourse : (f w.state).course = w.state.course) (hscore : (f w.state).score = w.state.score)
    (hstreak : (f w.state).streak = w.state.streak) :
    ∃ v, Attended g seat v ∧ v.standing = w.standing ∧
      (Session.heard seat operation () (whilePlaying operation () (change f))).runIn w =
        (.ok (), v) := by
  refine ⟨{ w with state := f w.state }, ⟨⟨hw.game, hw.playing, ?_⟩, hw.heard⟩, ?_, ?_⟩
  · show 0 ≤ (f w.state).streak
    exact hstreak ▸ hw.streak
  · refine Standing.ext (congrArg Course.sectionId hcourse) (congrArg Course.completed hcourse)
      ?_ ?_ (congrArg Course.isComplete hcourse)
    · simp only [standing, hstreak]
    · simp only [standing, hscore]
  · rw [hw.runIn_heard, runIn_whilePlaying hw.playing]
    rfl

end Attended

/-- What comes of a script is what a turn tells: the section goes on, another one is begun, or all
is broken off. -/
def Tells {σ : Type} (g : Game) (activate : Act Session Unit) (seat : Seat) (s : σ) (turn : Turn)
    (out : Except Fault Unit × σ × Session) : Prop :=
  match turn with
  | .stays st => ∃ v, Attended g seat v ∧ v.standing = st ∧ out = (.ok (), s, v)
  | .leads st => ∃ v, Attended g seat v ∧ v.standing = st ∧
      out = ((activate.runIn v).1, s, (activate.runIn v).2)
  | .fails => ∃ e v, e ≠ .endless ∧ out = (.error e, s, v)

section

variable {σ : Type} (s : σ)

/-- What is asked leaves a standing as it is, if the answer does. -/
lemma tells_ask_of_ok {r : Request} {x : r.Reply} {v : Session} (hv : Attended g seat v)
    (hstanding : v.standing = w.standing)
    (hreply : (reply activate index seat r).runIn w = (.ok x, v)) :
    Tells g activate seat s (.stays w.standing)
      ((Script.ask r fun _ => .done ()).run (reply activate index seat) s w) := by
  refine ⟨v, hv, hstanding, ?_⟩
  rw [Script.run, hreply]
  rfl

lemma tells_fail {e : Fault} (he : e ≠ .endless) :
    Tells g activate seat s .fails
      ((Script.fail e : Script σ Unit).run (reply activate index seat) s w) :=
  ⟨e, w, he, rfl⟩

variable (hw : Attended g seat w)

include hw

lemma tells_warn (message : String) :
    Tells g activate seat s (.stays w.standing)
      ((Script.warn message).run (reply activate index seat) s w) := by
  have hv : Attended g seat (Table.write ⟨.warning, seat.setting.source, message⟩ w) :=
    hw.of_notes rfl
  exact ⟨_, hv, rfl, rfl⟩

lemma tells_updateVariables (patch : Fields) :
    Tells g activate seat s (.stays w.standing)
      ((Script.updateVariables patch).run (reply activate index seat) s w) := by
  obtain ⟨v, hv, hstanding, hrun⟩ := hw.runIn_change "update_variables"
    (fun s => { s with vars := s.vars.putAll patch }) rfl rfl rfl
  exact tells_ask_of_ok s hv hstanding hrun

lemma tells_addItem (item : String) :
    Tells g activate seat s (.stays w.standing)
      ((Script.addItem item).run (reply activate index seat) s w) := by
  obtain ⟨v, hv, hstanding, hrun⟩ := hw.runIn_change "add_item"
    (fun s =>
      if s.inventory.contains item then s else { s with inventory := s.inventory ++ [item] })
    (by split_ifs <;> rfl) (by split_ifs <;> rfl) (by split_ifs <;> rfl)
  exact tells_ask_of_ok s hv hstanding hrun

lemma tells_removeItem (item : String) :
    Tells g activate seat s (.stays w.standing)
      ((Script.removeItem item).run (reply activate index seat) s w) := by
  obtain ⟨v, hv, hstanding, hrun⟩ := hw.runIn_change "remove_item"
    (fun s => { s with inventory := s.inventory.erase item }) rfl rfl rfl
  exact tells_ask_of_ok s hv hstanding hrun

/-- A correct answer is entered, or its points cannot be computed. -/
lemma tells_report (itemId : String) (given : Value) (points time : Int) :
    Tells g activate seat s
      (match w.standing.credit? g points with
        | some st => .stays st
        | none => .fails)
      ((Script.report itemId given true points time).run (reply activate index seat) s w) := by
  let x : Submission := ⟨seat.setting.sectionId, itemId, given, true, .int points, .int time⟩
  have hreply : (reply activate index seat (.report itemId given true points time)).runIn w =
      (submitAnswer x >>= fun _ => pure ()).runIn w := hw.runIn_heard "submit_answer" () _
  rw [Script.report, Script.run, hreply, runIn_bind]
  rcases submitAnswer_spec hw.toUnderway x rfl rfl with
    ⟨hnone, e, v, he, hrun⟩ | ⟨next, r, v, hsome, hv, rfl, hregistry, hrun⟩
  · rw [hnone, hrun]
    exact ⟨e, v, he, rfl⟩
  · rw [hsome, hrun]
    exact ⟨v, ⟨hv, hregistry ▸ hw.heard⟩, rfl, rfl⟩

/-- One navigates to a section that there is. -/
lemma tells_navigate (id : String) :
    Tells g activate seat s
      (match w.standing.navigate? g id with
        | some st => .leads st
        | none => .stays w.standing)
      ((Script.navigate id).run (reply activate index seat) s w) := by
  have hreply : (reply activate index seat (.navigate id)).runIn w =
      (navigateBy activate id >>= fun _ => pure ()).runIn w :=
    hw.runIn_heard "navigate_to_section" () _
  rw [Script.navigate, Script.run, hreply, runIn_bind]
  rcases navigateBy_spec hw.toUnderway id with
    ⟨hnone, table, htable, hrun⟩ | ⟨next, v, hsome, hv, rfl, hregistry, hrun⟩
  · rw [hnone, hrun]
    exact ⟨_, hw.of_notes htable, rfl, rfl⟩
  · rw [hsome, hrun, runIn_bind]
    refine ⟨v, ⟨hv, hregistry ▸ hw.heard⟩, rfl, ?_⟩
    cases activate.runIn v with
    | mk r u => cases r <;> rfl

/-! ### Scenes -/

/-- An action of a scene leads where the standing tells. -/
lemma tells_act (scene : Scene) (a : SceneAction) (place : Nat) (s : NarrativeSitting) :
    Tells g activate seat s (w.standing.act g a)
      ((NarrativeSitting.act seat.setting scene a place).run (reply activate index seat) s w) := by
  unfold NarrativeSitting.act
  dsimp only
  split
  case h_1 hkind =>
    simp only [Standing.act, hkind, SceneAction.field]
    cases hname : ((a.payload.lookup "variable").getD .null).toKey with
    | ok name => exact tells_updateVariables s hw _
    | error e =>
      refine tells_fail s fun he => ?_
      exact Value.bounded_toKey _ (hname.trans (he ▸ rfl))
  case h_2 hkind =>
    simp only [Standing.act, hkind, SceneAction.field]
    cases hpoints : NarrativeSitting.pointsOf ((a.payload.lookup "points").getD .null) with
    | ok points => exact tells_report s hw _ _ _ _
    | error e =>
      refine tells_fail s fun he => ?_
      exact NarrativeSitting.bounded_pointsOf _ (hpoints.trans (he ▸ rfl))
  case h_3 hkind =>
    simp only [Standing.act, hkind]
    exact tells_addItem s hw _
  case h_4 hkind =>
    simp only [Standing.act, hkind]
    exact tells_removeItem s hw _
  case h_5 hkind =>
    simp only [Standing.act, hkind]
    exact tells_navigate s hw _
  case h_6 =>
    simp only [Standing.act]
    exact tells_warn s hw _

end

/-! ### Sections in which there is nothing -/

/-- All that comes of a script is that the section is completed. -/
def Completes {σ : Type} (g : Game) (index : Nat) (seat : Seat) (x : Script σ Unit) (s : σ)
    (w : Session) : Prop :=
  ∃ v t, Attended g seat v ∧ v.standing = w.standing ∧
    ∀ activate, x.run (reply activate index seat) s w =
      let out := (completeBy activate seat.setting.sectionId).runIn v
      (out.1.map fun _ => (), t, out.2)

lemma Completes.embed {σ τ : Type} {x : Script σ Unit} {s : σ}
    (hx : Completes g index seat x s w) (into : σ → τ) :
    Completes g index seat (x.embed into s) (into s) w := by
  obtain ⟨v, t, hv, hstanding, hrun⟩ := hx
  refine ⟨v, into t, hv, hstanding, fun activate => ?_⟩
  rw [Script.run_embed, hrun]

lemma Completes.state_bind {σ : Type} {f : σ → Script σ Unit} {s : σ}
    (hx : Completes g index seat (f s) s w) :
    Completes g index seat (Script.state >>= f) s w := hx

/-- A section that is not finished yet is completed. -/
lemma Attended.completes {σ : Type} [Seated σ] (hw : Attended g seat w) (message : String) {s : σ}
    (hs : (Seated.sitting s).completed = false) :
    Completes g index seat (Script.warn message >>= fun _ => seat.setting.complete) s w := by
  let v : Session := Table.write ⟨.warning, seat.setting.source, message⟩ w
  have hv : Attended g seat v := hw.of_notes rfl
  let t : σ := Seated.seat s { Seated.sitting s with completed := true }
  refine ⟨v, t, hv, rfl, fun activate => ?_⟩
  have hreply : (reply activate index seat .complete).runIn v =
      (completeBy activate seat.setting.sectionId >>= fun _ => pure ()).runIn v :=
    hv.runIn_heard "complete_section" () _
  have hrun : (Script.warn message >>= fun _ => seat.setting.complete).run
      (reply activate index seat) s w = Script.reportEnd.run (reply activate index seat) t v := by
    show Script.run _ (if _ then _ else _) s v = _
    rw [if_neg (by simp [hs])]
    rfl
  rw [hrun, Script.reportEnd, Script.run, hreply, runIn_bind]
  rcases (completeBy activate seat.setting.sectionId).runIn v with ⟨_ | _, u⟩ <;> rfl

/-- So is one in which there is nothing. -/
lemma Attended.completes_of_void {σ : Type} [Seated σ] (hw : Attended g seat w) {message : String}
    {rest : Script σ Unit} {s : σ} {isVoid : Bool} (hvoid : isVoid = true)
    (hs : (Seated.sitting s).completed = false) :
    Completes g index seat
      (if isVoid then Script.warn message >>= fun _ => seat.setting.complete else rest) s w := by
  rw [if_pos hvoid]
  exact hw.completes message hs

end Session

namespace Player.SitsDown

open Session

variable {c : Setting} {content : SectionContent} {player : Player}

/-- A section in which there is nothing to be played is completed when it is begun. -/
lemma completes_enter {g : Game} {index : Nat} {seat : Seat} {w : Session}
    (hplayer : player.SitsDown seat.setting content) (hkind : content.kind = seat.setting.kind)
    (hvoid : content.isVoid = true) (hw : Attended g seat w) :
    Completes g index seat (player.enter seat.setting) player w := by
  obtain ⟨started, dice, after, hsit⟩ := hplayer
  unfold Player.sitDown at hsit
  rw [← hkind] at hsit
  cases content with
  | quiz x =>
    obtain rfl := Except.ok.inj (congrArg Prod.fst hsit)
    rw [SectionContent.isVoid, ← QuizSitting.isEmpty_create seat.setting x started dice] at hvoid
    refine Completes.embed ?_ Player.quiz
    refine Completes.state_bind ?_
    exact hw.completes_of_void hvoid (QuizSitting.completed_create ..)
  | flashcards x =>
    obtain rfl := Except.ok.inj (congrArg Prod.fst hsit)
    rw [SectionContent.isVoid, ← FlashcardSitting.isEmpty_create seat.setting x started dice]
      at hvoid
    refine Completes.embed ?_ Player.flashcards
    refine Completes.state_bind ?_
    exact hw.completes_of_void hvoid (FlashcardSitting.completed_create ..)
  | matching x =>
    obtain rfl := Except.ok.inj (congrArg Prod.fst hsit)
    refine Completes.embed ?_ Player.matching
    refine Completes.state_bind ?_
    exact hw.completes_of_void hvoid rfl
  | narrative x =>
    obtain rfl := Except.ok.inj (congrArg Prod.fst hsit)
    have hfind : (NarrativeSitting.create x started).scenes.find? x.startScene = none :=
      Option.isNone_iff_eq_none.1 hvoid
    refine Completes.embed ?_ Player.narrative
    refine Completes.state_bind ?_
    refine Completes.state_bind ?_
    have hnone : (NarrativeSitting.create x started).scenes.find?
        (NarrativeSitting.create x started).sceneId = none := hfind
    rw [hnone]
    exact hw.completes _ rfl
  | exploration x =>
    obtain rfl := Except.ok.inj (congrArg Prod.fst hsit)
    have hnowhere : ¬(ExplorationSitting.create x started).locations.has
        (ExplorationSitting.create x started).position = true := by
      rw [SectionContent.isVoid, Bool.not_eq_true'] at hvoid
      rw [Bool.not_eq_true]
      exact hvoid
    refine Completes.embed ?_ Player.exploration
    refine Completes.state_bind ?_
    rw [if_neg hnowhere]
    exact hw.completes _ rfl
  | challenge | sorting | simulation | info => cases hvoid

/-- A section in which there is something to be played is a story, which does the actions of its
first scene when it is begun, or leads nowhere. -/
lemma enter_spec (hplayer : player.SitsDown c content) (hkind : content.kind = c.kind)
    (hvoid : content.isVoid = false) :
    (∃ x scene started, content = .narrative x ∧ x.first? = some scene ∧
        player = .narrative (.create x started)) ∨
      (content.opening = [] ∧ (player.enter c).Settles) := by
  obtain ⟨started, dice, after, hsit⟩ := hplayer
  unfold Player.sitDown at hsit
  rw [← hkind] at hsit
  cases content with
  | quiz x =>
    obtain rfl := Except.ok.inj (congrArg Prod.fst hsit)
    rw [SectionContent.isVoid, ← QuizSitting.isEmpty_create c x started dice] at hvoid
    refine .inr ⟨rfl, ?_⟩
    show Script.Settles (Script.embed Player.quiz (if _ then _ else _) _)
    exact Script.settles_embed (Script.settles_of_not_void hvoid (QuizSitting.settles_ask c)) _ _
  | flashcards x =>
    obtain rfl := Except.ok.inj (congrArg Prod.fst hsit)
    rw [SectionContent.isVoid, ← FlashcardSitting.isEmpty_create c x started dice] at hvoid
    refine .inr ⟨rfl, ?_⟩
    show Script.Settles (Script.embed Player.flashcards (if _ then _ else _) _)
    exact Script.settles_embed (Script.settles_of_not_void hvoid (Script.settles_pure _)) _ _
  | matching x =>
    obtain rfl := Except.ok.inj (congrArg Prod.fst hsit)
    refine .inr ⟨rfl, ?_⟩
    show Script.Settles (Script.embed Player.matching (if _ then _ else _) _)
    refine Script.settles_embed (Script.settles_of_not_void hvoid ?_) _ _
    dsimp only
    split_ifs
    · exact Script.settles_ask (by trivial) _
    · exact Script.settles_pure _
  | narrative x =>
    obtain rfl := Except.ok.inj (congrArg Prod.fst hsit)
    obtain ⟨scene, hfirst⟩ := Option.isSome_iff_exists.1 (Option.isNone_eq_false_iff.1 hvoid)
    exact .inl ⟨x, scene, started, rfl, hfirst, rfl⟩
  | exploration x =>
    obtain rfl := Except.ok.inj (congrArg Prod.fst hsit)
    have hhas : (ExplorationSitting.create x started).locations.has
        (ExplorationSitting.create x started).position = true := by
      rw [SectionContent.isVoid, Bool.not_eq_false'] at hvoid
      exact hvoid
    refine .inr ⟨rfl, ?_⟩
    show Script.Settles (Script.embed Player.exploration (if _ then _ else _) _)
    rw [if_pos hhas]
    refine Script.settles_embed ?_ _ _
    split_ifs
    · exact ExplorationSitting.settles_arrive _
    · exact Script.settles_bind (Script.settles_setState _) fun _ =>
        ExplorationSitting.settles_arrive _
  | challenge x =>
    obtain rfl := Except.ok.inj (congrArg Prod.fst hsit)
    exact .inr ⟨rfl, Script.settles_embed (ChallengeSitting.settles_enter c) _ _⟩
  | sorting x | simulation x | info x =>
    obtain rfl := Except.ok.inj (congrArg Prod.fst hsit)
    exact .inr ⟨rfl, Script.settles_pure _⟩

end Player.SitsDown

namespace Session

variable {g : Game} {n : Nat} {w : Session} {activate : Act Session Unit} {index : Nat}
  {seat : Seat}

/-! ### Sections that are begun -/

lemma Attended.sections_eq (hw : Attended g seat w) :
    seat.epochs.sections = w.epochs.sections := by
  have hheard := hw.heard
  simp only [Epochs.current, Bool.and_eq_true, beq_iff_eq] at hheard
  exact hheard.2

/-- A section that has been left leads nowhere any more. -/
lemma bounded_run_of_left {σ α : Type} {x : Script σ α} (hx : x.Computes)
    (hleft : seat.epochs.sections < w.epochs.sections) (s : σ) :
    Bounded (x.run (reply activate index seat) s w).1 :=
  run_unheard (Q := fun r _ _ => Bounded r) hleft (Script.unheard_of_computes hx)

namespace Nests

variable (h : Nests g n activate) (hw : Attended g seat w)

include h hw

/-- The actions of a scene go on without end if the section to which they lead does. -/
lemma acts_eq_endless (scene : Scene) (actions : List (SceneAction × Nat)) (s : NarrativeSitting) :
    ((Script.forEach (fun a => NarrativeSitting.act seat.setting scene a.1 a.2) actions).run
        (reply activate index seat) s w).1 = .error .endless ↔
      ((w.standing.actAll g (actions.map Prod.fst)).bind (Standing.chain g n)).isSome = true := by
  induction actions generalizing w with
  | nil => exact iff_of_false nofun nofun
  | cons a rest ih =>
    have htells : Tells g activate seat s (w.standing.act g a.1)
        ((NarrativeSitting.act seat.setting scene a.1 a.2).run (reply activate index seat) s w) :=
      tells_act hw scene a.1 a.2 s
    rw [Script.forEach, Script.run_bind, List.map_cons, Standing.actAll]
    cases hturn : w.standing.act g a.1 with
    | stays st =>
      obtain ⟨v, hv, rfl, hout⟩ := hturn ▸ htells
      rw [hout]
      exact ih hv
    | leads st =>
      -- Another section has been begun, and no action that is left is heard.
      obtain ⟨v, hv, rfl, hout⟩ := hturn ▸ htells
      rw [hout, Option.bind_some, ← h.endless hv.toUnderway]
      cases hrun : activate.runIn v with
      | mk r u =>
        cases r with
        | error e => exact Iff.rfl
        | ok _ =>
          have hleft : seat.epochs.sections < u.epochs.sections := hv.sections_eq ▸ h.later hrun
          refine iff_of_false (bounded_run_of_left ?_ hleft s) nofun
          exact Script.computes_forEach (fun a => NarrativeSitting.computes_act ..) rest
    | fails =>
      obtain ⟨e, v, he, hout⟩ := hturn ▸ htells
      rw [hout]
      exact iff_of_false (fun heq => he (by cases heq; rfl)) nofun

/-- A story leads where the actions of its first scene lead. -/
lemma narrative_eq_endless {x : Narrative} {scene : Scene} (hfirst : x.first? = some scene)
    (started : Float) :
    ((NarrativeSitting.enter seat.setting).run (reply activate index seat)
        (.create x started) w).1 = .error .endless ↔
      ((w.standing.actAll g scene.actions).bind (Standing.chain g n)).isSome = true := by
  let s : NarrativeSitting := NarrativeSitting.create x started
  let entered : NarrativeSitting :=
    { s with
      sceneId := x.startScene, history := [x.startScene], typing := scene.text != ""
      started := w.clock }
  have hrun : (NarrativeSitting.enter seat.setting).run (reply activate index seat) s w =
      (Script.forEach (fun a => NarrativeSitting.act seat.setting scene a.1 a.2)
        scene.actions.zipIdx).run (reply activate index seat) entered w := by
    have hfind : s.scenes.find? x.startScene = some scene := hfirst
    show (NarrativeSitting.enterScene seat.setting x.startScene).run _ s w = _
    rw [NarrativeSitting.enterScene, Script.run_state_bind, hfind]
    rfl
  rw [hrun, h.acts_eq_endless hw, List.zipIdx_map_fst]

omit hw in
/-- To begin a section that is completed at once goes on without end if completing it does. -/
lemma completes_eq_endless {σ : Type} {x : Script σ Unit} {s : σ}
    (hx : Completes g index seat x s w) :
    (x.run (reply activate index seat) s w).1 = .error .endless ↔
      ((w.standing.complete? g seat.setting.sectionId).bind
        (Standing.chain g n)).isSome = true := by
  obtain ⟨v, t, hv, hstanding, hrun⟩ := hx
  rw [hrun, ← hstanding, ← h.completeBy_eq_endless hv.toUnderway]
  dsimp only
  cases ((completeBy activate seat.setting.sectionId).runIn v).1 with
  | ok _ => exact iff_of_false nofun nofun
  | error e => exact ⟨fun heq => by cases heq; rfl, fun heq => by cases heq; rfl⟩

/-- Where a section that is begun leads is where the standing leads. -/
lemma enter_eq_endless {content : SectionContent} {player : Player}
    (hplayer : player.SitsDown seat.setting content) (hkind : content.kind = seat.setting.kind) :
    ((player.enter seat.setting).run (reply activate index seat) player w).1 = .error .endless ↔
      ((if content.isVoid then w.standing.complete? g seat.setting.sectionId
        else w.standing.actAll g content.opening).bind (Standing.chain g n)).isSome = true := by
  by_cases hvoid : content.isVoid = true
  · rw [if_pos hvoid]
    exact h.completes_eq_endless (hplayer.completes_enter hkind hvoid hw)
  rw [if_neg hvoid]
  rw [Bool.not_eq_true] at hvoid
  rcases hplayer.enter_spec hkind hvoid with
    ⟨x, scene, started, rfl, hfirst, rfl⟩ | ⟨hopening, hsettles⟩
  · rw [Player.enter, Script.run_embed, SectionContent.opening, hfirst]
    exact h.narrative_eq_endless hw hfirst started
  · rw [hopening]
    exact iff_of_false (hsettles.bounded activate index seat player w) nofun

end Nests

end Session

end LearningGame.Play
