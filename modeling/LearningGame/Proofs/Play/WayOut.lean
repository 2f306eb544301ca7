import LearningGame.Proofs.Play.Deeds
import LearningGame.Proofs.Play.Step

/-!
# Ways out of a scene

Whoever is in a story that is not over is in one of its scenes, and gets out of it by a choice that
is open, on to the next scene, or to the end of the story. A scene that leads nowhere of itself and
that has choices, none of which is open, has no way out.
-/

namespace LearningGame.Play

open Content Schema Rules Act Script

instance : Request.Everyday fun _ => True := by
  constructor <;> intros <;> trivial

instance : Request.Timed fun _ => True := by
  constructor <;> intros <;> trivial

namespace NarrativeSitting

variable {ω : Type} (answer : (r : Request) → Act ω r.Reply) (c : Setting)

/-! ### Where a story is -/

/-- The story is over, or the player is in one of its scenes. -/
def IsPlaced (s : NarrativeSitting) : Prop := s.completed = true ∨ s.current?.isSome = true

/-- The player has come from a state of a story into the scene with an id. -/
structure HasEntered (s : NarrativeSitting) (id : String) (t : NarrativeSitting) : Prop where
  scenes : t.scenes = s.scenes
  completed : t.completed = s.completed
  sceneId : t.sceneId = id
  history : t.history = s.history ++ [id]

/-- A story that is finished is over, also if the end is not taken note of. -/
lemma completed_complete (s : NarrativeSitting) (w : ω) :
    ((c.complete : Script NarrativeSitting Unit).run answer s w).2.1.completed = true := by
  have hrun : (c.complete : Script NarrativeSitting Unit).run answer s w =
      (if s.completed then Script.warn ("Section '" ++ c.sectionId ++ "' already completed")
        else .put { s with completed := true } Script.reportEnd : Script NarrativeSitting Unit).run
          answer s w := rfl
  rw [hrun]
  split_ifs with hcompleted
  · rw [Script.warn, Script.note, run_ask]
    exact hcompleted
  · rw [run_put, Script.reportEnd, run_ask]

variable (hnote : ∀ level message w, ((answer (.note level message)).runIn w).1 = .ok ())

include hnote

lemma run_warn (message : String) (s : NarrativeSitting) (w : ω) :
    ∃ v, (Script.warn message).run answer s w = (.ok (), s, v) := by
  refine ⟨((answer (.note .warning message)).runIn w).2, ?_⟩
  have hok : (answer (.note .warning message)).runIn w =
      (.ok (), ((answer (.note .warning message)).runIn w).2) :=
    Prod.ext (hnote .warning message w) rfl
  rw [Script.warn, Script.note, Script.run, hok]
  rfl

/-- Where there is a scene it is entered, whatever comes of its actions; where there is none the
story is over. -/
lemma enterScene_spec (id : String) (s : NarrativeSitting) (w : ω) :
    (s.scenes.find? id = none ∧ ((enterScene c id).run answer s w).2.1.completed = true) ∨
      ((s.scenes.find? id).isSome = true ∧
        s.HasEntered id ((enterScene c id).run answer s w).2.1) := by
  rw [enterScene, Script.run_state_bind]
  cases hscene : s.scenes.find? id with
  | none =>
    refine .inl ⟨rfl, ?_⟩
    obtain ⟨v, hv⟩ := run_warn answer hnote ("Scene '" ++ id ++ "' not found; ending narrative") s w
    dsimp only
    rw [run_bind, hv]
    exact completed_complete answer c s v
  | some scene =>
    refine .inr ⟨rfl, ?_⟩
    -- nothing that is done after the scene has been entered leads out of it
    have hminds : (do
        Setting.startClock
        Script.forEach (fun a => act c scene a.1 a.2) scene.actions.zipIdx :
          Script NarrativeSitting Unit).Minds (s.HasEntered id) fun _ => True :=
      minds_bind (minds_request_bind fun _ => minds_change fun t ht => ⟨ht.1, ht.2, ht.3, ht.4⟩)
        fun _ => minds_forEach fun a _ => minds_act c scene a.1 a.2 fun _ _ _ => trivial
    have hentered : s.HasEntered id
        { s with sceneId := id, history := s.history ++ [id], typing := scene.text != "" } :=
      ⟨rfl, rfl, rfl, rfl⟩
    exact (run_minds (I := fun _ => True) (fun _ _ _ _ => trivial) hminds hentered trivial).1

omit hnote

/-! ### Going on -/

/-- The player has got out of a state of a story: to its end, or into a scene. -/
def Moves (s t : NarrativeSitting) : Prop := t.completed = true ∨ ∃ id, s.HasEntered id t

lemma not_moves_self {s : NarrativeSitting} (hs : s.completed = false) : ¬s.Moves s := by
  rintro (hover | ⟨id, h⟩)
  · simp [hs] at hover
  · simpa using congrArg List.length h.history

/-- The answer that is reported at an ending. -/
def endingAnswer (scene : Scene) : Script NarrativeSitting Unit :=
  let success := scene.ending == some .success
  Setting.answer scene.id (optionalText (scene.ending.map Named.name)) success
    (if success then c.pointsPerCorrect * endingMultiplier else 0)

/-- A scene leads on of itself: to the end of the story if it is an ending whose answer is taken, to
the next scene if it names one, and to the end if it has no choices at all. -/
def LeadsOn (s : NarrativeSitting) (w : ω) (scene : Scene) : Prop :=
  if scene.isEnding then ((endingAnswer c scene).run answer s w).1 = .ok ()
  else scene.nextScene.getD "" ≠ "" ∨ scene.choices = []

include hnote

/-- One gets out of a scene by going on just if the scene leads on. -/
lemma moves_goOn_iff {s : NarrativeSitting} (hs : s.completed = false) {scene : Scene}
    (hscene : s.current? = some scene) (w : ω) :
    s.Moves ((goOn c).run answer s w).2.1 ↔ LeadsOn answer c s w scene := by
  have hrun : (goOn c).run answer s w =
      (if scene.isEnding then endingAnswer c scene >>= fun _ => c.complete
        else if scene.nextScene.getD "" != "" then enterScene c (scene.nextScene.getD "")
        else if !scene.choices.isEmpty then
          Script.warn ("Scene '" ++ scene.id ++ "' requires a choice")
        else do
          Script.warn ("Scene '" ++ scene.id ++ "' is a dead end; ending narrative")
          c.complete).run answer s w := by
    show Script.run answer (if s.completed = true then _ else _) s w = _
    rw [if_neg (by simp [hs]), Script.run_state_bind, hscene]
    rfl
  rw [hrun, LeadsOn]
  split_ifs with hending hnext hchoices
  · -- an answer that is not taken leaves the player where the story was about to end
    have hminds : (endingAnswer c scene).Minds (· = s) fun _ => True := Setting.minds_answer ..
    have hstate : ((endingAnswer c scene).run answer s w).2.1 = s :=
      (run_minds (I := fun _ => True) (fun _ _ _ _ => trivial) hminds rfl trivial).1
    rw [run_bind]
    rcases hanswer : (endingAnswer c scene).run answer s w with ⟨_ | _, t, v⟩
    · rw [hanswer] at hstate
      simp [show t = s from hstate, not_moves_self hs]
    · exact iff_of_true (.inl (completed_complete answer c t v)) rfl
  · have hne : scene.nextScene.getD "" ≠ "" := by simpa using hnext
    refine iff_of_true ?_ (.inl hne)
    rcases enterScene_spec answer c hnote (scene.nextScene.getD "") s w with ⟨-, hover⟩ | ⟨-, h⟩
    · exact .inl hover
    · exact .inr ⟨_, h⟩
  · obtain ⟨v, hv⟩ := run_warn answer hnote
      ("Scene '" ++ scene.id ++ "' requires a choice") s w
    rw [hv]
    refine iff_of_false (not_moves_self hs) ?_
    simp_all
  · obtain ⟨v, hv⟩ := run_warn answer hnote
      ("Scene '" ++ scene.id ++ "' is a dead end; ending narrative") s w
    rw [run_bind, hv]
    exact iff_of_true (.inl (completed_complete answer c s v)) (.inr (by simpa using hchoices))

omit hnote

/-! ### Moves -/

section

variable {P : Request → Prop} [Request.Everyday P]

lemma minds_complete : (c.complete : Script NarrativeSitting Unit).Minds IsPlaced P := by
  refine minds_state_bind fun s _ => ?_
  split_ifs
  · exact minds_request _
  · exact minds_bind (minds_setState (.inl rfl)) fun _ => minds_request _

variable (hset : ∀ patch, P (.updateVariables patch))

include hset

lemma isPlaced_enterScene (id : String) : (enterScene c id).Minds IsPlaced P := by
  refine minds_state_bind fun s _ => ?_
  cases hscene : s.scenes.find? id with
  | none => exact minds_request_bind fun _ => minds_complete c
  | some scene =>
    have hplaced : IsPlaced
        { s with sceneId := id, history := s.history ++ [id], typing := scene.text != "" } :=
      .inr (by simp [current?, hscene])
    exact minds_bind (minds_setState hplaced) fun _ =>
      minds_bind (minds_request_bind fun _ => minds_change fun _ ht => ht) fun _ =>
        minds_forEach fun a _ => minds_act c scene a.1 a.2 fun _ _ _ => hset _

lemma isPlaced_choose (id : String) : (choose c id).Minds IsPlaced P := by
  refine c.minds_unlessCompleted _ _ (minds_request_bind fun _ =>
    minds_state_bind fun s _ => minds_bind (minds_lift _) fun choices => ?_)
  cases choices.find? (·.id == id) with
  | none => exact minds_request_bind fun _ => minds_pure _
  | some choice =>
    refine minds_bind (minds_bind Setting.minds_elapsed fun time => ?_) fun _ => minds_pure _
    exact minds_bind (minds_forEach fun e _ => minds_bringAbout _ choice time e) fun _ =>
      isPlaced_enterScene c hset _

lemma isPlaced_goOn : (goOn c).Minds IsPlaced P := by
  refine c.minds_unlessCompleted _ _ (minds_state_bind fun s _ => ?_)
  cases s.current? with
  | none => exact minds_pure _
  | some scene =>
    show Script.Minds _ _ (if _ then _ else _)
    split_ifs
    · exact minds_bind (Setting.minds_answer _ _ _ _) fun _ => minds_complete c
    · exact isPlaced_enterScene c hset _
    · exact minds_request _
    · exact minds_request_bind fun _ => minds_complete c

/-- A move leads from one scene to another, or to the end. -/
lemma isPlaced_move {m : Move} {x : Script NarrativeSitting Value}
    (h : Player.inNarrative c m = some x) : x.Minds IsPlaced P := by
  unfold Player.inNarrative at h
  split at h <;> cases h
  · exact minds_map _ (minds_change fun _ hs => hs)
  · exact minds_map _ (isPlaced_choose c hset _)
  · exact minds_map _ (isPlaced_goOn c hset)

end

end NarrativeSitting

/-- However the beginning of a section comes out, a story is over or in one of its scenes then. -/
lemma Player.isPlaced_enter {ω : Type} (answer : (r : Request) → Act ω r.Reply)
    (hnote : ∀ level message w, ((answer (.note level message)).runIn w).1 = .ok ())
    (c : Setting) (p : Player) (w : ω) :
    ((p.enter c).run answer p w).2.1.Narrates NarrativeSitting.IsPlaced := by
  cases p with
  | narrative s =>
    have hrun : (NarrativeSitting.enter c).run answer s w =
        (NarrativeSitting.enterScene c s.sceneId).run answer s w := rfl
    unfold enter
    rw [run_embed, hrun]
    rcases NarrativeSitting.enterScene_spec answer c hnote s.sceneId s w with
      ⟨-, hover⟩ | ⟨hscene, h⟩
    · exact .inl hover
    · refine .inr ?_
      show (NarrativeSitting.current? _).isSome = true
      rw [NarrativeSitting.current?, h.scenes, h.sceneId]
      exact hscene
  | quiz s | flashcards s | matching s | exploration s | challenge s =>
    unfold enter
    rw [run_embed]
    trivial
  | sorting s | simulation s | reading content s => trivial

namespace Session

/-! ### Stories in a session -/

/-- There are so many seats at least, and the stories in them are over or in one of their scenes,
but for those that are just being begun. -/
structure InScenes (beginning : Nat → Prop) (n : Nat) (w : Session) : Prop where
  le_length : n ≤ w.seats.length
  placed : ∀ i seat, ¬beginning i → w.seats[i]? = some seat →
    seat.player.Narrates NarrativeSitting.IsPlaced

variable {beginning : Nat → Prop} {n : Nat} {w : Session}

namespace InScenes

instance : Detached (InScenes beginning n) where
  of_same hw _ _ hseats := ⟨hseats ▸ hw.le_length, hseats ▸ hw.placed⟩

lemma putPlayer {index : Nat} {player : Player}
    (hw : InScenes (fun i => beginning i ∨ i = index) n w)
    (hplayer : player.Narrates NarrativeSitting.IsPlaced) :
    InScenes beginning n (putPlayer index player w) where
  le_length := by simpa [Session.putPlayer] using hw.le_length
  placed i seat hi hseat := by
    simp only [Session.putPlayer, List.getElem?_modify, Option.map_eq_map,
      Option.map_eq_some_iff] at hseat
    obtain ⟨before, hbefore, rfl⟩ := hseat
    split_ifs with hindex
    · exact hplayer
    · exact hw.placed i before (by simp [hi, Ne.symm hindex]) hbefore

/-- Where somebody sits down a section is being begun. -/
lemma seated (hw : InScenes beginning n w) (s : Section) (player : Player) (dice : Dice)
    (table : Table SessionAlarm) :
    InScenes (fun i => beginning i ∨ i = w.seats.length) n (w.seated s player dice table) where
  le_length := by
    have hle := hw.le_length
    simp only [Session.seated, List.length_append]
    omega
  placed i seat hi hseat := by
    rw [not_or] at hi
    simp only [Session.seated, List.getElem?_append] at hseat
    split_ifs at hseat with hlt
    · exact hw.placed i seat hi.1 hseat
    · have hlast : i - w.seats.length < 1 := (List.getElem?_eq_some_iff.1 hseat).1
      omega

lemma keeps_reply {activate : Act Session Unit} (hactivate : Keeps (InScenes beginning n) activate)
    (index : Nat) (seat : Seat) (r : Request) :
    Keeps (InScenes beginning n) (reply activate index seat r) :=
  Detached.keeps_reply hactivate index seat fun _ _ =>
    keeps_updateVariables fun _ hw => ⟨hw.1, hw.2⟩

lemma runIn_reply_note (activate : Act Session Unit) (index : Nat) (seat : Seat)
    (level : Log.Level) (message : String) (w : Session) :
    ((reply activate index seat (.note level message)).runIn w).1 = .ok () := rfl

/-- Beginning a section, and all that it leads on to. -/
lemma keeps_activateWithin (k : Nat) : Keeps (InScenes beginning n) (activateWithin k) := by
  induction k generalizing beginning with
  | zero => exact keeps_bind keeps_leaveSection fun _ => keeps_fault _
  | succ k ih =>
    intro w hw
    rcases activateWithin_spec k w with
      ⟨s, player, dice, table, -, -, -, hrun⟩ | ⟨r, table, -, -, -, hrun⟩
    · let seat : Seat :=
        ⟨Setting.ofSection w.game w.settings s, table.registry.epochs, player⟩
      have hseat : (w.seated s player dice table).seats[w.seats.length]? = some seat := by
        simp [Session.seated, seat]
      rw [hrun, runIn_perform _ hseat]
      have hafter := run_keeps (keeps_reply ih w.seats.length seat)
        (player.enter seat.setting) player (hw.seated s player dice table)
      exact hafter.putPlayer
        (Player.isPlaced_enter _ (runIn_reply_note _ _ _) seat.setting player _)
    · rw [hrun]
      exact ⟨hw.1, hw.2⟩

lemma keeps_activate : Keeps (InScenes beginning n) activate :=
  keeps_bind keeps_get fun _ => keeps_activateWithin _

/-- What is done in a section leads from scene to scene, or to the end. -/
lemma keeps_perform {α : Type} (index : Nat) {script : Setting → Player → Script Player α}
    (hscript : ∀ c p, p.Narrates NarrativeSitting.IsPlaced →
      (script c p).Minds (Player.Narrates NarrativeSitting.IsPlaced) fun _ => True) :
    Keeps (InScenes (fun _ => False) n) (perform activate index script) := by
  intro w hw
  cases hseat : w.seats[index]? with
  | none =>
    rw [perform, runIn_ofFun, hseat]
    exact hw
  | some seat =>
    have hplayer := hw.placed index seat id hseat
    obtain ⟨hafter, hv⟩ := run_minds (fun r _ => keeps_reply keeps_activate index seat r)
      (hscript seat.setting seat.player hplayer) hplayer hw
    rw [runIn_perform activate hseat]
    exact putPlayer ⟨hv.1, fun i seat hi => hv.2 i seat fun h => h⟩ hafter

lemma restart (hw : InScenes (fun _ => False) n w) :
    InScenes (fun _ => False) n (restart.runIn w).2 := by
  obtain ⟨table, -, hrun⟩ := restart_spec w
  rw [hrun]
  exact ⟨hw.1, hw.2⟩

lemma after (d : Deed) (hw : InScenes (fun _ => False) n w) :
    InScenes (fun _ => False) n (d.after w) := by
  refine Detached.after hw keeps_activate restart
    (fun _ _ => keeps_updateVariables fun _ hw => ⟨hw.1, hw.2⟩)
    (fun index alarm left => keeps_perform index fun _ p _ => Player.minds_tick alarm left p)
    (fun index alarm => keeps_perform index fun c p _ => Player.minds_expire c alarm p)
    fun index seat m script hseat hscript => keeps_perform index (fun _ _ _ => ?_) w hw
  have hplayer := hw.placed index seat id hseat
  exact Player.minds_act?_of seat.setting hplayer trivial
    (fun h => NarrativeSitting.isPlaced_move seat.setting (fun _ => trivial) h) hscript

lemma played (deeds : List Deed) (hw : InScenes (fun _ => False) n w) :
    InScenes (fun _ => False) n (w.played deeds) := by
  induction deeds generalizing w with
  | nil => exact hw
  | cons d rest ih => exact ih (hw.after d)

lemma create (g : Game) (settings : Settings) (dice : Dice) :
    InScenes (fun _ => False) 0 (create g settings dice) where
  le_length := Nat.zero_le _
  placed i seat _ hseat := by simp [Session.create] at hseat

end InScenes

/-! ### Getting out -/

/-- The player of the story in a seat can move: a choice is open, or going on leads into a scene or
to the end. -/
def CanMove (w : Session) (index : Nat) (s : NarrativeSitting) : Prop :=
  (∃ k rest, s.choices w.circumstances = .ok (k :: rest)) ∨
    ∃ seat t, ((Deed.move index .goOn).after w).seats[index]? = some seat ∧
      seat.player = .narrative t ∧ s.Moves t

/-- A story in any seat goes on just as its scene says. -/
lemma moves_goOn_after {index : Nat} {seat : Seat} {s : NarrativeSitting}
    (hseat : w.seats[index]? = some seat) (hs : seat.player = .narrative s) :
    ∃ after, ((Deed.move index .goOn).after w).seats[index]? = some after ∧
      after.player = .narrative
        ((NarrativeSitting.goOn seat.setting).run (reply activate index seat) s w).2.1 := by
  obtain ⟨setting, epochs, player⟩ := seat
  subst hs
  let answer := reply activate index ⟨setting, epochs, .narrative s⟩
  have hafter : (Deed.move index .goOn).after w =
      putPlayer index (.narrative ((NarrativeSitting.goOn setting).run answer s w).2.1)
        ((NarrativeSitting.goOn setting).run answer s w).2.2 := by
    simp only [Deed.after, act?, hseat, Option.bind_eq_bind, Option.bind_some, Player.act?,
      Player.inNarrative, Option.map_some, Option.pure_def, runIn_perform activate hseat, run_embed,
      run_map]
    rfl
  have hlength : index + 1 ≤ ((NarrativeSitting.goOn setting).run answer s w).2.2.seats.length :=
    (run_keeps (I := InScenes (fun _ => True) (index + 1))
      (InScenes.keeps_reply InScenes.keeps_activate index _) _ _
      ⟨(List.getElem?_eq_some_iff.1 hseat).1, fun _ _ h => absurd trivial h⟩).le_length
  rw [hafter]
  simp only [putPlayer, List.getElem?_modify_eq, List.getElem?_eq_getElem hlength]
  exact ⟨_, rfl, rfl⟩

/-- In every session that can come about, whoever is in a story that is not over is in one of its
scenes, and can move if and only if a choice is open there or the scene leads on of itself. -/
theorem canMove_of_played (g : Game) (settings : Settings) (dice : Dice) (deeds : List Deed) :
    let w := (create g settings dice).played deeds
    ∀ index seat s, w.seats[index]? = some seat → seat.player = .narrative s →
      s.completed = false → ∃ scene, s.current? = some scene ∧
        (w.CanMove index s ↔
          (∃ k rest, s.choices w.circumstances = .ok (k :: rest)) ∨
            s.LeadsOn (reply activate index seat) seat.setting w scene) := by
  intro w index seat s hseat hs hopen
  have hplaced := ((InScenes.create g settings dice).played deeds).placed index seat id hseat
  rw [hs] at hplaced
  obtain ⟨scene, hscene⟩ := Option.isSome_iff_exists.1 (hplaced.resolve_left (by simp [hopen]))
  refine ⟨scene, hscene, or_congr_right ?_⟩
  obtain ⟨after, hafter, hplayer⟩ := moves_goOn_after hseat hs
  rw [← NarrativeSitting.moves_goOn_iff _ _ (InScenes.runIn_reply_note _ _ _) hopen hscene]
  constructor
  · rintro ⟨other, t, hother, ht, hmoves⟩
    rw [hafter] at hother
    cases hother
    rw [hplayer] at ht
    cases ht
    exact hmoves
  · exact fun hmoves => ⟨after, _, hafter, hplayer, hmoves⟩

/-- A story that begins at a gate, which is opened with a key. -/
def gateStory : Value :=
  .map [("content", .map [("sections", .list [.map
    [("id", "a"), ("type", "narrative"),
      ("content", .map [("scenes", .list
        [.map [("id", "gate"), ("text", "The gate is shut."),
          ("choices", .list [.map [("text", "Unlock it"), ("targetScene", "hall"),
            ("condition", .map [("type", "item"), ("value", "key")])]])],
        .map [("id", "hall"), ("text", "You are in."), ("isEnding", .bool true)]])])]])])]

/-- The story in a seat, if there is one. -/
def story? (w : Session) (index : Nat) : Option NarrativeSitting :=
  match w.seats[index]? with
  | some ⟨_, _, .narrative s⟩ => some s
  | _ => none

lemma exists_seat_of_story? {index : Nat} {s : NarrativeSitting} (h : w.story? index = some s) :
    ∃ seat, w.seats[index]? = some seat ∧ seat.player = .narrative s := by
  unfold story? at h
  split at h
  case h_1 hseat =>
    cases h
    exact ⟨_, hseat, rfl⟩
  case h_2 => cases h

/-- The choices that are open, none if that cannot be told. -/
def openChoices (w : Session) (s : NarrativeSitting) : List Choice :=
  match s.choices w.circumstances with
  | .ok choices => choices
  | .error _ => []

/-- With the key in hand the gate can be opened. -/
theorem canMove_of_key :
    ∃ g, (load gateStory "narrative").result = .ok g ∧
      let w := (create g .default (.repeating #[])).played [.start, .addItem "key"]
      ∃ seat s, w.seats[0]? = some seat ∧ seat.player = .narrative s ∧ s.completed = false ∧
        w.openChoices s ≠ [] ∧ w.CanMove 0 s := by
  let deeds : List Deed := [.start, .addItem "key"]
  obtain ⟨g, hg, hplay⟩ := Traced.exists_ok_of_any (x := load gateStory "narrative")
    (p := fun g =>
      let w := (create g .default (.repeating #[])).played deeds
      (w.story? 0).any fun s => !s.completed && !(w.openChoices s).isEmpty)
    (by decide +kernel)
  obtain ⟨s, hs, hplay⟩ := (Option.any_eq_true ..).1 hplay
  simp only [Bool.and_eq_true, Bool.not_eq_true', List.isEmpty_eq_false_iff] at hplay
  obtain ⟨hopen, hchoices⟩ := hplay
  obtain ⟨seat, hseat, hplayer⟩ := exists_seat_of_story? hs
  obtain ⟨scene, -, hmove⟩ :=
    canMove_of_played g .default (.repeating #[]) deeds 0 seat s hseat hplayer hopen
  refine ⟨g, hg, seat, s, hseat, hplayer, hopen, hchoices, hmove.2 (.inl ?_)⟩
  unfold openChoices at hchoices
  split at hchoices
  case h_1 choices hchoices' =>
    obtain ⟨k, rest, rfl⟩ := List.exists_cons_of_ne_nil hchoices
    exact ⟨k, rest, hchoices'⟩
  case h_2 => exact absurd rfl hchoices

/-- Without the key there is no way out, and the story is not over. -/
theorem not_canMove_of_gate :
    ∃ g, (load gateStory "narrative").result = .ok g ∧
      let w := (create g .default (.repeating #[])).played [.start]
      ∃ seat s, w.seats[0]? = some seat ∧ seat.player = .narrative s ∧ s.completed = false ∧
        ¬w.CanMove 0 s := by
  obtain ⟨g, hg, hplay⟩ := Traced.exists_ok_of_any (x := load gateStory "narrative")
    (p := fun g =>
      let w := (create g .default (.repeating #[])).played [.start]
      (w.story? 0).any fun s => !s.completed && (w.openChoices s).isEmpty &&
        s.current?.any fun scene =>
          !scene.isEnding && scene.nextScene.getD "" == "" && !scene.choices.isEmpty)
    (by decide +kernel)
  obtain ⟨s, hs, hplay⟩ := (Option.any_eq_true ..).1 hplay
  simp only [Bool.and_eq_true, Bool.not_eq_true', List.isEmpty_iff] at hplay
  obtain ⟨⟨hopen, hchoices⟩, hscene⟩ := hplay
  obtain ⟨scene, hscene, hshut⟩ := (Option.any_eq_true ..).1 hscene
  obtain ⟨seat, hseat, hplayer⟩ := exists_seat_of_story? hs
  refine ⟨g, hg, seat, s, hseat, hplayer, hopen, ?_⟩
  rintro (⟨k, rest, hsome⟩ | ⟨after, t, hafter, ht, hmoves⟩)
  · simp [openChoices, hsome] at hchoices
  · obtain ⟨other, hother, hgoOn⟩ := moves_goOn_after hseat hplayer
    rw [hafter] at hother
    cases hother
    rw [ht] at hgoOn
    cases hgoOn
    rw [NarrativeSitting.moves_goOn_iff _ _ (InScenes.runIn_reply_note _ _ _) hopen hscene,
      NarrativeSitting.LeadsOn] at hmoves
    simp_all

end Session

end LearningGame.Play
