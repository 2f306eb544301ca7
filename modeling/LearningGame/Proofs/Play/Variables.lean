import LearningGame.Proofs.Catalogue
import LearningGame.Proofs.Json.Names
import LearningGame.Proofs.Play.Deeds
import LearningGame.Proofs.Play.Step

/-!
# The names of variables

A variable gets its name from outside, from an effect of a choice, from a resource of a simulation
or from an action of a scene. Only the last may be anything but a text. Variables that are named by
texts are those of an object that can be written and read, and conditions can ask for each of them.
-/

namespace LearningGame

open Content

/-! ### What a game sets -/

/-- An action of a scene in one of the sections sets a variable of this name. -/
def Game.Sets (g : Game) (k : Key) : Prop :=
  ∃ s ∈ g.sections, ∃ x, s.content = .narrative x ∧
    ∃ scene ∈ x.scenes, ∃ a ∈ scene.actions, a.Sets k

/-- A variable of this name may be set in play. -/
def Game.Names (g : Game) (k : Key) : Prop := (∃ name : String, k = .text name) ∨ g.Sets k

/-- Whether an action sets no variable but one that is named by a text. -/
def Content.SceneAction.setsText (a : SceneAction) : Bool :=
  match a.kind, (a.payload.lookup "variable").getD .null with
  | "set-variable", .str _ => true
  | kind, _ => kind != "set-variable"

/-- Whether the actions of all scenes of a section set no variables but those named by texts. -/
def Content.SectionContent.setsTexts : SectionContent → Bool
  | .narrative x => x.scenes.all fun scene => scene.actions.all SceneAction.setsText
  | _ => true

lemma Content.SceneAction.text_of_sets {a : SceneAction} (ha : a.setsText = true) {k : Key}
    (hk : a.Sets k) : ∃ name : String, k = .text name := by
  obtain ⟨hkind, name, place, hname, rfl⟩ := hk
  unfold SceneAction.setsText at ha
  split at ha
  case h_1 s _ hs =>
    rw [hs] at hname
    cases hname
    exact ⟨s, rfl⟩
  case h_2 => simp [hkind] at ha

lemma Game.text_of_sets {g : Game} (hg : (g.sections.all fun s => s.content.setsTexts) = true)
    {k : Key} (hk : g.Sets k) : ∃ name : String, k = .text name := by
  obtain ⟨s, hs, x, hx, scene, hscene, a, ha, hsets⟩ := hk
  have hall := List.all_eq_true.1 hg s hs
  rw [hx] at hall
  exact Content.SceneAction.text_of_sets
    (List.all_eq_true.1 (List.all_eq_true.1 hall scene hscene) a ha) hsets

namespace Play

open Content Schema Rules Act

/-! ### What sections set -/

/-- A request that sets variables of some names only. -/
def Request.Names (P : Key → Prop) : Request → Prop
  | .updateVariables patch => ∀ e ∈ patch, P e.1
  | _ => True

variable {g : Game}

instance : Request.Everyday (Request.Names g.Names) where
  report _ _ _ _ _ := trivial
  complete := trivial
  navigate _ := trivial
  addItem _ := trivial
  removeItem _ := trivial
  look := trivial
  draw := trivial
  now := trivial
  note _ _ := trivial
  assign patch := by
    intro e he
    obtain ⟨f, -, rfl⟩ := List.mem_map.1 he
    exact .inl ⟨f.1, rfl⟩

instance : Request.Timed (Request.Names g.Names) where
  arm _ _ := trivial
  cancel _ := trivial

/-- The scenes of a narrative are scenes of a game. -/
def NarrativeSitting.IsOf (g : Game) (s : NarrativeSitting) : Prop :=
  ∀ id scene, s.scenes.find? id = some scene → ∀ a ∈ scene.actions, ∀ k, a.Sets k → g.Sets k

lemma NarrativeSitting.tells_isOf : Tells (IsOf g) (Request.Names g.Names) where
  same s t hscenes hs := by
    unfold IsOf
    rw [hscenes]
    exact hs
  sets s hs id scene hscene a ha k v hk := by
    intro e he
    rw [List.mem_singleton.1 he]
    exact .inr (hs id scene hscene a ha k hk)

/-- Whoever sits down to a section of a game plays scenes of the game. -/
lemma Player.SitsDown.narrates {c : Setting} {s : Section} {player : Player}
    (h : player.SitsDown c s.content) (hs : s ∈ g.sections) :
    player.Narrates (NarrativeSitting.IsOf g) := by
  obtain ⟨started, dice, after, hrun⟩ := h
  unfold sitDown at hrun
  split at hrun
  case h_5 x _ hcontent =>
    cases hrun
    intro id scene hscene a ha k hk
    exact ⟨s, hs, x, hcontent, scene, Catalogue.mem_of_find?_ofList hscene, a, ha, hk⟩
  all_goals
    cases hrun
    try trivial

namespace Session

/-! ### What is kept -/

/-- The variables of a session have names that its game may set, each of them once, and the sections
that have been begun are sections of its game. -/
structure Tended (g : Game) (w : Session) : Prop where
  game : w.game = g
  names : ∀ e ∈ w.state.vars, g.Names e.1
  distinct : w.state.vars.IsDistinct
  seats : ∀ seat ∈ w.seats, seat.player.Narrates (NarrativeSitting.IsOf g)

namespace Tended

lemma of_same {w v : Session} (hw : Tended g w) (hgame : v.game = w.game)
    (hvars : v.state.vars = w.state.vars) (hseats : v.seats = w.seats) : Tended g v where
  game := hgame.trans hw.game
  names := hvars.symm ▸ hw.names
  distinct := hvars.symm ▸ hw.distinct
  seats := hseats.symm ▸ hw.seats

instance : Detached (Tended g) := ⟨fun hw hgame hvars hseats => hw.of_same hgame hvars hseats⟩

lemma putAll {w : Session} (hw : Tended g w) {patch : Fields} (hpatch : ∀ e ∈ patch, g.Names e.1) :
    Tended g { w with state := { w.state with vars := w.state.vars.putAll patch } } where
  game := hw.game
  names := Fields.forall_keys_putAll hw.names hpatch
  distinct := hw.distinct.putAll patch
  seats := hw.seats

lemma putPlayer {w : Session} (hw : Tended g w) (index : Nat) {player : Player}
    (hplayer : player.Narrates (NarrativeSitting.IsOf g)) :
    Tended g (putPlayer index player w) where
  game := hw.game
  names := hw.names
  distinct := hw.distinct
  seats := by
    intro seat hseat
    obtain ⟨i, hi⟩ := List.mem_iff_getElem?.1 hseat
    simp only [Session.putPlayer, List.getElem?_modify, Option.map_eq_map,
      Option.map_eq_some_iff] at hi
    obtain ⟨s, hs, rfl⟩ := hi
    split_ifs
    · exact hplayer
    · exact hw.seats s (List.mem_of_getElem? hs)

lemma seated {w : Session} (hw : Tended g w) {s : Section}
    (hs : w.game.section? w.state.sectionId = some s) {player : Player}
    (hsits : player.SitsDown (Setting.ofSection w.game w.settings s) s.content) (dice : Dice)
    (table : Table SessionAlarm) : Tended g (w.seated s player dice table) where
  game := hw.game
  names := hw.names
  distinct := hw.distinct
  seats := by
    intro seat hseat
    rcases List.mem_append.1 hseat with hseat | hseat
    · exact hw.seats seat hseat
    · rw [List.mem_singleton.1 hseat]
      exact hsits.narrates (hw.game ▸ List.mem_of_find?_eq_some hs)

/-! ### Sections -/

section

variable {activate : Act Session Unit} (hactivate : Keeps (Tended g) activate)

include hactivate

/-- The reply to a request that sets variables of names of the game. -/
lemma keeps_reply (index : Nat) (seat : Seat) {r : Request} (hr : r.Names g.Names) :
    Keeps (Tended g) (reply activate index seat r) :=
  Detached.keeps_reply hactivate index seat fun patch h =>
    keeps_updateVariables fun w hw => hw.putAll (by subst h; exact hr)

/-- What minds the scenes of the game sets only variables of the game. -/
lemma keeps_perform {α : Type} (index : Nat) {script : Setting → Player → Script Player α}
    (hscript : ∀ c p, p.Narrates (NarrativeSitting.IsOf g) →
      (script c p).Minds (Player.Narrates (NarrativeSitting.IsOf g)) (Request.Names g.Names)) :
    Keeps (Tended g) (perform activate index script) := by
  intro w hw
  cases hseat : w.seats[index]? with
  | none =>
    rw [perform, runIn_ofFun, hseat]
    exact hw
  | some seat =>
    have hplayer := hw.seats seat (List.mem_of_getElem? hseat)
    obtain ⟨hafter, hv⟩ := Script.run_minds (fun r hr => keeps_reply hactivate index seat hr)
      (hscript seat.setting seat.player hplayer) hplayer hw
    rw [runIn_perform activate hseat]
    exact hv.putPlayer index hafter

end

/-- Beginning a section, and all that it leads on to. -/
lemma keeps_activateWithin (n : Nat) : Keeps (Tended g) (activateWithin n) := by
  induction n with
  | zero => exact keeps_bind keeps_leaveSection fun _ => keeps_fault _
  | succ n ih =>
    intro w hw
    rcases activateWithin_spec n w with
      ⟨s, player, dice, table, hs, hsits, -, hrun⟩ | ⟨r, table, -, -, -, hrun⟩
    · rw [hrun]
      exact keeps_perform ih _ (fun c p hp => Player.minds_enter c NarrativeSitting.tells_isOf hp) _
        (hw.seated hs hsits dice table)
    · rw [hrun]
      exact hw.of_same rfl rfl rfl

lemma keeps_activate : Keeps (Tended g) activate :=
  keeps_bind keeps_get fun _ => keeps_activateWithin _

end Tended

end Session

/-! ### Deeds -/

/-- A deed that sets, from outside, only variables that are named by texts. -/
def Deed.NamesTexts : Deed → Prop
  | .updateVariables patch => ∀ e ∈ patch, ∃ name : String, e.1 = .text name
  | .request _ (.updateVariables patch) => ∀ e ∈ patch, ∃ name : String, e.1 = .text name
  | _ => True

namespace Session

lemma Tended.create (g : Game) (settings : Settings) (dice : Dice) :
    Tended g (create g settings dice) where
  game := rfl
  names _ he := absurd he List.not_mem_nil
  distinct := List.Pairwise.nil
  seats _ hseat := absurd hseat List.not_mem_nil

/-- After a restart there are no variables. -/
lemma Tended.restart {w : Session} (hw : Tended g w) : Tended g (restart.runIn w).2 := by
  obtain ⟨table, -, hrun⟩ := restart_spec w
  rw [hrun]
  exact ⟨hw.game, fun _ he => absurd he List.not_mem_nil, List.Pairwise.nil, hw.seats⟩

lemma Tended.after (d : Deed) (hd : d.NamesTexts) {w : Session} (hw : Tended g w) :
    Tended g (d.after w) := by
  refine Detached.after hw keeps_activate Tended.restart (fun patch h => ?_) (fun index alarm left =>
    keeps_perform keeps_activate index fun _ p _ => Player.minds_tick alarm left p)
    (fun index alarm =>
      keeps_perform keeps_activate index fun c p _ => Player.minds_expire c alarm p)
    fun index seat m script hseat hscript => ?_
  · refine keeps_updateVariables fun w hw => hw.putAll fun e he => .inl ?_
    rcases h with rfl | ⟨i, rfl⟩
    · exact hd e he
    · exact hd e he
  · have hplayer := hw.seats seat (List.mem_of_getElem? hseat)
    have hminds :=
      Player.minds_act? seat.setting NarrativeSitting.tells_isOf hplayer trivial hscript
    exact keeps_perform keeps_activate index (fun _ _ _ => hminds) w hw

lemma Tended.played (deeds : List Deed) (hdeeds : ∀ d ∈ deeds, d.NamesTexts) {w : Session}
    (hw : Tended g w) : Tended g (w.played deeds) := by
  induction deeds generalizing w with
  | nil => exact hw
  | cons d rest ih =>
    exact ih (fun e he => hdeeds e (List.mem_cons_of_mem d he))
      (hw.after d (hdeeds d List.mem_cons_self))

/-! ### Objects and conditions -/

/-- Variables that make up an object, whose names are read as they are written, and that conditions
can ask for. -/
structure Nameable (vars : Fields) : Prop where
  record : vars.IsRecord
  read : ∀ e ∈ vars, ∀ ascii rest, ∃ name : String, e.1 = .text name ∧
    Json.readText ((Json.writeText ascii (Json.keyText e.1)).toList.tail ++ rest) = .ok (name, rest)
  reread : Json.reread vars = vars
  asked : ∀ e ∈ vars, ∃ name : String, ∀ c : Condition, c.kind = .variable → c.variableName = name →
    ∀ score inventory,
      Condition.holds ⟨vars, score, inventory⟩ c = compareValues e.2 c.comparison c.value

/-- Texts are what all variables have to be named by. -/
lemma nameable_iff {vars : Fields} (h : vars.IsDistinct) :
    Nameable vars ↔ ∀ e ∈ vars, ∃ name : String, e.1 = .text name := by
  constructor
  · intro hvars
    exact hvars.record.exists_text
  · intro htexts
    have hrecord := h.isRecord htexts
    refine ⟨hrecord, ?_, (Json.reread_eq_self_iff vars).2 hrecord, ?_⟩
    · intro e he ascii rest
      obtain ⟨name, hname⟩ := htexts e he
      rw [hname]
      exact ⟨name, rfl, Json.readText_writeText ascii name rest⟩
    · rintro ⟨k, v⟩ he
      obtain ⟨name, rfl⟩ : ∃ name : String, k = .text name := htexts (k, v) he
      refine ⟨name, fun c hkind hname score inventory => ?_⟩
      unfold Condition.holds
      rw [hkind, hname]
      dsimp only
      rw [Fields.get_of_find? (hrecord.find?_of_mem he)]

/-- Whatever is done, if what is set from outside is named by texts, every variable in the snapshot
is named by a text or by an action of a scene. The variables make up an object, with names that are
read as they are written and that conditions can ask for, just if all of them are named by texts;
and so they do if all actions of scenes name texts. -/
theorem nameable_of_played (g : Game) (settings : Settings) (dice : Dice) (deeds : List Deed)
    (hdeeds : ∀ d ∈ deeds, d.NamesTexts) :
    let state := ((create g settings dice).played deeds).state
    (∃ fields, state.snapshot = .map fields ∧
        Fields.find? fields "variables" = some (.map state.vars)) ∧
      (∀ e ∈ state.vars, (∃ name : String, e.1 = .text name) ∨ g.Sets e.1) ∧
      (Nameable state.vars ↔ ∀ e ∈ state.vars, ∃ name : String, e.1 = .text name) ∧
      ((∀ k, g.Sets k → ∃ name : String, k = .text name) → Nameable state.vars) := by
  intro state
  have hw : Tended g ((create g settings dice).played deeds) :=
    (Tended.create g settings dice).played deeds hdeeds
  refine ⟨⟨_, rfl, by simp [Fields.find?_cons_text]⟩, hw.names, nameable_iff hw.distinct, ?_⟩
  intro hg
  refine (nameable_iff hw.distinct).2 fun e he => ?_
  rcases hw.names e he with hname | hsets
  · exact hname
  · exact hg _ hsets

/-- A story in whose only scene a variable is set. -/
def storyOf (payload : Fields) : Value :=
  .map [("content", .map [("sections", .list [.map
    [("id", "a"), ("type", "narrative"),
      ("content", .map [("scenes", .list [.map
        [("id", "here"), ("text", "So it begins."),
          ("actions", .list [.map [("type", "set-variable"), ("payload", .map payload)]])]])])]])])]

/-- The story sets a mood, and another variable is set from outside. -/
theorem nameable_of_moodStory :
    ∃ g, (load (storyOf [("variable", "mood"), ("value", .int 1)]) "narrative").result = .ok g ∧
      let deeds : List Deed := [.start, .updateVariables [("weather", .str "fine")]]
      let vars := ((create g .default (.repeating #[])).played deeds).state.vars
      (∀ d ∈ deeds, d.NamesTexts) ∧ (∀ k, g.Sets k → ∃ name : String, k = .text name) ∧
        vars.has "mood" = true ∧ vars.has "weather" = true ∧ Nameable vars := by
  let deeds : List Deed := [.start, .updateVariables [("weather", .str "fine")]]
  obtain ⟨g, hg, hplay⟩ := Traced.exists_ok_of_any
    (x := load (storyOf [("variable", "mood"), ("value", .int 1)]) "narrative")
    (p := fun g =>
      let vars := ((create g .default (.repeating #[])).played deeds).state.vars
      (g.sections.all fun s => s.content.setsTexts) && vars.has "mood" && vars.has "weather")
    (by decide +kernel)
  simp only [Bool.and_eq_true] at hplay
  have hdeeds : ∀ d ∈ deeds, d.NamesTexts := by
    simp [deeds, Deed.NamesTexts]
  have hsets (k : Key) (hk : g.Sets k) : ∃ name : String, k = .text name :=
    g.text_of_sets hplay.1.1 hk
  obtain ⟨-, -, -, hnameable⟩ := nameable_of_played g .default (.repeating #[]) deeds hdeeds
  exact ⟨g, hg, hdeeds, hsets, hplay.1.2, hplay.2, hnameable hsets⟩

/-- When an action does not say which variable it sets, the variable is named by no text. -/
theorem not_nameable_of_namelessStory :
    ∃ g, (load (storyOf [("value", .int 1)]) "narrative").result = .ok g ∧
      let vars := ((create g .default (.repeating #[])).played [.start]).state.vars
      (∀ d ∈ [Deed.start], d.NamesTexts) ∧ vars.has .null = true ∧
        (∃ e ∈ vars, ∀ name : String, e.1 ≠ .text name) ∧ ¬Nameable vars := by
  obtain ⟨g, hg, hplay⟩ := Traced.exists_ok_of_any
    (x := load (storyOf [("value", .int 1)]) "narrative")
    (p := fun g =>
      ((create g .default (.repeating #[])).played [.start]).state.vars.has .null)
    (by decide +kernel)
  obtain ⟨v, hv⟩ := Option.isSome_iff_exists.mp hplay
  obtain ⟨e, hfind, -⟩ := Option.map_eq_some_iff.mp hv
  have he := List.mem_of_find?_eq_some hfind
  have hnull : e.1.same .null = true := by simpa using List.find?_some hfind
  have hne (name : String) : e.1 ≠ .text name := by
    intro hname
    rw [hname] at hnull
    cases hnull
  refine ⟨g, hg, by simp [Deed.NamesTexts], hplay, ⟨e, he, hne⟩, fun hnameable => ?_⟩
  obtain ⟨name, hname⟩ := hnameable.record.exists_text e he
  exact hne name hname

end Session

end Play

end LearningGame
