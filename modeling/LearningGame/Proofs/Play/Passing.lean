import LearningGame.Proofs.Catalogue
import LearningGame.Proofs.Loading.Beginning
import LearningGame.Proofs.Play.Current
import LearningGame.Proofs.Play.Endless

/-!
# Sections that are passed over

A section in which there is nothing is completed when it is begun, and from within that the next one
in the order of play is begun. So a start goes on, one section from within the other, to the first
section in which there is something, or to the end of the game if there is none.
-/

namespace LearningGame

open Content

/-- Whether the section with an id is trivial. -/
def Game.isTrivialAt (g : Game) (id : String) : Bool := (g.section? id).any (·.content.isTrivial)

/-- With a start, nothing is to be played in the trivial contents only. -/
lemma Content.SectionContent.HasStart.isVoid_eq {c : SectionContent} (h : c.HasStart) :
    c.isVoid = c.isTrivial := by
  cases c with
  | matching x => exact Catalogue.isEmpty_ofList
  | narrative x =>
    rw [SectionContent.isVoid, Narrative.first?, ← Option.not_isSome, ← Catalogue.has,
      Catalogue.has_ofList_of_mem h, Bool.not_not, SectionContent.isTrivial]
  | exploration x =>
    rw [SectionContent.isVoid, Catalogue.has_ofList_of_mem h, Bool.not_not,
      SectionContent.isTrivial]
  | _ => rfl

namespace Play

open Schema Rules Act

/-! ### Scripts of sections in which there is something -/

/-- An action that does not navigate leads to no other section. -/
lemma NarrativeSitting.asks_act_of_ne (c : Setting) (scene : Scene) {a : SceneAction}
    (ha : a.kind ≠ "navigate") (place : Nat) : (act c scene a place).Asks Request.Stays := by
  unfold act
  dsimp only
  split
  · exact Script.asks_bind (Script.asks_lift _) fun _ => ⟨trivial, fun _ => trivial⟩
  · exact Script.asks_bind (Script.asks_lift _) fun _ => ⟨trivial, fun _ => trivial⟩
  · exact ⟨trivial, fun _ => trivial⟩
  · exact ⟨trivial, fun _ => trivial⟩
  · contradiction
  · exact ⟨trivial, fun _ => trivial⟩

/-- A section in which there is something leads nowhere when it is begun, if it is no story whose
first scene navigates. -/
lemma Player.SitsDown.asks_enter {c : Setting} {content : SectionContent} {player : Player}
    (hplayer : player.SitsDown c content) (hkind : content.kind = c.kind)
    (hvoid : content.isVoid = false) (hstill : ∀ a ∈ content.opening, a.kind ≠ "navigate") :
    (player.enter c).Asks Request.Stays := by
  rcases hplayer.enter_spec hkind hvoid with
    ⟨x, scene, started, rfl, hfirst, rfl⟩ | ⟨-, hsettles⟩
  · rw [SectionContent.opening, hfirst] at hstill
    have hfind : (NarrativeSitting.create x started).scenes.find? x.startScene = some scene :=
      hfirst
    show ((NarrativeSitting.enterScene c x.startScene).embed Player.narrative _).Asks _
    rw [NarrativeSitting.enterScene, Script.embed_state_bind, hfind]
    refine Script.asks_embed (Script.asks_bind (Script.asks_setState _) fun _ =>
      Script.asks_bind Setting.settles_startClock.asks fun _ =>
        Script.asks_forEach fun a ha => ?_) _ _
    exact NarrativeSitting.asks_act_of_ne c scene
      (hstill a.1 (List.fst_mem_of_mem_zipIdx ha)) a.2
  · exact hsettles.asks

namespace Session

variable {g : Game} {w v : Session} {id : String} {done : List String}

/-! ### Where a session is -/

/-- A session that is at a section, after some sections have been completed. -/
def IsAt (id : String) (done : List String) (w : Session) : Prop :=
  w.state.sectionId = id ∧ w.state.completed = done

namespace IsAt

lemma untabled : Table.Untabled (α := SessionAlarm) (IsAt id done) := fun _ _ hw => hw

lemma keeps_whilePlaying {α : Type} (operation : String) (refused : α) {x : Act Session α}
    (hx : Keeps (IsAt id done) x) : Keeps (IsAt id done) (whilePlaying operation refused x) := by
  refine keeps_bind keeps_get fun w => ?_
  split_ifs
  · exact hx
  · exact keeps_bind (Table.keeps_note untabled _ _ _) fun _ => keeps_pure _

lemma keeps_stop : Keeps (IsAt id done) stop := by
  intro w hw
  by_cases hplaying : w.phase = .playing
  · rcases stop_spec hplaying with ⟨e, table, -, -, hrun⟩ | ⟨tier, table, -, -, hrun⟩
    · rw [hrun]
      exact hw
    · rw [hrun]
      show (w.finished tier table).state.sectionId = id ∧ _
      rw [state_finished]
      exact hw
  · obtain ⟨-, hstate, -⟩ := runIn_whilePlaying_refused hplaying "end" false
      (finish >>= fun _ => pure true)
    show (stop.runIn w).2.state.sectionId = id ∧ (stop.runIn w).2.state.completed = done
    rw [stop, hstate]
    exact hw

lemma keeps_scheduleEnd : Keeps (IsAt id done) scheduleEnd := by
  refine keeps_bind keeps_get fun w => keeps_bind (Table.keeps_note untabled _ _ _) fun _ => ?_
  split_ifs
  · exact keeps_bind keeps_stop fun _ => keeps_pure _
  · exact Table.keeps_arm untabled _ _ _ _

lemma keeps_loseLife : Keeps (IsAt id done) loseLife := by
  refine keeps_bind keeps_get fun w => ?_
  cases w.state.lives with
  | none => exact keeps_pure _
  | some lives =>
    dsimp only
    split_ifs
    · exact keeps_bind (keeps_modify fun _ hw => hw) fun _ => keeps_scheduleEnd
    · exact keeps_bind (keeps_modify fun _ hw => hw) fun _ => keeps_pure _
    · exact keeps_pure _

lemma keeps_submitAnswer (x : Submission) : Keeps (IsAt id done) (submitAnswer x) := by
  refine keeps_whilePlaying _ _
    (keeps_bind (keeps_bind keeps_get fun w => ?_) fun _ => keeps_pure _)
  refine keeps_bind (fun _ hw => hw) fun _ => keeps_bind (keeps_modify fun _ hw => hw) fun _ =>
    keeps_bind (fun _ hw => hw) fun _ => keeps_bind (keeps_modify fun _ hw => hw) fun _ =>
      keeps_bind (Table.keeps_note untabled _ _ _) fun _ => ?_
  split_ifs
  · exact keeps_pure _
  · exact keeps_bind keeps_loseLife fun _ => keeps_pure _

lemma keeps_heard {α : Type} (seat : Seat) (operation : String) (refused : α) {x : Act Session α}
    (hx : Keeps (IsAt id done) x) : Keeps (IsAt id done) (heard seat operation refused x) := by
  refine keeps_bind keeps_get fun w => ?_
  split_ifs
  · exact hx
  · exact keeps_bind (Table.keeps_note untabled _ _ _) fun _ => keeps_pure _

/-- A request that leads to no other section leaves the session where it is. -/
lemma keeps_reply (activate : Act Session Unit) (index : Nat) (seat : Seat) {r : Request}
    (hr : r.Stays) : Keeps (IsAt id done) (reply activate index seat r) := by
  cases r with
  | complete | navigate => exact hr.elim
  | report => exact keeps_heard _ _ _ (keeps_bind (keeps_submitAnswer _) fun _ => keeps_pure _)
  | spendHint =>
    refine keeps_heard _ _ _ (keeps_whilePlaying _ _ (keeps_bind keeps_get fun w => ?_))
    split_ifs
    · exact keeps_pure _
    · exact keeps_bind (keeps_modify fun _ hw => hw) fun _ => keeps_pure _
  | updateVariables =>
    exact keeps_heard _ _ _ (keeps_whilePlaying _ _ (keeps_modify fun _ hw => hw))
  | addItem =>
    refine keeps_heard _ _ _ (keeps_whilePlaying _ _ (keeps_modify fun _ hw => ?_))
    dsimp only [IsAt]
    split_ifs <;> exact hw
  | removeItem => exact keeps_heard _ _ _ (keeps_whilePlaying _ _ (keeps_modify fun _ hw => hw))
  | look | now => exact keeps_bind keeps_get fun _ => keeps_pure _
  | draw => exact keeps_get_bind fun _ hw => hw
  | arm => exact Table.keeps_arm untabled _ _ _ _
  | cancel => exact Table.keeps_cancel untabled _
  | note => exact Table.keeps_note untabled _ _ _

end IsAt

/-! ### Sections that are completed one after the other -/

section

variable {ahead later : List String} (hnodup : (ahead ++ id :: later).Nodup)

include hnodup

/-- In an order of play without repetition, the place of a section comes after those of all that
are ahead of it. -/
lemma findIdx?_append_cons :
    (ahead ++ id :: later).findIdx? (· == id) = some ahead.length ∧
      ∀ a ∈ ahead, ∃ place < ahead.length,
        (ahead ++ id :: later).findIdx? (· == a) = some place := by
  constructor
  · have hnew : id ∉ ahead := fun hid =>
      (List.nodup_append.1 hnodup).2.2 id hid id List.mem_cons_self rfl
    have hnone : ahead.findIdx? (· == id) = none :=
      List.findIdx?_eq_none_iff.2 fun a ha => beq_false_of_ne fun heq => hnew (heq ▸ ha)
    rw [List.findIdx?_append, hnone, List.findIdx?_cons]
    simp
  · intro a ha
    have hfound : (ahead.findIdx? (· == a)).isSome = true :=
      List.findIdx?_isSome.trans (List.any_eq_true.2 ⟨a, ha, beq_self_eq_true a⟩)
    obtain ⟨place, hplace⟩ := Option.isSome_iff_exists.1 hfound
    refine ⟨place, (List.findIdx?_eq_some_iff_getElem.1 hplace).1, ?_⟩
    rw [List.findIdx?_append, hplace, Option.some_or]

/-- No section that is left is among those that have been completed. -/
lemma find?_not_completed (hdone : done ⊆ ahead) :
    ((ahead ++ id :: later).drop (ahead.length + 1)).find?
      (fun next => !(done ++ [id]).contains next) = later.head? := by
  have hdrop : (ahead ++ id :: later).drop (ahead.length + 1) = later := by simp
  rw [hdrop]
  cases later with
  | nil => rfl
  | cons next rest =>
    have hnew : next ∉ done ++ [id] := by
      obtain ⟨-, htail, hapart⟩ := List.nodup_append.1 hnodup
      rw [List.mem_append, List.mem_singleton]
      rintro (hmem | rfl)
      · exact hapart next (hdone hmem) next (by simp) rfl
      · exact (List.nodup_cons.1 htail).1 List.mem_cons_self
    rw [List.find?_cons_of_pos (by simpa using hnew), List.head?_cons]

end

/-- Of an order of play, some sections have been completed one after the other, and the next one is
to be played. -/
structure Passing (g : Game) (before done rest : List String) (w : Session) : Prop
    extends Underway g w where
  isComplete : w.state.isComplete = false
  completed : w.state.completed = done
  sectionId : rest.head? = some w.state.sectionId
  order : g.order = before ++ done ++ rest

namespace Passing

variable {before later : List String}

/-- To complete the next section is to go on to the one after it, or to the end if it is the last
one. -/
lemma completeBy (hw : Passing g before done (id :: later) w) (hnodup : g.order.Nodup) :
    (∃ u, Passing g before (done ++ [id]) later u ∧ ∀ activate,
        (completeBy activate id).runIn w = (activate >>= fun _ => pure true).runIn u) ∨
      (later = [] ∧ ∃ u, Underway g u ∧ u.state.completed = done ++ [id] ∧ ∀ activate,
        (Session.completeBy activate id).runIn w = (stop >>= fun _ => pure true).runIn u) := by
  have horder : g.order = (before ++ done) ++ id :: later := hw.order
  rw [horder] at hnodup
  obtain ⟨hplace, hahead⟩ := findIdx?_append_cons hnodup
  have hnew : id ∉ done := fun hid => (List.nodup_append.1 hnodup).2.2 id
    (List.mem_append_right _ hid) id List.mem_cons_self rfl
  have hplaced : w.place? id = some (before ++ done).length := by
    rw [place?, hw.game, horder, hplace]
  have hrecorded : w.standing.recorded g id (before ++ done).length =
      { w.standing with completed := done ++ [id] } := by
    have hcompleted : w.standing.completed = done := hw.completed
    rw [Standing.recorded, if_pos, hcompleted]
    refine List.all_eq_true.2 fun a ha => ?_
    obtain ⟨place, hlt, hfound⟩ := hahead a (List.mem_append_right _ (hcompleted ▸ ha))
    rw [horder, hfound]
    exact decide_eq_true hlt
  have hrun (activate : Act Session Unit) : (Session.completeBy activate id).runIn w =
      (completeAt activate id (before ++ done).length >>= fun _ => pure true).runIn w := by
    have hopen : ¬w.state.hasCompleted id = true := by
      simpa [GameState.hasCompleted, hw.completed] using hnew
    rw [Session.completeBy, runIn_whilePlaying hw.playing, runIn_get_bind,
      if_neg (Bool.eq_false_iff.1 hw.isComplete), if_neg hopen, hplaced]
  obtain ⟨u, hu, hstanding, hcompleteAt⟩ :=
    completeAt_spec hw.toUnderway id (before ++ done).length
  rw [hrecorded] at hstanding
  have hfind := find?_not_completed hnodup (List.subset_append_right before done)
  rw [← horder, ← show u.standing.completed = done ++ [id] by rw [hstanding]] at hfind
  rcases goOn_spec hu id (before ++ done).length with
    ⟨hnone, v, hv, hstands, hgoOn⟩ | ⟨next, v, hnext, hv, hstands, hgoOn⟩
  · refine .inr ⟨List.head?_eq_none_iff.1 (hfind ▸ hnone), v, hv, ?_, fun activate => ?_⟩
    · show v.standing.completed = _
      rw [hstands, hstanding]
    · rw [hrun, runIn_bind, hcompleteAt, hgoOn, runIn_bind, runIn_bind]
      rcases stop.runIn v with ⟨_ | _, _⟩ <;> rfl
  · refine .inl ⟨v, ⟨hv, ?_, ?_, ?_, ?_⟩, fun activate => ?_⟩
    · show v.standing.isComplete = false
      rw [hstands, hstanding]
      exact hw.isComplete
    · show v.standing.completed = _
      rw [hstands, hstanding]
    · show _ = some v.standing.sectionId
      rw [hstands, ← hfind, hnext]
    · rw [horder]
      simp
    · rw [hrun, runIn_bind, hcompleteAt, hgoOn, ← runIn_bind]

lemma of_standing {rest : List String} (hw : Passing g before done rest w) (hv : Underway g v)
    (h : v.standing = w.standing) : Passing g before done rest v where
  toUnderway := hv
  isComplete := (congrArg Standing.isComplete h).trans hw.isComplete
  completed := (congrArg Standing.completed h).trans hw.completed
  sectionId := hw.sectionId.trans (congrArg (fun st => some st.sectionId) h).symm
  order := hw.order

/-! ### One section from within the other -/

section

variable (hg : g.IsPlayable) (hstart : ∀ s ∈ g.sections, s.content.HasStart)
  (hstill : ∀ s ∈ g.sections, ∀ a ∈ s.content.opening, a.kind ≠ "navigate")

include hg hstart

/-- One sits down to the next section, which is begun. -/
lemma exists_attended (hw : Passing g before done (id :: later) w) (n : Nat) :
    ∃ (s : Section) (seat : Seat) (u : Session), s ∈ g.sections ∧ seat.setting.sectionId = id ∧
      g.isTrivialAt id = s.content.isVoid ∧
      seat.player.SitsDown seat.setting s.content ∧ s.content.kind = seat.setting.kind ∧
      Attended g seat u ∧ u.state = w.state ∧
      (activateWithin (n + 1)).runIn w =
        let out := (seat.player.enter seat.setting).run
          (reply (activateWithin n) w.seats.length seat) seat.player u
        (out.1, putPlayer w.seats.length out.2.1 out.2.2) := by
  have hid : w.state.sectionId = id := (Option.some.inj hw.sectionId).symm
  have hmem : id ∈ g.order := by
    rw [hw.order]
    simp
  obtain ⟨rfl, hplaying, hstreak⟩ := hw.toUnderway
  rcases activateWithin_spec n w with
    ⟨s, player, dice, table, hs, hsits, htable, hrun⟩ | ⟨r, table, hs, -, -, -⟩
  · let seat : Seat := ⟨Setting.ofSection w.game w.settings s, table.registry.epochs, player⟩
    let u : Session := w.seated s player dice table
    have hseat : u.seats[w.seats.length]? = some seat := List.getElem?_concat_length ..
    have hsection : s ∈ w.game.sections := List.mem_of_find?_eq_some hs
    have hname : s.id = id := by simpa [hid] using List.find?_some hs
    refine ⟨s, seat, u, hsection, hname, ?_, hsits, hg.kind_eq s hsection,
      ⟨⟨rfl, hplaying, hstreak⟩, by simp [Epochs.current, seat, u, seated]⟩, rfl, ?_⟩
    · rw [Game.isTrivialAt, ← hid, hs, (hstart s hsection).isVoid_eq]
      rfl
    · rw [hrun, runIn_perform _ hseat]
  · obtain ⟨s, hsome⟩ := Option.isSome_iff_exists.1 (isSome_section? hg (hid ▸ hmem))
    exact absurd (hg.kind_eq s (List.mem_of_find?_eq_some hsome)) (hs s hsome)

/-- A trivial section is passed over, and from within it the next one is begun or the game ends. -/
lemma activateWithin_of_trivial (hw : Passing g before done (id :: later) w)
    (htrivial : g.isTrivialAt id = true) {n : Nat}
    (hrun : (activateWithin n).runIn w = (.ok (), v)) :
    (∃ m u t, Passing g before (done ++ [id]) later u ∧ (activateWithin m).runIn u = (.ok (), t) ∧
        v.state = t.state ∧ v.phase = t.phase) ∨
      (later = [] ∧ v.phase = .outro ∧ v.state.isComplete = true ∧
        v.state.completed = done ++ [id]) := by
  cases n with
  | zero => cases hrun
  | succ n =>
    obtain ⟨s, seat, u, -, hid, hvoid, hsits, hkind, hu, hstate, hperform⟩ :=
      exists_attended hg hstart hw n
    obtain ⟨x, player, hx, hstanding, hcompletes⟩ :=
      hsits.completes_enter hkind (hvoid ▸ htrivial) hu
    have hpassing : Passing g before done (id :: later) x :=
      hw.of_standing hx.toUnderway (hstanding.trans (by simp only [standing, hstate]))
    rw [hperform, hcompletes, hid] at hrun
    rcases hpassing.completeBy hg.nodup_order with
      ⟨y, hy, hgoes⟩ | ⟨hlast, y, hy, hcompleted, hstops⟩
    · rw [hgoes, runIn_bind] at hrun
      cases hnext : (activateWithin n).runIn y with
      | mk r t =>
        rw [hnext] at hrun
        cases r with
        | error e => cases congrArg Prod.fst hrun
        | ok _ =>
          obtain rfl := congrArg Prod.snd hrun
          exact .inl ⟨n, y, t, hy, hnext, rfl, rfl⟩
    · rw [hstops, runIn_bind] at hrun
      rcases stop_spec hy.playing with ⟨e, table, -, -, hend⟩ | ⟨tier, table, -, -, hend⟩
      · rw [hend] at hrun
        cases congrArg Prod.fst hrun
      · rw [hend] at hrun
        obtain rfl := congrArg Prod.snd hrun
        refine .inr ⟨hlast, phase_finished .., ?_, ?_⟩
        · show (y.finished tier table).state.isComplete = true
          rw [state_finished]
          rfl
        · show (y.finished tier table).state.completed = _
          rw [state_finished]
          exact hcompleted

include hstill

/-- In any other section the session stays. -/
lemma isAt_of_not_trivial (hw : Passing g before done (id :: later) w)
    (htrivial : g.isTrivialAt id = false) {n : Nat}
    (hrun : (activateWithin n).runIn w = (.ok (), v)) : IsAt id done v := by
  cases n with
  | zero => cases hrun
  | succ n =>
    obtain ⟨s, seat, u, hs, -, hvoid, hsits, hkind, -, hstate, hperform⟩ :=
      exists_attended hg hstart hw n
    have hasks := hsits.asks_enter hkind (hvoid ▸ htrivial) (hstill s hs)
    have hat : IsAt id done u := by
      rw [IsAt, hstate]
      exact ⟨(Option.some.inj hw.sectionId).symm, hw.completed⟩
    rw [hperform] at hrun
    obtain rfl := congrArg Prod.snd hrun
    exact Script.run_keeps_of_asks (I := IsAt id done)
      (fun r hr => IsAt.keeps_reply (activateWithin n) w.seats.length seat hr) hasks seat.player hat

/-- All trivial sections are passed over. -/
lemma passes {passed : List String} (hw : Passing g before done (passed ++ later) w)
    (hpassed : ∀ id ∈ passed, g.isTrivialAt id = true) {n : Nat}
    (hrun : (activateWithin n).runIn w = (.ok (), v)) :
    (∀ id rest, later = id :: rest → g.isTrivialAt id = false → IsAt id (done ++ passed) v) ∧
      (later = [] → v.phase = .outro ∧ v.state.isComplete = true ∧
        v.state.completed = done ++ passed) := by
  induction passed generalizing done w v n with
  | nil =>
    rw [List.append_nil]
    refine ⟨fun id rest hlater htrivial => ?_, fun hlater => ?_⟩
    · subst hlater
      exact isAt_of_not_trivial hg hstart hstill hw htrivial hrun
    · subst hlater
      cases hw.sectionId
  | cons id passed ih =>
    rw [List.append_cons]
    have hrest : ∀ other ∈ passed, g.isTrivialAt other = true :=
      fun other hother => hpassed other (List.mem_cons_of_mem _ hother)
    rcases activateWithin_of_trivial hg hstart hw (hpassed id List.mem_cons_self) hrun with
      ⟨m, u, t, hu, hnext, hstate, hphase⟩ | ⟨hlast, hend⟩
    · simp only [IsAt, hstate, hphase]
      exact ih hu hrest hnext
    · obtain ⟨rfl, rfl⟩ := List.append_eq_nil_iff.1 hlast
      rw [List.append_nil]
      exact ⟨nofun, fun _ => hend⟩

end

end Passing

/-! ### Starts -/

/-- A start begins the sections that lie from the first one on. -/
lemma exists_passing (hg : g.IsPlayable) (hgame : w.game = g) (hphase : w.phase = .intro)
    (hstate : w.state = GameState.initial g) {started : Bool}
    (hrun : start.runIn w = (.ok started, v)) :
    let p := g.order.idxOf g.firstSectionId
    ∃ n u, Passing g (g.order.take p) [] (g.order.drop p) u ∧
      (activateWithin n).runIn u = (.ok (), v) := by
  intro p
  subst hgame
  obtain ⟨-, table, -, hstart⟩ := (start_spec w).resolve_left fun h => h.1 hphase
  have hbegun : (w.begun table).state = GameState.initial w.game := hstate
  rw [hstart, runIn_bind_eq_ok] at hrun
  obtain ⟨_, u, hactivate, ⟨⟩⟩ := hrun
  refine ⟨longestChain w.game, w.begun table, ⟨⟨rfl, rfl, ?_⟩, ?_, ?_, ?_, ?_⟩, ?_⟩
  · rw [hbegun]
    exact Int.le_refl _
  · rw [hbegun]
    rfl
  · rw [hbegun]
    rfl
  · rw [hbegun, List.head?_drop]
    exact List.getElem?_idxOf hg.firstSectionId_mem
  · rw [List.append_nil, List.take_append_drop]
  · rw [activate, runIn_get_bind] at hactivate
    exact hactivate

/-- In every loaded game whose stories do not navigate in their first scenes, a start that comes to
an end has passed over the trivial sections, from the first section on. The sections of these places
in the order of play are completed, and the section after them is the one at which the session is.
If there is none, the game is over. -/
theorem passedOver_of_start {raw gameType : Value} (record : Fields) {g : Game}
    (hg : (load raw gameType).result = .ok g ∨ (loadRecord record gameType).result = .ok g)
    (hstill : ∀ s ∈ g.sections, ∀ a ∈ s.content.opening, a.kind ≠ "navigate") {w v : Session}
    (hgame : w.game = g) (hphase : w.phase = .intro) (hstate : w.state = GameState.initial g)
    {started : Bool} (hrun : start.runIn w = (.ok started, v)) :
    let p := g.order.idxOf g.firstSectionId
    (∀ q id, p ≤ q → g.order[q]? = some id → g.isTrivialAt id = false →
        (∀ k other, p ≤ k → k < q → g.order[k]? = some other → g.isTrivialAt other = true) →
        v.state.completed = (g.order.take q).drop p ∧ v.state.sectionId = id) ∧
      ((∀ id ∈ g.order.drop p, g.isTrivialAt id = true) →
        v.phase = .outro ∧ v.state.isComplete = true ∧ v.state.completed = g.order.drop p) := by
  intro p
  obtain ⟨_, _, hfilled⟩ := exists_isFilledFrom hg
  have hplayable := hfilled.isPlayable
  have hstart : ∀ s ∈ g.sections, s.content.HasStart := fun s hs => hfilled.hasStart hs
  obtain ⟨n, u, hu, hactivate⟩ := exists_passing hplayable hgame hphase hstate hrun
  constructor
  · intro q id hq hid hnontrivial hbefore
    -- What lies from the first section on is what is passed over, the section and what follows it.
    have hsplit : g.order.drop p = (g.order.drop p).take (q - p) ++ id :: g.order.drop (q + 1) := by
      obtain ⟨hlt, rfl⟩ := List.getElem?_eq_some_iff.1 hid
      have hrest : (g.order.drop p).drop (q - p) = g.order.drop q := by
        rw [List.drop_drop, Nat.add_sub_cancel' hq]
      rw [← List.drop_eq_getElem_cons hlt, ← hrest, List.take_append_drop]
    have hpassed : ∀ other ∈ (g.order.drop p).take (q - p), g.isTrivialAt other = true := by
      intro other hother
      obtain ⟨i, hi⟩ := List.mem_iff_getElem?.1 hother
      rw [List.getElem?_take] at hi
      split_ifs at hi with hlt
      rw [List.getElem?_drop] at hi
      exact hbefore (p + i) other (Nat.le_add_right p i) (by omega) hi
    rw [hsplit] at hu
    obtain ⟨hat, -⟩ := Passing.passes hplayable hstart hstill hu hpassed hactivate
    obtain ⟨hsection, hcompleted⟩ := hat id _ rfl hnontrivial
    rw [List.nil_append] at hcompleted
    exact ⟨hcompleted.trans List.drop_take.symm, hsection⟩
  · intro hall
    rw [← List.append_nil (g.order.drop p)] at hu
    obtain ⟨-, hend⟩ := Passing.passes hplayable hstart hstill hu hall hactivate
    rw [List.nil_append] at hend
    exact hend rfl

/-- A page, three sections in which there is nothing, and another page. Play starts in the second
section. -/
def corridor : Value :=
  .map
    [("content", .map [("sections", .list
      [.map [("id", "a"), ("type", "info")],
        .map [("id", "b"), ("type", "quiz")],
        .map [("id", "c"), ("type", "narrative")],
        .map [("id", "d"), ("type", "exploration")],
        .map [("id", "e"), ("type", "info")]])]),
      ("progression", .map [("startSection", "b")])]

theorem passedOver_of_corridor :
    ∃ g, (load corridor "info").result = .ok g ∧
      (∀ s ∈ g.sections, ∀ a ∈ s.content.opening, a.kind ≠ "navigate") ∧
      ∃ v, start.runIn (create g .default (.repeating #[])) = (.ok true, v) ∧
        v.state.completed = ["b", "c", "d"] ∧ v.state.sectionId = "e" := by
  obtain ⟨g, hg, hchecked⟩ := Traced.exists_ok_of_any (x := load corridor "info")
    (p := fun g => decide
      ((∀ s ∈ g.sections, ∀ a ∈ s.content.opening, a.kind ≠ "navigate") ∧
        (start.runIn (create g .default (.repeating #[]))).1 = .ok true ∧
        g.order = ["a", "b", "c", "d", "e"] ∧ g.firstSectionId = "b" ∧
        g.order.map g.isTrivialAt = [false, true, true, true, false]))
    (by decide +kernel)
  obtain ⟨hstill, hstarted, horder, hfirst, htrivial⟩ := of_decide_eq_true hchecked
  have hrun : start.runIn (create g .default (.repeating #[])) = (.ok true, _) :=
    Prod.ext hstarted rfl
  obtain ⟨hpassed, -⟩ := passedOver_of_start [] (.inl hg) hstill rfl rfl rfl hrun
  rw [horder, hfirst] at hpassed
  rw [horder] at htrivial
  simp only [List.map_cons, List.map_nil, List.cons.injEq, and_true] at htrivial
  obtain ⟨-, hb, hc, hd, he⟩ := htrivial
  refine ⟨g, hg, hstill, _, hrun, hpassed 4 "e" (by decide) rfl he fun k other hk hlt hother => ?_⟩
  have hk : 1 ≤ k := hk
  obtain rfl | rfl | rfl : k = 1 ∨ k = 2 ∨ k = 3 := by omega
  · cases hother
    exact hb
  · cases hother
    exact hc
  · cases hother
    exact hd

end Session

end Play

end LearningGame
