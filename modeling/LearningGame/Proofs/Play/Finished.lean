import LearningGame.Proofs.Play.Current
import LearningGame.Proofs.Play.Hearing
import LearningGame.Proofs.Play.Progress

/-!
# Finished sections

A section that finishes reports this, and the session ends or begins another section. There is one
exception: the end of a section that has been completed before is not taken note of again, so who
goes back to such a section and finishes it once more is left in it.
-/

namespace LearningGame.Play

open Content Rules Act Contract Relation

/-- What is left behind by a computation, unless it goes on without end. -/
def Act.Leaves {ω α : Type} (Q : ω → Prop) (x : Act ω α) (w : ω) : Prop :=
  (x.runIn w).1 ≠ .error .endless → Q (x.runIn w).2

namespace Act

variable {ω α β : Type} {P Q : ω → Prop} {w : ω}

lemma Leaves.mono {x : Act ω α} (hx : Leaves P x w) (h : ∀ v, P v → Q v) : Leaves Q x w :=
  fun hended => h _ (hx hended)

lemma leaves_get_bind {f : ω → Act ω β} (hf : Leaves Q (f w) w) : Leaves Q (get >>= f) w := by
  unfold Leaves
  rw [runIn_get_bind]
  exact hf

lemma leaves_modify_bind {g : ω → ω} {f : PUnit → Act ω β} (hf : Leaves Q (f ⟨⟩) (g w)) :
    Leaves Q (modify g >>= f) w := by
  unfold Leaves
  rw [runIn_modify_bind]
  exact hf

lemma leaves_bind_pure {x : Act ω α} (hx : Leaves Q x w) (b : β) :
    Leaves Q (x >>= fun _ => pure b) w := by
  unfold Leaves at hx ⊢
  rw [runIn_bind]
  cases hrun : x.runIn w with
  | mk r v =>
    rw [hrun] at hx
    cases r with
    | ok a => exact fun _ => hx (by simp)
    | error e => exact fun h => hx (by simpa using h)

end Act

namespace Session

variable {u v w : Session}

/-! ### Leaving a section -/

lemma isComplete_step (h : Step w v) (hw : w.state.isComplete = true) :
    v.state.isComplete = true := by
  cases h with
  | reckon s _ hs => exact (congrArg Course.isComplete hs).trans hw
  | finish => simp [rated]
  | aside | arm | cancel | grant | complete | sit | stray => exact hw

lemma isComplete_jolts {e : Fault} (h : ReflTransGen (Jolt e) w v) (hw : w.state.isComplete = true) :
    v.state.isComplete = true := by
  induction h with
  | refl => exact hw
  | tail _ h ih =>
    cases h with
    | unrated => rfl
    | lost => exact ih
    | advance h =>
      cases h with
      | step h => exact isComplete_step h ih
      | lapse h => cases h <;> exact ih
      | play => exact ih

/-- The section in a seat is current no more, unless the game is complete. -/
def Released (index : Nat) (w : Session) : Prop :=
  w.current = some index → w.state.isComplete = true

section

variable {activate : Act Session Unit} (hactivate : IsActivation activate) {index : Nat}

include hactivate

lemma leaves_activate (hindex : index < w.seats.length) : Leaves (Released index) activate w := by
  obtain ⟨n, hrun⟩ := hactivate w
  unfold Leaves
  rw [hrun]
  cases n with
  | zero => exact fun h => absurd rfl h
  | succ n =>
    intro _ hcurrent
    exfalso
    rcases allows_seated covers_stepwise performs_stepwise n w with
      ⟨s, player, dice, table, -, -, -, -, hallows⟩ | ⟨table, -, -, hafter⟩
    · obtain ⟨e, hjolts⟩ := jolts_of_allows hallows
      have hold : index < (w.seated s player dice table).seats.length := by
        simp [seated, Nat.lt_succ_of_lt hindex]
      have hseated := (KeepsSeats.jolts hjolts).current index hold hcurrent
      simp only [seated, Option.some.injEq] at hseated
      exact absurd hseated (Nat.ne_of_gt hindex)
    · rw [hafter] at hcurrent
      cases hcurrent

omit hactivate in
lemma leaves_stop (hw : w.phase = .playing) : Leaves (Released index) stop w := by
  unfold Leaves
  rw [stop, runIn_whilePlaying hw]
  refine leaves_bind_pure ?_ true
  rcases finish_spec hw with ⟨e, table, -, -, hrun⟩ | ⟨tier, table, -, -, hrun⟩
  · unfold Leaves
    rw [hrun]
    exact fun _ _ => rfl
  · unfold Leaves
    rw [hrun]
    exact fun _ _ => by simp [rated]

lemma leaves_goOn (hw : w.phase = .playing) (hindex : index < w.seats.length) (id : String)
    (place : Nat) : Leaves (Released index) (goOn activate id place) w := by
  refine leaves_modify_bind (leaves_get_bind ?_)
  cases Session.nextAfter _ place with
  | none => exact leaves_bind_pure (leaves_stop (by exact hw)) _
  | some next => exact leaves_modify_bind (leaves_activate hactivate hindex)

lemma leaves_completeAt (hw : w.phase = .playing) (hindex : index < w.seats.length) (id : String)
    (place : Nat) : Leaves (Released index) (completeAt activate id place) w := by
  refine leaves_get_bind ?_
  split_ifs
  · exact leaves_modify_bind (leaves_goOn hactivate (by exact hw) (by exact hindex) id place)
  · exact leaves_modify_bind (leaves_goOn hactivate (by exact hw) (by exact hindex) id place)

/-- Completing a section for the first time ends the game or begins another section. -/
lemma leaves_completeBy (hw : w.phase = .playing) (hindex : index < w.seats.length) {id : String}
    (hcomplete : w.state.isComplete = false) (hnew : id ∉ w.state.completed) :
    Leaves (Released index) (completeBy activate id) w := by
  unfold Leaves
  rw [completeBy, runIn_whilePlaying hw]
  refine leaves_get_bind ?_
  rw [if_neg (by simp [hcomplete]), if_neg (by simpa [GameState.hasCompleted] using hnew)]
  cases w.place? id with
  | none =>
    exact leaves_modify_bind (leaves_bind_pure (leaves_stop (by exact hw)) true)
  | some place => exact leaves_bind_pure (leaves_completeAt hactivate hw hindex id place) true

end

/-! ### Taking note -/

/-- There is nothing to be taken note of when a section is finished: it has been completed before,
or the game is complete. -/
def Noted (w : Session) (id : String) : Prop :=
  id ∈ w.state.completed ∨ w.state.isComplete = true

lemma Noted.jolts {e : Fault} {id : String} (hw : Noted w id) (h : ReflTransGen (Jolt e) w v) :
    Noted v id :=
  hw.imp (fun hid => (prefix_of_jolts h).subset hid) (isComplete_jolts h)

/-- The current section is not finished, unless there was nothing to be taken note of. -/
def Attentive (w : Session) : Prop :=
  ∀ i seat, w.current = some i → w.seats[i]? = some seat → seat.player.completed = true →
    Noted w seat.setting.sectionId

lemma Attentive.of_same {e : Fault} (hw : Attentive w) (hseats : v.seats = w.seats)
    (hcurrent : v.current = w.current) (h : ReflTransGen (Jolt e) w v) : Attentive v := by
  intro i seat hi hseat hfinished
  rw [hcurrent] at hi
  rw [hseats] at hseat
  exact (hw i seat hi hseat hfinished).jolts h

lemma attentive_of_current_eq_none (hw : w.current = none) : Attentive w := by
  intro i seat hi
  simp [hw] at hi

lemma Attentive.step (hw : Attentive w) (h : Step w v) : Attentive v := by
  have hjolts : ReflTransGen (Jolt .endless) w v := .single (.advance (.step h))
  cases h with
  | aside | arm | cancel | grant | reckon | complete => exact hw.of_same rfl rfl hjolts
  | stray => exact attentive_of_current_eq_none rfl
  | finish => exact attentive_of_current_eq_none (current_finished ..)
  | sit id index s player dice table _ _ hplayer =>
    intro i seat hi hseat hfinished
    cases hi
    simp only [seated, List.getElem?_concat_length, Option.some.injEq] at hseat
    subst hseat
    exact absurd hfinished (by simp [hplayer])

lemma Attentive.lapse (hw : Attentive w) (h : Lapse w v) : Attentive v := by
  have hjolts : ReflTransGen (Jolt .endless) w v := .single (.advance (.lapse h))
  cases h with
  | elapse | strike | remain | expire => exact hw.of_same rfl rfl hjolts

/-- The contract to take note of finished sections, unless one goes on without end. -/
def attending : Contract Session where
  ends w v := ReflTransGen Advance w v ∧ (WellSeated w → Attentive w → Attentive v)
  breaks e w v :=
    ReflTransGen (Jolt e) w v ∧ (e ≠ .endless → WellSeated w → Attentive w → Attentive v)
  refl _ := ⟨.refl, fun _ h => h⟩
  trans huv hvw :=
    ⟨huv.1.trans hvw.1, fun hu h =>
      hvw.2 (invariant_wellSeated.jolts (jolts_of_advances (e := .endless) huv.1) hu) (huv.2 hu h)⟩
  breaks_self _ _ := ⟨.refl, fun _ _ h => h⟩
  breaks_trans huv hvw :=
    ⟨(jolts_of_advances huv.1).trans hvw.1, fun he hu h =>
      hvw.2 he (invariant_wellSeated.jolts (jolts_of_advances (e := .endless) huv.1) hu)
        (huv.2 hu h)⟩

lemma attending_iff {α : Type} {r : Except Fault α} :
    attending.Allows w r v ↔
      stepwise.Allows w r v ∧ (r ≠ .error .endless → WellSeated w → Attentive w → Attentive v) := by
  cases r with
  | ok a => exact and_congr_right fun _ => by simp
  | error e => exact and_congr_right fun _ => by simp

lemma covers_attending : Covers attending := by
  refine .of_steps (fun h => ⟨.single (.step h), fun _ hw => hw.step h⟩)
    (fun {w e} table hphase _ htable => ?_) fun id index hphase hid => ?_
  · have hjolts : ReflTransGen (Jolt e) w (w.unrated table) :=
      .single (.unrated table hphase htable)
    exact ⟨hjolts, fun _ _ hw => hw.of_same rfl rfl hjolts⟩
  · exact ⟨.single (.lost id index hphase hid rfl), fun h => absurd rfl h⟩

section

variable {index : Nat} {seat : Seat}

/-- A section in a seat that it has taken. -/
def Occupies (index : Nat) (seat : Seat) (w : Session) : Prop :=
  WellSeated w ∧ ∃ player, w.seats[index]? = some { seat with player }

lemma Occupies.lt_length (hw : Occupies index seat w) : index < w.seats.length := by
  obtain ⟨-, player, hseat⟩ := hw
  exact (List.getElem?_eq_some_iff.1 hseat).1

lemma Occupies.jolts {e : Fault} (hw : Occupies index seat w) (h : ReflTransGen (Jolt e) w v) :
    Occupies index seat v := by
  obtain ⟨hseated, player, hseat⟩ := hw
  obtain ⟨after, -, hafter⟩ := (KeepsSeats.jolts h).seats index _ hseat
  exact ⟨invariant_wellSeated.jolts h hseated, after, hafter⟩

/-- Once the section in a seat is finished, it is current no more or there is nothing to be taken
note of. -/
def Heeded (index : Nat) (seat : Seat) (w : Session) : Prop :=
  w.current = some index → Noted w seat.setting.sectionId

lemma Heeded.jolts {e : Fault} (hw : Heeded index seat w) (hseat : Occupies index seat w)
    (h : ReflTransGen (Jolt e) w v) : Heeded index seat v := fun hcurrent =>
  (hw ((KeepsSeats.jolts h).current index hseat.lt_length hcurrent)).jolts h

/-- A section is put back into its seat when what is to be taken note of has been. -/
lemma Attentive.putPlayer {before player : Player} (hw : Attentive w)
    (hseat : w.seats[index]? = some { seat with player := before })
    (hheeded : player.completed = true → Heeded index seat w) :
    Attentive (putPlayer index player w) := by
  intro i s hi hs hfinished
  simp only [Session.putPlayer, List.getElem?_modify, Option.map_eq_map,
    Option.map_eq_some_iff] at hs
  obtain ⟨old, hold, rfl⟩ := hs
  split_ifs at hfinished ⊢ with hindex
  · subst hindex
    rw [hseat] at hold
    cases hold
    exact hheeded hfinished hi
  · exact hw i old hi hold hfinished

/-- What a report does that is heard. -/
lemma runIn_complete {activate : Act Session Unit}
    (hheard : seat.epochs.current w.table.registry.epochs .ofSection = true) :
    (reply activate index seat .complete).runIn w =
      (completeBy activate seat.setting.sectionId >>= fun _ => pure ()).runIn w := by
  show (heard seat "complete_section" () (completeBy activate seat.setting.sectionId >>=
    fun _ => pure ())).runIn w = _
  rw [heard, runIn_get_bind, if_pos hheard]

/-- A report is ignored if there is nothing to be taken note of. -/
lemma undisturbed_complete (hw : WellSeated w) (hcurrent : w.current = some index)
    (hseat : w.seats[index]? = some seat) (hnoted : Noted w seat.setting.sectionId) :
    Undisturbed w ((reply activate index seat .complete).runIn w).2 := by
  rw [runIn_complete (hw.isHeard hcurrent hseat), (runIn_bind_pure _ _ w).1, completeBy]
  by_cases hplaying : w.phase = .playing
  · rw [runIn_whilePlaying hplaying, runIn_get_bind]
    by_cases hcomplete : w.state.isComplete = true
    · rw [if_pos hcomplete]
      exact .aside w _ w.dice w.clock rfl
    · have hold : w.state.hasCompleted seat.setting.sectionId = true := by
        simpa [GameState.hasCompleted] using hnoted.resolve_right hcomplete
      rw [if_neg hcomplete, if_pos hold]
      exact .aside w _ w.dice w.clock rfl
  · exact undisturbed_whilePlaying hplaying _ _ _

variable {activate : Act Session Unit} (hactivate : IsActivation activate)

include hactivate

/-- The first report of a section that is finished ends the game or begins another section. -/
lemma released_complete (hw : WellSeated w) (hcurrent : w.current = some index)
    (hseat : w.seats[index]? = some seat) (hnoted : ¬Noted w seat.setting.sectionId) :
    Leaves (Released index) (reply activate index seat .complete) w := by
  obtain ⟨hnew, hcomplete⟩ := not_or.1 hnoted
  have hplaying : w.phase = .playing := by
    by_contra hidle
    simp [hw.idle hidle] at hcurrent
  have hleft : Leaves (Released index) (completeBy activate seat.setting.sectionId) w :=
    leaves_completeBy hactivate hplaying (List.getElem?_eq_some_iff.1 hseat).1
      (by simpa using hcomplete) hnew
  unfold Leaves
  rw [runIn_complete (hw.isHeard hcurrent hseat)]
  exact leaves_bind_pure hleft ()

variable (hgoTo : GoesBy stepwise activate)

include hgoTo

omit hactivate in
lemma jolts_reply (index : Nat) (seat : Seat) (r : Request) (w : Session) :
    ∃ e, ReflTransGen (Jolt e) w ((reply activate index seat r).runIn w).2 :=
  jolts_of_allows (met_reply covers_stepwise hgoTo index seat r)

/-- The report of a section that is finished is heeded. -/
lemma heeded_complete (hw : Occupies index seat w) :
    Leaves (Heeded index seat) (reply activate index seat .complete) w := by
  by_cases hheeded : Heeded index seat w
  · obtain ⟨e, hjolts⟩ := jolts_reply hgoTo index seat .complete w
    exact fun _ => hheeded.jolts hw hjolts
  · obtain ⟨hcurrent, hnoted⟩ := Classical.not_imp.1 hheeded
    obtain ⟨hseated, player, hseat⟩ := hw
    have hleft := released_complete hactivate hseated hcurrent hseat hnoted
    exact hleft.mono fun v hv hcurrent => .inr (hv hcurrent)

end

lemma performs_attending : Performs attending := by
  intro activate hactivate hgoTo index α script w hscript
  have hgoTo' : GoesBy stepwise activate := fun w id hw hid =>
    (attending_iff.1 (hgoTo w id hw hid)).1
  refine attending_iff.2 ⟨performs_stepwise hactivate hgoTo' index script w hscript, ?_⟩
  intro hended hseated hw
  cases hseat : w.seats[index]? with
  | none =>
    rw [perform, runIn_ofFun, hseat]
    exact hw
  | some seat =>
    have hfirst : Occupies index seat w := ⟨hseated, seat.player, hseat⟩
    have hrun := attending_iff.1
      (allows_run (fun r w => met_reply covers_attending hgoTo (w := w) index seat r)
        (script seat.setting seat.player) seat.player w)
    have hheeded := Script.run_announces (W := Occupies index seat) (K := Heeded index seat)
      (fun r w hw => (jolts_reply hgoTo' index seat r w).elim fun _ hjolts => hw.jolts hjolts)
      (fun r w hw hk => (jolts_reply hgoTo' index seat r w).elim fun _ hjolts => hk.jolts hw hjolts)
      (fun w hw => heeded_complete hactivate hgoTo' hw)
      (script seat.setting seat.player) seat.player w (hscript seat hseat).announces hfirst
      (.inl fun hfinished hcurrent => hw index seat hcurrent hseat hfinished)
    rw [runIn_perform activate hseat] at hended ⊢
    obtain ⟨e, hjolts⟩ := jolts_of_allows hrun.1
    obtain ⟨-, before, hbefore⟩ := hfirst.jolts hjolts
    exact (hrun.2 hended hseated hw).putPlayer hbefore (hheeded hended)

lemma met_tick_attending (w : Session) : attending.Met tick w :=
  met_tick covers_attending performs_attending fun h => ⟨.single (.lapse h), fun _ hw => hw.lapse h⟩

/-! ### Deeds -/

/-- A deed that comes to an end leaves no finished section that was not taken note of. -/
lemma Attentive.after (hw : Attentive w) (hseated : WellSeated w) {d : Deed}
    (hd : d.fault? w ≠ some .endless) : Attentive (d.after w) := by
  by_cases hrestart : d = .restart
  · subst hrestart
    obtain ⟨table, -, hrun⟩ := restart_spec w
    have hafter : Deed.restart.after w = w.restarted table := congrArg Prod.snd hrun
    exact hafter ▸ attentive_of_current_eq_none rfl
  · obtain ⟨u, hu, hallows⟩ :=
      allows_after covers_attending performs_attending met_tick_attending hrestart w
    have hended : (d.act.runIn w).1 ≠ .error .endless := by
      intro h
      simp [Deed.fault?, h] at hd
    refine (attending_iff.1 hallows).2 hended (invariant_wellSeated.setsOut hu hseated) ?_
    cases hu with
    | here => exact hw
    | begun table hintro =>
      have hnone : w.current = none := hseated.idle (by simp [hintro])
      exact attentive_of_current_eq_none hnone

lemma Attentive.played (hw : Attentive w) (hseated : WellSeated w) (deeds : List Deed)
    (hdeeds : .endless ∉ w.faults deeds) : Attentive (w.played deeds) := by
  induction deeds generalizing w with
  | nil => exact hw
  | cons d rest ih =>
    obtain ⟨hd, hrest⟩ := not_or.1 (List.mem_append.not.1 hdeeds)
    have hfault : d.fault? w ≠ some .endless := by simpa using hd
    exact ih (hw.after hseated hfault) (invariant_wellSeated.after d hseated) hrest

/-- A session has gone on from a section: it has ended, another section has been begun, or the game
is complete. -/
def MovesOn (w v : Session) : Prop :=
  v.phase = .playing → v.state.isComplete = true ∨
    ∃ next, v.current = some next ∧ w.seats.length ≤ next

/-- The session moves on when a section reports its end for the first time. -/
lemma movesOn_of_request (hseated : WellSeated w) (hw : Manned w) {index : Nat} {seat : Seat}
    (hcurrent : w.current = some index) (hseat : w.seats[index]? = some seat)
    (hnoted : ¬Noted w seat.setting.sectionId)
    (hended : (Deed.request index .complete).fault? w ≠ some .endless) :
    MovesOn w ((Deed.request index .complete).after w) := by
  intro hplaying
  obtain ⟨next, hnext⟩ := (hw.after hended).2 hplaying
  by_cases hold : next < w.seats.length
  · left
    rw [ne_eq, Deed.fault?_request hseat] at hended
    simp only [Deed.after, hseat] at hnext ⊢
    obtain ⟨e, hjolts⟩ := jolts_reply (goesBy_activate covers_stepwise performs_stepwise)
      index seat .complete w
    have hsame := (KeepsSeats.jolts hjolts).current next hold hnext
    rw [hcurrent] at hsame
    exact released_complete isActivation_activate hseated hcurrent hseat hnoted hended
      (hnext.trans hsame.symm)
  · exact .inr ⟨next, hnext, Nat.le_of_not_lt hold⟩

/-- As long as nothing goes on without end, every session of a loaded game that is being played has
a current section, and this is not finished unless there was nothing to be taken note of: it had
been completed before. When the current section reports its end, the session moves on, and ignores
the report only if there is nothing to be taken note of. -/
theorem noted_of_played {raw gameType : Value} (record : Fields) {g : Game}
    (hg : (load raw gameType).result = .ok g ∨ (loadRecord record gameType).result = .ok g)
    (settings : Settings) (dice : Dice) (deeds : List Deed)
    (hdeeds : .endless ∉ (create g settings dice).faults deeds) :
    let w := (create g settings dice).played deeds
    w.phase = .playing →
      ∃ index seat, w.current = some index ∧ w.seats[index]? = some seat ∧
        (seat.player.completed = true → Noted w seat.setting.sectionId) ∧
        (Noted w seat.setting.sectionId →
          Undisturbed w ((Deed.request index .complete).after w)) ∧
        (¬Noted w seat.setting.sectionId →
          (Deed.request index .complete).fault? w ≠ some .endless →
            MovesOn w ((Deed.request index .complete).after w)) := by
  intro w hplaying
  have hplayable : g.IsPlayable := by
    rcases hg with hg | hg
    · obtain ⟨known, hg⟩ := isFilledFrom_of_load hg
      exact hg.isPlayable
    · obtain ⟨known, hg⟩ := isFilledFrom_of_loadRecord hg
      exact hg.isPlayable
  have hseated : WellSeated w := wellSeated_played g settings dice deeds
  have hmanned : Manned w := (manned_create hplayable settings dice).played deeds hdeeds
  have hattentive : Attentive w :=
    (attentive_of_current_eq_none rfl).played (wellSeated_create g settings dice) deeds hdeeds
  obtain ⟨index, hcurrent⟩ := hmanned.2 hplaying
  obtain ⟨seat, hseat, -⟩ := hseated.current index hcurrent
  refine ⟨index, seat, hcurrent, hseat, hattentive index seat hcurrent hseat, fun hnoted => ?_,
    movesOn_of_request hseated hmanned hcurrent hseat⟩
  simp only [Deed.after, hseat]
  exact undisturbed_complete hseated hcurrent hseat hnoted

/-- The first page of three is read, and then once more. -/
def rereading : List Deed := [.start, .move 0 .goOn, .navigateTo "a", .move 2 .goOn]

/-- A page that is read once more is finished and stays the current one, though nothing was broken
off and the game is not complete. -/
theorem completed_of_rereading :
    ∃ g, (load threePages "info").result = .ok g ∧
      (create g .default (.repeating #[])).faults rereading = [] ∧
        let w := (create g .default (.repeating #[])).played rereading
        w.phase = .playing ∧ w.state.isComplete = false ∧
          ∃ seat, w.currentSeat? = some seat ∧ seat.player.completed = true := by
  obtain ⟨g, hg, hplay⟩ := Traced.exists_ok_of_any (x := load threePages "info")
    (p := fun g =>
      let w := (create g .default (.repeating #[])).played rereading
      ((create g .default (.repeating #[])).faults rereading).isEmpty &&
        decide (w.phase = .playing ∧ w.state.isComplete = false) &&
          w.currentSeat?.any fun seat => seat.player.completed) (by decide +kernel)
  simp only [Bool.and_eq_true, List.isEmpty_iff, decide_eq_true_eq, Option.any_eq_true] at hplay
  obtain ⟨⟨hfaults, hphase, hcomplete⟩, hfinished⟩ := hplay
  exact ⟨g, hg, hfaults, hphase, hcomplete, hfinished⟩

/-- Reading a page once more is not taken note of, and reading it first is. -/
theorem noted_of_rereading :
    ∃ g, (load threePages "info").result = .ok g ∧
      let w := (create g .default (.repeating #[])).played rereading
      let v := (create g .default (.repeating #[])).played [.start]
      .endless ∉ (create g .default (.repeating #[])).faults rereading ∧ w.phase = .playing ∧
        (∃ index seat, w.current = some index ∧ w.seats[index]? = some seat ∧
          seat.player.completed = true ∧ Noted w seat.setting.sectionId ∧
          Undisturbed w ((Deed.request index .complete).after w)) ∧
        ∃ index seat, v.current = some index ∧ v.seats[index]? = some seat ∧
          ¬Noted v seat.setting.sectionId ∧
          (Deed.request index .complete).fault? v ≠ some .endless ∧
          MovesOn v ((Deed.request index .complete).after v) := by
  obtain ⟨g, hg, hplay⟩ := Traced.exists_ok_of_any (x := load threePages "info")
    (p := fun g =>
      let w := (create g .default (.repeating #[])).played rereading
      let v := (create g .default (.repeating #[])).played [.start]
      ((create g .default (.repeating #[])).faults rereading).isEmpty &&
        ((create g .default (.repeating #[])).faults [.start]).isEmpty &&
        decide (w.phase = .playing ∧ v.phase = .playing ∧ v.state.completed = [] ∧
          v.state.isComplete = false) &&
        (w.currentSeat?.all fun seat => seat.player.completed) &&
        v.current.all fun index => ((Deed.request index .complete).fault? v).isNone)
    (by decide +kernel)
  simp only [Bool.and_eq_true, List.isEmpty_iff, decide_eq_true_eq] at hplay
  obtain ⟨⟨⟨⟨hfaults, hstart⟩, hw, hv, hnothing, hopen⟩, hfinished⟩, hreport⟩ := hplay
  have hended : .endless ∉ (create g .default (.repeating #[])).faults rereading := by
    simp [hfaults]
  obtain ⟨i, s, hi, hs, hnoted, hignored, -⟩ :=
    noted_of_played [] (.inl hg) .default (.repeating #[]) rereading hended hw
  obtain ⟨j, t, hj, ht, -, -, hmoves⟩ :=
    noted_of_played [] (.inl hg) .default (.repeating #[]) [.start] (by simp [hstart]) hv
  refine ⟨g, hg, hended, hw, ⟨i, s, hi, hs, ?_⟩, j, t, hj, ht, ?_⟩
  · have hcompleted : s.player.completed = true := by
      simpa [currentSeat?, hi, hs] using hfinished
    exact ⟨hcompleted, hnoted hcompleted, hignored (hnoted hcompleted)⟩
  · have hnew : ¬Noted ((create g .default (.repeating #[])).played [.start])
        t.setting.sectionId := by
      simp [Noted, hnothing, hopen]
    have hheard : (Deed.request j .complete).fault?
        ((create g .default (.repeating #[])).played [.start]) ≠ some .endless := by
      intro h
      simp [hj, h] at hreport
    exact ⟨hnew, hheard, hmoves hnew hheard⟩

end Session

end LearningGame.Play
