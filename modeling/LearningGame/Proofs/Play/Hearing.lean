import LearningGame.Proofs.Play.Seating

/-!
# Who is heard

Nothing but a start or a restart has an effect on a session that is not being played, and a section
that has been left is not heard any more, whatever is done in it: not even if it is the same section
that has been begun anew.
-/

namespace LearningGame.Play

open Content Act Contract

namespace Session

/-- Nothing has happened to the game, its phase, its current section and its reports. -/
structure Undisturbed (w v : Session) : Prop where
  state : v.state = w.state
  phase : v.phase = w.phase
  current : v.current = w.current
  currentSeat : v.currentSeat? = w.currentSeat?
  completions : v.completions = w.completions
  epochs : v.epochs = w.epochs

namespace Undisturbed

variable {u v w : Session}

protected lemma refl (w : Session) : Undisturbed w w := ⟨rfl, rfl, rfl, rfl, rfl, rfl⟩

protected lemma trans (h : Undisturbed u v) (h' : Undisturbed v w) : Undisturbed u w where
  state := h'.state.trans h.state
  phase := h'.phase.trans h.phase
  current := h'.current.trans h.current
  currentSeat := h'.currentSeat.trans h.currentSeat
  completions := h'.completions.trans h.completions
  epochs := h'.epochs.trans h.epochs

/-- Notes, countdowns and dice do not disturb a session. -/
lemma aside (w : Session) (table : Table SessionAlarm) (dice : Dice) (clock : Float)
    (htable : table.registry.epochs = w.table.registry.epochs) :
    Undisturbed w { w with table, dice, clock } := ⟨rfl, rfl, rfl, rfl, rfl, htable⟩

/-- Neither does what becomes of a section that is not current. -/
lemma putPlayer {index : Nat} (hindex : w.current ≠ some index) (player : Player) :
    Undisturbed w (putPlayer index player w) := by
  refine ⟨rfl, rfl, rfl, ?_, rfl, rfl⟩
  show (w.current.bind fun i => (Session.putPlayer index player w).seats[i]?) = w.currentSeat?
  cases hcurrent : w.current with
  | none => simp [currentSeat?, hcurrent]
  | some i =>
    have hi : index ≠ i := fun h => hindex (h ▸ hcurrent)
    simp [currentSeat?, hcurrent, Session.putPlayer, List.getElem?_modify, hi]

end Undisturbed

/-! ### Sections that have been left -/

/-- The contract of a section that has been left: not to disturb the session. -/
def hushed (seat : Seat) : Contract Session where
  ends w v := seat.epochs.sections < w.epochs.sections → Undisturbed w v
  breaks _ w v := seat.epochs.sections < w.epochs.sections → Undisturbed w v
  refl w _ := .refl w
  trans huv hvw h := (huv h).trans (hvw ((huv h).epochs ▸ h))
  breaks_self _ w _ := .refl w
  breaks_trans huv hvw h := (huv h).trans (hvw ((huv h).epochs ▸ h))

section

variable {activate : Act Session Unit} {w : Session} {α : Type} (seat : Seat)

lemma freeNotes_hushed : Table.FreeNotes (α := SessionAlarm) (hushed seat) :=
  fun w _ _ => .aside w _ w.dice w.clock rfl

/-- A section that has been left is not heard. -/
lemma hushed_heard (operation : String) (refused : α) (x : Act Session α) :
    (hushed seat).Met (heard seat operation refused x) w := by
  refine met_get_bind ?_
  split_ifs with hheard
  · have hpresent : ¬seat.epochs.sections < w.epochs.sections := by
      simp only [Epochs.current, Bool.and_eq_true, beq_iff_eq] at hheard
      exact Nat.not_lt.2 (Nat.le_of_eq hheard.2.symm)
    unfold Contract.Met
    cases (x.runIn w).1 with
    | ok a => exact fun hleft => absurd hleft hpresent
    | error e => exact fun hleft => absurd hleft hpresent
  · exact Table.met_note_bind (freeNotes_hushed seat) (met_pure _)

/-- Whatever a section that has been left asks for, the session is not disturbed. -/
lemma hushed_reply (index : Nat) (r : Request) (w : Session) :
    (hushed seat).Met (reply activate index seat r) w := by
  cases r with
  | report | complete | spendHint | navigate | updateVariables | addItem | removeItem =>
    exact hushed_heard seat _ _ _
  | look | now => exact met_get_bind (met_pure _)
  | arm => exact Table.met_arm (freeNotes_hushed seat) fun _ => .aside w _ w.dice w.clock rfl
  | cancel => exact Table.met_cancel (freeNotes_hushed seat) fun _ => .aside w _ w.dice w.clock rfl
  | draw =>
    refine met_get_bind ?_
    exact fun _ => .aside w w.table w.dice.advance w.clock rfl
  | note => exact Table.met_note (freeNotes_hushed seat) _ _ _

lemma undisturbed_of_allows {r : Except Fault α} {v : Session}
    (h : (hushed seat).Allows w r v) (hleft : seat.epochs.sections < w.epochs.sections) :
    Undisturbed w v := by
  cases r with
  | ok a => exact h hleft
  | error e => exact h hleft

end

variable {w : Session} {index : Nat}

/-- A request of a section that has been left does not disturb the session. -/
lemma undisturbed_request (hw : WellSeated w) (hindex : w.current ≠ some index) (r : Request) :
    Undisturbed w ((Deed.request index r).after w) := by
  simp only [Deed.after]
  cases hseat : w.seats[index]? with
  | none => exact .refl w
  | some seat =>
    exact undisturbed_of_allows seat (hushed_reply seat index r w)
      (hw.others index seat hseat hindex)

/-- A move in a section that has been left does not disturb the session. -/
lemma undisturbed_move (hw : WellSeated w) (hindex : w.current ≠ some index) (m : Move) :
    Undisturbed w ((Deed.move index m).after w) := by
  simp only [Deed.after, act?]
  cases hseat : w.seats[index]? with
  | none => exact .refl w
  | some seat =>
    cases hscript : Player.act? seat.setting m seat.player with
    | none =>
      simp only [Option.bind_eq_bind, Option.bind_some, hscript, Option.bind_none]
      exact .refl w
    | some script =>
      simp only [Option.bind_eq_bind, Option.bind_some, hscript, Option.pure_def,
        runIn_perform activate hseat]
      have hreply (r : Request) (v : Session) :
          (hushed seat).Met (reply activate index seat r) v :=
        hushed_reply seat index r v
      have hrun := undisturbed_of_allows seat (allows_run hreply script seat.player w)
        (hw.others index seat hseat hindex)
      exact hrun.trans (.putPlayer (hrun.current ▸ hindex) _)

/-! ### Sessions that are not being played -/

/-- What is meant for the playing phase is ignored in any other. -/
lemma undisturbed_whilePlaying {α : Type} (hw : w.phase ≠ .playing) (operation : String)
    (refused : α) (x : Act Session α) :
    Undisturbed w ((whilePlaying operation refused x).runIn w).2 := by
  rw [whilePlaying, runIn_get_bind, if_neg hw]
  exact .aside w _ w.dice w.clock rfl

/-- Nothing but a start or a restart disturbs a session that is not being played. -/
lemma undisturbed_of_idle (hw : WellSeated w) (hidle : w.phase ≠ .playing) {d : Deed}
    (hstart : d ≠ .start) (hrestart : d ≠ .restart) : Undisturbed w (d.after w) := by
  have hcurrent (index : Nat) : w.current ≠ some index := by simp [hw.idle hidle]
  cases d with
  | start => exact absurd rfl hstart
  | restart => exact absurd rfl hrestart
  | stop | completeSection | navigateTo | submit | useHint | updateVariables | addItem
    | removeItem => exact undisturbed_whilePlaying hidle _ _ _
  | tick =>
    simp only [Deed.after, tick, runIn_get_bind, if_neg hidle]
    exact .refl w
  | moveClock seconds => exact .aside w w.table w.dice _ rfl
  | move index m => exact undisturbed_move hw (hcurrent index) m
  | request index r => exact undisturbed_request hw (hcurrent index) r

/-- In every session that can come about: as long as it is not being played, nothing but a start or
a restart disturbs it, and no move in a section that is not current and nothing such a section asks
for ever does. -/
theorem undisturbed_of_played (g : Game) (settings : Settings) (dice : Dice) (deeds : List Deed) :
    let w := (create g settings dice).played deeds
    (w.phase ≠ .playing → ∀ d : Deed, d ≠ .start → d ≠ .restart → Undisturbed w (d.after w)) ∧
      ∀ index, w.current ≠ some index →
        (∀ m, Undisturbed w ((Deed.move index m).after w)) ∧
          ∀ r, Undisturbed w ((Deed.request index r).after w) := by
  intro w
  have hw : WellSeated w := wellSeated_played g settings dice deeds
  exact ⟨fun hidle d hstart hrestart => undisturbed_of_idle hw hidle hstart hrestart,
    fun index hindex => ⟨undisturbed_move hw hindex, undisturbed_request hw hindex⟩⟩

/-- A page that has been left for another reading of the same page, and a play that has ended. -/
theorem undisturbed_of_rereading :
    ∃ g, (load threePages "info").result = .ok g ∧
      let w := (create g .default (.repeating #[])).played [.start, .navigateTo "a"]
      let v := (create g .default (.repeating #[])).played [.start, .stop]
      w.phase = .playing ∧ w.current ≠ some 0 ∧ Undisturbed w ((Deed.move 0 .goOn).after w) ∧
        v.phase ≠ .playing ∧ Undisturbed v ((Deed.completeSection "a").after v) := by
  obtain ⟨g, hg, hplay⟩ := Traced.exists_ok_of_any (x := load threePages "info")
    (p := fun g =>
      let w := (create g .default (.repeating #[])).played [.start, .navigateTo "a"]
      let v := (create g .default (.repeating #[])).played [.start, .stop]
      decide (w.phase = .playing ∧ w.current ≠ some 0 ∧ v.phase ≠ .playing)) (by decide +kernel)
  obtain ⟨hplaying, hleft, hended⟩ := of_decide_eq_true hplay
  refine ⟨g, hg, hplaying, hleft, ?_, hended, ?_⟩
  · obtain ⟨-, hothers⟩ :=
      undisturbed_of_played g .default (.repeating #[]) [.start, .navigateTo "a"]
    exact (hothers 0 hleft).1 .goOn
  · obtain ⟨hidle, -⟩ := undisturbed_of_played g .default (.repeating #[]) [.start, .stop]
    exact hidle hended (.completeSection "a") (by simp) (by simp)

end Session

end LearningGame.Play
