import LearningGame.Proofs.Play.Path

/-!
# Seats and epochs

Every section that has been begun keeps its seat. The current one was begun at the present epochs,
all others at earlier ones, which never come back: so what a section asks for is heard while it is
current and never again.
-/

namespace LearningGame.Play

open Content Relation

namespace Session

/-- The epochs of a session. -/
def epochs (w : Session) : Epochs := w.table.registry.epochs

/-- The seat that is current was taken at the present epochs, and the others were before; in no
phase but the playing one there is a current seat. -/
structure WellSeated (w : Session) : Prop where
  current : ∀ i, w.current = some i →
    ∃ seat, w.seats[i]? = some seat ∧ seat.epochs = w.epochs
  others : ∀ i seat, w.seats[i]? = some seat → w.current ≠ some i →
    seat.epochs.sections < w.epochs.sections
  idle : w.phase ≠ .playing → w.current = none

namespace WellSeated

variable {w v : Session}

/-- No seat was taken at a later epoch. -/
lemma sections_le (hw : WellSeated w) {i : Nat} {seat : Seat} (hseat : w.seats[i]? = some seat) :
    seat.epochs.sections ≤ w.epochs.sections := by
  by_cases hi : w.current = some i
  · obtain ⟨s, hs, hepochs⟩ := hw.current i hi
    rw [hseat] at hs
    cases hs
    exact hepochs ▸ Nat.le_refl _
  · exact Nat.le_of_lt (hw.others i seat hseat hi)

/-- When a section is left, no seat is current. -/
lemma leave (hw : WellSeated w) (hseats : v.seats = w.seats) (hcurrent : v.current = none)
    (hepochs : w.epochs.sections < v.epochs.sections) : WellSeated v where
  current i h := by simp [hcurrent] at h
  others i seat hseat _ := by
    rw [hseats] at hseat
    exact Nat.lt_of_le_of_lt (hw.sections_le hseat) hepochs
  idle _ := hcurrent

/-- When a section is begun, its seat is current. -/
lemma sit (hw : WellSeated w) {seat : Seat} (hseats : v.seats = w.seats ++ [seat])
    (hcurrent : v.current = some w.seats.length) (hseat : seat.epochs = v.epochs)
    (hepochs : w.epochs.sections < v.epochs.sections) (hphase : v.phase = .playing) :
    WellSeated v where
  current i h := by
    rw [hcurrent] at h
    cases h
    exact ⟨seat, by simp [hseats], hseat⟩
  others i s hs hi := by
    rw [hcurrent, ne_eq, Option.some_inj] at hi
    rw [hseats, List.getElem?_append] at hs
    split_ifs at hs with hlt
    · exact Nat.lt_of_le_of_lt (hw.sections_le hs) hepochs
    · have hlast : i - w.seats.length < 1 := (List.getElem?_eq_some_iff.1 hs).1
      omega
  idle h := absurd hphase h

/-- Nothing changes as long as the seats, their epochs and the phase stay the same. -/
lemma of_same (hw : WellSeated w) (hseats : v.seats = w.seats) (hcurrent : v.current = w.current)
    (hepochs : v.epochs = w.epochs) (hphase : w.phase ≠ .playing ∨ v.phase = w.phase) :
    WellSeated v where
  current := by
    rw [hcurrent, hseats, hepochs]
    exact hw.current
  others := by
    rw [hcurrent, hseats, hepochs]
    exact hw.others
  idle h := by
    rw [hcurrent]
    exact hw.idle (hphase.elim id fun heq => heq ▸ h)

lemma step (h : Step w v) (hw : WellSeated w) : WellSeated v := by
  cases h with
  | aside | arm | cancel | grant | reckon | complete => exact hw.of_same rfl rfl rfl (.inr rfl)
  | sit id index s player dice table hphase _ _ _ htable =>
    exact hw.sit rfl rfl rfl (by simp [epochs, seated, htable, Registry.nextSection]) hphase
  | stray id index table _ _ _ htable =>
    exact hw.leave rfl rfl (by simp [epochs, htable, Registry.nextSection])
  | finish tier table _ _ htable =>
    exact hw.leave (seats_finished ..) (current_finished ..)
      (by simp [epochs, htable, Registry.nextPhase])

lemma lapse (h : Lapse w v) (hw : WellSeated w) : WellSeated v := by
  cases h with
  | elapse | strike | remain | expire => exact hw.of_same rfl rfl rfl (.inr rfl)

lemma putPlayer (hw : WellSeated w) (index : Nat) (player : Player) :
    WellSeated (putPlayer index player w) where
  current i hi := by
    obtain ⟨seat, hseat, hepochs⟩ := hw.current i hi
    simp only [Session.putPlayer, List.getElem?_modify, hseat]
    exact ⟨_, rfl, by split_ifs <;> exact hepochs⟩
  others i seat hseat hi := by
    simp only [Session.putPlayer, List.getElem?_modify, Option.map_eq_map,
      Option.map_eq_some_iff] at hseat
    obtain ⟨s, hs, rfl⟩ := hseat
    have hbefore := hw.others i s hs hi
    split_ifs <;> exact hbefore
  idle h := hw.idle h

/-- The section in the current seat is heard. -/
lemma isHeard (hw : WellSeated w) {i : Nat} {seat : Seat} (hcurrent : w.current = some i)
    (hseat : w.seats[i]? = some seat) :
    seat.epochs.current w.table.registry.epochs .ofSection = true := by
  obtain ⟨s, hs, hepochs⟩ := hw.current i hcurrent
  rw [hseat] at hs
  cases hs
  have hpresent : seat.epochs = w.table.registry.epochs := hepochs
  simp [Epochs.current, hpresent]

end WellSeated

lemma invariant_wellSeated : Invariant WellSeated where
  begun hphase htable hw :=
    hw.of_same rfl rfl (by simp [epochs, begun, htable]) (.inl (by simp [hphase]))
  restarted htable hw := hw.leave rfl rfl (by simp [epochs, restarted, htable, Registry.nextPhase])
  jolt h hw := by
    cases h with
    | unrated table _ htable =>
      exact hw.of_same rfl rfl (congrArg Registry.epochs htable) (.inr rfl)
    | lost =>
      exact hw.leave rfl rfl (Nat.lt_succ_self _)
    | advance h =>
      cases h with
      | step h => exact hw.step h
      | lapse h => exact hw.lapse h
      | play index player => exact hw.putPlayer index player

lemma wellSeated_create (g : Game) (settings : Settings) (dice : Dice) :
    WellSeated (create g settings dice) where
  current _ h := by cases h
  others _ _ h := by simp [create] at h
  idle _ := rfl

/-- Whatever is done, the current seat is the only one that was taken at the present epochs. -/
lemma wellSeated_played (g : Game) (settings : Settings) (dice : Dice) (deeds : List Deed) :
    WellSeated ((create g settings dice).played deeds) :=
  invariant_wellSeated.played deeds (wellSeated_create g settings dice)

end Session

end LearningGame.Play
