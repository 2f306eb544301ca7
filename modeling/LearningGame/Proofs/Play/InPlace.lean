import LearningGame.Proofs.Play.Current
import LearningGame.Proofs.Play.Seating

/-!
# The section in its place

A session that has a current section is being played and is at that section: the state names it, its
seat holds a player of its kind, and it was taken at the present epochs. A session that is being
played has a current section, unless sections were begun one from within the other without end.
-/

namespace LearningGame.Play

open Content Schema Act Relation

namespace Session

/-- A seat is one of the section that a session that is being played is at. -/
structure InPlace (w : Session) (s : Section) (seat : Seat) : Prop where
  playing : w.phase = .playing
  named : w.game.section? w.state.sectionId = some s
  setting : seat.setting = Setting.ofSection w.game w.settings s
  kind : seat.player.kind = s.kind

/-- The current seat, if there is one, is in its place. -/
def Placed (w : Session) : Prop :=
  ∀ i, w.current = some i → ∃ s seat, w.seats[i]? = some seat ∧ InPlace w s seat

variable {w v : Session}

namespace Placed

lemma of_current_eq_none (hw : w.current = none) : Placed w := by
  intro i hi
  rw [hw] at hi
  cases hi

/-- Nothing changes as long as the section, the seats and the phase stay the same. -/
lemma of_same (hw : Placed w) (hgame : v.game = w.game) (hsettings : v.settings = w.settings)
    (hphase : v.phase = w.phase) (hsection : v.state.sectionId = w.state.sectionId)
    (hseats : v.seats = w.seats) (hcurrent : v.current = w.current) : Placed v := by
  intro i hi
  rw [hcurrent] at hi
  obtain ⟨s, seat, hseat, hplace⟩ := hw i hi
  refine ⟨s, seat, hseats ▸ hseat, hphase.trans hplace.playing, ?_, ?_, hplace.kind⟩
  · rw [hgame, hsection]
    exact hplace.named
  · rw [hgame, hsettings]
    exact hplace.setting

lemma step (h : Step w v) (hw : Placed w) : Placed v := by
  cases h with
  | aside | arm | cancel | grant | complete => exact hw.of_same rfl rfl rfl rfl rfl rfl
  | reckon s _ hs => exact hw.of_same rfl rfl rfl (congrArg Course.sectionId hs) rfl rfl
  | sit id index s player dice table hphase hs _ hkind =>
    intro i hi
    cases hi
    exact ⟨s, _, List.getElem?_concat_length .., hphase, hs, rfl, hkind⟩
  | stray => exact of_current_eq_none rfl
  | finish => exact of_current_eq_none (current_finished ..)

lemma lapse (h : Lapse w v) (hw : Placed w) : Placed v := by
  cases h with
  | elapse | strike | remain | expire => exact hw.of_same rfl rfl rfl rfl rfl rfl

/-- A section that goes on stays in its place. -/
lemma putPlayer (hw : Placed w) {index : Nat} {player : Player}
    (hkind : ∀ seat, w.seats[index]? = some seat → player.kind = seat.player.kind) :
    Placed (putPlayer index player w) := by
  intro i hi
  obtain ⟨s, seat, hseat, hplace⟩ := hw i hi
  obtain ⟨after, hafter, hput⟩ := (KeepsSeats.putPlayer hkind).seats i seat hseat
  exact ⟨s, _, hput, hplace.playing, hplace.named, hplace.setting, hafter.trans hplace.kind⟩

end Placed

lemma invariant_placed : Invariant Placed where
  begun hphase _ hw := by
    intro i hi
    obtain ⟨_, _, _, hplace⟩ := hw i hi
    exact absurd hplace.playing (by simp [hphase])
  restarted _ _ := Placed.of_current_eq_none rfl
  jolt h hw := by
    cases h with
    | unrated => exact hw.of_same rfl rfl rfl rfl rfl rfl
    | lost => exact Placed.of_current_eq_none rfl
    | advance h =>
      cases h with
      | step h => exact hw.step h
      | lapse h => exact hw.lapse h
      | play index player hkind => exact hw.putPlayer hkind

/-- In every session of a loaded game that has a current section, whatever was broken off before, the
session is being played, the state names the section, the seat holds a player of its kind and was
taken at the present epochs. As long as nothing goes on without end, there is a current section
whenever the session is being played. -/
theorem inPlace_of_played {raw gameType : Value} (record : Fields) {g : Game}
    (hg : (load raw gameType).result = .ok g ∨ (loadRecord record gameType).result = .ok g)
    (settings : Settings) (dice : Dice) (deeds : List Deed) :
    let w := (create g settings dice).played deeds
    (∀ i, w.current = some i →
        ∃ s seat, w.seats[i]? = some seat ∧ InPlace w s seat ∧ seat.epochs = w.epochs) ∧
      (.endless ∉ (create g settings dice).faults deeds →
        (w.current.isSome = true ↔ w.phase = .playing)) := by
  intro w
  have hseated : WellSeated w := wellSeated_played g settings dice deeds
  have hplaced : Placed w :=
    invariant_placed.played deeds (Placed.of_current_eq_none (w := create g settings dice) rfl)
  have hcurrent (i : Nat) (hi : w.current = some i) :
      ∃ s seat, w.seats[i]? = some seat ∧ InPlace w s seat ∧ seat.epochs = w.epochs := by
    obtain ⟨s, seat, hseat, hplace⟩ := hplaced i hi
    obtain ⟨same, hsame, hepochs⟩ := hseated.current i hi
    rw [hseat] at hsame
    cases hsame
    exact ⟨s, seat, hseat, hplace, hepochs⟩
  refine ⟨hcurrent, fun hdeeds => ⟨fun hsome => ?_, fun hplaying => ?_⟩⟩
  · obtain ⟨i, hi⟩ := Option.isSome_iff_exists.1 hsome
    obtain ⟨_, _, _, hplace, _⟩ := hcurrent i hi
    exact hplace.playing
  · obtain ⟨_, _, hfilled⟩ := exists_isFilledFrom hg
    have hmanned : Manned w :=
      (manned_create hfilled.isPlayable settings dice).played deeds hdeeds
    obtain ⟨i, hi⟩ := hmanned.2 hplaying
    exact Option.isSome_iff_exists.2 ⟨i, hi⟩

/-- A story whose first scene leads back to the story itself. -/
def circle : Value :=
  .map [("content", .map [("sections", .list [.map
    [("id", "a"), ("type", "narrative"),
      ("content", .map [("scenes", .list [.map
        [("id", "s"), ("text", "Once more."),
          ("actions", .list [.map
            [("type", "navigate"), ("payload", .map [("sectionId", "a")])]])]])])]])])]

/-- A session that is being played without a current section: to begin the story is to begin it once
more, until that is broken off. -/
theorem not_inPlace_of_circle :
    ∃ g, (load circle "narrative").result = .ok g ∧
      .endless ∈ (create g .default (.repeating #[])).faults [.start] ∧
        let w := (create g .default (.repeating #[])).played [.start]
        w.phase = .playing ∧ w.current = none := by
  obtain ⟨g, hg, hplay⟩ := Traced.exists_ok_of_any (x := load circle "narrative")
    (p := fun g =>
      let w := (create g .default (.repeating #[])).played [.start]
      ((create g .default (.repeating #[])).faults [.start]).any (· matches .endless) &&
        decide (w.phase = .playing) && w.current.isNone) (by decide +kernel)
  simp only [Bool.and_eq_true, decide_eq_true_eq, Option.isNone_iff_eq_none,
    List.any_eq_true] at hplay
  obtain ⟨⟨⟨fault, hmem, hendless⟩, hphase⟩, hcurrent⟩ := hplay
  cases fault <;> cases hendless
  exact ⟨g, hg, hmem, hphase, hcurrent⟩

/-- The second of three pages is gone to, and a second goes by. -/
def secondPage : List Deed := [.start, .navigateTo "b", .tick]

theorem inPlace_of_secondPage :
    ∃ g, (load threePages "info").result = .ok g ∧
      .endless ∉ (create g .default (.repeating #[])).faults secondPage ∧
        let w := (create g .default (.repeating #[])).played secondPage
        w.current.isSome = true ∧ w.phase = .playing ∧
          ∃ i s seat, w.current = some i ∧ w.seats[i]? = some seat ∧ InPlace w s seat ∧
            seat.epochs = w.epochs := by
  obtain ⟨g, hg, hplay⟩ := Traced.exists_ok_of_any (x := load threePages "info")
    (p := fun g =>
      ((create g .default (.repeating #[])).faults secondPage).isEmpty &&
        decide (((create g .default (.repeating #[])).played secondPage).phase = .playing))
    (by decide +kernel)
  simp only [Bool.and_eq_true, List.isEmpty_iff, decide_eq_true_eq] at hplay
  obtain ⟨hfaults, hphase⟩ := hplay
  have hended : .endless ∉ (create g .default (.repeating #[])).faults secondPage := by
    simp [hfaults]
  obtain ⟨hplace, hcurrent⟩ :=
    inPlace_of_played [] (.inl hg) .default (.repeating #[]) secondPage
  have hsome := (hcurrent hended).2 hphase
  obtain ⟨i, hi⟩ := Option.isSome_iff_exists.1 hsome
  obtain ⟨s, seat, hseat⟩ := hplace i hi
  exact ⟨g, hg, hended, hsome, hphase, i, s, seat, hi, hseat⟩

end Session

end LearningGame.Play
