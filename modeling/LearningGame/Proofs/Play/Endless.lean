import LearningGame.Proofs.Loading.Playable
import LearningGame.Proofs.Play.Entering

/-!
# Sections that are begun without end

To start, to navigate and to complete a section come to an end, unless sections are begun one from
within the other until that comes back to where it was. Then no bound on them would be enough.
-/

namespace LearningGame.Play

deriving instance DecidableEq for Fault

open Content Schema Act Contract

/-- Whoever sits down to a section of another kind just reads, which is begun without more ado. -/
lemma Player.SitsDown.enter_of_ne {c : Setting} {content : SectionContent} {player : Player}
    (h : player.SitsDown c content) (hkind : content.kind ≠ c.kind) :
    player.enter c = pure () := by
  obtain ⟨started, dice, after, hsit⟩ := h
  unfold sitDown at hsit
  split at hsit
  case h_9 =>
    obtain rfl := Except.ok.inj (congrArg Prod.fst hsit)
    rfl
  case h_10 => cases hsit
  all_goals
    rename_i heq
    exact absurd heq.symm hkind

namespace Session

/-! ### Sections that are left behind -/

/-- The contract to go back to no section that has been left. -/
def ageing : Contract Session where
  ends w v := w.epochs.sections ≤ v.epochs.sections
  breaks _ _ _ := True
  refl _ := Nat.le_refl _
  trans := Nat.le_trans
  breaks_self _ _ := trivial
  breaks_trans _ _ := trivial

lemma covers_ageing : Covers ageing := by
  refine .of_steps (fun {w v} h => ?_) (fun _ _ _ _ => trivial) fun _ _ _ _ => trivial
  exact h.registry (R := fun r => w.epochs.sections ≤ r.epochs.sections) (Nat.le_refl _)
    (fun _ _ _ _ => Nat.le_refl _) (fun _ _ => Nat.le_refl _) (fun _ => Nat.le_refl _)
    (Nat.le_succ _) (Nat.le_succ _)

lemma performs_ageing : Performs ageing :=
  performs_of covers_ageing (fun _ _ _ h => h) fun _ _ _ h => h

/-- When a section has been begun, the old one has been left. -/
lemma later_activateWithin (n : Nat) {w v : Session}
    (hrun : (activateWithin n).runIn w = (.ok (), v)) : w.epochs.sections < v.epochs.sections := by
  cases n with
  | zero => cases hrun
  | succ n =>
    rcases allows_seated covers_ageing performs_ageing n w with
      ⟨s, player, dice, table, -, -, -, htable, hallows⟩ | ⟨table, -, htable, hafter⟩
    · rw [hrun] at hallows
      have hsections : w.epochs.sections < table.registry.epochs.sections :=
        htable ▸ Nat.lt_succ_self _
      exact Nat.lt_of_lt_of_le hsections hallows
    · rw [hrun] at hafter
      subst hafter
      have hsections : w.epochs.sections < table.registry.epochs.sections :=
        htable ▸ Nat.lt_succ_self _
      exact hsections

/-! ### Sections that are begun one from within the other -/

variable {g : Game}

/-- So many sections are begun one from within the other if the chain of standings is so long. -/
lemma nests_activateWithin (g : Game) (n : Nat) : Nests g n (activateWithin n) := by
  refine ⟨fun {w} hw => ?_, later_activateWithin n⟩
  -- The section that is begun sees the next bound only as the way in which it begins others.
  induction n generalizing w with
  | zero => exact iff_of_true rfl rfl
  | succ n ih =>
    have hnests : Nests g n (activateWithin n) := ⟨ih, later_activateWithin n⟩
    obtain ⟨rfl, hplaying, hstreak⟩ := hw
    rcases activateWithin_spec n w with
      ⟨s, player, dice, table, hs, hsits, htable, hrun⟩ | ⟨r, table, hs, hr, -, hrun⟩
    · let seat : Seat := ⟨Setting.ofSection w.game w.settings s, table.registry.epochs, player⟩
      let v : Session := w.seated s player dice table
      have hseat : v.seats[w.seats.length]? = some seat := List.getElem?_concat_length ..
      have hv : Attended w.game seat v :=
        ⟨⟨rfl, hplaying, hstreak⟩, by simp [Epochs.current, seat, v, seated]⟩
      have hsection : w.game.section? w.standing.sectionId = some s := hs
      have hid : s.id = w.standing.sectionId := by simpa using List.find?_some hsection
      rw [hrun, runIn_perform _ hseat, Standing.chain, Standing.onward?, hsection, Option.bind_some]
      by_cases hkind : s.content.kind = s.kind
      · rw [if_pos hkind, ← hid]
        exact hnests.enter_eq_endless hv hsits hkind
      · rw [if_neg hkind]
        refine iff_of_false ?_ (by simp)
        show (((player.enter seat.setting).run _ player v).1 : Except Fault Unit) ≠ _
        rw [hsits.enter_of_ne hkind]
        simp
    · have hnone : w.standing.onward? w.game = none := by
        refine Option.bind_eq_none_iff.2 fun s hsection => ?_
        rw [if_neg (hs s hsection)]
      rw [hrun, Standing.chain, hnone]
      exact iff_of_false hr (by simp)

lemma nests_activate (g : Game) : Nests g (longestChain g) activate where
  endless {w} hw := by
    rw [activate, runIn_get_bind, hw.game]
    exact (nests_activateWithin g _).endless hw
  later {w v} hrun := by
    rw [activate, runIn_get_bind] at hrun
    exact later_activateWithin _ hrun

/-- To begin a section goes on without end just if the chain of standings comes round. -/
lemma activate_eq_endless {w : Session} (hw : Underway g w) :
    (activate.runIn w).1 = .error .endless ↔ Standing.ComesRound g w.standing := by
  rw [(nests_activate g).endless hw, Standing.isSome_chain_longestChain_iff]

/-- Then it would do so, however many sections may be begun one from within the other. -/
theorem activateWithin_eq_endless {w : Session} (hw : Underway g w) :
    (activate.runIn w).1 = .error .endless ↔
      ∀ n, ((activateWithin n).runIn w).1 = .error .endless := by
  rw [activate_eq_endless hw]
  refine ⟨fun hround n => ?_, fun hall => ?_⟩
  · exact ((nests_activateWithin g n).endless hw).2 (hround.isSome_chain n)
  · exact Standing.comesRound_of_isSome (((nests_activateWithin g _).endless hw).1 (hall _))

/-- So it is when the section is begun that follows one that is completed. -/
lemma completeBy_activateWithin_eq_endless {w : Session} (hw : Underway g w) {id : String}
    (h : ((completeSection id).runIn w).1 = .error .endless) (n : Nat) :
    ((completeBy (activateWithin n) id).runIn w).1 = .error .endless := by
  obtain ⟨st, hst, hround⟩ := (Standing.isSome_bind_chain_longestChain_iff _).1
    (((nests_activate g).completeBy_eq_endless hw id).1 h)
  rw [(nests_activateWithin g n).completeBy_eq_endless hw, hst]
  exact hround.isSome_chain n

/-! ### Deeds -/

lemma invariant_streak : Invariant fun w => 0 ≤ w.state.streak where
  begun _ _ hw := hw
  restarted _ _ := Int.le_refl _
  jolt h hw := by
    cases h with
    | unrated | lost => exact hw
    | advance h =>
      cases h with
      | step h =>
        cases h with
        | reckon s _ _ hstreak => exact hstreak hw
        | finish =>
          rw [state_finished]
          exact hw
        | _ => exact hw
      | lapse h => cases h <;> exact hw
      | play => exact hw

/-- A session that is being played is one of its game. -/
lemma underway_played {g : Game} {settings : Settings} {dice : Dice} {deeds : List Deed}
    (hplaying : ((create g settings dice).played deeds).phase = .playing) :
    Underway g ((create g settings dice).played deeds) where
  game := (game_played g settings dice deeds).1
  playing := hplaying
  streak := invariant_streak.played (w := create g settings dice) deeds (Int.le_refl _)

/-- What is meant for the playing phase goes on without end only in that phase. -/
lemma whilePlaying_eq_endless {α : Type} {operation : String} {refused : α} {x : Act Session α}
    {w : Session} {P : Prop} (h : w.phase = .playing →
      (((whilePlaying operation refused x).runIn w).1 = .error .endless ↔ P)) :
    ((whilePlaying operation refused x).runIn w).1 = .error .endless ↔ w.phase = .playing ∧ P := by
  by_cases hw : w.phase = .playing
  · rw [h hw]
    exact ⟨fun hP => ⟨hw, hP⟩, fun hP => hP.2⟩
  · rw [(runIn_whilePlaying_refused hw _ _ _).1]
    exact iff_of_false nofun fun hP => hw hP.1

/-- In every session of a loaded game that can come about, a start goes on without end just if the
game has not been started and the chain of standings from the present one comes round; and to
navigate or to complete a section, just if the game is being played, the section can be gone to, or
another one follows it, and the chain from the standing with which that one is begun comes round. No
chain comes round in a game whose sections do not navigate when they are begun. -/
theorem endless_of_played {raw gameType : Value} (record : Fields) {g : Game}
    (hg : (load raw gameType).result = .ok g ∨ (loadRecord record gameType).result = .ok g)
    (settings : Settings) (dice : Dice) (deeds : List Deed) :
    let w := (create g settings dice).played deeds
    (Deed.start.fault? w = some .endless ↔
        w.phase = .intro ∧ Standing.ComesRound g w.standing) ∧
      (∀ id, (Deed.navigateTo id).fault? w = some .endless ↔
        w.phase = .playing ∧
          ∃ st, w.standing.navigate? g id = some st ∧ Standing.ComesRound g st) ∧
      (∀ id, (Deed.completeSection id).fault? w = some .endless ↔
        w.phase = .playing ∧
          ∃ st, w.standing.complete? g id = some st ∧ Standing.ComesRound g st) ∧
      ((∀ s ∈ g.sections, ∀ a ∈ s.content.opening, a.kind ≠ "navigate") →
        ∀ st, ¬Standing.ComesRound g st) := by
  intro w
  refine ⟨?_, fun id => ?_, fun id => ?_, ?_⟩
  · rw [Deed.fault?_eq_some, Deed.act, runIn_bind_pure_eq_error]
    rcases start_spec w with ⟨hphase, table, -, hrun⟩ | ⟨hphase, table, -, hrun⟩
    · rw [hrun]
      exact iff_of_false (by simp) fun h => hphase h.1
    · have hstreak : 0 ≤ w.state.streak :=
        invariant_streak.played (w := create g settings dice) deeds (Int.le_refl _)
      have hbegun : Underway g (w.begun table) :=
        ⟨(game_played g settings dice deeds).1, rfl, hstreak⟩
      rw [hrun, runIn_bind_pure_eq_error, activate_eq_endless hbegun]
      exact ⟨fun h => ⟨hphase, h⟩, fun h => h.2⟩
  · rw [Deed.fault?_eq_some, Deed.act, runIn_bind_pure_eq_error,
      ← Standing.isSome_bind_chain_longestChain_iff]
    exact whilePlaying_eq_endless fun hplaying =>
      (nests_activate g).navigateBy_eq_endless (underway_played hplaying) id
  · rw [Deed.fault?_eq_some, Deed.act, runIn_bind_pure_eq_error,
      ← Standing.isSome_bind_chain_longestChain_iff]
    exact whilePlaying_eq_endless fun hplaying =>
      (nests_activate g).completeBy_eq_endless (underway_played hplaying) id
  · obtain ⟨_, _, hfilled⟩ := exists_isFilledFrom hg
    exact Standing.not_comesRound hfilled.isPlayable.nodup_order

/-- A page, and a story whose first scene leads back to the story itself. -/
def whirlpool : Value :=
  .map [("content", .map [("sections", .list
    [.map [("id", "a"), ("type", "info")],
      .map [("id", "b"), ("type", "narrative"),
        ("content", .map [("scenes", .list [.map
          [("id", "s"), ("text", "Round and round."),
            ("actions", .list [.map
              [("type", "navigate"), ("payload", .map [("sectionId", "b")])]])]])])]])])]

/-- To complete the page is to begin the story, and that is to begin it once more, without end: it
would be, however many sections may be begun one from within the other. -/
theorem completeSection_eq_endless_of_whirlpool :
    ∃ g, (load whirlpool "narrative").result = .ok g ∧
      let w := (create g .default (.repeating #[])).played [.start]
      w.phase = .playing ∧ (Deed.completeSection "a").fault? w = some .endless ∧
        ∀ n, ((completeBy (activateWithin n) "a").runIn w).1 = .error .endless := by
  obtain ⟨g, hg, hplay⟩ := Traced.exists_ok_of_any (x := load whirlpool "narrative")
    (p := fun g =>
      let w := (create g .default (.repeating #[])).played [.start]
      decide (w.phase = .playing ∧ (Deed.completeSection "a").fault? w = some .endless))
    (by decide +kernel)
  obtain ⟨hphase, hfault⟩ := of_decide_eq_true hplay
  refine ⟨g, hg, hphase, hfault, completeBy_activateWithin_eq_endless (underway_played hphase) ?_⟩
  rwa [Deed.fault?_eq_some, Deed.act, runIn_bind_pure_eq_error] at hfault

/-- The chain from the story comes round, and there is none that does in a lesson of three pages. -/
theorem endless_of_whirlpool :
    (∃ g, (load whirlpool "narrative").result = .ok g ∧
      let w := (create g .default (.repeating #[])).played [.start]
      w.phase = .playing ∧
        ∃ st, w.standing.complete? g "a" = some st ∧ Standing.ComesRound g st) ∧
      ∃ g, (load threePages "info").result = .ok g ∧
        (∀ s ∈ g.sections, ∀ a ∈ s.content.opening, a.kind ≠ "navigate") ∧
          Deed.start.fault? (create g .default (.repeating #[])) ≠ some .endless := by
  constructor
  · obtain ⟨g, hg, hplay⟩ := Traced.exists_ok_of_any (x := load whirlpool "narrative")
      (p := fun g => decide ((Deed.completeSection "a").fault?
        ((create g .default (.repeating #[])).played [.start]) = some .endless))
      (by decide +kernel)
    obtain ⟨-, -, hcomplete, -⟩ :=
      endless_of_played [] (.inl hg) .default (.repeating #[]) [.start]
    exact ⟨g, hg, (hcomplete "a").1 (of_decide_eq_true hplay)⟩
  · obtain ⟨g, hg, hstill⟩ := Traced.exists_ok_of_any (x := load threePages "info")
      (p := fun g => decide (∀ s ∈ g.sections, ∀ a ∈ s.content.opening, a.kind ≠ "navigate"))
      (by decide +kernel)
    have hstill := of_decide_eq_true hstill
    obtain ⟨hstart, -, -, hnone⟩ := endless_of_played [] (.inl hg) .default (.repeating #[]) []
    exact ⟨g, hg, hstill, fun hfault => hnone hstill _ (hstart.1 hfault).2⟩

end Session

end LearningGame.Play
