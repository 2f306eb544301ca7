import LearningGame.Proofs.Loading.Playable
import LearningGame.Proofs.Play.Path

/-!
# The current section

In a game that can be played, play never gets to a section that is not there or that one cannot sit
down to. So a session that is being played has a current section at all times, unless sections were
begun one from within the other without end.
-/

namespace LearningGame.Play

open Content Act Relation

namespace Session

variable {e : Fault} {w v : Session}

/-- A session of a game that can be played is at one of its sections. -/
def AtSection (w : Session) : Prop :=
  w.game.IsPlayable ∧ (w.game.section? w.state.sectionId).isSome = true

lemma isSome_section? {g : Game} (hg : g.IsPlayable) {id : String} (hid : id ∈ g.order) :
    (g.section? id).isSome = true := by
  obtain ⟨s, hs, rfl⟩ := List.mem_map.1 (hg.mem_sectionIds id hid)
  exact List.find?_isSome.2 ⟨s, hs, by simp⟩

lemma AtSection.of_reaches (hw : AtSection w) {id : String} (hid : w.Reaches id) :
    (w.game.section? id).isSome = true := by
  rcases hid with rfl | hid | hid
  · exact hw.2
  · exact isSome_section? hw.1 hid
  · exact hid

/-- One can sit down to any section that one gets to. -/
lemma AtSection.exists_section (hw : AtSection w) {id : String} (hid : w.Reaches id) :
    ∃ s, w.game.section? id = some s ∧ s.content.kind = s.kind := by
  obtain ⟨s, hs⟩ := Option.isSome_iff_exists.1 (hw.of_reaches hid)
  exact ⟨s, hs, hw.1.kind_eq s (List.mem_of_find?_eq_some hs)⟩

lemma AtSection.step (hw : AtSection w) (h : Step w v) : AtSection v := by
  obtain ⟨hplayable, hsome⟩ := hw
  cases h with
  | aside | arm | cancel | grant | complete => exact ⟨hplayable, hsome⟩
  | reckon s _ hs =>
    have hsame : s.sectionId = w.state.sectionId := congrArg Course.sectionId hs
    exact ⟨hplayable, hsame ▸ hsome⟩
  | sit id _ s _ _ _ _ hs => exact ⟨hplayable, by simp [seated, turned, hs]⟩
  | stray id _ _ _ hid => exact ⟨hplayable, AtSection.of_reaches ⟨hplayable, hsome⟩ hid⟩
  | finish => exact ⟨by simpa using hplayable, by simpa [rated] using hsome⟩

lemma invariant_atSection : Invariant AtSection where
  begun _ _ hw := hw
  restarted _ hw := ⟨hw.1, isSome_section? hw.1 hw.1.firstSectionId_mem⟩
  jolt h hw := by
    cases h with
    | unrated => exact hw
    | lost id _ _ hid => exact ⟨hw.1, hw.of_reaches hid⟩
    | advance h =>
      cases h with
      | step h => exact hw.step h
      | lapse h => cases h <;> exact hw
      | play => exact hw

/-- A session that is at a section, which has been begun if the session is being played. -/
def Manned (w : Session) : Prop :=
  AtSection w ∧ (w.phase = .playing → ∃ i, w.current = some i)

namespace Manned

lemma step (hw : Manned w) (h : Step w v) : Manned v := by
  obtain ⟨hsection, hcurrent⟩ := hw
  refine ⟨hsection.step h, ?_⟩
  cases h with
  | aside | arm | cancel | grant | reckon | complete => exact hcurrent
  | sit => exact fun _ => ⟨_, rfl⟩
  | stray id _ _ _ hid hs =>
    obtain ⟨s, hsome, hkind⟩ := hsection.exists_section hid
    exact absurd hkind (hs s hsome)
  | finish => exact fun h => by simp at h

lemma jolts (hw : Manned w) (he : e ≠ .endless) (h : ReflTransGen (Jolt e) w v) : Manned v := by
  induction h with
  | refl => exact hw
  | tail _ h ih =>
    cases h with
    | unrated => exact ih
    | lost _ _ _ _ hlost => exact absurd hlost he
    | advance h =>
      cases h with
      | step h => exact ih.step h
      | lapse h => cases h <;> exact ih
      | play => exact ih

/-- What is not broken off because it goes on without end leaves the session manned. -/
lemma allows (hw : Manned w) {α : Type} {r : Except Fault α} (hr : r ≠ .error .endless)
    (h : stepwise.Allows w r v) : Manned v := by
  cases r with
  | ok a => exact hw.jolts (e := .outOfRange) (by simp) (jolts_of_advances h)
  | error e => exact hw.jolts (fun he => hr (he ▸ rfl)) h

/-- A section that one can sit down to becomes current, or leads on to one that does. -/
lemma activate (hw : AtSection w) (hended : (activate.runIn w).1 ≠ .error .endless) :
    Manned (activate.runIn w).2 := by
  rw [Session.activate, runIn_get_bind, longestChain] at hended ⊢
  rcases allows_seated covers_stepwise performs_stepwise _ w with
    ⟨s, player, dice, table, -, -, -, -, hallows⟩ | ⟨table, hs, -, -⟩
  · have hseated : Manned (w.seated s player dice table) := ⟨hw, fun _ => ⟨_, rfl⟩⟩
    exact hseated.allows hended hallows
  · obtain ⟨s, hsome, hkind⟩ := hw.exists_section (.inl rfl)
    exact absurd hkind (hs s hsome)

lemma start (hw : Manned w) (hended : (start.runIn w).1 ≠ .error .endless) :
    Manned (start.runIn w).2 := by
  rcases start_spec w with ⟨-, table, -, hrun⟩ | ⟨-, table, -, hrun⟩
  · rw [hrun]
    exact hw
  · rw [hrun, (runIn_bind_pure Session.activate true _).1]
    refine activate (w := w.begun table) hw.1 fun h => hended ?_
    rw [hrun, runIn_bind]
    generalize Session.activate.runIn (w.begun table) = out at h ⊢
    obtain ⟨r, v⟩ := out
    cases h
    rfl

lemma after (hw : Manned w) {d : Deed} (hended : d.fault? w ≠ some .endless) :
    Manned (d.after w) := by
  have hact : (d.act.runIn w).1 ≠ .error .endless := fun h => hended (by simp [Deed.fault?, h])
  by_cases hstart : d = .start
  · subst hstart
    refine hw.start fun h => hact ?_
    rw [Deed.act, runIn_bind]
    generalize Session.start.runIn w = out at h ⊢
    obtain ⟨r, v⟩ := out
    cases h
    rfl
  by_cases hrestart : d = .restart
  · subst hrestart
    obtain ⟨table, htable, hrun⟩ := restart_spec w
    have hafter : Deed.restart.after w = w.restarted table := congrArg Prod.snd hrun
    exact hafter ▸ ⟨invariant_atSection.restarted htable hw.1, fun h => by cases h⟩
  · have hmet :=
      met_act covers_stepwise performs_stepwise (w := w) hstart hrestart fun _ => met_tick_stepwise w
    exact d.runIn_act w ▸ hw.allows hact hmet

/-- A session of a game that can be played is at a section whatever is done, and has begun it while
it is being played, as long as nothing goes on without end. -/
lemma played (hw : Manned w) (deeds : List Deed) (hdeeds : .endless ∉ w.faults deeds) :
    Manned (w.played deeds) := by
  induction deeds generalizing w with
  | nil => exact hw
  | cons d rest ih =>
    obtain ⟨hd, hrest⟩ := not_or.1 (List.mem_append.not.1 hdeeds)
    exact ih (hw.after (by simpa using hd)) hrest

end Manned

lemma manned_create {g : Game} (hg : g.IsPlayable) (settings : Settings) (dice : Dice) :
    Manned (create g settings dice) :=
  ⟨⟨hg, isSome_section? hg hg.firstSectionId_mem⟩, fun h => by cases h⟩

end Session

end LearningGame.Play
