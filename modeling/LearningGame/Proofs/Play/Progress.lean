import LearningGame.Proofs.Play.Path
import Mathlib.Data.List.NodupEquivFin

/-!
# Progress through the order of play

Sections may be completed in any order, more than once, from within one another and from outside the
order of play. Recorded is only what lies ahead of all that is recorded already, so that the record
goes through the order of play from the front to the back, whatever is done.
-/

namespace LearningGame.Play

open Content Relation

/-- A record of completed sections that goes through an order of play from the front to the back. -/
structure FollowsOrder (order completed : List String) : Prop where
  mem_order : ∀ id ∈ completed, id ∈ order
  /-- The first places in the order of play increase. -/
  places : completed.Pairwise fun a b => order.idxOf a < order.idxOf b

namespace FollowsOrder

variable {order completed : List String} {id : String}

lemma nil : FollowsOrder order [] := ⟨by simp, List.Pairwise.nil⟩

lemma concat (h : FollowsOrder order completed) (hid : id ∈ order)
    (hahead : ∀ a ∈ completed, order.idxOf a < order.idxOf id) :
    FollowsOrder order (completed ++ [id]) where
  mem_order a ha := by
    rcases List.mem_append.1 ha with ha | ha
    · exact h.mem_order a ha
    · rw [List.mem_singleton] at ha
      exact ha ▸ hid
  places := by
    refine List.pairwise_append.2 ⟨h.places, List.pairwise_singleton _ _, fun a ha b hb => ?_⟩
    rw [List.mem_singleton] at hb
    exact hb ▸ hahead a ha

/-- Nothing is recorded twice. -/
lemma nodup (h : FollowsOrder order completed) : completed.Nodup :=
  h.places.imp fun hlt heq => by simp [heq] at hlt

/-- What is recorded is a part of the order of play. -/
lemma sublist (h : FollowsOrder order completed) : completed.Sublist order := by
  have hplace (i : Fin completed.length) : order.idxOf (completed.get i) < order.length :=
    List.idxOf_lt_length_of_mem (h.mem_order _ (List.get_mem completed i))
  have hmono : StrictMono fun i => (⟨_, hplace i⟩ : Fin order.length) := fun i j hij =>
    List.pairwise_iff_get.1 h.places i j hij
  refine List.sublist_iff_exists_fin_orderEmbedding_get_eq.2 ⟨.ofStrictMono _ hmono, fun i => ?_⟩
  exact (List.idxOf_get (hplace i)).symm

end FollowsOrder

namespace Session

variable {g : Game} {w v : Session}

/-- The place of a section is the first one at which the order of play names it. -/
lemma place?_eq_some {id : String} {place : Nat} :
    w.place? id = some place ↔ id ∈ w.game.order ∧ w.game.order.idxOf id = place := by
  rw [place?, List.findIdx?_eq_some_iff_findIdx_eq]
  constructor
  · rintro ⟨hlt, rfl⟩
    exact ⟨List.idxOf_lt_length_iff.1 hlt, rfl⟩
  · rintro ⟨hmem, rfl⟩
    exact ⟨List.idxOf_lt_length_of_mem hmem, rfl⟩

/-- What lies ahead comes after all that has been recorded. -/
lemma lt_of_isAhead {place : Nat} (hahead : w.isAhead place = true) {id : String}
    (hid : id ∈ w.state.completed) (hmem : id ∈ w.game.order) :
    w.game.order.idxOf id < place := by
  have hplace := List.all_eq_true.1 hahead id hid
  rw [place?_eq_some.2 ⟨hmem, rfl⟩] at hplace
  exact of_decide_eq_true hplace

/-- A session of a game in which the completed sections follow the order of play. -/
def OnCourse (g : Game) (w : Session) : Prop :=
  w.game = g ∧ FollowsOrder g.order w.state.completed

lemma onCourse_step (h : Step w v) (hw : OnCourse g w) : OnCourse g v := by
  cases h with
  | aside | arm | cancel | grant | sit | stray => exact hw
  | reckon s _ hs =>
    have hsame : s.completed = w.state.completed := congrArg Course.completed hs
    exact ⟨hw.1, hsame ▸ hw.2⟩
  | complete id place _ hplace hahead =>
    obtain ⟨hgame, hfollows⟩ := hw
    subst hgame
    obtain ⟨hid, rfl⟩ := place?_eq_some.1 hplace
    exact ⟨rfl, hfollows.concat hid fun a ha => lt_of_isAhead hahead ha (hfollows.mem_order a ha)⟩
  | finish tier table => exact ⟨by simpa using hw.1, by simpa [rated] using hw.2⟩

lemma onCourse_jolt {e : Fault} (h : Jolt e w v) (hw : OnCourse g w) : OnCourse g v := by
  cases h with
  | unrated | lost => exact hw
  | advance h =>
    cases h with
    | step h => exact onCourse_step h hw
    | lapse h => cases h <;> exact hw
    | play => exact hw

lemma invariant_onCourse : Invariant (OnCourse g) where
  begun _ _ hw := hw
  restarted _ hw := ⟨hw.1, FollowsOrder.nil⟩
  jolt := onCourse_jolt

/-! ### Growth -/

lemma prefix_of_step (h : Step w v) : w.state.completed <+: v.state.completed := by
  cases h with
  | aside | arm | cancel | grant | sit | stray => exact List.prefix_rfl
  | reckon s _ hs =>
    have hsame : s.completed = w.state.completed := congrArg Course.completed hs
    exact hsame ▸ List.prefix_rfl
  | complete id => exact List.prefix_append _ _
  | finish tier table => simp [rated]

lemma prefix_of_jolt {e : Fault} (h : Jolt e w v) :
    w.state.completed <+: v.state.completed := by
  cases h with
  | unrated | lost => exact List.prefix_rfl
  | advance h =>
    cases h with
    | step h => exact prefix_of_step h
    | lapse h => cases h <;> exact List.prefix_rfl
    | play => exact List.prefix_rfl

lemma prefix_of_jolts {e : Fault} (h : ReflTransGen (Jolt e) w v) : w.state.completed <+: v.state.completed := by
  induction h with
  | refl => exact List.prefix_rfl
  | tail _ hjolt ih => exact ih.trans (prefix_of_jolt hjolt)

lemma prefix_after {d : Deed} (hd : d ≠ .restart) :
    w.state.completed <+: (d.after w).state.completed := by
  obtain ⟨u, hu, e, hjolts⟩ := jolts_after hd w
  have hgrown := prefix_of_jolts hjolts
  cases hu with
  | here => exact hgrown
  | begun => exact hgrown

lemma prefix_played (deeds : List Deed) (hdeeds : ∀ d ∈ deeds, d ≠ .restart) :
    w.state.completed <+: (w.played deeds).state.completed := by
  induction deeds generalizing w with
  | nil => exact List.prefix_rfl
  | cons d rest ih =>
    exact (prefix_after (hdeeds d List.mem_cons_self)).trans
      (ih fun e he => hdeeds e (List.mem_cons_of_mem d he))

/-- Whatever is done with a session of any game, the completed sections follow the order of play: no
one is recorded twice, and the record is a part of the order. It grows at its end only, until the
next restart. -/
theorem followsOrder_of_played (g : Game) (settings : Settings) (dice : Dice) (deeds : List Deed) :
    let w := (create g settings dice).played deeds
    FollowsOrder g.order w.state.completed ∧ w.state.completed.Nodup ∧
      w.state.completed.Sublist g.order ∧
      ∀ more, (∀ d ∈ more, d ≠ .restart) →
        w.state.completed <+: (w.played more).state.completed := by
  intro w
  obtain ⟨-, hw⟩ : OnCourse g w :=
    (invariant_onCourse (g := g)).played deeds ⟨rfl, FollowsOrder.nil⟩
  exact ⟨hw, hw.nodup, hw.sublist, fun more => prefix_played more⟩

/-- The second page of three is completed from without, then the first one and the second one
again. -/
def detour : List Deed :=
  [.completeSection "b", .navigateTo "a", .completeSection "a", .completeSection "b"]

theorem followsOrder_of_detour :
    ∃ g, (load threePages "info").result = .ok g ∧ (∀ d ∈ detour, d ≠ .restart) ∧
      let w := (create g .default (.repeating #[])).played [.start]
      w.state.completed <+: (w.played detour).state.completed ∧
        (w.played detour).state.completed = ["b"] := by
  obtain ⟨g, hg, hrecord⟩ := Traced.exists_ok_of_any (x := load threePages "info")
    (p := fun g => (((create g .default (.repeating #[])).played [.start]).played
      detour).state.completed == ["b"]) (by decide +kernel)
  have hdetour : ∀ d ∈ detour, d ≠ .restart := by simp [detour]
  obtain ⟨-, -, -, hgrows⟩ := followsOrder_of_played g .default (.repeating #[]) [.start]
  exact ⟨g, hg, hdetour, hgrows detour hdetour, by simpa using hrecord⟩

end Session

end LearningGame.Play
