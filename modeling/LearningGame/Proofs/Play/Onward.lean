import LearningGame.Play.Session.Sections
import Mathlib.Data.Finset.Card
import Mathlib.Data.Finset.Prod

/-!
# Where beginning a section leads

Some sections lead straight on to another one when they are begun: those with nothing in them to be
played, which are completed at once, and stories whose first scene navigates. Which section that is
depends on little of a session, its standing. Standings only ever go up from one section to the
next, and there are few of them. So sections that are begun one from within the other soon come to
an end, or come back to where they were, and then never end.
-/

namespace LearningGame

/-- Whether a number is a float. -/
def Number.isFloat : Number → Bool
  | .int _ => false
  | .float _ => true

/-! ### What is in a section -/

namespace Content

/-- A field of what an action is about. -/
def SceneAction.field (a : SceneAction) (name : String) : Value :=
  (a.payload.lookup name).getD .null

/-- The scene with which a story begins. -/
def Narrative.first? (x : Narrative) : Option Scene :=
  (Catalogue.ofList Scene.id x.scenes).find? x.startScene

/-- Whether there is nothing in a section to be played, so that it is completed when it is begun. -/
def SectionContent.isVoid : SectionContent → Bool
  | .quiz x => x.questions.isEmpty
  | .flashcards x => x.cards.isEmpty
  | .matching x => (Catalogue.ofList MatchPair.id x.pairs).isEmpty
  | .narrative x => x.first?.isNone
  | .exploration x => !(Catalogue.ofList Location.id x.locations).has x.startLocation
  | _ => false

/-- The actions that are done when a section is begun. -/
def SectionContent.opening : SectionContent → List SceneAction
  | .narrative x => x.first?.elim [] (·.actions)
  | _ => []

end Content

namespace Play

open Content Schema Rules

/-! ### Standings -/

/-- What it depends on which section is begun next. -/
@[ext]
structure Standing where
  sectionId : String
  completed : List String
  /-- The correct answers in a row, as far as they count. -/
  streak : Nat
  streak_le : streak ≤ bonusStreak.toNat
  /-- Whether the score is counted in floats. -/
  inFloats : Bool
  isComplete : Bool

/-- What becomes of a standing: it goes on, another section is begun, or all is broken off. -/
inductive Turn where
  | stays (st : Standing)
  | leads (st : Standing)
  | fails

namespace Standing

variable (g : Game)

/-! ### Completing, navigating and earning -/

/-- Whether a place lies after those of all sections that have been completed. -/
def isAhead (st : Standing) (place : Nat) : Bool :=
  st.completed.all fun id =>
    match g.order.findIdx? (· == id) with
    | some p => p < place
    | none => true

/-- The section at a place is completed, if that is still to be taken down. -/
def recorded (st : Standing) (id : String) (place : Nat) : Standing :=
  if st.isAhead g place then { st with completed := st.completed ++ [id] } else st

/-- The section to which it leads to complete a section, if it leads on. -/
def complete? (id : String) (st : Standing) : Option Standing :=
  if st.isComplete || st.completed.contains id then none
  else
    (g.order.findIdx? (· == id)).bind fun place =>
      ((g.order.drop (place + 1)).find? fun next =>
          !(st.recorded g id place).completed.contains next).map fun next =>
        { st.recorded g id place with sectionId := next }

/-- The section to which one can navigate. -/
def navigate? (id : String) (st : Standing) : Option Standing :=
  if (g.section? id).isSome then some { st with sectionId := id } else none

/-- A score of the kind of that of a session. -/
def score (st : Standing) : Number := if st.inFloats then .float 0 else .int 0

/-- A correct answer is entered, unless its points cannot be computed. -/
def credit? (points : Int) (st : Standing) : Option Standing :=
  match (earned g.scoring true (.int points) (st.streak + 1)).bind st.score.add with
  | .ok _ =>
    some { st with
      streak := min (st.streak + 1) bonusStreak.toNat
      streak_le := Nat.min_le_right _ _ }
  | .error _ => none

/-! ### Beginning a section -/

/-- What an action of the first scene of a story does. -/
def act (a : SceneAction) (st : Standing) : Turn :=
  match a.kind with
  | "set-variable" =>
    match (a.field "variable").toKey with
    | .ok _ => .stays st
    | .error _ => .fails
  | "add-score" =>
    match NarrativeSitting.pointsOf (a.field "points") with
    | .ok points =>
      match st.credit? g points with
      | some st => .stays st
      | none => .fails
    | .error _ => .fails
  | "navigate" =>
    match st.navigate? g (a.field "sectionId").text with
    | some st => .leads st
    | none => .stays st
  | _ => .stays st

/-- Where the actions of a scene lead, one after the other. -/
def actAll : List SceneAction → Standing → Option Standing
  | [], _ => none
  | a :: rest, st =>
    match st.act g a with
    | .stays st => actAll rest st
    | .leads st => some st
    | .fails => none

/-- The standing with which the next section is begun from within the present one, if it leads on.
-/
def onward? (st : Standing) : Option Standing :=
  (g.section? st.sectionId).bind fun s =>
    if s.content.kind = s.kind then
      if s.content.isVoid then st.complete? g st.sectionId else actAll g s.content.opening st
    else none

/-- The standing with which the last of so many more sections is begun. -/
def chain : Nat → Standing → Option Standing
  | 0, st => some st
  | n + 1, st => (st.onward? g).bind (chain n)

/-- Sections that are begun one from within the other come back to where they were. -/
def ComesRound (st : Standing) : Prop :=
  ∃ i j there, i < j ∧ chain g i st = some there ∧ chain g j st = some there

variable {g} {st next last : Standing}

/-! ### Going up -/

/-- The places that lie after those of all sections that have been completed. -/
def places (g : Game) (st : Standing) : Finset Nat :=
  (Finset.range g.order.length).filter fun place => st.isAhead g place

lemma card_places_le (g : Game) (st : Standing) : (st.places g).card ≤ g.order.length := by
  simpa [places] using
    Finset.card_filter_le (Finset.range g.order.length) fun place => st.isAhead g place

/-- How far a standing has gone up: the places that have been taken and the answers that count. -/
def level (g : Game) (st : Standing) : Nat := g.order.length - (st.places g).card + st.streak

lemma level_lt (g : Game) (st : Standing) : st.level g < g.order.length + 4 := by
  have hstreak : st.streak ≤ 3 := st.streak_le
  unfold level
  omega

/-- A standing has gone up to another, or stayed what it is but for the section. -/
structure Upward (g : Game) (st next : Standing) : Prop where
  inFloats : next.inFloats = st.inFloats
  isComplete : next.isComplete = st.isComplete
  streak : st.streak ≤ next.streak
  places : next.places g ⊆ st.places g
  completed : next.places g = st.places g → next.completed = st.completed

namespace Upward

protected lemma refl (st : Standing) : Upward g st st :=
  ⟨rfl, rfl, Nat.le_refl _, Finset.Subset.refl _, fun _ => rfl⟩

protected lemma trans (h : Upward g st next) (h' : Upward g next last) : Upward g st last where
  inFloats := h'.inFloats.trans h.inFloats
  isComplete := h'.isComplete.trans h.isComplete
  streak := Nat.le_trans h.streak h'.streak
  places := h'.places.trans h.places
  completed hsame := by
    have hfirst : next.places g = st.places g :=
      Finset.Subset.antisymm h.places (hsame ▸ h'.places)
    exact (h'.completed (hsame.trans hfirst.symm)).trans (h.completed hfirst)

/-- A section is begun. -/
lemma of_section (h : Upward g st next) (id : String) :
    Upward g st { next with sectionId := id } :=
  ⟨h.inFloats, h.isComplete, h.streak, h.places, h.completed⟩

/-- A section that is taken down as completed takes the places up to its own. -/
lemma recorded {id : String} {place : Nat} (hplace : g.order.findIdx? (· == id) = some place) :
    Upward g st (st.recorded g id place) := by
  unfold Standing.recorded
  split_ifs with hahead
  · have hlt : place < g.order.length := (List.findIdx?_eq_some_iff_getElem.1 hplace).1
    have hmem : place ∈ st.places g := by simp [Standing.places, hlt, hahead]
    have hnot : place ∉ ({ st with completed := st.completed ++ [id] } : Standing).places g := by
      simp [Standing.places, isAhead, hplace]
    have hsub :
        ({ st with completed := st.completed ++ [id] } : Standing).places g ⊆ st.places g := by
      refine Finset.monotone_filter_right _ fun p _ hp => ?_
      simp only [isAhead, List.all_append, Bool.and_eq_true] at hp ⊢
      exact hp.1
    exact ⟨rfl, rfl, Nat.le_refl _, hsub, fun hsame => absurd hmem (hsame ▸ hnot)⟩
  · exact .refl st

lemma complete? {id : String} (h : st.complete? g id = some next) : Upward g st next := by
  unfold Standing.complete? at h
  split_ifs at h
  obtain ⟨place, hplace, h⟩ := Option.bind_eq_some_iff.1 h
  obtain ⟨there, -, rfl⟩ := Option.map_eq_some_iff.1 h
  exact (recorded hplace).of_section there

lemma navigate? {id : String} (h : st.navigate? g id = some next) : Upward g st next := by
  unfold Standing.navigate? at h
  split_ifs at h
  cases h
  exact (Upward.refl st).of_section id

lemma credit? {points : Int} (h : st.credit? g points = some next) : Upward g st next := by
  unfold Standing.credit? at h
  split at h
  · cases h
    exact ⟨rfl, rfl, Nat.le_min.2 ⟨Nat.le_succ _, st.streak_le⟩, Finset.Subset.refl _, fun _ => rfl⟩
  · cases h

/-- So it does by an action, whether the first scene goes on or another section is begun. -/
lemma act {a : SceneAction} (h : st.act g a = .stays next ∨ st.act g a = .leads next) :
    Upward g st next := by
  unfold Standing.act at h
  split at h
  · split at h <;> simp at h
    exact h ▸ .refl st
  · split at h
    · split at h <;> simp at h
      next hcredit => exact h ▸ credit? hcredit
    · simp at h
  · split at h <;> simp at h
    · next hnavigate => exact h ▸ navigate? hnavigate
    · exact h ▸ .refl st
  · simp at h
    exact h ▸ .refl st

lemma actAll {actions : List SceneAction} (h : st.actAll g actions = some next) :
    Upward g st next := by
  induction actions generalizing st with
  | nil => cases h
  | cons a rest ih =>
    unfold Standing.actAll at h
    split at h
    case h_1 after hafter => exact (act (.inl hafter)).trans (ih h)
    case h_2 after hafter =>
      cases h
      exact act (.inr hafter)
    case h_3 => cases h

/-- A standing only goes up from one section to the next. -/
lemma onward? (h : st.onward? g = some next) : Upward g st next := by
  obtain ⟨s, -, h⟩ := Option.bind_eq_some_iff.1 h
  split_ifs at h
  · exact complete? h
  · exact actAll h

end Upward

/-- Two standings of one section at the same level of a way up are the same. -/
lemma Upward.eq_of_level (h : Upward g st next) (hsection : next.sectionId = st.sectionId)
    (hlevel : next.level g = st.level g) : next = st := by
  have hcard : (next.places g).card ≤ (st.places g).card := Finset.card_le_card h.places
  have hbound := card_places_le g st
  unfold level at hlevel
  have hstreak := h.streak
  have hplaces : next.places g = st.places g :=
    Finset.eq_of_subset_of_card_le h.places (by omega)
  exact Standing.ext hsection (h.completed hplaces) (by omega) h.inFloats h.isComplete

/-! ### Chains -/

lemma chain_add (m n : Nat) (st : Standing) :
    chain g (m + n) st = (chain g m st).bind (chain g n) := by
  induction m generalizing st with
  | zero => simp [chain]
  | succ m ih =>
    rw [Nat.succ_add]
    simp only [chain]
    cases st.onward? g with
    | none => rfl
    | some next => exact ih next

lemma chain_succ (n : Nat) (st : Standing) :
    chain g (n + 1) st = (chain g n st).bind (·.onward? g) := by
  rw [chain_add]
  congr 1
  funext next
  simp [chain]

/-- What goes on for some time has gone on all that time. -/
lemma isSome_chain_of_le {m n : Nat} (h : (chain g n st).isSome = true) (hmn : m ≤ n) :
    (chain g m st).isSome = true := by
  obtain ⟨k, rfl⟩ := Nat.exists_eq_add_of_le hmn
  rw [chain_add] at h
  cases hm : chain g m st with
  | none => simp [hm] at h
  | some next => rfl

lemma upward_chain {n : Nat} (h : chain g n st = some next) : Upward g st next := by
  induction n generalizing st with
  | zero =>
    cases h
    exact .refl _
  | succ n ih =>
    obtain ⟨first, hfirst, h⟩ := Option.bind_eq_some_iff.1 h
    exact (Upward.onward? hfirst).trans (ih h)

/-- What has come round goes on for ever. -/
lemma ComesRound.isSome_chain (h : ComesRound g st) (n : Nat) : (chain g n st).isSome = true := by
  obtain ⟨i, j, there, hij, hi, hj⟩ := h
  obtain ⟨k, rfl⟩ := Nat.exists_eq_add_of_lt hij
  have hloop : chain g (k + 1) there = some there := by
    rw [Nat.add_assoc, chain_add, hi] at hj
    exact hj
  have hround (m : Nat) : chain g (m * (k + 1)) there = some there := by
    induction m with
    | zero => simp [chain]
    | succ m ih => rw [Nat.succ_mul, chain_add, ih, Option.bind_some, hloop]
  refine isSome_chain_of_le (n := i + n * (k + 1)) ?_ ?_
  · rw [chain_add, hi, Option.bind_some, hround]
    rfl
  · calc n ≤ n * (k + 1) := Nat.le_mul_of_pos_right n (Nat.succ_pos k)
      _ ≤ i + n * (k + 1) := Nat.le_add_left ..

/-- The standings of a chain from one of them to another. -/
lemma chain_sub {i j : Nat} (hij : i ≤ j) (hi : chain g i st = some next)
    (hj : chain g j st = some last) : chain g (j - i) next = some last := by
  obtain ⟨k, rfl⟩ := Nat.exists_eq_add_of_le hij
  rw [chain_add, hi, Option.bind_some] at hj
  rwa [Nat.add_sub_cancel_left]

/-- Two standings of a chain that are of the same section and at the same level make it come round.
-/
lemma comesRound_of_eq {i j : Nat} (hij : i < j) (hi : chain g i st = some next)
    (hj : chain g j st = some last) (hsection : last.sectionId = next.sectionId)
    (hlevel : last.level g = next.level g) : ComesRound g st := by
  have hup := upward_chain (chain_sub (Nat.le_of_lt hij) hi hj)
  obtain rfl := hup.eq_of_level hsection hlevel
  exact ⟨i, j, last, hij, hi, hj⟩

/-- What goes on for long enough has come round: there are only so many sections, and so many levels
on the way up. -/
lemma comesRound_of_isSome (h : (chain g (Session.longestChain g) st).isSome = true) :
    ComesRound g st := by
  have hchain (i : Nat) (hi : i < Session.longestChain g) : ∃ next, chain g i st = some next ∧
      next.sectionId ∈ g.sectionIds := by
    obtain ⟨after, hafter⟩ := Option.isSome_iff_exists.1 (isSome_chain_of_le h hi)
    rw [chain_succ] at hafter
    obtain ⟨next, hnext, honward⟩ := Option.bind_eq_some_iff.1 hafter
    obtain ⟨s, hs, -⟩ := Option.bind_eq_some_iff.1 honward
    have hid : s.id = next.sectionId := by simpa using List.find?_some hs
    exact ⟨next, hnext, List.mem_map.2 ⟨s, List.mem_of_find?_eq_some hs, hid⟩⟩
  -- the section and the level of the standing at each place of the chain
  let mark (i : Nat) : String × Nat :=
    (chain g i st).elim ("", 0) fun next => (next.sectionId, next.level g)
  have hmark {i : Nat} {next : Standing} (hi : chain g i st = some next) :
      mark i = (next.sectionId, next.level g) := by simp [mark, hi]
  let marks : Finset (String × Nat) := g.sectionIds.toFinset ×ˢ Finset.range (g.order.length + 4)
  have hcard : marks.card < (Finset.range (Session.longestChain g)).card := by
    have hids : g.sectionIds.toFinset.card ≤ g.sections.length := by
      simpa [Game.sectionIds] using List.toFinset_card_le g.sectionIds
    calc marks.card = g.sectionIds.toFinset.card * (g.order.length + 4) := by simp [marks]
      _ ≤ g.sections.length * (g.order.length + 4) := Nat.mul_le_mul_right _ hids
      _ ≤ (g.order.length + 4) * (g.sections.length + 1) := by
        rw [Nat.mul_comm]
        exact Nat.mul_le_mul_left _ (Nat.le_succ _)
      _ < (Finset.range (Session.longestChain g)).card := by
        simp [Session.longestChain]
  obtain ⟨i, hi, j, hj, hne, heq⟩ := Finset.exists_ne_map_eq_of_card_lt_of_maps_to hcard
    (f := mark) fun i hi => by
      obtain ⟨next, hnext, hid⟩ := hchain i (Finset.mem_range.1 hi)
      rw [hmark hnext]
      simp [marks, hid, level_lt]
  obtain ⟨next, hnext, -⟩ := hchain i (Finset.mem_range.1 hi)
  obtain ⟨last, hlast, -⟩ := hchain j (Finset.mem_range.1 hj)
  rw [hmark hnext, hmark hlast, Prod.mk.injEq] at heq
  rcases Nat.lt_or_gt_of_ne hne with hij | hji
  · exact comesRound_of_eq hij hnext hlast heq.1.symm heq.2.symm
  · exact comesRound_of_eq hji hlast hnext heq.1 heq.2

/-- A chain that is as long as any may be is one that comes round. -/
theorem isSome_chain_longestChain_iff :
    (chain g (Session.longestChain g) st).isSome = true ↔ ComesRound g st :=
  ⟨comesRound_of_isSome, fun h => h.isSome_chain _⟩

lemma isSome_bind_chain_longestChain_iff (st? : Option Standing) :
    (st?.bind (chain g (Session.longestChain g))).isSome = true ↔
      ∃ st, st? = some st ∧ ComesRound g st := by
  cases st? with
  | none => simp
  | some st => simp [isSome_chain_longestChain_iff]

/-! ### Stories that do not navigate -/

/-- An action that leads to another section navigates. -/
lemma kind_of_act_eq_leads {a : SceneAction} (h : st.act g a = .leads next) :
    a.kind = "navigate" := by
  unfold act at h
  split at h
  case h_3 hkind => exact hkind
  all_goals
    (repeat' split at h) <;> cases h

lemma actAll_eq_none {actions : List SceneAction} (h : ∀ a ∈ actions, a.kind ≠ "navigate") :
    st.actAll g actions = none := by
  induction actions generalizing st with
  | nil => rfl
  | cons a rest ih =>
    unfold actAll
    split
    · exact ih fun b hb => h b (List.mem_cons_of_mem a hb)
    · next hleads => exact absurd (kind_of_act_eq_leads hleads) (h a List.mem_cons_self)
    · rfl

/-- The place of a section in an order that names every section once. -/
lemma findIdx?_of_getElem? {order : List String} (hnodup : order.Nodup) {i : Nat} {id : String}
    (hi : order[i]? = some id) : order.findIdx? (· == id) = some i := by
  obtain ⟨hlt, rfl⟩ := List.getElem?_eq_some_iff.1 hi
  refine List.findIdx?_eq_some_iff_getElem.2 ⟨hlt, by simp, fun j hj => ?_⟩
  have hne : order[j] ≠ order[i] := fun heq =>
    absurd ((List.Nodup.getElem_inj_iff hnodup).1 heq) (Nat.ne_of_lt hj)
  simpa using hne

/-- To complete a section leads on to a later one. -/
lemma lt_of_complete? (hnodup : g.order.Nodup) {id : String} (h : st.complete? g id = some next) :
    ∃ p q, g.order.findIdx? (· == id) = some p ∧
      g.order.findIdx? (· == next.sectionId) = some q ∧ p < q := by
  unfold complete? at h
  split_ifs at h
  obtain ⟨p, hp, h⟩ := Option.bind_eq_some_iff.1 h
  obtain ⟨there, hthere, rfl⟩ := Option.map_eq_some_iff.1 h
  obtain ⟨k, hk⟩ := List.mem_iff_getElem?.1 (List.mem_of_find?_eq_some hthere)
  rw [List.getElem?_drop] at hk
  exact ⟨p, p + 1 + k, hp, findIdx?_of_getElem? hnodup hk, by omega⟩

/-- Sections that are only ever completed lead on to later ones, and so not for ever. -/
lemma not_comesRound (hnodup : g.order.Nodup)
    (hstill : ∀ s ∈ g.sections, ∀ a ∈ s.content.opening, a.kind ≠ "navigate") (st : Standing) :
    ¬ComesRound g st := by
  have honward {st next : Standing} (h : st.onward? g = some next) :
      st.complete? g st.sectionId = some next := by
    obtain ⟨s, hs, h⟩ := Option.bind_eq_some_iff.1 h
    split_ifs at h
    · exact h
    · rw [actAll_eq_none (hstill s (List.mem_of_find?_eq_some hs))] at h
      cases h
  have hplace (n : Nat) (last : Standing) (h : chain g (n + 1) st = some last) :
      ∃ q, g.order.findIdx? (· == last.sectionId) = some q ∧ n < q := by
    induction n generalizing last with
    | zero =>
      rw [chain_succ] at h
      obtain ⟨p, q, -, hq, hlt⟩ := lt_of_complete? hnodup (honward h)
      exact ⟨q, hq, Nat.zero_lt_of_lt hlt⟩
    | succ n ih =>
      rw [chain_succ] at h
      obtain ⟨mid, hmid, h⟩ := Option.bind_eq_some_iff.1 h
      obtain ⟨p, q, hp, hq, hlt⟩ := lt_of_complete? hnodup (honward h)
      obtain ⟨p', hp', hn⟩ := ih mid hmid
      rw [hp] at hp'
      cases hp'
      exact ⟨q, hq, by omega⟩
  intro hround
  obtain ⟨last, hlast⟩ :=
    Option.isSome_iff_exists.1 (hround.isSome_chain (g.order.length + 1))
  obtain ⟨q, hq, hlt⟩ := hplace _ last hlast
  have hbound : q < g.order.length := (List.findIdx?_eq_some_iff_getElem.1 hq).1
  omega

end Standing

end Play

end LearningGame
