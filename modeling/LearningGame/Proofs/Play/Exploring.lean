import LearningGame.Proofs.Catalogue
import LearningGame.Proofs.Play.Rehearsing

/-!
# Exploring

The player sees some of the locations from the outset and the others once these have been visited.
So what is revealed is known from what has been visited, and as long as there is a location to be
visited there is one that can be. The things that are picked up are those that are reported.
-/

namespace LearningGame.Play.ExplorationSitting

open Content Schema Script Rehearsal

variable {c : Setting} {z : Exploration} {T : Float → Prop} {s t : ExplorationSitting}
  {x : Surroundings} {p q : Stage ExplorationSitting} {id : String} {thing : Collectible}

/-! ### What is revealed -/

/-- The locations that are visible from the outset, and the one at which the player starts. -/
def outset (z : Exploration) : List String :=
  let visible := (z.locations.filter (·.visible)).map (·.id)
  if visible.contains z.startLocation then visible else visible ++ [z.startLocation]

/-- The other locations. -/
def remote (z : Exploration) : List String :=
  (Catalogue.ofList Location.id z.locations).ids.filter fun id => !(outset z).contains id

/-- What is revealed once some locations have been visited. -/
def revealedBy (z : Exploration) (visited : List String) : List String :=
  outset z ++ if ∀ id ∈ outset z, id ∈ visited then remote z else []

/-- The locations are as declared, and what is revealed is known from what has been visited. -/
structure Charted (z : Exploration) (s : ExplorationSitting) : Prop where
  locations : s.locations = Catalogue.ofList Location.id z.locations
  visited_nodup : s.visited.Nodup
  visited_subset : s.visited ⊆ s.revealed
  revealed_eq : s.revealed = revealedBy z s.visited

lemma mem_outset_of_start : z.startLocation ∈ outset z := by
  unfold outset
  dsimp only
  split_ifs with h
  · exact List.contains_iff_mem.1 h
  · exact List.mem_append_right _ List.mem_cons_self

lemma outset_subset (hstart : z.startLocation ∈ z.locations.map (·.id)) :
    outset z ⊆ z.locations.map (·.id) := by
  have hvisible : (z.locations.filter (·.visible)).map (·.id) ⊆ z.locations.map (·.id) :=
    List.map_subset _ (List.filter_subset_self _)
  unfold outset
  dsimp only
  split_ifs
  · exact hvisible
  · exact List.append_subset.2 ⟨hvisible, by simpa using hstart⟩

lemma mem_remote_iff : id ∈ remote z ↔ id ∈ z.locations.map (·.id) ∧ id ∉ outset z := by
  rw [remote, List.mem_filter, Catalogue.mem_ids_ofList]
  simp

lemma outset_subset_revealedBy (visited : List String) : outset z ⊆ revealedBy z visited :=
  List.subset_append_left _ _

/-- The more has been visited, the more is revealed. -/
lemma revealedBy_subset {visited further : List String} (h : visited ⊆ further) :
    revealedBy z visited ⊆ revealedBy z further := by
  unfold revealedBy
  split_ifs with hall hfurther
  · exact List.Subset.refl _
  · exact absurd (fun id hid => h (hall id hid)) hfurther
  · exact List.append_subset.2 ⟨List.subset_append_left _ _, List.nil_subset _⟩
  · exact List.Subset.refl _

namespace Charted

variable (h : Charted z s)

include h

/-- Everything is revealed, or only what is visible from the outset. -/
lemma revealed_cases :
    ((∀ id ∈ outset z, id ∈ s.visited) ∧ s.revealed = outset z ++ remote z ∧ s.hidden = []) ∨
    (¬(∀ id ∈ outset z, id ∈ s.visited) ∧ s.revealed = outset z ∧ s.hidden = remote z) := by
  have hrevealed := h.revealed_eq
  unfold revealedBy at hrevealed
  split_ifs at hrevealed with hall
  · refine .inl ⟨hall, hrevealed, ?_⟩
    rw [hidden, h.locations, hrevealed, List.filter_eq_nil_iff]
    intro id hid
    simp only [List.contains_iff_mem, Bool.not_eq_true, Bool.not_eq_false', List.mem_append]
    by_cases hout : id ∈ outset z
    · exact .inl hout
    · exact .inr (mem_remote_iff.2 ⟨Catalogue.mem_ids_ofList.1 hid, hout⟩)
  · rw [List.append_nil] at hrevealed
    exact .inr ⟨hall, hrevealed, by rw [hidden, h.locations, hrevealed, remote]⟩

/-- Only declared locations are revealed. -/
lemma revealed_subset (hstart : z.startLocation ∈ z.locations.map (·.id)) :
    s.revealed ⊆ z.locations.map (·.id) := by
  rw [h.revealed_eq, revealedBy]
  refine List.append_subset.2 ⟨outset_subset hstart, ?_⟩
  split_ifs
  · exact fun id hid => (mem_remote_iff.1 hid).1
  · exact List.nil_subset _

/-- As long as a location has not been visited, there is one that is revealed and has not. -/
lemma exists_unvisited (hid : id ∈ z.locations.map (·.id)) (hnew : id ∉ s.visited) :
    ∃ other ∈ s.revealed, other ∉ s.visited := by
  rcases h.revealed_cases with ⟨hall, hrevealed, -⟩ | ⟨hsome, hrevealed, -⟩
  · refine ⟨id, ?_, hnew⟩
    rw [hrevealed, List.mem_append, mem_remote_iff]
    exact .inr ⟨hid, fun hout => hnew (hall id hout)⟩
  · obtain ⟨other, hother⟩ := not_forall.1 hsome
    obtain ⟨hout, hnew⟩ := Classical.not_imp.1 hother
    exact ⟨other, hrevealed ▸ hout, hnew⟩

/-- What comes to be revealed while more is visited: all that was hidden, if what had been revealed
has been visited, and nothing otherwise. -/
lemma revealed_next (ht : Charted z t) (hmore : s.visited ⊆ t.visited) :
    ((∀ id ∈ s.revealed, id ∈ t.visited) → t.revealed = s.revealed ++ s.hidden) ∧
      (¬(∀ id ∈ s.revealed, id ∈ t.visited) → t.revealed = s.revealed) := by
  rcases h.revealed_cases with ⟨hall, hrevealed, hhidden⟩ | ⟨-, hrevealed, hhidden⟩
  · have hsame : t.revealed = s.revealed := by
      rw [ht.revealed_eq, revealedBy, if_pos fun id hid => hmore (hall id hid), hrevealed]
    rw [hhidden, List.append_nil]
    exact ⟨fun _ => hsame, fun _ => hsame⟩
  · rw [hrevealed, hhidden, ht.revealed_eq, revealedBy]
    exact ⟨fun hall => by rw [if_pos hall], fun hsome => by rw [if_neg hsome, List.append_nil]⟩

end Charted

/-! ### What moves do to the state -/

/-- Reveal the hidden locations if all others have been visited. -/
def uncovered (s : ExplorationSitting) : ExplorationSitting :=
  if !s.hidden.isEmpty && s.allVisited then { s with revealed := s.revealed ++ s.hidden } else s

/-- Visit a location for the first time. -/
def discovered (s : ExplorationSitting) (id : String) : ExplorationSitting :=
  uncovered { s with visited := s.visited ++ [id] }

/-- Arrive at a location at some time. -/
def arrived (s : ExplorationSitting) (id : String) (time : Float) : ExplorationSitting :=
  let s := { s with position := id, started := time }
  if s.visited.contains id then s else s.discovered id

/-- Show the location at which the player starts. -/
def shown (s : ExplorationSitting) : ExplorationSitting :=
  if s.revealed.contains s.position then s else { s with revealed := s.revealed ++ [s.position] }

/-- Take a thing up. -/
def taken (s : ExplorationSitting) (id : String) : ExplorationSitting :=
  { s with collected := s.collected ++ [id] }

/-- The report of a thing that is taken up. -/
def findReport (id : String) (thing : Collectible) (time : Int) : Report :=
  .answer id (.str "collected") true thing.points time

lemma uncovered_eq (s : ExplorationSitting) :
    s.uncovered = { s with revealed := s.uncovered.revealed } := by
  unfold uncovered
  split_ifs <;> rfl

lemma revealed_uncovered (s : ExplorationSitting) :
    s.uncovered.revealed = s.revealed ++ if s.allVisited then s.hidden else [] := by
  unfold uncovered
  cases hhidden : s.hidden <;> cases hall : s.allVisited <;> simp

/-- An arrival changes nothing but where the player is, since when, and what is known. -/
lemma arrived_eq (s : ExplorationSitting) (id : String) (time : Float) :
    s.arrived id time = { s with
      position := id, started := time, revealed := (s.arrived id time).revealed,
      visited := if id ∈ s.visited then s.visited else s.visited ++ [id] } := by
  unfold arrived
  dsimp only
  split_ifs with hcontains hmem hmem
  · rfl
  · exact absurd (List.contains_iff_mem.1 hcontains) hmem
  · exact absurd (List.contains_iff_mem.2 hmem) hcontains
  · rw [discovered, uncovered_eq]

namespace Charted

lemma of_eq (h : Charted z s) (hlocations : t.locations = s.locations)
    (hrevealed : t.revealed = s.revealed) (hvisited : t.visited = s.visited) : Charted z t where
  locations := hlocations.trans h.locations
  visited_nodup := hvisited ▸ h.visited_nodup
  visited_subset := hvisited ▸ hrevealed ▸ h.visited_subset
  revealed_eq := by rw [hrevealed, hvisited, h.revealed_eq]

/-- The hidden locations are revealed when the last of the others is visited for the first time. -/
lemma discovered (h : Charted z s) (hid : id ∈ s.revealed) (hnew : id ∉ s.visited) :
    Charted z (s.discovered id) := by
  let t : ExplorationSitting := { s with visited := s.visited ++ [id] }
  have hmore : s.visited ⊆ t.visited := List.subset_append_left _ _
  have hrevealed : t.uncovered.revealed = revealedBy z t.visited := by
    rw [revealed_uncovered, revealedBy]
    rcases h.revealed_cases with ⟨hall, hrevealed, hhidden⟩ | ⟨-, hrevealed, hhidden⟩
    · rw [show t.hidden = [] from hhidden, show t.revealed = outset z ++ remote z from hrevealed,
        if_pos fun id hid => hmore (hall id hid)]
      simp
    · have hvisited : t.allVisited = true ↔ ∀ id ∈ outset z, id ∈ t.visited := by
        rw [allVisited, show t.revealed = outset z from hrevealed]
        simp
      rw [show t.hidden = remote z from hhidden, show t.revealed = outset z from hrevealed]
      simp only [hvisited]
  have hvisited : t.visited ⊆ t.uncovered.revealed := by
    rw [revealed_uncovered]
    refine List.subset_append_of_subset_left _ (List.append_subset.2 ⟨h.visited_subset, ?_⟩)
    simpa using hid
  rw [ExplorationSitting.discovered, uncovered_eq]
  refine ⟨h.locations, ?_, hvisited, hrevealed⟩
  show (s.visited ++ [id]).Nodup
  rw [← List.concat_eq_append]
  exact h.visited_nodup.concat hnew

lemma arrived (h : Charted z s) (hid : id ∈ s.revealed) (time : Float) :
    Charted z (s.arrived id time) := by
  have hmoved : Charted z { s with position := id, started := time } := h.of_eq rfl rfl rfl
  unfold ExplorationSitting.arrived
  dsimp only
  split_ifs with hvisited
  · exact hmoved
  · exact hmoved.discovered hid fun hmem => hvisited (List.contains_iff_mem.2 hmem)

end Charted

/-- The player begins with what is visible from the outset. -/
lemma charted_shown (z : Exploration) (started : Float) : Charted z (create z started).shown := by
  have hrevealed : (create z started).shown.revealed = outset z := by
    unfold shown outset create
    dsimp only
    split_ifs <;> rfl
  have hother : (create z started).shown.locations = Catalogue.ofList Location.id z.locations ∧
      (create z started).shown.visited = [] := by
    unfold shown
    split_ifs <;> exact ⟨rfl, rfl⟩
  refine ⟨hother.1, ?_, ?_, ?_⟩
  · rw [hother.2]
    exact List.nodup_nil
  · rw [hother.2]
    exact List.nil_subset _
  · rw [hrevealed, hother.2, revealedBy, if_neg, List.append_nil]
    exact fun hall => absurd (hall _ mem_outset_of_start) List.not_mem_nil

/-! ### Scripts -/

/-- Neither an answer nor the end has been reported since. -/
structure IsQuiet (before since : List Report) : Prop where
  answers : answers since = answers before
  ends : ends since = ends before

lemma yields_reveal {Q : Unit → Stage ExplorationSitting → Prop} (h : Q () (s.uncovered, x)) :
    reveal.Yields c Q (s, x) := by
  refine yields_state_bind ?_
  unfold uncovered at h
  dsimp only at h ⊢
  split_ifs at h ⊢
  · exact yields_setState_bind (yields_note h)
  · exact yields_pure h

/-- An item that is added is neither an answer nor the end. -/
lemma yields_addItem_quiet {item : String} {Q : Unit → Stage ExplorationSitting → Prop}
    (h : ∀ reports, IsQuiet x.reports reports → Q () (s, { x with reports })) :
    (Script.addItem item).Yields c Q (s, x) := by
  refine yields_addItem fun reports hreports => h reports ?_
  rcases hreports with rfl | rfl
  · exact ⟨rfl, rfl⟩
  · exact ⟨answers_cons_add, ends_cons_add⟩

lemma yields_discover {Q : Unit → Stage ExplorationSitting → Prop}
    (h : ∀ reports, IsQuiet x.reports reports → Q () (s.discovered id, { x with reports })) :
    (discover id).Yields c Q (s, x) := by
  refine yields_change_bind (yields_state_bind ?_)
  dsimp only
  cases (s.locations.find? id).bind gift? with
  | none => exact yields_reveal (h _ ⟨rfl, rfl⟩)
  | some item =>
    exact yields_bind (yields_addItem_quiet fun reports hquiet => yields_reveal (h _ hquiet))

lemma yields_arrive {Q : Unit → Stage ExplorationSitting → Prop}
    (h : ∀ reports, IsQuiet x.reports reports → Q () (s.arrived id x.clock, { x with reports })) :
    (arrive id).Yields c Q (s, x) := by
  refine yields_change_bind (yields_bind (yields_startClock (yields_state_bind ?_)))
  show Script.Yields c Q (if s.visited.contains id then pure () else discover id)
    ({ s with position := id, started := x.clock }, x)
  unfold arrived at h
  dsimp only at h
  split_ifs at h ⊢
  · exact yields_pure (h _ ⟨rfl, rfl⟩)
  · exact yields_discover h

/-! ### Moves -/

/-- A location can be visited. -/
def Reaches (s : ExplorationSitting) (id : String) : Prop :=
  s.completed = false ∧ id ∈ s.revealed

/-- A thing can be taken up: it lies where the player is, and it has not been taken up yet. -/
def Takes (s : ExplorationSitting) (id : String) (thing : Collectible) : Prop :=
  s.completed = false ∧ s.collectibles.find? id = some thing ∧ thing.locationId = s.position ∧
    id ∉ s.collected

/-- A cue comes to nothing. -/
def Ignores (s : ExplorationSitting) : Cue → Prop
  | .move (.visit id) => ¬s.Reaches id
  | .move (.collect id) => ∀ thing, ¬s.Takes id thing
  | .move .finish => s.completed = true
  | .clock _ => False
  | _ => True

/-- All that a cue can do. -/
inductive Turn (p : Stage ExplorationSitting) : Cue → Stage ExplorationSitting → Prop
  | visit {id : String} {reports : List Report} (h : p.1.Reaches id)
      (hquiet : IsQuiet p.2.reports reports) :
    Turn p (.move (.visit id)) (p.1.arrived id p.2.clock, { p.2 with reports })
  | collect {id : String} {thing : Collectible} {reports : List Report} (time : Int)
      (h : p.1.Takes id thing) (hquiet : IsQuiet p.2.reports reports)
      (hmore : (p.1.taken id).collected.length < p.1.collectibles.length) :
    Turn p (.move (.collect id))
      (p.1.taken id, { p.2 with reports := findReport id thing time :: reports })
  | collectLast {id : String} {thing : Collectible} {reports : List Report} (time : Int)
      (h : p.1.Takes id thing) (hquiet : IsQuiet p.2.reports reports)
      (hlast : p.1.collectibles.length ≤ (p.1.taken id).collected.length) :
    Turn p (.move (.collect id)) ({ p.1.taken id with completed := true },
      { p.2 with reports := .complete :: findReport id thing time :: reports })
  | finish (hopen : p.1.completed = false) :
    Turn p (.move .finish)
      ({ p.1 with completed := true }, { p.2 with reports := .complete :: p.2.reports })
  | clock (time : Float) : Turn p (.clock time) (p.1, { p.2 with clock := time })
  | ignore {cue : Cue} (h : Ignores p.1 cue) : Turn p cue p

lemma yields_visit (p : Stage ExplorationSitting) (id : String) :
    (visit c id).Yields c (fun _ => Turn p (.move (.visit id))) p := by
  refine yields_unlessCompleted (fun hdone => .ignore ?_) fun hopen => yields_state_bind ?_
  · intro hreaches
    exact Bool.false_ne_true (hreaches.1.symm.trans hdone)
  · split_ifs with hid
    · refine yields_bind (yields_arrive fun reports hquiet => yields_pure ?_)
      exact .visit ⟨hopen, List.contains_iff_mem.1 hid⟩ hquiet
    · exact yields_note_bind (yields_pure (.ignore fun h => hid (List.contains_iff_mem.2 h.2)))

/-- The section is finished with the last thing that is taken up. -/
lemma yields_pickUp {Q : Unit → Stage ExplorationSitting → Prop}
    (hfinite : (p.2.clock - p.1.started).isFinite = true) (h : p.1.Takes id thing)
    (hQ : ∀ q, Turn p (.move (.collect id)) q → Q () q) : (pickUp c id thing).Yields c Q p := by
  refine yields_change_bind (yields_bind (yields_addItem_quiet fun reports hquiet => ?_))
  refine yields_bind (yields_answer hfinite fun time => yields_state_bind ?_)
  split_ifs with hlast
  · exact yields_complete h.1 (hQ _ (.collectLast time h hquiet hlast))
  · exact yields_pure (hQ _ (.collect time h hquiet (Nat.lt_of_not_le hlast)))

/-- What is available is what can be taken up. -/
lemma takes_iff (hids : s.collectibles.ids.Nodup) (hopen : s.completed = false) :
    s.Takes id thing ↔
      (if s.here.contains id then s.collectibles.find? id else none) = some thing := by
  have hhere (hthing : s.collectibles.find? id = some thing) :
      id ∈ s.here ↔ thing.locationId = s.position ∧ id ∉ s.collected := by
    rw [here, List.mem_map]
    constructor
    · rintro ⟨e, he, rfl⟩
      obtain ⟨hmem, hlies⟩ := List.mem_filter.1 he
      obtain rfl := Option.some.inj (hthing.symm.trans (Catalogue.find?_of_mem hids hmem))
      simpa using hlies
    · rintro hlies
      refine ⟨(id, thing), List.mem_filter.2 ⟨Catalogue.mem_of_find? hthing, ?_⟩, rfl⟩
      simpa using hlies
  simp only [List.contains_iff_mem]
  constructor
  · rintro ⟨-, hthing, hlies⟩
    rw [if_pos ((hhere hthing).2 hlies), hthing]
  · intro h
    split_ifs at h with hmem
    exact ⟨hopen, h, (hhere h).1 hmem⟩

lemma yields_collect (hids : p.1.collectibles.ids.Nodup)
    (hfinite : (p.2.clock - p.1.started).isFinite = true) (id : String) :
    (collect c id).Yields c (fun _ => Turn p (.move (.collect id))) p := by
  refine yields_unlessCompleted (fun hdone => .ignore ?_) fun hopen => yields_state_bind ?_
  · intro thing htakes
    exact Bool.false_ne_true (htakes.1.symm.trans hdone)
  · have htakes (thing : Collectible) : p.1.Takes id thing ↔
        (if p.1.here.contains id then p.1.collectibles.find? id else none) = some thing :=
      takes_iff hids hopen
    generalize (if p.1.here.contains id then p.1.collectibles.find? id else none) = found
      at htakes ⊢
    cases found with
    | none =>
      refine yields_note_bind (yields_pure (.ignore fun thing h => ?_))
      exact absurd ((htakes thing).1 h) nofun
    | some thing =>
      exact yields_bind (yields_pickUp hfinite ((htakes thing).2 rfl) fun q hq => yields_pure hq)

lemma yields_finish (p : Stage ExplorationSitting) :
    (finish c).Yields c (fun _ => Turn p (.move .finish)) p :=
  yields_unlessCompleted (fun hdone => .ignore hdone) fun hopen =>
    yields_complete hopen (.finish hopen)

/-! ### What holds throughout -/

/-- The report of a declared thing. -/
def IsFind (z : Exploration) (id : String) (r : Report) : Prop :=
  ∃ thing time, (Catalogue.ofList Collectible.id z.collectibles).find? id = some thing ∧
    r = findReport id thing time

/-- What holds at all stages of an exploration. -/
structure Sound (z : Exploration) (T : Float → Prop) (p : Stage ExplorationSitting) : Prop
    extends Charted z p.1 where
  clock : T p.2.clock
  started : T p.1.started
  running : p.2.running = none
  collectibles : p.1.collectibles = Catalogue.ofList Collectible.id z.collectibles
  position : p.1.position ∈ p.1.visited
  collected_nodup : p.1.collected.Nodup
  collected_subset : p.1.collected ⊆ z.collectibles.map (·.id)
  /-- The things that have been taken up are those that have been reported. -/
  answered : List.Forall₂ (IsFind z) p.1.collected (answers p.2.reports)
  ended : ends p.2.reports = p.1.completed.toNat

/-- The player is where he has arrived. -/
lemma position_mem_arrived (s : ExplorationSitting) (id : String) (time : Float) :
    (s.arrived id time).position ∈ (s.arrived id time).visited := by
  rw [arrived_eq]
  dsimp only
  split_ifs with hvisited
  · exact hvisited
  · exact List.mem_append_right _ List.mem_cons_self

namespace Sound

variable (hp : Sound z T p)

include hp

lemma visits (hid : id ∈ p.1.revealed) {reports : List Report}
    (hquiet : IsQuiet p.2.reports reports) :
    Sound z T (p.1.arrived id p.2.clock, { p.2 with reports }) := by
  have hcharted := hp.toCharted.arrived hid p.2.clock
  have hposition := position_mem_arrived p.1 id p.2.clock
  rw [arrived_eq] at hcharted hposition ⊢
  exact { hcharted, hp with
    started := hp.clock
    position := hposition
    answered := hquiet.answers ▸ hp.answered
    ended := hquiet.ends ▸ hp.ended }

lemma takes (h : p.1.Takes id thing) {reports : List Report}
    (hquiet : IsQuiet p.2.reports reports) (time : Int) :
    Sound z T (p.1.taken id, { p.2 with reports := findReport id thing time :: reports }) := by
  obtain ⟨hopen, hthing, -, hnew⟩ := h
  rw [hp.collectibles] at hthing
  refine { hp with collected_nodup := ?_, collected_subset := ?_, answered := ?_, ended := ?_ }
  · show (p.1.collected ++ [id]).Nodup
    rw [← List.concat_eq_append]
    exact hp.collected_nodup.concat hnew
  · have hid : id ∈ (Catalogue.ofList Collectible.id z.collectibles).ids :=
      List.mem_map_of_mem (Catalogue.mem_of_find? hthing)
    refine List.append_subset.2 ⟨hp.collected_subset, ?_⟩
    simpa using Catalogue.mem_ids_ofList.1 hid
  · rw [findReport, answers_cons_answer, hquiet.answers]
    exact List.rel_append hp.answered (.cons ⟨thing, time, hthing, rfl⟩ .nil)
  · exact hquiet.ends.trans hp.ended

lemma finishes (hopen : p.1.completed = false) :
    Sound z T ({ p.1 with completed := true }, { p.2 with reports := .complete :: p.2.reports }) :=
  { hp with
    ended := by
      rw [ends_cons_complete, hp.ended, hopen]
      rfl }

lemma turn {cue : Cue} (h : Turn p cue q) (hcue : cue.Within T) : Sound z T q := by
  cases h with
  | visit h hquiet => exact hp.visits h.2 hquiet
  | collect time h hquiet => exact hp.takes h hquiet time
  | collectLast time h hquiet => exact (hp.takes h hquiet time).finishes h.1
  | finish hopen => exact hp.finishes hopen
  | clock time => exact { hp with clock := hcue }
  | ignore => exact hp

end Sound

/-- An exploration goes on from one sound stage to the next. -/
lemma proceeds (hT : Steady T) :
    Proceeds .exploration c (Cue.Within T) (Sound z T) Turn where
  follow {w p cue} hw hp hcue := by
    have hfinite : (p.2.clock - p.1.started).isFinite = true := hT.finite _ _ hp.started hp.clock
    have hids : p.1.collectibles.ids.Nodup := hp.collectibles ▸ Catalogue.nodup_ids_ofList
    cases cue with
    | clock time =>
      obtain ⟨v, hrun, hv⟩ := follow_clock hw time
      exact ⟨_, v, hrun, hv, .clock time⟩
    | second => exact ⟨p, w, follow_second_of_idle hw hp.running, hw, .ignore trivial⟩
    | move m =>
      cases m with
      | visit id =>
        exact follow_move hw (y := _ <$> visit c id) rfl (yields_map (yields_visit p id))
      | collect id =>
        exact follow_move hw (y := _ <$> collect c id) rfl
          (yields_map (yields_collect hids hfinite id))
      | finish => exact follow_move hw (y := _ <$> finish c) rfl (yields_map (yields_finish p))
      | _ => exact ⟨p, w, follow_unknown hw rfl, hw, .ignore trivial⟩
  sound hp hturn hcue := hp.turn hturn hcue

/-! ### From one stage to the next -/

namespace Turn

variable {cue : Cue} (h : Turn p cue q)

include h

lemma visited_of_reaches (hcue : cue = .move (.visit id)) (hreaches : p.1.Reaches id) :
    q.1.position = id ∧ q.1.completed = false ∧
      q.1.visited = if id ∈ p.1.visited then p.1.visited else p.1.visited ++ [id] := by
  subst hcue
  cases h with
  | visit =>
    rw [arrived_eq]
    exact ⟨rfl, hreaches.1, rfl⟩
  | ignore hignores => exact absurd hreaches hignores

lemma visited_eq (hcue : ∀ id, cue = .move (.visit id) → ¬p.1.Reaches id) :
    q.1.position = p.1.position ∧ q.1.visited = p.1.visited := by
  cases h with
  | visit hreaches => exact absurd hreaches (hcue _ rfl)
  | collect | collectLast | finish | clock | ignore => exact ⟨rfl, rfl⟩

/-- What has been visited remains so. -/
lemma visited_subset : p.1.visited ⊆ q.1.visited := by
  by_cases hcue : ∃ id, cue = .move (.visit id) ∧ p.1.Reaches id
  · obtain ⟨id, hcue, hreaches⟩ := hcue
    rw [(h.visited_of_reaches hcue hreaches).2.2]
    split_ifs
    · exact List.Subset.refl _
    · exact List.subset_append_left _ _
  · rw [(h.visited_eq fun id heq hreaches => hcue ⟨id, heq, hreaches⟩).2]
    exact List.Subset.refl _

lemma collected_of_takes (hcue : cue = .move (.collect id)) (htakes : p.1.Takes id thing) :
    q.1.collected = p.1.collected ++ [id] ∧
      ∃ time, answers q.2.reports = answers p.2.reports ++ [findReport id thing time] := by
  subst hcue
  have hsame {other : Collectible} (hother : p.1.Takes id other) : other = thing :=
    Option.some.inj (hother.2.1.symm.trans htakes.2.1)
  cases h with
  | collect time hother hquiet =>
    refine ⟨rfl, time, ?_⟩
    rw [findReport, answers_cons_answer, hquiet.answers, hsame hother]
    rfl
  | collectLast time hother hquiet =>
    refine ⟨rfl, time, ?_⟩
    rw [answers_cons_complete, findReport, answers_cons_answer, hquiet.answers, hsame hother]
    rfl
  | ignore hignores => exact absurd htakes (hignores thing)

lemma collected_eq (hcue : ∀ id thing, cue = .move (.collect id) → ¬p.1.Takes id thing) :
    q.1.collected = p.1.collected ∧ answers q.2.reports = answers p.2.reports := by
  cases h with
  | visit hreaches hquiet =>
    rw [arrived_eq]
    exact ⟨rfl, hquiet.answers⟩
  | collect time htakes => exact absurd htakes (hcue _ _ rfl)
  | collectLast time htakes => exact absurd htakes (hcue _ _ rfl)
  | finish | clock | ignore => exact ⟨rfl, rfl⟩

end Turn

/-- All things have been taken up if these are as many as there are. -/
lemma Sound.length_le_iff (hp : Sound z T p) : p.1.collectibles.length ≤ p.1.collected.length ↔
    ∀ other ∈ z.collectibles, other.id ∈ p.1.collected := by
  rw [hp.collectibles]
  exact Catalogue.length_ofList_le_iff hp.collected_nodup hp.collected_subset

lemma Turn.completed_iff {cue : Cue} (h : Turn p cue q) (hq : Sound z T q) :
    q.1.completed = true ↔ p.1.completed = true ∨ cue = .move .finish ∨
      ∃ id thing, cue = .move (.collect id) ∧ p.1.Takes id thing ∧
        ∀ other ∈ z.collectibles, other.id ∈ q.1.collected := by
  cases h with
  | visit hreaches => rw [arrived_eq]; simp
  | @collect id thing reports time htakes hquiet hmore =>
    have hnot : ¬∀ other ∈ z.collectibles, other.id ∈ (p.1.taken id).collected := fun hall =>
      Nat.not_le_of_lt hmore (hq.length_le_iff.2 hall)
    refine ⟨.inl, ?_⟩
    rintro (hdone | hfinish | ⟨-, -, -, -, hall⟩)
    · exact hdone
    · cases hfinish
    · exact absurd hall hnot
  | @collectLast id thing reports time htakes hquiet hlast =>
    exact iff_of_true rfl (.inr (.inr ⟨id, thing, rfl, htakes, hq.length_le_iff.1 hlast⟩))
  | finish hopen => exact iff_of_true rfl (.inr (.inl rfl))
  | clock => simp
  | @ignore cue hignores =>
    refine ⟨.inl, ?_⟩
    rintro (hdone | rfl | ⟨id, thing, rfl, htakes, -⟩)
    · exact hdone
    · exact hignores
    · exact absurd htakes (hignores thing)

/-! ### The conduct of an exploration -/

/-- What can be seen of an exploration that is played. -/
structure Standing (z : Exploration) (w : Rehearsal) (s : ExplorationSitting) : Prop
    extends Charted z s where
  player : w.player = .exploration s
  collectibles : s.collectibles = Catalogue.ofList Collectible.id z.collectibles
  position : s.position ∈ s.visited
  revealed_subset : s.revealed ⊆ z.locations.map (·.id)
  /-- As long as a location has not been visited, one can be visited for the first time. -/
  unvisited : ∀ id ∈ z.locations.map (·.id), id ∉ s.visited →
    ∃ other ∈ s.revealed, other ∉ s.visited
  /-- Each thing has been taken up, and reported, once at most. -/
  collected_nodup : s.collected.Nodup
  collected_subset : s.collected ⊆ z.collectibles.map (·.id)
  answered : List.Forall₂ (IsFind z) s.collected (answers w.reports)
  ended : ends w.reports = s.completed.toNat

/-- How an exploration is conducted while cues of some sort are followed. -/
structure Conduct (z : Exploration) (T : Float → Prop) (w : Rehearsal) : Prop where
  begins : (Rehearsal.enter.runIn w).1 = .ok ()
  follows : ∀ {cues cue}, (∀ cue ∈ cues, cue.Within T) → cue.Within T →
    ((follow cue).runIn (w.rehearsed cues)).1 = .ok ()
  standing : ∀ {cues}, (∀ cue ∈ cues, cue.Within T) → ∃ s, Standing z (w.rehearsed cues) s
  /-- At first only the location at which the player starts has been visited. -/
  starts : ∃ s, (w.rehearsed []).player = .exploration s ∧ s.position = z.startLocation ∧
    s.visited = [z.startLocation] ∧ s.collected = [] ∧ s.completed = false
  /-- By a visit the player arrives at the location. -/
  visits : ∀ {cues cue s t id}, (∀ cue ∈ cues, cue.Within T) → cue.Within T →
    (w.rehearsed cues).player = .exploration s →
    (w.rehearsed (cues ++ [cue])).player = .exploration t →
    cue = .move (.visit id) → s.Reaches id →
    t.position = id ∧ t.visited = if id ∈ s.visited then s.visited else s.visited ++ [id]
  /-- Otherwise he stays where he is. -/
  stays : ∀ {cues cue s t}, (∀ cue ∈ cues, cue.Within T) → cue.Within T →
    (w.rehearsed cues).player = .exploration s →
    (w.rehearsed (cues ++ [cue])).player = .exploration t →
    (∀ id, cue = .move (.visit id) → ¬s.Reaches id) →
    t.position = s.position ∧ t.visited = s.visited
  /-- All that is hidden is revealed once all that has been revealed has been visited, and nothing
  is before that. -/
  reveals : ∀ {cues cue s t}, (∀ cue ∈ cues, cue.Within T) → cue.Within T →
    (w.rehearsed cues).player = .exploration s →
    (w.rehearsed (cues ++ [cue])).player = .exploration t →
    ((∀ id ∈ s.revealed, id ∈ t.visited) → t.revealed = s.revealed ++ s.hidden) ∧
      (¬(∀ id ∈ s.revealed, id ∈ t.visited) → t.revealed = s.revealed)
  /-- A thing that lies where the player is can be taken up, and is reported then. -/
  takes : ∀ {cues cue s t id thing}, (∀ cue ∈ cues, cue.Within T) → cue.Within T →
    (w.rehearsed cues).player = .exploration s →
    (w.rehearsed (cues ++ [cue])).player = .exploration t →
    cue = .move (.collect id) → s.Takes id thing →
    t.collected = s.collected ++ [id] ∧ ∃ time,
      answers (w.rehearsed (cues ++ [cue])).reports =
        answers (w.rehearsed cues).reports ++ [findReport id thing time]
  /-- Otherwise nothing is taken up or reported. -/
  leaves : ∀ {cues cue s t}, (∀ cue ∈ cues, cue.Within T) → cue.Within T →
    (w.rehearsed cues).player = .exploration s →
    (w.rehearsed (cues ++ [cue])).player = .exploration t →
    (∀ id thing, cue = .move (.collect id) → ¬s.Takes id thing) →
    t.collected = s.collected ∧
      answers (w.rehearsed (cues ++ [cue])).reports = answers (w.rehearsed cues).reports
  /-- The section is finished by taking up the last thing, or on request. -/
  completes : ∀ {cues cue s t}, (∀ cue ∈ cues, cue.Within T) → cue.Within T →
    (w.rehearsed cues).player = .exploration s →
    (w.rehearsed (cues ++ [cue])).player = .exploration t →
    (t.completed = true ↔ s.completed = true ∨ cue = .move .finish ∨
      ∃ id thing, cue = .move (.collect id) ∧ s.Takes id thing ∧
        ∀ other ∈ z.collectibles, other.id ∈ t.collected)
  /-- Until then the player can get to every location by visits. -/
  reaches : ∀ {cues s id}, (∀ cue ∈ cues, cue.Within T) →
    (w.rehearsed cues).player = .exploration s → s.completed = false →
    id ∈ z.locations.map (·.id) →
    ∃ (visits : List String) (t : ExplorationSitting),
      (w.rehearsed (cues ++ visits.map fun id => .move (.visit id))).player = .exploration t ∧
        t.position = id

/-- What holds of a sound stage can be seen. -/
lemma Sound.standing {w : Rehearsal} (hp : Sound z T p) (hw : w.Stands .exploration c p)
    (hstart : z.startLocation ∈ z.locations.map (·.id)) : Standing z w p.1 := {
  hp with
  player := hw.player
  revealed_subset := hp.revealed_subset hstart
  unvisited := fun _ hid hnew => hp.exists_unvisited hid hnew
  answered := hw.reports ▸ hp.answered
  ended := hw.reports ▸ hp.ended }

lemma within_visits {cues : List Cue} (hcues : ∀ cue ∈ cues, cue.Within T) (visits : List String) :
    ∀ cue ∈ cues ++ visits.map fun id => .move (.visit id), cue.Within T := by
  intro cue hcue
  rcases List.mem_append.1 hcue with hcue | hcue
  · exact hcues cue hcue
  · obtain ⟨id, -, rfl⟩ := List.mem_map.1 hcue
    trivial

section

variable {w : Rehearsal} {cues : List Cue} (hT : Steady T)
  (hw : (w.rehearsed []).Stands .exploration c p) (hp : Sound z T p)
  (hcues : ∀ cue ∈ cues, cue.Within T)

include hT hw hp hcues

/-- As long as the section is not finished, a revealed location can be visited. -/
lemma exists_visited (hs : (w.rehearsed cues).player = .exploration s) (hreaches : s.Reaches id) :
    ∃ t, (w.rehearsed (cues ++ [.move (.visit id)])).player = .exploration t ∧ t.position = id ∧
      t.completed = false ∧ s.visited ⊆ t.visited ∧ id ∈ t.visited := by
  have hcue : Cue.Within T (.move (.visit id)) := trivial
  obtain ⟨q, r, hq, -, -, hr, hturn⟩ := (proceeds hT).onward hw hp hcues hcue
  obtain rfl := hq.state_eq Player.exploration.inj hs
  obtain ⟨hposition, hopen, hvisited⟩ := hturn.visited_of_reaches rfl hreaches
  refine ⟨r.1, hr.player, hposition, hopen, hturn.visited_subset, ?_⟩
  rw [hvisited]
  split_ifs with hmem
  · exact hmem
  · exact List.mem_append_right _ List.mem_cons_self

/-- Revealed locations can be visited one after the other. -/
lemma exists_visits (hs : (w.rehearsed cues).player = .exploration s) (hopen : s.completed = false)
    {visits : List String} (hvisits : visits ⊆ s.revealed) :
    ∃ t, (w.rehearsed (cues ++ visits.map fun id => .move (.visit id))).player = .exploration t ∧
      t.completed = false ∧ s.visited ⊆ t.visited ∧ visits ⊆ t.visited := by
  induction visits using List.reverseRecOn with
  | nil =>
    refine ⟨s, ?_, hopen, List.Subset.refl _, List.nil_subset _⟩
    rw [List.map_nil, List.append_nil]
    exact hs
  | append_singleton visits id ih =>
    obtain ⟨hbefore, hid⟩ := List.append_subset.1 hvisits
    obtain ⟨t, ht, hopen, hmore, hall⟩ := ih hbefore
    have hfurther := within_visits hcues visits
    -- what was revealed still is
    obtain ⟨q, hq, hqsound, -⟩ := (proceeds hT).passes hw hp hcues
    obtain ⟨r, hr, hrsound, -⟩ := (proceeds hT).passes hw hp hfurther
    obtain rfl := hq.state_eq Player.exploration.inj hs
    obtain rfl := hr.state_eq Player.exploration.inj ht
    have hrevealed : id ∈ r.1.revealed := by
      rw [hrsound.revealed_eq]
      refine revealedBy_subset hmore ?_
      rw [← hqsound.revealed_eq]
      exact hid List.mem_cons_self
    obtain ⟨t, ht, -, hopen, hmore', hmem⟩ :=
      exists_visited hT hw hp hfurther hr.player ⟨hopen, hrevealed⟩
    refine ⟨t, ?_, hopen, List.Subset.trans hmore hmore', ?_⟩
    · rw [List.map_append, ← List.append_assoc]
      exact ht
    · exact List.append_subset.2 ⟨List.Subset.trans hall hmore', by simpa using hmem⟩

/-- As long as the section is not finished, every declared location can be got to. -/
lemma exists_visits_to (hs : (w.rehearsed cues).player = .exploration s)
    (hopen : s.completed = false) (hid : id ∈ z.locations.map (·.id)) :
    ∃ (visits : List String) (t : ExplorationSitting),
      (w.rehearsed (cues ++ visits.map fun id => .move (.visit id))).player = .exploration t ∧
        t.position = id := by
  obtain ⟨q, hq, hqsound, -⟩ := (proceeds hT).passes hw hp hcues
  obtain rfl := hq.state_eq Player.exploration.inj hs
  obtain ⟨t, ht, hopen, -, hall⟩ :=
    exists_visits hT hw hp hcues hs hopen (List.Subset.refl q.1.revealed)
  have hfurther := within_visits hcues q.1.revealed
  obtain ⟨r, hr, hrsound, -⟩ := (proceeds hT).passes hw hp hfurther
  obtain rfl := hr.state_eq Player.exploration.inj ht
  -- with all that was revealed, all that is visible from the outset has been visited
  have hout : ∀ id ∈ outset z, id ∈ r.1.visited := fun id hid =>
    hall (hqsound.revealed_eq ▸ outset_subset_revealedBy q.1.visited hid)
  have hrevealed : id ∈ r.1.revealed := by
    rw [hrsound.revealed_eq, revealedBy, if_pos hout, List.mem_append, mem_remote_iff]
    by_cases hvisible : id ∈ outset z
    · exact .inl hvisible
    · exact .inr ⟨hid, hvisible⟩
  obtain ⟨u, hu, hposition, -⟩ :=
    exists_visited hT hw hp hfurther hr.player ⟨hopen, hrevealed⟩
  refine ⟨q.1.revealed ++ [id], u, ?_, hposition⟩
  rw [List.map_append, ← List.append_assoc]
  exact hu

end

/-- A declared location is the first to be visited. -/
lemma yields_enter {Q : Unit → Stage ExplorationSitting → Prop}
    (hstart : s.locations.has s.position = true)
    (h : ∀ reports, IsQuiet x.reports reports →
      Q () (s.shown.arrived s.position x.clock, { x with reports })) :
    (enter c).Yields c Q (s, x) := by
  refine yields_state_bind ?_
  rw [if_pos hstart]
  unfold shown at h
  split_ifs at h ⊢
  · exact yields_bind (yields_pure (yields_arrive h))
  · exact yields_setState_bind (yields_arrive h)

/-- An exploration with a declared start can be begun, with a visit to it. -/
lemma exists_begun_arrived (hkind : c.kind = .exploration)
    (hstart : z.startLocation ∈ z.locations.map (·.id)) (hT : Steady T) (dice : Dice) (plain : Bool)
    (hints : Int) (circumstances : Rules.Circumstances) :
    ∃ w, Rehearsal.create c (.exploration z) dice plain hints circumstances = .ok w ∧
      (Rehearsal.enter.runIn w).1 = .ok () ∧
      ∃ p, (w.rehearsed []).Stands .exploration c p ∧ Sound z T p ∧
        p.1.position = z.startLocation ∧ p.1.visited = [z.startLocation] ∧ p.1.collected = [] ∧
        p.1.completed = false := by
  have hsit : (Player.sitDown c (.exploration z) 0).runIn dice =
      (.ok (.exploration (create z 0)), dice) := by
    unfold Player.sitDown
    rw [hkind]
    rfl
  have hhas : (create z 0).locations.has (create z 0).position = true :=
    Catalogue.has_ofList_iff.2 hstart
  have hcharted := charted_shown z 0
  have hrevealed : z.startLocation ∈ (create z 0).shown.revealed := by
    rw [hcharted.revealed_eq]
    exact outset_subset_revealedBy _ mem_outset_of_start
  obtain ⟨revealed, hshown⟩ : ∃ revealed, (create z 0).shown = { create z 0 with revealed } := by
    unfold shown
    split_ifs <;> exact ⟨_, rfl⟩
  have harrived := hcharted.arrived hrevealed 0
  rw [hshown, arrived_eq] at harrived
  refine exists_begun (y := enter c) hsit rfl (yields_enter hhas fun reports hquiet => ?_) plain
    hints circumstances
  rw [hshown, arrived_eq]
  refine ⟨?_, rfl, rfl, rfl, rfl⟩
  exact { harrived with
    clock := hT.zero
    started := hT.zero
    running := rfl
    collectibles := rfl
    position := List.mem_cons_self
    collected_nodup := List.nodup_nil
    collected_subset := List.nil_subset _
    answered := hquiet.answers ▸ .nil
    ended := hquiet.ends }

/-- Whatever the player does, an exploration with a declared start is conducted as it should be:
what is hidden is revealed once all else has been visited, so that he can get everywhere, and he
takes up each thing once at most, where it lies, until he has them all or wants to stop. -/
theorem conduct_of_declared_start (hkind : c.kind = .exploration)
    (hstart : z.startLocation ∈ z.locations.map (·.id)) (hT : Steady T) (dice : Dice) (plain : Bool)
    (hints : Int) (circumstances : Rules.Circumstances) :
    ∃ w, Rehearsal.create c (.exploration z) dice plain hints circumstances = .ok w ∧
      Conduct z T w := by
  obtain ⟨w, hw, hbegins, p, hbegun, hp, hfirst⟩ :=
    exists_begun_arrived hkind hstart hT dice plain hints circumstances
  refine ⟨w, hw, ?_⟩
  exact {
    begins := hbegins
    follows := fun hcues hcue => by
      obtain ⟨q, r, -, -, hok, -⟩ := (proceeds hT).onward hbegun hp hcues hcue
      exact hok
    standing := fun hcues => by
      obtain ⟨q, hq, hsound, -⟩ := (proceeds hT).passes hbegun hp hcues
      exact ⟨q.1, hsound.standing hq hstart⟩
    starts := ⟨p.1, hbegun.player, hfirst⟩
    visits := fun hcues hcue hs ht hvisit hreaches => by
      obtain ⟨x, y, -, -, -, hturn⟩ :=
        (proceeds hT).exists_turn hbegun hp Player.exploration.inj hcues hcue hs ht
      obtain ⟨hposition, -, hvisited⟩ := hturn.visited_of_reaches hvisit hreaches
      exact ⟨hposition, hvisited⟩
    stays := fun hcues hcue hs ht hnone => by
      obtain ⟨x, y, -, -, -, hturn⟩ :=
        (proceeds hT).exists_turn hbegun hp Player.exploration.inj hcues hcue hs ht
      exact hturn.visited_eq hnone
    reveals := fun hcues hcue hs ht => by
      obtain ⟨x, y, -, hsound, -, hturn⟩ :=
        (proceeds hT).exists_turn hbegun hp Player.exploration.inj hcues hcue hs ht
      exact hsound.revealed_next (hsound.turn hturn hcue).toCharted hturn.visited_subset
    takes := fun hcues hcue hs ht hcollect htakes => by
      obtain ⟨x, y, hx, -, hy, hturn⟩ :=
        (proceeds hT).exists_turn hbegun hp Player.exploration.inj hcues hcue hs ht
      rw [hx.reports, hy.reports]
      exact hturn.collected_of_takes hcollect htakes
    leaves := fun hcues hcue hs ht hnone => by
      obtain ⟨x, y, hx, -, hy, hturn⟩ :=
        (proceeds hT).exists_turn hbegun hp Player.exploration.inj hcues hcue hs ht
      rw [hx.reports, hy.reports]
      exact hturn.collected_eq hnone
    completes := fun hcues hcue hs ht => by
      obtain ⟨x, y, -, hsound, -, hturn⟩ :=
        (proceeds hT).exists_turn hbegun hp Player.exploration.inj hcues hcue hs ht
      exact hturn.completed_iff (hsound.turn hturn hcue)
    reaches := fun hcues hs hopen hid => exists_visits_to hT hbegun hp hcues hs hopen hid }

/-- The setting of an exploration. -/
def expedition : Setting :=
  ⟨"w1", .exploration,
    ⟨"exploration", [], 0, 0, true, true, true, 3, 0, false, "immediate", true⟩, 10, 5⟩

/-- An island on which the player starts in a hidden place, and a cave is hidden as well. -/
def island : Exploration :=
  ⟨⟨"Island", "", ⟨0, 0⟩, ""⟩,
    [⟨"camp", "Camp", "", [], none, false, ""⟩, ⟨"river", "River", "", [], none, true, ""⟩,
      ⟨"cave", "Cave", "", [], none, false, ""⟩],
    [⟨"shell", "Shell", "", "", "river", 5, "Shells are made of lime."⟩,
      ⟨"gem", "Gem", "", "", "cave", 20, ""⟩], "camp"⟩

/-- The way to the cave is found at the river, and the gem is the last thing to be taken up. -/
theorem conduct_of_island :
    island.startLocation ∈ island.locations.map (·.id) ∧
    ∃ w, Rehearsal.create expedition (.exploration island) ⟨fun _ => 0, 0⟩ true 3 nothing = .ok w ∧
      Conduct island (fun t => t = 0 ∨ t = 1) w ∧
      ends (w.rehearsed [.move (.visit "cave"), .move (.visit "river"), .move (.collect "shell"),
        .move (.collect "gem")]).reports = 0 ∧
      ends (w.rehearsed [.move (.visit "cave"), .move (.visit "river"), .move (.collect "shell"),
        .move (.visit "cave"), .move (.collect "gem")]).reports = 1 := by
  have hstart : island.startLocation ∈ island.locations.map (·.id) := by decide
  obtain ⟨w, hw, hconduct⟩ := conduct_of_declared_start (c := expedition) rfl hstart
    steady_zero_or_one ⟨fun _ => 0, 0⟩ true 3 nothing
  refine ⟨hstart, w, hw, hconduct, ?_⟩
  cases hw
  decide +kernel

end LearningGame.Play.ExplorationSitting
