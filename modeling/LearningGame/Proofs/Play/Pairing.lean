import LearningGame.Proofs.Catalogue
import LearningGame.Proofs.Play.Dice
import LearningGame.Proofs.Play.Rehearsing
import Mathlib.Algebra.Ring.Int.Defs
import Mathlib.Data.List.Dedup

/-!
# Finding pairs

An attempt is made as soon as an entry is selected in both columns, and with it the selections end.
So no pair is found twice, and the pairs that have been found are those whose attempts have been
reported as right. The section ends with the last pair, or when the time has run out before.
-/

namespace LearningGame.Play

open Content Schema Script Rehearsal

namespace Column

/-- The column beside a column. -/
def other : Column → Column
  | .left => .right
  | .right => .left

/-- The attempt with an entry of a column and one of the other. -/
def attempt (id partner : String) : Column → Attempt
  | .left => ⟨id, partner⟩
  | .right => ⟨partner, id⟩

end Column

namespace MatchingSitting

variable {c : Setting} {z : Matching} {T : Float → Prop} {s t : MatchingSitting}
  {x : Surroundings} {p q : Stage MatchingSitting} {column : Column} {id partner : String}
  {a : Attempt} {cues : List Cue} {cue : Cue}

/-! ### What moves do -/

/-- The entry that is selected in a column. -/
def selectedIn (s : MatchingSitting) : Column → Option String
  | .left => s.selectedLeft
  | .right => s.selectedRight

/-- An entry can be selected: the pair exists and has not been found yet. -/
def Selects (s : MatchingSitting) (id : String) : Prop :=
  s.completed = false ∧ s.pairs.has id = true ∧ id ∉ s.matched

/-- Select an entry of a column. -/
def selecting (s : MatchingSitting) (id : String) : Column → MatchingSitting
  | .left => { s with wrongPair := none, selectedLeft := some id }
  | .right => { s with wrongPair := none, selectedRight := some id }

/-- Make an attempt in vain. -/
def mistaken (s : MatchingSitting) (a : Attempt) : MatchingSitting :=
  { s with wrongPair := some a, selectedLeft := none, selectedRight := none }

/-- Find a pair. -/
def paired (s : MatchingSitting) (id : String) : MatchingSitting :=
  { s with
    wrongPair := none, selectedLeft := none, selectedRight := none, matched := s.matched ++ [id] }

/-- The report of an attempt. -/
def attemptReport (c : Setting) (a : Attempt) (time : Int) : Report :=
  .answer a.left a.toValue (a.left == a.right) (if a.left == a.right then c.pointsPerCorrect else 0)
    time

/-- A cue comes to nothing. -/
def Ignores (p : Stage MatchingSitting) : Cue → Prop
  | .move (.select _ id) => ¬p.1.Selects id
  | .second => p.2.running = none
  | .clock _ => False
  | _ => True

/-- All that a cue can do. -/
inductive Turn (c : Setting) (p : Stage MatchingSitting) : Cue → Stage MatchingSitting → Prop
  | select (column : Column) {id : String} (h : p.1.Selects id)
      (hpartner : p.1.selectedIn column.other = none) :
    Turn c p (.move (.select column id)) (p.1.selecting id column, p.2)
  | mistake (column : Column) {id partner : String} (time : Int) (h : p.1.Selects id)
      (hpartner : p.1.selectedIn column.other = some partner) (hne : id ≠ partner) :
    Turn c p (.move (.select column id)) (p.1.mistaken (column.attempt id partner),
      { p.2 with reports := attemptReport c (column.attempt id partner) time :: p.2.reports })
  | pair (column : Column) {id : String} (time : Int) (h : p.1.Selects id)
      (hpartner : p.1.selectedIn column.other = some id)
      (hmore : p.1.matched.length + 1 < p.1.pairs.length) :
    Turn c p (.move (.select column id)) (p.1.paired id,
      { p.2 with reports := attemptReport c ⟨id, id⟩ time :: p.2.reports })
  | pairLast (column : Column) {id : String} (time : Int) (h : p.1.Selects id)
      (hpartner : p.1.selectedIn column.other = some id)
      (hlast : p.1.pairs.length ≤ p.1.matched.length + 1) :
    Turn c p (.move (.select column id)) ({ p.1.paired id with completed := true },
      { p.2 with
        running := none, reports := .complete :: attemptReport c ⟨id, id⟩ time :: p.2.reports })
  | wait {left : Int} (hopen : p.1.completed = false)
      (hrunning : p.2.running = some (.matching, left)) (hmore : 1 < left) :
    Turn c p .second (p.1, { p.2 with running := some (.matching, left - 1) })
  | timeout {left : Int} (hopen : p.1.completed = false)
      (hrunning : p.2.running = some (.matching, left)) (hlast : left ≤ 1) :
    Turn c p .second ({ p.1 with timedOut := true, completed := true },
      { p.2 with running := none, reports := .complete :: p.2.reports })
  | clock (time : Float) : Turn c p (.clock time) (p.1, { p.2 with clock := time })
  | ignore {cue : Cue} (h : Ignores p cue) : Turn c p cue p

/-! ### Scripts -/

lemma yields_found {Q : Unit → Stage MatchingSitting → Prop} (hopen : p.1.completed = false)
    (hrunning : ∀ a left, p.2.running = some (a, left) → a = .matching)
    (hmore : p.1.matched.length + 1 < p.1.pairs.length →
      Q () ({ p.1 with matched := p.1.matched ++ [id] }, p.2))
    (hlast : p.1.pairs.length ≤ p.1.matched.length + 1 →
      Q () ({ p.1 with matched := p.1.matched ++ [id], completed := true },
        { p.2 with running := none, reports := .complete :: p.2.reports })) :
    (found c id).Yields c Q p := by
  have hlength : (p.1.matched ++ [id]).length = p.1.matched.length + 1 := List.length_append
  refine yields_state_bind (yields_setState_bind ?_)
  rw [hlength]
  split_ifs with h
  · exact yields_bind (yields_cancel hrunning (yields_complete hopen (hlast h)))
  · exact yields_pure (hmore (Nat.lt_of_not_le h))

/-- An attempt ends both selections, and is reported; with equal entries a pair is found. -/
lemma yields_attempt {Q : Unit → Stage MatchingSitting → Prop} {left right : String}
    (hopen : p.1.completed = false)
    (hrunning : ∀ a left, p.2.running = some (a, left) → a = .matching)
    (hfinite : (p.2.clock - p.1.started).isFinite = true)
    (hmistake : left ≠ right → ∀ time, Q () (p.1.mistaken ⟨left, right⟩,
      { p.2 with reports := attemptReport c ⟨left, right⟩ time :: p.2.reports }))
    (hpair : left = right → p.1.matched.length + 1 < p.1.pairs.length → ∀ time, Q ()
      ({ p.1 with
        selectedLeft := none, selectedRight := none, matched := p.1.matched ++ [left] },
      { p.2 with reports := attemptReport c ⟨left, right⟩ time :: p.2.reports }))
    (hlast : left = right → p.1.pairs.length ≤ p.1.matched.length + 1 → ∀ time, Q ()
      ({ p.1 with
        selectedLeft := none, selectedRight := none, matched := p.1.matched ++ [left],
        completed := true },
      { p.2 with
        running := none,
        reports := .complete :: attemptReport c ⟨left, right⟩ time :: p.2.reports })) :
    (attempt c left right).Yields c Q p := by
  refine yields_change_bind (yields_bind (yields_answer hfinite fun time => ?_))
  by_cases heq : left = right
  · rw [if_pos (beq_iff_eq.2 heq)]
    exact yields_found hopen hrunning (fun h => hpair heq h time) fun h => hlast heq h time
  · rw [if_neg (mt beq_iff_eq.1 heq)]
    exact yields_change (hmistake heq time)

/-- After an entry has been selected there is an attempt if one of the other column is selected. -/
lemma yields_resolve (hrunning : ∀ a left, p.2.running = some (a, left) → a = .matching)
    (hfinite : (p.2.clock - p.1.started).isFinite = true) (column : Column)
    (h : p.1.Selects id) :
    (resolve c).Yields c (fun _ => Turn c p (.move (.select column id)))
      (p.1.selecting id column, p.2) := by
  refine yields_state_bind ?_
  cases column with
  | left =>
    cases hpartner : p.1.selectedRight with
    | none =>
      have hturn : Turn c p _ (p.1.selecting id .left, p.2) := .select .left h hpartner
      simp only [selecting, hpartner] at hturn ⊢
      exact yields_pure hturn
    | some partner =>
      simp only [selecting, hpartner]
      refine yields_attempt h.1 hrunning hfinite ?_ ?_ ?_
      · exact fun hne time => .mistake .left time h hpartner hne
      · rintro rfl hmore time
        exact .pair .left time h hpartner hmore
      · rintro rfl hlast time
        exact .pairLast .left time h hpartner hlast
  | right =>
    cases hpartner : p.1.selectedLeft with
    | none =>
      have hturn : Turn c p _ (p.1.selecting id .right, p.2) := .select .right h hpartner
      simp only [selecting, hpartner] at hturn ⊢
      exact yields_pure hturn
    | some partner =>
      simp only [selecting, hpartner]
      refine yields_attempt h.1 hrunning hfinite ?_ ?_ ?_
      · exact fun hne time => .mistake .right time h hpartner (Ne.symm hne)
      · rintro rfl hmore time
        exact .pair .right time h hpartner hmore
      · rintro rfl hlast time
        exact .pairLast .right time h hpartner hlast

lemma yields_select (hrunning : ∀ a left, p.2.running = some (a, left) → a = .matching)
    (hfinite : (p.2.clock - p.1.started).isFinite = true) (column : Column) (id : String) :
    (select c column id).Yields c (fun _ => Turn c p (.move (.select column id))) p := by
  refine yields_unlessCompleted (fun hdone => .ignore ?_) fun hopen => yields_state_bind ?_
  · exact fun h => Bool.false_ne_true (h.1.symm.trans hdone)
  · split_ifs with hunknown hmatched
    · refine yields_note (.ignore fun h => ?_)
      rw [h.2.1] at hunknown
      cases hunknown
    · exact yields_pure (.ignore fun h => h.2.2 (List.contains_iff_mem.1 hmatched))
    · have h : p.1.Selects id := ⟨hopen, by simpa using hunknown, by simpa using hmatched⟩
      have hresolve := yields_resolve (c := c) hrunning hfinite column h
      cases column with
      | left | right => exact yields_setState_bind hresolve

lemma yields_expire (hopen : p.1.completed = false) {Q : Unit → Stage MatchingSitting → Prop}
    (hQ : Q () ({ p.1 with timedOut := true, completed := true },
      { p.2 with reports := .complete :: p.2.reports })) : (expire c).Yields c Q p :=
  yields_note_bind (yields_change_bind (yields_complete hopen hQ))

/-! ### What holds throughout -/

/-- The pairs that are reported as found, in this order. -/
def foundIn (reports : List Report) : List String :=
  (answers reports).filterMap fun
    | .answer item _ true _ _ => some item
    | _ => none

/-- The points that are reported. -/
def pointsIn (reports : List Report) : Int :=
  ((answers reports).map fun
    | .answer _ _ _ points _ => points
    | _ => 0).sum

/-- The report of an attempt with entries that exist. -/
def IsAttempt (c : Setting) (z : Matching) (r : Report) : Prop :=
  ∃ a time, a.left ∈ z.pairs.map (·.id) ∧ a.right ∈ z.pairs.map (·.id) ∧ r = attemptReport c a time

/-- Both columns show each pair once, and what is selected has not been found. -/
structure IsLaidOut (z : Matching) (s : MatchingSitting) : Prop where
  left_perm : s.leftOrder.Perm (z.pairs.map (·.id)).dedup
  right_perm : s.rightOrder.Perm (z.pairs.map (·.id)).dedup
  /-- There is a selection in one of the columns at most. -/
  alone : s.selectedLeft = none ∨ s.selectedRight = none
  selected : ∀ {column id}, s.selectedIn column = some id →
    id ∈ z.pairs.map (·.id) ∧ id ∉ s.matched
  matched_nodup : s.matched.Nodup
  matched_subset : s.matched ⊆ z.pairs.map (·.id)

/-- The pairs that have been found are those that are reported as found, with their points. -/
structure IsReported (c : Setting) (z : Matching) (s : MatchingSitting) (reports : List Report) :
    Prop where
  attempts : ∀ r ∈ answers reports, IsAttempt c z r
  found : foundIn reports = s.matched
  points : pointsIn reports = c.pointsPerCorrect * s.matched.length
  ended : ends reports = s.completed.toNat

/-- What holds at all stages of a matching game. -/
structure Sound (c : Setting) (z : Matching) (T : Float → Prop) (p : Stage MatchingSitting) :
    Prop extends IsLaidOut z p.1, IsReported c z p.1 p.2.reports where
  clock : T p.2.clock
  started : T p.1.started
  pairs : p.1.pairs = Catalogue.ofList MatchPair.id z.pairs
  running : ∀ {a left}, p.2.running = some (a, left) → a = .matching ∧ p.1.completed = false

@[simp] lemma foundIn_cons_complete (reports : List Report) :
    foundIn (.complete :: reports) = foundIn reports := rfl

@[simp] lemma pointsIn_cons_complete (reports : List Report) :
    pointsIn (.complete :: reports) = pointsIn reports := rfl

lemma foundIn_cons_attempt (time : Int) (reports : List Report) :
    foundIn (attemptReport c a time :: reports) =
      foundIn reports ++ if a.left = a.right then [a.left] else [] := by
  unfold foundIn attemptReport
  rw [answers_cons_answer, List.filterMap_append]
  by_cases h : a.left = a.right <;> simp [h]

lemma pointsIn_cons_attempt (time : Int) (reports : List Report) :
    pointsIn (attemptReport c a time :: reports) =
      pointsIn reports + if a.left = a.right then c.pointsPerCorrect else 0 := by
  unfold pointsIn attemptReport
  rw [answers_cons_answer, List.map_append, List.sum_append]
  simp

namespace IsReported

variable {reports : List Report} (h : IsReported c z s reports)

include h

/-- An attempt finds a pair if its entries are equal, and is reported. -/
lemma attempt (hleft : a.left ∈ z.pairs.map (·.id)) (hright : a.right ∈ z.pairs.map (·.id))
    (hmatched : t.matched = s.matched ++ if a.left = a.right then [a.left] else [])
    (hcompleted : t.completed = s.completed) (time : Int) :
    IsReported c z t (attemptReport c a time :: reports) where
  attempts r hr := by
    rw [attemptReport, answers_cons_answer, List.mem_append, List.mem_singleton] at hr
    rcases hr with hr | rfl
    · exact h.attempts r hr
    · exact ⟨a, time, hleft, hright, rfl⟩
  found := by rw [foundIn_cons_attempt, h.found, hmatched]
  points := by
    rw [pointsIn_cons_attempt, h.points, hmatched]
    split_ifs <;> simp [Int.mul_add]
  ended := hcompleted ▸ h.ended

lemma finish (hopen : s.completed = false) (hmatched : t.matched = s.matched)
    (hcompleted : t.completed = true) : IsReported c z t (.complete :: reports) where
  attempts := h.attempts
  found := hmatched ▸ h.found
  points := hmatched ▸ h.points
  ended := by
    rw [ends_cons_complete, h.ended, hopen, hcompleted]
    rfl

end IsReported

/-! ### What a selection leaves -/

lemma Selects.mem (h : s.Selects id) (hpairs : s.pairs = Catalogue.ofList MatchPair.id z.pairs) :
    id ∈ z.pairs.map (·.id) :=
  Catalogue.has_ofList_iff.1 (hpairs ▸ h.2.1)

lemma selectedIn_selecting (s : MatchingSitting) (id : String) (column other : Column) :
    (s.selecting id column).selectedIn other =
      if other = column then some id else s.selectedIn other := by
  cases column <;> cases other <;> rfl

lemma selecting_eq (s : MatchingSitting) (id : String) (column : Column) :
    s.selecting id column = { s with
      wrongPair := none, selectedLeft := (s.selecting id column).selectedLeft,
      selectedRight := (s.selecting id column).selectedRight } := by
  cases column <;> rfl

lemma selectedIn_eq_none (hleft : s.selectedLeft = none) (hright : s.selectedRight = none)
    (column : Column) : s.selectedIn column = none := by
  cases column
  · exact hleft
  · exact hright

namespace IsLaidOut

variable (h : IsLaidOut z s)

include h

lemma select (hid : id ∈ z.pairs.map (·.id)) (hnew : id ∉ s.matched)
    (hpartner : s.selectedIn column.other = none) : IsLaidOut z (s.selecting id column) := by
  have hselected {other : Column} {name : String}
      (hname : (s.selecting id column).selectedIn other = some name) :
      name ∈ z.pairs.map (·.id) ∧ name ∉ s.matched := by
    rw [selectedIn_selecting] at hname
    split_ifs at hname
    · obtain rfl := Option.some.inj hname
      exact ⟨hid, hnew⟩
    · exact h.selected hname
  have halone : (s.selecting id column).selectedLeft = none ∨
      (s.selecting id column).selectedRight = none := by
    cases column with
    | left => exact .inr hpartner
    | right => exact .inl hpartner
  rw [selecting_eq] at hselected halone ⊢
  exact { h with alone := halone, selected := hselected }

/-- Nothing is selected after an attempt. -/
lemma deselect (hleft : t.selectedLeft = none) (hright : t.selectedRight = none)
    (hlaid : t.leftOrder = s.leftOrder ∧ t.rightOrder = s.rightOrder) (hnodup : t.matched.Nodup)
    (hsubset : t.matched ⊆ z.pairs.map (·.id)) : IsLaidOut z t where
  left_perm := hlaid.1 ▸ h.left_perm
  right_perm := hlaid.2 ▸ h.right_perm
  alone := .inl hleft
  selected hid := by
    rw [selectedIn_eq_none hleft hright] at hid
    cases hid
  matched_nodup := hnodup
  matched_subset := hsubset

end IsLaidOut

namespace Sound

variable (hp : Sound c z T p)

include hp

/-- All pairs have been found if these are as many as there are. -/
lemma length_le_iff : p.1.pairs.length ≤ p.1.matched.length ↔
    ∀ pair ∈ z.pairs, pair.id ∈ p.1.matched := by
  rw [hp.pairs]
  exact Catalogue.length_ofList_le_iff hp.matched_nodup hp.matched_subset

lemma select (h : p.1.Selects id) (hpartner : p.1.selectedIn column.other = none) :
    Sound c z T (p.1.selecting id column, p.2) := by
  have hlaid := hp.toIsLaidOut.select (h.mem hp.pairs) h.2.2 hpartner
  rw [selecting_eq] at hlaid ⊢
  exact { hlaid, hp with
    attempts := hp.attempts, found := hp.found, points := hp.points, ended := hp.ended }

lemma mistake (h : p.1.Selects id) (hpartner : p.1.selectedIn column.other = some partner)
    (hne : id ≠ partner) (time : Int) :
    Sound c z T (p.1.mistaken (column.attempt id partner),
      { p.2 with reports := attemptReport c (column.attempt id partner) time :: p.2.reports }) := by
  have hid := h.mem hp.pairs
  have hmem := (hp.selected hpartner).1
  have hattempt : IsReported c z (p.1.mistaken (column.attempt id partner))
      (attemptReport c (column.attempt id partner) time :: p.2.reports) := by
    cases column with
    | left =>
      have hsame : p.1.matched = p.1.matched ++ if id = partner then [id] else [] := by
        rw [if_neg hne, List.append_nil]
      exact hp.toIsReported.attempt (a := ⟨id, partner⟩) (t := p.1.mistaken _) hid hmem hsame rfl
        time
    | right =>
      have hsame : p.1.matched = p.1.matched ++ if partner = id then [partner] else [] := by
        rw [if_neg (Ne.symm hne), List.append_nil]
      exact hp.toIsReported.attempt (a := ⟨partner, id⟩) (t := p.1.mistaken _) hmem hid hsame rfl
        time
  exact {
    hp.toIsLaidOut.deselect (t := p.1.mistaken _) rfl rfl ⟨rfl, rfl⟩ hp.matched_nodup
      hp.matched_subset, hattempt with
    clock := hp.clock, started := hp.started, pairs := hp.pairs, running := hp.running }

lemma pair (h : p.1.Selects id) (time : Int) :
    Sound c z T (p.1.paired id,
      { p.2 with reports := attemptReport c ⟨id, id⟩ time :: p.2.reports }) := by
  have hid := h.mem hp.pairs
  have hattempt : IsReported c z (p.1.paired id)
      (attemptReport c ⟨id, id⟩ time :: p.2.reports) :=
    hp.toIsReported.attempt (a := ⟨id, id⟩) (t := p.1.paired id) hid hid (by simp [paired]) rfl time
  have hnodup : (p.1.matched ++ [id]).Nodup := by
    rw [← List.concat_eq_append]
    exact hp.matched_nodup.concat h.2.2
  have hsubset : p.1.matched ++ [id] ⊆ z.pairs.map (·.id) :=
    List.append_subset.2 ⟨hp.matched_subset, by simpa using hid⟩
  exact {
    hp.toIsLaidOut.deselect (t := p.1.paired id) rfl rfl ⟨rfl, rfl⟩ hnodup hsubset, hattempt with
    clock := hp.clock, started := hp.started, pairs := hp.pairs, running := hp.running }

/-- The section is finished, with the time run out or not. -/
lemma finish (hopen : p.1.completed = false) (timedOut : Bool) :
    Sound c z T ({ p.1 with timedOut, completed := true },
      { p.2 with running := none, reports := .complete :: p.2.reports }) := {
  hp.toIsReported.finish (t := { p.1 with timedOut, completed := true }) hopen rfl rfl with
  left_perm := hp.left_perm
  right_perm := hp.right_perm
  alone := hp.alone
  selected := fun {column id} hid =>
    hp.selected (show p.1.selectedIn column = some id by cases column <;> exact hid)
  matched_nodup := hp.matched_nodup
  matched_subset := hp.matched_subset
  clock := hp.clock
  started := hp.started
  pairs := hp.pairs
  running := nofun }

lemma turn (h : Turn c p cue q) (hcue : cue.Within T) : Sound c z T q := by
  cases h with
  | select column h hpartner => exact hp.select h hpartner
  | mistake column time h hpartner hne => exact hp.mistake h hpartner hne time
  | pair column time h => exact hp.pair h time
  | pairLast column time h => exact (hp.pair h time).finish h.1 p.1.timedOut
  | wait hopen hrunning =>
    exact { hp with
      running := fun hnext => by
        cases hnext
        exact hp.running hrunning }
  | timeout hopen => exact hp.finish hopen true
  | clock time => exact { hp with clock := hcue }
  | ignore => exact hp

end Sound

/-- A matching game goes on from one sound stage to the next. -/
lemma proceeds (hT : Steady T) :
    Proceeds .matching c (Cue.Within T) (Sound c z T) (Turn c) where
  follow {w p cue} hw hp hcue := by
    have hfinite : (p.2.clock - p.1.started).isFinite = true := hT.finite _ _ hp.started hp.clock
    cases cue with
    | clock time =>
      obtain ⟨v, hrun, hv⟩ := follow_clock hw time
      exact ⟨_, v, hrun, hv, .clock time⟩
    | second =>
      cases hrunning : p.2.running with
      | none => exact ⟨p, w, follow_second_of_idle hw hrunning, hw, .ignore hrunning⟩
      | some running =>
        obtain ⟨alarm, left⟩ := running
        obtain ⟨rfl, hopen⟩ := hp.running hrunning
        refine follow_second (y := expire c) hw hrunning rfl rfl
          (fun hmore => .wait hopen hrunning hmore) fun hlast => ?_
        exact yields_expire (p := (p.1, { p.2 with running := none })) hopen
          (Turn.timeout hopen hrunning hlast)
    | move m =>
      cases m with
      | select column id =>
        exact follow_move hw (y := _ <$> select c column id) rfl
          (yields_map (yields_select (fun a left h => (hp.running h).1) hfinite column id))
      | _ => exact ⟨p, w, follow_unknown hw rfl, hw, .ignore trivial⟩
  sound hp hturn hcue := hp.turn hturn hcue

/-! ### What can be told from the cues -/

/-- The seconds that there are to find all pairs, if there is a limit. -/
def limit (z : Matching) : Int := z.timeLimit.getD 0

/-- The time runs out within some seconds. -/
def IsLate (z : Matching) (seconds : Nat) : Prop := 0 < limit z ∧ limit z ≤ seconds

/-- All pairs have been found. -/
def IsMatched (z : Matching) (s : MatchingSitting) : Prop := ∀ pair ∈ z.pairs, pair.id ∈ s.matched

/-- The section is finished when all pairs have been found or the time has run out. -/
structure Timed (z : Matching) (cues : List Cue) (p : Stage MatchingSitting) : Prop where
  running : p.2.running =
    if p.1.completed = false ∧ 0 < limit z then some (.matching, limit z - seconds cues) else none
  completed_iff : p.1.completed = true ↔ IsMatched z p.1 ∨ IsLate z (seconds cues)
  timedOut_iff : p.1.timedOut = true ↔ p.1.completed = true ∧ ¬IsMatched z p.1

lemma IsLate.concat (h : IsLate z (seconds cues)) (cue : Cue) :
    IsLate z (seconds (cues ++ [cue])) := by
  rw [seconds_concat]
  exact ⟨h.1, by have := h.2; omega⟩

namespace Timed

/-- The section is finished with the last pair, or else because the time has run out. -/
lemma of_end (hdone : q.1.completed = true) (hrunning : q.2.running = none)
    (hend : IsMatched z q.1 ∨ IsLate z (seconds cues))
    (htimedOut : q.1.timedOut = true ↔ ¬IsMatched z q.1) : Timed z cues q where
  running := by rw [hrunning, if_neg (by simp [hdone])]
  completed_iff := iff_of_true hdone hend
  timedOut_iff := htimedOut.trans (and_iff_right hdone).symm

variable (h : Timed z cues p)

include h

lemma not_isMatched (hopen : p.1.completed = false) : ¬IsMatched z p.1 := fun hall =>
  Bool.false_ne_true (hopen.symm.trans (h.completed_iff.2 (.inl hall)))

lemma not_isLate (hopen : p.1.completed = false) : ¬IsLate z (seconds cues) := fun hlate =>
  Bool.false_ne_true (hopen.symm.trans (h.completed_iff.2 (.inr hlate)))

lemma timedOut_eq_false (hopen : p.1.completed = false) : p.1.timedOut = false := by
  by_contra htime
  exact Bool.false_ne_true (hopen.symm.trans (h.timedOut_iff.1 (by simpa using htime)).1)

/-- What runs is the countdown, with the seconds that are left. -/
lemma of_running {left : Int} (hrunning : p.2.running = some (.matching, left)) :
    p.1.completed = false ∧ 0 < limit z ∧ left = limit z - seconds cues := by
  have hsame := h.running
  rw [hrunning] at hsame
  split_ifs at hsame with hruns
  cases hsame
  exact ⟨hruns.1, hruns.2, rfl⟩

/-- Nothing comes after the end. -/
lemma of_completed (hdone : p.1.completed = true) (cue : Cue) : Timed z (cues ++ [cue]) p where
  running := by
    rw [h.running, if_neg (by simp [hdone]), if_neg (by simp [hdone])]
  completed_iff := iff_of_true hdone ((h.completed_iff.1 hdone).imp_right fun hlate =>
    hlate.concat cue)
  timedOut_iff := h.timedOut_iff

/-- The section goes on as long as there is a pair left to be found and time to do so. -/
lemma goes_on (hopen : p.1.completed = false) (hseconds : 0 < limit z → seconds [cue] = 0)
    (hcompleted : q.1.completed = p.1.completed) (htimedOut : q.1.timedOut = p.1.timedOut)
    (hrunning : q.2.running = p.2.running) (hmore : ¬IsMatched z q.1) :
    Timed z (cues ++ [cue]) q where
  running := by
    rw [hrunning, hcompleted, h.running, seconds_concat]
    split_ifs with hruns
    · rw [hseconds hruns.2, Nat.add_zero]
    · rfl
  completed_iff := by
    rw [hcompleted, hopen]
    refine iff_of_false Bool.false_ne_true (not_or_intro hmore fun hlate => ?_)
    rw [IsLate, seconds_concat, hseconds hlate.1, Nat.add_zero] at hlate
    exact h.not_isLate hopen hlate
  timedOut_iff := by
    rw [htimedOut, hcompleted, h.timedOut_eq_false hopen, hopen]
    simp

/-- The time goes by, until it has run out. -/
lemma turn (hq : Sound c z T q) (hturn : Turn c p cue q) :
    Timed z (cues ++ [cue]) q := by
  cases hturn with
  | select column hselects =>
    have hmore := h.not_isMatched hselects.1
    rw [selecting_eq]
    exact h.goes_on hselects.1 (fun _ => rfl) rfl rfl rfl hmore
  | mistake column time hselects =>
    exact h.goes_on hselects.1 (fun _ => rfl) rfl rfl rfl (h.not_isMatched hselects.1)
  | @pair column id time hselects hpartner hmore =>
    refine h.goes_on hselects.1 (fun _ => rfl) rfl rfl rfl fun hall => ?_
    have hlength := hq.length_le_iff.2 hall
    rw [paired, List.length_append] at hlength
    exact Nat.not_le_of_lt hmore hlength
  | @pairLast column id time hselects hpartner hlast =>
    have hall : IsMatched z { p.1.paired id with completed := true } := by
      refine hq.length_le_iff.1 ?_
      rw [paired, List.length_append]
      exact hlast
    refine of_end rfl rfl (.inl hall) (iff_of_false ?_ (not_not_intro hall))
    rw [paired, h.timedOut_eq_false hselects.1]
    exact Bool.false_ne_true
  | @wait left hopen hrunning hmore =>
    obtain ⟨-, hlimit, hleft⟩ := h.of_running hrunning
    have hseconds : seconds (cues ++ [.second]) = seconds cues + 1 := seconds_concat ..
    constructor
    · show some (Alarm.matching, left - 1) = _
      rw [if_pos ⟨hopen, hlimit⟩, hseconds, hleft]
      congr 2
      omega
    · refine iff_of_false (by simp [hopen]) (not_or_intro (h.not_isMatched hopen) fun hlate => ?_)
      rw [IsLate, hseconds] at hlate
      omega
    · exact h.timedOut_iff
  | @timeout left hopen hrunning hlast =>
    obtain ⟨-, hlimit, hleft⟩ := h.of_running hrunning
    have hlate : IsLate z (seconds (cues ++ [.second])) := by
      rw [seconds_concat, show seconds [.second] = 1 from rfl]
      exact ⟨hlimit, by omega⟩
    exact of_end rfl rfl (.inr hlate) (iff_of_true rfl (h.not_isMatched hopen))
  | clock time =>
    cases hdone : p.1.completed with
    | true => exact { h.of_completed hdone _ with }
    | false => exact h.goes_on hdone (fun _ => rfl) rfl rfl rfl (h.not_isMatched hdone)
  | ignore hignores =>
    cases hdone : p.1.completed with
    | true => exact h.of_completed hdone cue
    | false =>
      refine h.goes_on hdone (fun hlimit => ?_) rfl rfl rfl (h.not_isMatched hdone)
      cases cue with
      | move | clock => rfl
      | second =>
        have hrunning := h.running
        rw [if_pos ⟨hdone, hlimit⟩, show p.2.running = none from hignores] at hrunning
        cases hrunning

end Timed

/-! ### From one stage to another -/

namespace Turn

variable (h : Turn c p cue q)

include h

/-- After the end nothing changes, and nothing is reported. -/
lemma of_completed (hdone : p.1.completed = true) : q.1 = p.1 ∧ q.2.reports = p.2.reports := by
  have hnot (hopen : p.1.completed = false) : False :=
    Bool.false_ne_true (hopen.symm.trans hdone)
  cases h with
  | select column h => exact (hnot h.1).elim
  | mistake column time h => exact (hnot h.1).elim
  | pair column time h => exact (hnot h.1).elim
  | pairLast column time h => exact (hnot h.1).elim
  | wait hopen => exact (hnot hopen).elim
  | timeout hopen => exact (hnot hopen).elim
  | clock | ignore => exact ⟨rfl, rfl⟩

/-- The section is finished by the last second of the countdown or by the last pair. -/
lemma completed_iff (hp : Timed z cues p) (hq : Timed z (cues ++ [cue]) q) :
    q.1.completed = true ↔ p.1.completed = true ∨
      (cue = .second ∧ 0 < limit z ∧ limit z = seconds cues + 1) ∨
      ∃ column id, cue = .move (.select column id) ∧ q.1.matched = p.1.matched ++ [id] ∧
        IsMatched z q.1 := by
  constructor
  · intro hdone
    cases h with
    | select column hselects =>
      rw [selecting_eq] at hdone
      exact .inl hdone
    | mistake | pair | wait | clock | ignore => exact .inl hdone
    | @pairLast column id time hselects =>
      refine .inr (.inr ⟨column, id, rfl, rfl, ?_⟩)
      refine (hq.completed_iff.1 rfl).resolve_right fun hlate => hp.not_isLate hselects.1 ?_
      rwa [seconds_concat] at hlate
    | @timeout left hopen hrunning hlast =>
      obtain ⟨-, hlimit, hleft⟩ := hp.of_running hrunning
      have hmore : ¬limit z ≤ seconds cues := fun hle => hp.not_isLate hopen ⟨hlimit, hle⟩
      exact .inr (.inl ⟨rfl, hlimit, by omega⟩)
  · rintro (hdone | ⟨rfl, hlimit, hlast⟩ | ⟨-, -, -, -, hall⟩)
    · rw [(h.of_completed hdone).1]
      exact hdone
    · refine hq.completed_iff.2 (.inr ⟨hlimit, ?_⟩)
      rw [seconds_concat, show seconds [.second] = 1 from rfl]
      omega
    · exact hq.completed_iff.2 (.inl hall)

/-- An entry that cannot be selected is not. -/
lemma of_refused (hcue : cue = .move (.select column id)) (hrefused : ¬p.1.Selects id) :
    q.1 = p.1 ∧ q.2.reports = p.2.reports := by
  subst hcue
  cases h with
  | select _ h => exact absurd h hrefused
  | mistake _ _ h => exact absurd h hrefused
  | pair _ _ h => exact absurd h hrefused
  | pairLast _ _ h => exact absurd h hrefused
  | ignore => exact ⟨rfl, rfl⟩

/-- Without a selection in the other column nothing else happens. -/
lemma of_alone (hcue : cue = .move (.select column id)) (hselects : p.1.Selects id)
    (hpartner : p.1.selectedIn column.other = none) :
    q.1 = p.1.selecting id column ∧ q.2.reports = p.2.reports := by
  subst hcue
  cases h with
  | select => exact ⟨rfl, rfl⟩
  | mistake _ _ _ hother => exact absurd (hpartner.symm.trans hother) nofun
  | pair _ _ _ hother => exact absurd (hpartner.symm.trans hother) nofun
  | pairLast _ _ _ hother => exact absurd (hpartner.symm.trans hother) nofun
  | ignore hignores => exact absurd hselects hignores

/-- With a selection in the other column there is an attempt, which ends both. -/
lemma of_partner (hcue : cue = .move (.select column id)) (hselects : p.1.Selects id)
    (hpartner : p.1.selectedIn column.other = some partner) :
    q.1.selectedLeft = none ∧ q.1.selectedRight = none ∧
      q.1.matched = p.1.matched ++ (if id = partner then [id] else []) ∧
      ∃ time, answers q.2.reports =
        answers p.2.reports ++ [attemptReport c (column.attempt id partner) time] := by
  subst hcue
  have hattempt : column.attempt id id = ⟨id, id⟩ := by cases column <;> rfl
  have hsame {other : String} (hother : p.1.selectedIn column.other = some other) :
      other = partner := Option.some.inj (hother.symm.trans hpartner)
  cases h with
  | select _ _ hother => exact absurd (hother.symm.trans hpartner) nofun
  | mistake _ time _ hother hne =>
    obtain rfl := hsame hother
    exact ⟨rfl, rfl, by simp [hne, mistaken], time, answers_cons_answer⟩
  | pair _ time _ hother =>
    obtain rfl := hsame hother
    rw [hattempt]
    exact ⟨rfl, rfl, by simp [paired], time, answers_cons_answer⟩
  | pairLast _ time _ hother =>
    obtain rfl := hsame hother
    rw [hattempt]
    exact ⟨rfl, rfl, by simp [paired], time, answers_cons_answer⟩
  | ignore hignores => exact absurd hselects hignores

end Turn

/-- Between two stages after the end nothing changes, and nothing is reported. -/
lemma passes_of_completed (h : Passes (Turn c) p cues q) (hdone : p.1.completed = true) :
    q.1 = p.1 ∧ q.2.reports = p.2.reports := by
  induction h with
  | rest => exact ⟨rfl, rfl⟩
  | go h hturn ih =>
    obtain ⟨hstate, hreports⟩ := ih
    obtain ⟨hstate', hreports'⟩ := hturn.of_completed (hstate ▸ hdone)
    exact ⟨hstate'.trans hstate, hreports'.trans hreports⟩

section

variable {w : Rehearsal} (hT : Steady T) (hw : (w.rehearsed []).Stands .matching c p)
  (hp : Sound c z T p) (hstart : Timed z [] p)

include hT hw hp hstart

/-- At all times the section is finished if all pairs have been found or the time has run out. -/
lemma exists_timed (hcues : ∀ cue ∈ cues, cue.Within T) :
    ∃ q, (w.rehearsed cues).Stands .matching c q ∧ Sound c z T q ∧ Timed z cues q :=
  (proceeds hT).exists_told hw hp (Timed z) hstart
    (fun htimed _ hnext hturn => htimed.turn hnext hturn) hcues

/-- The stages between which a further cue is followed. -/
lemma exists_timed_turn (hcues : ∀ cue ∈ cues, cue.Within T) (hcue : cue.Within T)
    (hs : (w.rehearsed cues).player = .matching s)
    (ht : (w.rehearsed (cues ++ [cue])).player = .matching t) :
    ∃ x y, (w.rehearsed cues).Stands .matching c (s, x) ∧ Timed z cues (s, x) ∧
      (w.rehearsed (cues ++ [cue])).Stands .matching c (t, y) ∧
      Timed z (cues ++ [cue]) (t, y) ∧ Turn c (s, x) cue (t, y) := by
  obtain ⟨q, hq, hsound, htimed⟩ := exists_timed hT hw hp hstart hcues
  obtain ⟨r, v, hrun, hr, hturn⟩ := (proceeds hT).follow hq hsound hcue
  have hnext := hsound.turn hturn hcue
  rw [← rehearsed_concat hrun] at hr
  obtain rfl := hq.state_eq Player.matching.inj hs
  obtain rfl := hr.state_eq Player.matching.inj ht
  exact ⟨q.2, r.2, hq, htimed, hr, htimed.turn hnext hturn, hturn⟩

end

/-! ### The conduct of a matching game -/

/-- Both columns show the pairs in an order of their own. -/
lemma exists_create (z : Matching) (started : Float) (dice : Dice) : ∃ left right,
    left.Perm (z.pairs.map (·.id)).dedup ∧ right.Perm (z.pairs.map (·.id)).dedup ∧
      (StateT.run (create z started) dice).1 =
        ⟨⟨false, started⟩, Catalogue.ofList MatchPair.id z.pairs, z.timeLimit, left, right, none,
          none, [], none, false⟩ := by
  have hids : (Catalogue.ofList MatchPair.id z.pairs).ids.Perm (z.pairs.map (·.id)).dedup :=
    (List.perm_ext_iff_of_nodup Catalogue.nodup_ids_ofList (List.nodup_dedup _)).2 fun id => by
      rw [Catalogue.mem_ids_ofList, List.mem_dedup]
  exact ⟨_, _, (Dice.perm_shuffle _ dice).trans hids, (Dice.perm_shuffle _ _).trans hids, rfl⟩

/-- A matching game begins with the countdown, if there is a limit, or ends at once if there is no
pair. -/
lemma yields_enter {Q : Unit → Stage MatchingSitting → Prop} (hopen : p.1.completed = false)
    (hrunning : p.2.running = none)
    (hnone : p.1.pairs = [] → Q () ({ p.1 with completed := true },
      { p.2 with reports := .complete :: p.2.reports }))
    (hsome : p.1.pairs ≠ [] → Q () (p.1, { p.2 with
      running := if 0 < p.1.timeLimit.getD 0 then some (.matching, p.1.timeLimit.getD 0)
        else none })) :
    (enter c).Yields c Q p := by
  refine yields_state_bind ?_
  dsimp only
  split_ifs with hempty hlimit
  · exact yields_note_bind (yields_complete hopen (hnone (List.isEmpty_iff.1 hempty)))
  · have hne := hsome fun h => hempty (List.isEmpty_iff.2 h)
    rw [if_pos hlimit] at hne
    exact yields_arm hrunning hne
  · have hne := hsome fun h => hempty (List.isEmpty_iff.2 h)
    rw [if_neg hlimit, ← hrunning] at hne
    exact yields_pure hne

/-- A matching game can be begun, with no pair found yet. -/
lemma exists_begun_create (hkind : c.kind = .matching) (z : Matching) (hT : Steady T) (dice : Dice)
    (plain : Bool) (hints : Int) (circumstances : Rules.Circumstances) :
    ∃ w, Rehearsal.create c (.matching z) dice plain hints circumstances = .ok w ∧
      (Rehearsal.enter.runIn w).1 = .ok () ∧
      ∃ p, (w.rehearsed []).Stands .matching c p ∧ Sound c z T p ∧ Timed z [] p := by
  obtain ⟨left, right, hleft, hright, hcreate⟩ := exists_create z 0 dice
  obtain ⟨later, hsit⟩ : ∃ later, (Player.sitDown c (.matching z) 0).runIn dice =
      (.ok (.matching ⟨⟨false, 0⟩, Catalogue.ofList MatchPair.id z.pairs, z.timeLimit, left, right,
        none, none, [], none, false⟩), later) := by
    unfold Player.sitDown
    rw [hkind, ← hcreate]
    exact ⟨_, rfl⟩
  let s : MatchingSitting :=
    ⟨⟨false, 0⟩, Catalogue.ofList MatchPair.id z.pairs, z.timeLimit, left, right, none, none, [],
      none, false⟩
  have hnothing : ∀ {column id}, s.selectedIn column = some id →
      id ∈ z.pairs.map (·.id) ∧ id ∉ s.matched := fun {column _} h => by
    rw [selectedIn_eq_none rfl rfl] at h
    cases h
  have hlaid : IsLaidOut z s :=
    ⟨hleft, hright, .inl rfl, hnothing, List.nodup_nil, List.nil_subset _⟩
  have hreported : IsReported c z s [] :=
    ⟨fun r hr => absurd hr List.not_mem_nil, rfl, (Int.mul_zero _).symm, rfl⟩
  have hsound : Sound c z T (s, ⟨0, [], none, later.throws⟩) :=
    { hlaid, hreported with clock := hT.zero, started := hT.zero, pairs := rfl, running := nofun }
  have hmatched : IsMatched z s ↔ s.pairs = [] :=
    hsound.length_le_iff.symm.trans (Nat.le_zero.trans List.length_eq_zero_iff)
  refine exists_begun (y := enter c) (Q := fun p => Sound c z T p ∧ Timed z [] p) hsit rfl
    (yields_enter rfl rfl (fun hnone => ?_) fun hsome => ?_) plain hints circumstances
  · have hall : IsMatched z { s with completed := true } := hmatched.2 hnone
    exact ⟨hsound.finish rfl false,
      .of_end rfl rfl (.inl hall) (iff_of_false Bool.false_ne_true (not_not_intro hall))⟩
  · have hmore : ¬IsMatched z s := fun hall => hsome (hmatched.1 hall)
    refine ⟨{ hsound with running := fun {a left} hrunning => ?_ }, ?_, ?_, ?_⟩
    · dsimp only at hrunning
      split_ifs at hrunning
      cases hrunning
      exact ⟨rfl, rfl⟩
    · exact if_congr (and_iff_right rfl).symm (by rw [limit]; simp [seconds]) rfl
    · refine iff_of_false Bool.false_ne_true (not_or_intro hmore fun hlate => ?_)
      exact absurd (Int.lt_of_lt_of_le hlate.1 hlate.2) (Int.lt_irrefl 0)
    · exact iff_of_false Bool.false_ne_true fun h => Bool.false_ne_true h.1

/-- What can be seen of a matching game in which some cues have been followed. -/
structure Standing (c : Setting) (z : Matching) (w : Rehearsal) (cues : List Cue)
    (s : MatchingSitting) : Prop extends IsLaidOut z s, IsReported c z s w.reports where
  player : w.player = .matching s
  pairs : s.pairs = Catalogue.ofList MatchPair.id z.pairs
  completed_iff : s.completed = true ↔ IsMatched z s ∨ IsLate z (seconds cues)
  timedOut_iff : s.timedOut = true ↔ s.completed = true ∧ ¬IsMatched z s

/-- How a matching game is conducted while cues of some sort are followed. -/
structure Conduct (c : Setting) (z : Matching) (T : Float → Prop) (w : Rehearsal) : Prop where
  begins : (Rehearsal.enter.runIn w).1 = .ok ()
  follows : ∀ {cues cue}, (∀ cue ∈ cues, cue.Within T) → cue.Within T →
    ((follow cue).runIn (w.rehearsed cues)).1 = .ok ()
  standing : ∀ {cues}, (∀ cue ∈ cues, cue.Within T) →
    ∃ s, Standing c z (w.rehearsed cues) cues s
  /-- An entry that cannot be selected is not. -/
  refuses : ∀ {cues s t column id}, (∀ cue ∈ cues, cue.Within T) →
    (w.rehearsed cues).player = .matching s →
    (w.rehearsed (cues ++ [.move (.select column id)])).player = .matching t → ¬s.Selects id →
    t = s ∧ (w.rehearsed (cues ++ [.move (.select column id)])).reports =
      (w.rehearsed cues).reports
  /-- An entry that can be selected is, if there is no selection in the other column. -/
  selects : ∀ {cues s t column id}, (∀ cue ∈ cues, cue.Within T) →
    (w.rehearsed cues).player = .matching s →
    (w.rehearsed (cues ++ [.move (.select column id)])).player = .matching t → s.Selects id →
    s.selectedIn column.other = none →
    t = s.selecting id column ∧
      (w.rehearsed (cues ++ [.move (.select column id)])).reports = (w.rehearsed cues).reports
  /-- Otherwise there is an attempt, which ends both selections. -/
  attempts : ∀ {cues s t column id partner}, (∀ cue ∈ cues, cue.Within T) →
    (w.rehearsed cues).player = .matching s →
    (w.rehearsed (cues ++ [.move (.select column id)])).player = .matching t → s.Selects id →
    s.selectedIn column.other = some partner →
    t.selectedLeft = none ∧ t.selectedRight = none ∧
      t.matched = s.matched ++ (if id = partner then [id] else []) ∧
      ∃ time, answers (w.rehearsed (cues ++ [.move (.select column id)])).reports =
        answers (w.rehearsed cues).reports ++ [attemptReport c (column.attempt id partner) time]
  /-- The section is finished by the last second of the countdown or by the last pair. -/
  completes : ∀ {cues cue s t}, (∀ cue ∈ cues, cue.Within T) → cue.Within T →
    (w.rehearsed cues).player = .matching s →
    (w.rehearsed (cues ++ [cue])).player = .matching t →
    (t.completed = true ↔ s.completed = true ∨
      (cue = .second ∧ 0 < limit z ∧ limit z = seconds cues + 1) ∨
      ∃ column id, cue = .move (.select column id) ∧ t.matched = s.matched ++ [id] ∧
        IsMatched z t)
  /-- After the end nothing changes, and nothing is reported. -/
  rests : ∀ {before since s t}, (∀ cue ∈ before ++ since, cue.Within T) →
    (w.rehearsed before).player = .matching s →
    (w.rehearsed (before ++ since)).player = .matching t → s.completed = true →
    t = s ∧ (w.rehearsed (before ++ since)).reports = (w.rehearsed before).reports

/-- What holds of a sound stage can be seen. -/
lemma Sound.standing {w : Rehearsal} (hp : Sound c z T p) (htimed : Timed z cues p)
    (hw : w.Stands .matching c p) : Standing c z w cues p.1 := {
  hp, htimed with
  player := hw.player
  attempts := hw.reports ▸ hp.attempts
  found := hw.reports ▸ hp.found
  points := hw.reports ▸ hp.points
  ended := hw.reports ▸ hp.ended }

/-- Whatever the player selects and however the time goes by, a matching game is conducted as it
should be: what has been selected in both columns is an attempt, and no pair is found twice, until
all pairs have been found or the time has run out. -/
theorem conduct_of_pairs (hkind : c.kind = .matching) (z : Matching) (hT : Steady T) (dice : Dice)
    (plain : Bool) (hints : Int) (circumstances : Rules.Circumstances) :
    ∃ w, Rehearsal.create c (.matching z) dice plain hints circumstances = .ok w ∧
      Conduct c z T w := by
  obtain ⟨w, hw, hbegins, p, hbegun, hp, hstart⟩ :=
    exists_begun_create hkind z hT dice plain hints circumstances
  refine ⟨w, hw, ?_⟩
  exact {
    begins := hbegins
    follows := fun hcues hcue => by
      obtain ⟨q, r, -, -, hok, -⟩ := (proceeds hT).onward hbegun hp hcues hcue
      exact hok
    standing := fun hcues => by
      obtain ⟨q, hq, hsound, htimed⟩ := exists_timed hT hbegun hp hstart hcues
      exact ⟨q.1, hsound.standing htimed hq⟩
    refuses := fun hcues hs ht hrefused => by
      obtain ⟨x, y, hx, -, hy, -, hturn⟩ :=
        exists_timed_turn hT hbegun hp hstart hcues (by trivial) hs ht
      rw [hx.reports, hy.reports]
      exact hturn.of_refused rfl hrefused
    selects := fun hcues hs ht hselects hpartner => by
      obtain ⟨x, y, hx, -, hy, -, hturn⟩ :=
        exists_timed_turn hT hbegun hp hstart hcues (by trivial) hs ht
      rw [hx.reports, hy.reports]
      exact hturn.of_alone rfl hselects hpartner
    attempts := fun hcues hs ht hselects hpartner => by
      obtain ⟨x, y, hx, -, hy, -, hturn⟩ :=
        exists_timed_turn hT hbegun hp hstart hcues (by trivial) hs ht
      rw [hx.reports, hy.reports]
      exact hturn.of_partner rfl hselects hpartner
    completes := fun hcues hcue hs ht => by
      obtain ⟨x, y, -, htimed, -, hnext, hturn⟩ :=
        exists_timed_turn hT hbegun hp hstart hcues hcue hs ht
      exact hturn.completed_iff htimed hnext
    rests := fun hcues hs ht hdone => by
      obtain ⟨x, y, hx, hy, hpasses⟩ :=
        (proceeds hT).exists_passes hbegun hp Player.matching.inj hcues hs ht
      rw [hx.reports, hy.reports]
      exact passes_of_completed hpasses hdone }

/-- The setting of a matching game. -/
def vocabulary : Setting :=
  ⟨"m1", .matching,
    ⟨"matching", [], 0, 0, true, true, true, 3, 0, false, "immediate", true⟩, 10, 5⟩

/-- Two words to be found in three seconds, one of them declared twice. -/
def words : Matching :=
  ⟨[⟨"cat", ⟨"Katze", none⟩, ⟨"cat", none⟩⟩, ⟨"dog", ⟨"Hund", none⟩, ⟨"dog", none⟩⟩,
    ⟨"cat", ⟨"Kater", none⟩, ⟨"tomcat", none⟩⟩], "lines", some 3⟩

/-- A mistake, a pair that is found and cannot be selected again, and the last pair in time. -/
theorem conduct_of_words :
    ∃ w, Rehearsal.create vocabulary (.matching words) ⟨fun _ => 0, 0⟩ true 3 nothing = .ok w ∧
      Conduct vocabulary words (fun t => t = 0 ∨ t = 1) w ∧
      foundIn (w.rehearsed [.move (.select .left "cat"), .move (.select .right "dog"), .second,
        .move (.select .right "cat"), .move (.select .left "cat"), .move (.select .left "cat"),
        .move (.select .left "dog")]).reports = ["cat"] ∧
      ends (w.rehearsed [.move (.select .left "cat"), .move (.select .right "dog"), .second,
        .move (.select .right "cat"), .move (.select .left "cat"), .move (.select .left "cat"),
        .move (.select .left "dog"), .second, .second]).reports = 1 := by
  obtain ⟨w, hw, hconduct⟩ := conduct_of_pairs (c := vocabulary) rfl words steady_zero_or_one
    ⟨fun _ => 0, 0⟩ true 3 nothing
  refine ⟨w, hw, hconduct, ?_⟩
  cases hw
  decide +kernel

end MatchingSitting

end LearningGame.Play
