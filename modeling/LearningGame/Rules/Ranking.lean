import LearningGame.Rules.Ranking.Merging

/-!
# Ranking

Things are ranked from the highest to the lowest, and of equal things the first stays first. The
things are taken from last to first and split into runs: what is in order to begin with, or in the
opposite order, makes up a run, and a short run gets further things, each at a place that is found by
halving. Neighbouring runs are then merged, in an order that keeps the merges balanced.

Where every two things are either comparable or equal this is the stable order. Where some are
neither, as a threshold that is not a number, the outcome depends on which things are compared; so
the comparisons are part of the definition.
-/

namespace LearningGame.Rules.Ranking

-- Powers are the core ones of natural numbers, whatever else is imported.
attribute [local instance (2000)] instPowNat

variable {α : Type}

/-! ### Runs -/

/-- Put a thing at its place in a list. -/
def insert (below : α → α → Bool) (xs : List α) (x : α) : List α :=
  let n := halve .later (fun i => xs[i]?.any fun y => !below x y) 0 xs.length
  xs.take n ++ x :: xs.drop n

/-- Inserting adds the thing and nothing else. -/
theorem insert_perm (below : α → α → Bool) (xs : List α) (x : α) :
    (insert below xs x).Perm (x :: xs) := by
  unfold insert
  refine List.perm_middle.trans ?_
  rw [List.take_append_drop]

/-- Inserting things one after the other adds them and nothing else. -/
theorem foldl_insert_perm (below : α → α → Bool) (xs ys : List α) :
    (ys.foldl (insert below) xs).Perm (xs ++ ys) := by
  induction ys generalizing xs with
  | nil => simp
  | cons y rest ih =>
    exact (ih _).trans (((insert_perm below xs y).append_right rest).trans
      List.perm_middle.symm)

/-- The things after one that follow on without any below the one in front of it, and the rest. -/
def rising (below : α → α → Bool) (last : α) : List α → List α × List α
  | [] => ([], [])
  | x :: rest =>
    if below x last then ([], x :: rest)
    else
      let (run, others) := rising below x rest
      (x :: run, others)

/-- The things after one that follow on with each below the one in front of it, and the rest. -/
def falling (below : α → α → Bool) (last : α) : List α → List α × List α
  | [] => ([], [])
  | x :: rest =>
    if below x last then
      let (run, others) := falling below x rest
      (x :: run, others)
    else ([], x :: rest)

/-- The two parts make up the list. -/
theorem rising_append (below : α → α → Bool) (last : α) (xs : List α) :
    (rising below last xs).1 ++ (rising below last xs).2 = xs := by
  fun_induction rising below last xs <;> simp_all

/-- The two parts make up the list. -/
theorem falling_append (below : α → α → Bool) (last : α) (xs : List α) :
    (falling below last xs).1 ++ (falling below last xs).2 = xs := by
  fun_induction falling below last xs <;> simp_all

/-- The things at the start that are in order, or in the opposite order and turned round, and the
rest. -/
def opening (below : α → α → Bool) : List α → List α × List α
  | x :: y :: rest =>
    if below y x then
      let (run, others) := falling below y rest
      ((x :: y :: run).reverse, others)
    else
      let (run, others) := rising below y rest
      (x :: y :: run, others)
  | xs => (xs, [])

/-- The two parts hold the things of the list. -/
theorem opening_perm (below : α → α → Bool) (xs : List α) :
    ((opening below xs).1 ++ (opening below xs).2).Perm xs := by
  fun_cases opening below xs with
  | case1 x y rest h run others hrun =>
    have := falling_append below y rest
    rw [hrun] at this
    rw [← this]
    exact (List.reverse_perm _).append_right _
  | case2 x y rest h run others hrun =>
    have := rising_append below y rest
    rw [hrun] at this
    rw [← this]
    exact .refl _
  | case3 xs h => simp

/-- The first run of a list, of at least so many things if there are as many, and the rest. -/
def firstRun (below : α → α → Bool) (least : Nat) (xs : List α) : List α × List α :=
  let (run, others) := opening below xs
  let missing := least - run.length
  ((others.take missing).foldl (insert below) run, others.drop missing)

/-- A run and the rest hold the things of the list. -/
theorem firstRun_perm (below : α → α → Bool) (least : Nat) (xs : List α) :
    ((firstRun below least xs).1 ++ (firstRun below least xs).2).Perm xs := by
  unfold firstRun
  refine ((foldl_insert_perm below _ _).append_right _).trans ?_
  rw [List.append_assoc, List.take_append_drop]
  exact opening_perm below xs

/-- How many things a run of a list of some size has at least, if there are as many: all of a list of
fewer than 64 things, else the share that a power of two of runs has, between 32 and 64. -/
def leastRun (size : Nat) : Nat :=
  let runs := 2 ^ (size.log2 - 5)
  (size + runs - 1) / runs

/-! ### Piles -/

/-- A run of a list. -/
structure Run (α : Type) where
  /-- Where it begins in the list. -/
  start : Nat
  things : List α
  /-- At which halving of the list the run and the next one fall apart. -/
  parting : Nat

/-- The things of a pile of runs. -/
def thingsOf (runs : List (Run α)) : List α := runs.flatMap (·.things)

/-- At which halving of a list of some size the midpoints of two neighbouring runs fall apart, given
the start of the first run and the sizes of both. -/
def partingOf (size start first second : Nat) : Nat :=
  ((List.range size).find? fun k =>
    (2 * start + first) * 2 ^ k / size != (2 * start + 2 * first + second) * 2 ^ k / size).getD size

/-- Merge the runs on top of a pile, the latest first, that fall apart later than a given halving. -/
def collapse (below : α → α → Bool) (parting limit : Nat) : List (Run α) → Nat × List (Run α)
  | [] => (limit, [])
  | [a] => (limit, [a])
  | b :: a :: rest =>
    if parting < a.parting then
      let (limit, zs) := merge below limit a.things b.things
      collapse below parting limit ({ a with things := zs } :: rest)
    else (limit, b :: a :: rest)
termination_by runs => runs.length

/-- Merging runs on top of a pile keeps its things. -/
theorem collapse_perm (below : α → α → Bool) (parting limit : Nat) (runs : List (Run α)) :
    (thingsOf (collapse below parting limit runs).2).Perm (thingsOf runs) := by
  fun_induction collapse below parting limit runs with
  | case1 => exact .refl _
  | case2 => exact .refl _
  | case3 limit b a rest _ limit' zs hzs ih =>
    have := merge_perm below limit a.things b.things
    rw [hzs] at this
    refine ih.trans ?_
    simp only [thingsOf, List.flatMap_cons, ← List.append_assoc]
    exact (this.trans List.perm_append_comm).append_right _
  | case4 => exact .refl _

/-- Put a run on a pile for a list of some size. -/
def pileUp (below : α → α → Bool) (size limit : Nat) (runs : List (Run α)) (xs : List α) :
    Nat × List (Run α) :=
  match runs with
  | [] => (limit, [⟨0, xs, 0⟩])
  | top :: _ =>
    let parting := partingOf size top.start top.things.length xs.length
    match collapse below parting limit runs with
    | (limit, []) => (limit, [⟨0, xs, 0⟩])
    | (limit, top :: rest) =>
      (limit, ⟨top.start + top.things.length, xs, 0⟩ :: { top with parting } :: rest)

/-- A pile gets the things of the run that is put on it. -/
theorem pileUp_perm (below : α → α → Bool) (size limit : Nat) (runs : List (Run α)) (xs : List α) :
    (thingsOf (pileUp below size limit runs xs).2).Perm (xs ++ thingsOf runs) := by
  cases runs with
  | nil => simp [pileUp, thingsOf]
  | cons top rest =>
    have h := collapse_perm below (partingOf size top.start top.things.length xs.length) limit
      (top :: rest)
    simp only [pileUp]
    split
    · next hc =>
      rw [hc] at h
      rw [List.nil_perm.1 h]
      simp [thingsOf]
    · next hc =>
      rw [hc] at h
      simpa [thingsOf] using h.append_left xs

/-- Split a list of some size into runs and pile them up; at most so many runs are split off. -/
def pile (below : α → α → Bool) (size : Nat) :
    Nat → Nat → List (Run α) → List α → Nat × List (Run α)
  | 0, limit, runs, xs => pileUp below size limit runs xs
  | count + 1, limit, runs, xs =>
    if xs.isEmpty then (limit, runs)
    else
      let (run, others) := firstRun below (leastRun size) xs
      let (limit, runs) := pileUp below size limit runs run
      pile below size count limit runs others

/-- A pile holds the things of the list. -/
theorem pile_perm (below : α → α → Bool) (size count limit : Nat) (runs : List (Run α))
    (xs : List α) :
    (thingsOf (pile below size count limit runs xs).2).Perm (thingsOf runs ++ xs) := by
  induction count generalizing limit runs xs with
  | zero => exact (pileUp_perm below size limit runs xs).trans List.perm_append_comm
  | succ count ih =>
    simp only [pile]
    split
    · next h => simp [List.isEmpty_iff.1 h]
    · refine (ih _ _ _).trans (((pileUp_perm below size _ _ _).append_right _).trans ?_)
      rw [List.append_assoc]
      refine List.perm_append_comm.trans ?_
      rw [List.append_assoc]
      refine List.Perm.append_left _ (List.perm_append_comm.trans ?_)
      exact firstRun_perm below (leastRun size) xs

/-- Merge all runs of a pile, the latest first. Of three runs on top the middle one is merged with the
smaller one of its neighbours. -/
def mergePile (below : α → α → Bool) (limit : Nat) : List (Run α) → List α
  | [] => []
  | [a] => a.things
  | [b, a] => (merge below limit a.things b.things).2
  | c :: b :: a :: rest =>
    if a.things.length < c.things.length then
      let (limit, zs) := merge below limit a.things b.things
      mergePile below limit (c :: { a with things := zs } :: rest)
    else
      let (limit, zs) := merge below limit b.things c.things
      mergePile below limit ({ b with things := zs } :: a :: rest)
termination_by runs => runs.length

/-- Merging all runs of a pile keeps its things. -/
theorem mergePile_perm (below : α → α → Bool) (limit : Nat) (runs : List (Run α)) :
    (mergePile below limit runs).Perm (thingsOf runs) := by
  fun_induction mergePile below limit runs with
  | case1 => exact .refl _
  | case2 a => simp [thingsOf]
  | case3 limit b a =>
    simpa [thingsOf] using (merge_perm below limit a.things b.things).trans List.perm_append_comm
  | case4 limit c b a rest _ limit' zs hzs ih =>
    have := merge_perm below limit a.things b.things
    rw [hzs] at this
    refine ih.trans ?_
    simp only [thingsOf, List.flatMap_cons]
    refine List.Perm.append_left _ ?_
    rw [← List.append_assoc]
    exact (this.trans List.perm_append_comm).append_right _
  | case5 limit c b a rest _ limit' zs hzs ih =>
    have := merge_perm below limit b.things c.things
    rw [hzs] at this
    refine ih.trans ?_
    simp only [thingsOf, List.flatMap_cons, ← List.append_assoc]
    exact ((this.trans List.perm_append_comm).append_right _).append_right _

/-! ### The order -/

/-- Put things into rising order. -/
def sort (below : α → α → Bool) (xs : List α) : List α :=
  let (limit, runs) := pile below xs.length xs.length Merging.worthwhile [] xs
  mergePile below limit runs

/-- Sorting neither adds nor drops anything. -/
theorem sort_perm (below : α → α → Bool) (xs : List α) : (sort below xs).Perm xs :=
  (mergePile_perm below _ _).trans (pile_perm below _ _ _ _ _)

/-- Rank things from the highest to the lowest. -/
def rank (below : α → α → Bool) (xs : List α) : List α := (sort below xs.reverse).reverse

/-- Ranking neither adds nor drops anything. -/
theorem rank_perm (below : α → α → Bool) (xs : List α) : (rank below xs).Perm xs :=
  (List.reverse_perm _).trans ((sort_perm below xs.reverse).trans (List.reverse_perm xs))

end LearningGame.Rules.Ranking
