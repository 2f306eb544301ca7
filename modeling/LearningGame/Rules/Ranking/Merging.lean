/-!
# Merging two queues

A test that holds for some places at the start of a list, and for none after them, is searched for
where it stops holding: by halving, or from the start in steps that double. If the test is of another
kind a place is found all the same, and which one depends on the places that are looked at.

Two queues go out as one. Of the heads the one that belongs in front goes first. When one queue has
gone out several times in a row, things go out by leaps instead: as many as belong in front of the
other head go at once. The shorter queue is known to hold the very last thing, so the merge is over
when it has come down to that or the longer queue is empty.

Whatever the comparisons say, nothing is lost and nothing is added.
-/

namespace LearningGame.Rules.Ranking

/-! ### Searching for a place -/

/-- Whether the earlier or the later one of two middle places is looked at. -/
inductive Middle where
  | earlier
  | later

/-- The middle of two bounds. -/
def Middle.of (middle : Middle) (low high : Nat) : Nat :=
  match middle with
  | .earlier => low + (high - low - 1) / 2
  | .later => low + (high - low) / 2

/-- The middle is below the upper bound. -/
theorem Middle.of_lt (middle : Middle) {low high : Nat} (h : low < high) :
    middle.of low high < high := by
  cases middle <;> simp only [Middle.of] <;> omega

/-- The middle is not below the lower bound. -/
theorem Middle.le_of (middle : Middle) (low high : Nat) : low ≤ middle.of low high := by
  cases middle <;> simp only [Middle.of] <;> omega

/-- The place between two bounds at which a test stops holding, found by halving. -/
def halve (middle : Middle) (test : Nat → Bool) (low high : Nat) : Nat :=
  if h : low < high then
    if test (middle.of low high) then halve middle test (middle.of low high + 1) high
    else halve middle test low (middle.of low high)
  else low
termination_by high - low
decreasing_by
  · have := middle.le_of low high
    omega
  · have := middle.of_lt h
    omega

/-- Go on in doubling steps while a test holds: the last place at which it does, and a bound for the
place at which it stops. -/
def double (test : Nat → Bool) (size last next : Nat) : Nat × Nat :=
  if next < size then
    if test next then double test size next (2 * next + 1) else (last, next)
  else (last, size)
termination_by size - next

/-- For how many places at the start of a list of some size a test holds, searched for from the
start. -/
def reach (middle : Middle) (test : Nat → Bool) (size : Nat) : Nat :=
  if size = 0 then 0
  else if test 0 then
    let (last, bound) := double test size 0 1
    halve middle test (last + 1) bound
  else 0

/-! ### Two queues -/

variable {α : Type}

/-- Two queues that are being merged. -/
structure Merging (α : Type) where
  /-- What has gone out, the latest first. -/
  out : List α
  short : List α
  long : List α

namespace Merging

/-- Whether the merge is over. -/
def isDone (m : Merging α) : Bool := m.long.isEmpty || m.short.length ≤ 1

/-- What goes out in the end. -/
def result (m : Merging α) : List α := m.out.reverse ++ (m.long ++ m.short)

/-- So many things of the shorter queue go out. -/
def takeShort (n : Nat) (m : Merging α) : Merging α :=
  { m with out := (m.short.take n).reverse ++ m.out, short := m.short.drop n }

/-- So many things of the longer queue go out. -/
def takeLong (n : Nat) (m : Merging α) : Merging α :=
  { m with out := (m.long.take n).reverse ++ m.out, long := m.long.drop n }

/-- The things of a merge stay the same when some of the shorter queue go out. -/
theorem takeShort_perm (n : Nat) (m : Merging α) : (m.takeShort n).result.Perm m.result := by
  simp only [result, takeShort, List.reverse_append, List.reverse_reverse, List.append_assoc]
  refine List.Perm.append_left _ ?_
  refine List.perm_append_comm.trans ?_
  rw [List.append_assoc]
  refine List.Perm.append_left _ ?_
  refine List.perm_append_comm.trans ?_
  rw [List.take_append_drop]

/-- The things of a merge stay the same when some of the longer queue go out. -/
theorem takeLong_perm (n : Nat) (m : Merging α) : (m.takeLong n).result.Perm m.result := by
  simp only [result, takeLong, List.reverse_append, List.reverse_reverse, List.append_assoc]
  rw [← List.append_assoc (m.long.take n), List.take_append_drop]

/-! ### One at a time -/

/-- Whether the head of the longer queue goes first. -/
def longFirst (before : α → α → Bool) (m : Merging α) : Bool :=
  match m.long, m.short with
  | l :: _, s :: _ => before l s
  | _, _ => false

/-- Things go out one at a time until one of the queues has gone out so many times in a row; `longs`
and `shorts` tell how many times it has been so far. At most `moves` things go out. -/
def pace (before : α → α → Bool) (limit : Nat) : Nat → Nat → Nat → Merging α → Merging α
  | 0, _, _, m => m
  | moves + 1, longs, shorts, m =>
    if m.isDone || limit ≤ longs || limit ≤ shorts then m
    else if m.longFirst before then pace before limit moves (longs + 1) 0 (m.takeLong 1)
    else pace before limit moves 0 (shorts + 1) (m.takeShort 1)

/-- Pacing keeps the things of a merge. -/
theorem pace_perm (before : α → α → Bool) (limit moves longs shorts : Nat) (m : Merging α) :
    (m.pace before limit moves longs shorts).result.Perm m.result := by
  fun_induction pace before limit moves longs shorts m with
  | case1 => exact .refl _
  | case2 => exact .refl _
  | case3 _ _ _ m _ _ ih => exact ih.trans (m.takeLong_perm 1)
  | case4 _ _ _ m _ _ ih => exact ih.trans (m.takeShort_perm 1)

/-! ### By leaps -/

/-- From which end two lists are merged. -/
inductive End where
  | first
  | last
  deriving DecidableEq

/-- The middle that is looked at when leaping. -/
def End.middle : End → Middle
  | .first => .later
  | .last => .earlier

/-- All things of the shorter queue that do not belong behind the head of the longer one go out, and
then that head; tells how many there were. -/
def leapShort (middle : Middle) (before : α → α → Bool) (m : Merging α) : Nat × Merging α :=
  match m.long with
  | [] => (0, m)
  | l :: _ =>
    let n := reach middle (fun i => m.short[i]?.any fun s => !before l s) m.short.length
    let m := m.takeShort n
    (n, if m.isDone then m else m.takeLong 1)

/-- All things of the longer queue that belong before the head of the shorter one go out, and then
that head; tells how many there were. -/
def leapLong (middle : Middle) (before : α → α → Bool) (m : Merging α) : Nat × Merging α :=
  match m.short with
  | [] => (0, m)
  | s :: _ =>
    let n := reach middle (fun i => m.long[i]?.any fun l => before l s) m.long.length
    let m := m.takeLong n
    (n, if m.isDone then m else m.takeShort 1)

/-- A leap of the shorter queue keeps the things of a merge. -/
theorem leapShort_perm (middle : Middle) (before : α → α → Bool) (m : Merging α) :
    (m.leapShort middle before).2.result.Perm m.result := by
  unfold leapShort
  split
  · exact .refl _
  · simp only []
    split
    · exact m.takeShort_perm _
    · exact (takeLong_perm 1 _).trans (m.takeShort_perm _)

/-- A leap of the longer queue keeps the things of a merge. -/
theorem leapLong_perm (middle : Middle) (before : α → α → Bool) (m : Merging α) :
    (m.leapLong middle before).2.result.Perm m.result := by
  unfold leapLong
  split
  · exact .refl _
  · simp only []
    split
    · exact m.takeLong_perm _
    · exact (takeShort_perm 1 _).trans (m.takeLong_perm _)

/-- One queue leaps and then the other; at the first end the shorter one begins. -/
def leapBoth (side : End) (before : α → α → Bool) (m : Merging α) : Nat × Nat × Merging α :=
  match side with
  | .first =>
    let (n, m) := m.leapShort side.middle before
    if m.isDone then (n, 0, m) else (n, m.leapLong side.middle before)
  | .last =>
    let (n, m) := m.leapLong side.middle before
    if m.isDone then (n, 0, m) else (n, m.leapShort side.middle before)

/-- Leaps of both queues keep the things of a merge. -/
theorem leapBoth_perm (side : End) (before : α → α → Bool) (m : Merging α) :
    (m.leapBoth side before).2.2.result.Perm m.result := by
  cases side <;> simp only [leapBoth] <;> split
  · exact m.leapShort_perm _ _
  · exact (leapLong_perm _ _ _).trans (m.leapShort_perm _ _)
  · exact m.leapLong_perm _ _
  · exact (leapShort_perm _ _ _).trans (m.leapLong_perm _ _)

/-- A leap of fewer things than this is not worth it. -/
def worthwhile : Nat := 7

/-- Leap as long as it is worth it. The more it is, the sooner leaping begins the next time: the limit
that is given back is that for pacing. -/
def leap (side : End) (before : α → α → Bool) : Nat → Nat → Merging α → Nat × Merging α
  | 0, limit, m => (limit, m)
  | moves + 1, limit, m =>
    let (n, k, m) := m.leapBoth side before
    if m.isDone then (limit, m)
    else if worthwhile ≤ n || worthwhile ≤ k then leap side before moves (max 1 (limit - 1)) m
    else (limit + 1, m)

/-- Leaping keeps the things of a merge. -/
theorem leap_perm (side : End) (before : α → α → Bool) (moves limit : Nat) (m : Merging α) :
    (m.leap side before moves limit).2.result.Perm m.result := by
  induction moves generalizing limit m with
  | zero => exact .refl _
  | succ moves ih =>
    simp only [leap]
    split
    · exact m.leapBoth_perm side before
    · split
      · exact (ih _ _).trans (m.leapBoth_perm side before)
      · exact m.leapBoth_perm side before

/-! ### The whole merge -/

/-- How many things have not gone out yet. -/
def size (m : Merging α) : Nat := m.short.length + m.long.length

/-- Pace and leap by turns, at most `turns` times; gives the limit for the next merge and what has
gone out. -/
def run (side : End) (before : α → α → Bool) : Nat → Nat → Merging α → Nat × List α
  | 0, limit, m => (limit, m.result)
  | turns + 1, limit, m =>
    let m := m.pace before limit m.size 0 0
    if m.isDone then (limit, m.result)
    else
      let (limit, m) := m.leap side before m.size limit
      if m.isDone then (limit, m.result) else run side before turns limit m

/-- What goes out is what has been in the queues. -/
theorem run_perm (side : End) (before : α → α → Bool) (turns limit : Nat) (m : Merging α) :
    (m.run side before turns limit).2.Perm m.result := by
  induction turns generalizing limit m with
  | zero => exact .refl _
  | succ turns ih =>
    have hpace := m.pace_perm before limit m.size 0 0
    simp only [run]
    split
    · exact hpace
    · split
      · exact (leap_perm _ _ _ _ _).trans hpace
      · exact (ih _ _).trans ((leap_perm _ _ _ _ _).trans hpace)

end Merging

/-! ### Rising lists -/

/-- Merge two rising lists from the first end. The head of the second one goes out first of all. -/
def mergeFirst (below : α → α → Bool) (limit : Nat) (xs ys : List α) : Nat × List α :=
  let m := Merging.takeLong 1 ⟨[], xs, ys⟩
  m.run .first below m.size limit

/-- Merge two rising lists from the last end. The last thing of the first one goes out first of
all. -/
def mergeLast (below : α → α → Bool) (limit : Nat) (xs ys : List α) : Nat × List α :=
  let m := Merging.takeLong 1 ⟨[], ys.reverse, xs.reverse⟩
  let (limit, zs) := m.run .last (fun x y => below y x) m.size limit
  (limit, zs.reverse)

/-- Merging from the first end keeps the things of both lists. -/
theorem mergeFirst_perm (below : α → α → Bool) (limit : Nat) (xs ys : List α) :
    (mergeFirst below limit xs ys).2.Perm (xs ++ ys) := by
  refine (Merging.run_perm _ _ _ _ _).trans ((Merging.takeLong_perm _ _).trans ?_)
  simpa [Merging.result] using List.perm_append_comm

/-- Merging from the last end keeps the things of both lists. -/
theorem mergeLast_perm (below : α → α → Bool) (limit : Nat) (xs ys : List α) :
    (mergeLast below limit xs ys).2.Perm (xs ++ ys) := by
  refine (List.reverse_perm _).trans ?_
  refine (Merging.run_perm _ _ _ _ _).trans ((Merging.takeLong_perm _ _).trans ?_)
  simpa [Merging.result] using (List.reverse_perm xs).append (List.reverse_perm ys)

/-- Merge two rising lists from the end at which the shorter one is set aside. -/
def mergeAll (below : α → α → Bool) (limit : Nat) (xs ys : List α) : Nat × List α :=
  if xs.length ≤ ys.length then mergeFirst below limit xs ys else mergeLast below limit xs ys

/-- Merging from either end keeps the things of both lists. -/
theorem mergeAll_perm (below : α → α → Bool) (limit : Nat) (xs ys : List α) :
    (mergeAll below limit xs ys).2.Perm (xs ++ ys) := by
  unfold mergeAll
  split
  · exact mergeFirst_perm below limit xs ys
  · exact mergeLast_perm below limit xs ys

/-- How many things of a rising list do not belong behind another one. -/
def settledBefore (below : α → α → Bool) (xs : List α) (y : α) : Nat :=
  reach .later (fun i => xs[i]?.any fun x => !below y x) xs.length

/-- How many things of a rising list belong before another one, searched for from its last end. -/
def unsettledBefore (below : α → α → Bool) (ys : List α) (x : α) : Nat :=
  ys.length - reach .earlier (fun i => ys.reverse[i]?.any fun y => !below y x) ys.length

/-- Merge two rising lists. What stands at its place already is left alone: the things of the first
list that do not belong behind the head of the second, and the things of the second list that do not
belong before the last one of the first. -/
def merge (below : α → α → Bool) (limit : Nat) (xs ys : List α) : Nat × List α :=
  match ys.head? with
  | none => (limit, xs)
  | some y =>
    let n := settledBefore below xs y
    match (xs.drop n).getLast? with
    | none => (limit, xs ++ ys)
    | some x =>
      let k := unsettledBefore below ys x
      if k = 0 then (limit, xs ++ ys)
      else
        let (limit, zs) := mergeAll below limit (xs.drop n) (ys.take k)
        (limit, xs.take n ++ zs ++ ys.drop k)

/-- Merging keeps the things of both lists. -/
theorem merge_perm (below : α → α → Bool) (limit : Nat) (xs ys : List α) :
    (merge below limit xs ys).2.Perm (xs ++ ys) := by
  unfold merge
  split
  · next h => simp [List.head?_eq_none_iff.1 h]
  · simp only []
    split
    · exact .refl _
    · split
      · exact .refl _
      · next k _ =>
        refine (((mergeAll_perm below limit _ _).append_left _).append_right _).trans ?_
        rw [← List.append_assoc, List.take_append_drop, List.append_assoc, List.take_append_drop]

end LearningGame.Rules.Ranking
