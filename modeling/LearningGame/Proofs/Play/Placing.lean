import LearningGame.Proofs.Catalogue
import LearningGame.Proofs.Play.Rehearsing
import LearningGame.Proofs.Rules.Points
import Mathlib.Data.List.Dedup
import Mathlib.Logic.Function.Basic

/-!
# Sorting items

An item stands where it was put last, unless it has been taken out since. Once all items stand
somewhere they can be graded, which is done once. The report tells where each of them stands, and is
right if all stand where they belong. It brings what the items in the right place earn, or one point
less where that is not a binary share of all.
-/

namespace LearningGame.Play

open Content Schema Script Rehearsal Rules

namespace SortingSitting

variable {c : Setting} {z : Sorting} {T : Float → Prop} {s t : SortingSitting}
  {p q : Stage SortingSitting} {item category : String} {cues : List Cue} {cue : Cue}

/-! ### What moves do -/

/-- An item can be put into a category: both exist, and nothing has been graded yet. -/
def Takes (s : SortingSitting) (item category : String) : Prop :=
  s.completed = false ∧ s.submitted = false ∧ s.items.has item = true ∧
    s.categories.has category = true

/-- Everything is placed, and nothing has been graded yet. -/
def Accepts (s : SortingSitting) : Prop :=
  s.completed = false ∧ s.submitted = false ∧ s.unplaced = []

/-- How many items are in the right place. -/
def correct (s : SortingSitting) : Nat := s.graded.countP (·.2)

/-- The outcome of the grading. -/
def outcome (s : SortingSitting) (points : Int) : SortingOutcome :=
  ⟨s.correct, s.items.length, points, s.graded⟩

/-- The report of the grading. -/
def gradeReport (c : Setting) (s : SortingSitting) (points time : Int) : Report :=
  .answer c.sectionId s.placementsView (s.correct == s.items.length) points time

/-- Grade all placements. -/
def grading (s : SortingSitting) : SortingSitting :=
  { s with results := some s.graded, submitted := true }

/-- A cue comes to nothing. -/
def Ignores (p : Stage SortingSitting) : Cue → Prop
  | .move (.place item category) => ¬p.1.Takes item category
  | .move (.remove _) => p.1.submitted = true
  | .move .submitAll => ¬p.1.Accepts
  | .clock _ => False
  | _ => True

/-- All that a cue can do. -/
inductive Turn (c : Setting) (p : Stage SortingSitting) : Cue → Stage SortingSitting → Prop
  | place {item category : String} (h : p.1.Takes item category) :
    Turn c p (.move (.place item category))
      ({ p.1 with placements := p.1.placements.put item category }, p.2)
  | remove (item : String) (h : p.1.submitted = false) :
    Turn c p (.move (.remove item)) ({ p.1 with placements := p.1.placements.erase item }, p.2)
  | grade {points : Int} (time : Int) (h : p.1.Accepts)
      (hpoints : partialCredit p.1.correct p.1.items.length c.pointsPerCorrect = .ok points) :
    Turn c p (.move .submitAll) (p.1.grading,
      { p.2 with reports := gradeReport c p.1 points time :: p.2.reports })
  | leave (hopen : p.1.completed = false) (h : p.1.submitted = true ∨ p.1.items = []) :
    Turn c p (.move .goOn) ({ p.1 with completed := true },
      { p.2 with reports := .complete :: p.2.reports })
  | clock (time : Float) : Turn c p (.clock time) (p.1, { p.2 with clock := time })
  | ignore {cue : Cue} (h : Ignores p cue) : Turn c p cue p

/-! ### Scripts -/

lemma yields_place : (place c item category).Yields c
    (fun _ => Turn c p (.move (.place item category))) p := by
  refine yields_unlessCompleted (fun hdone => .ignore ?_) fun hopen => yields_state_bind ?_
  · exact fun h => Bool.false_ne_true (h.1.symm.trans hdone)
  · split_ifs with hsubmitted hknown
    · exact yields_pure (.ignore fun h => Bool.false_ne_true (h.2.1.symm.trans hsubmitted))
    · rw [Bool.and_eq_true] at hknown
      exact yields_setState_bind (yields_pure (.place ⟨hopen, by simpa using hsubmitted, hknown⟩))
    · rw [Bool.and_eq_true] at hknown
      exact yields_note_bind (yields_pure (.ignore fun h => hknown h.2.2))

lemma yields_remove : (remove item).Yields c (fun _ => Turn c p (.move (.remove item))) p := by
  refine yields_state_bind ?_
  split_ifs with hsubmitted
  · exact yields_pure (.ignore hsubmitted)
  · exact yields_setState (.remove item (by simpa using hsubmitted))

/-- What is accepted is graded and reported. -/
lemma yields_submit {points : Int} {Q : Option SortingOutcome → Stage SortingSitting → Prop}
    (hfinite : (p.2.clock - p.1.started).isFinite = true) (h : p.1.Accepts)
    (hpoints : partialCredit p.1.correct p.1.items.length c.pointsPerCorrect = .ok points)
    (hQ : ∀ time, Q (some (p.1.outcome points)) (p.1.grading,
      { p.2 with reports := gradeReport c p.1 points time :: p.2.reports })) :
    (submit c).Yields c Q p := by
  obtain ⟨hopen, hsubmitted, hplaced⟩ := h
  refine yields_unlessCompleted (fun hdone => ?_) fun _ => yields_state_bind ?_
  · exact absurd (hopen.symm.trans hdone) Bool.false_ne_true
  · rw [if_neg (by simp [hsubmitted]), if_pos (List.isEmpty_iff.2 hplaced)]
    refine yields_state_bind (yields_setState_bind (yields_lift_bind hpoints ?_))
    exact yields_bind (yields_answer hfinite fun time => yields_change_bind (yields_pure (hQ time)))

lemma yields_submit_of_not_accepts {Q : Option SortingOutcome → Stage SortingSitting → Prop}
    (h : ¬p.1.Accepts) (hQ : Q none p) : (submit c).Yields c Q p := by
  refine yields_unlessCompleted (fun _ => hQ) fun hopen => yields_state_bind ?_
  split_ifs with hsubmitted hplaced
  · exact yields_note_bind (yields_pure hQ)
  · exact absurd ⟨hopen, by simpa using hsubmitted, List.isEmpty_iff.1 hplaced⟩ h
  · exact yields_note_bind (yields_pure hQ)

lemma yields_leave : (leave c).Yields c (fun _ => Turn c p (.move .goOn)) p := by
  refine yields_state_bind ?_
  split_ifs with hblocked
  · exact yields_note (.ignore trivial)
  · cases hdone : p.1.completed with
    | true => exact yields_complete_again hdone (.ignore trivial)
    | false =>
      refine yields_complete hdone (.leave hdone ?_)
      cases hsubmitted : p.1.submitted with
      | true => exact .inl rfl
      | false => exact .inr (by simpa [hsubmitted] using hblocked)

/-! ### Where items stand -/

/-- The items of a sorting game, of which those count that stand in its catalogue. -/
def itemsOf (z : Sorting) : List SortItem := (Catalogue.ofList SortItem.id z.items).things

/-- Where items stand after a cue. -/
def moved (z : Sorting) (places : String → Option String) : Cue → String → Option String
  | .move (.place item category) =>
    if item ∈ z.items.map (·.id) ∧ category ∈ z.categories.map (·.id) then
      Function.update places item (some category)
    else places
  | .move (.remove item) => Function.update places item none
  | _ => places

/-- Where items stand after some cues: in the category they were put into last, unless they have
been taken out since. -/
def whereabouts (z : Sorting) (cues : List Cue) : String → Option String :=
  cues.foldl (moved z) fun _ => none

/-- Whether each item stands where it belongs. -/
def gradedIn (z : Sorting) (places : String → Option String) : List (String × Bool) :=
  (itemsOf z).map fun i => (i.id, places i.id == some i.correctCategory)

/-- How many items stand where they belong. -/
def correctIn (z : Sorting) (places : String → Option String) : Nat :=
  (gradedIn z places).countP (·.2)

/-- The points for the items that stand where they belong. -/
structure IsCredit (c : Setting) (z : Sorting) (places : String → Option String) (points : Int) :
    Prop where
  nonneg : 0 ≤ points
  /-- One point may be lost. -/
  points_mem : points = correctIn z places * c.pointsPerCorrect ∨
    points = correctIn z places * c.pointsPerCorrect - 1
  points_eq : IsBinaryShare (correctIn z places) (itemsOf z).length →
    points = correctIn z places * c.pointsPerCorrect

/-- What is reported when all items are graded where they stand. -/
structure Grades (c : Setting) (z : Sorting) (places : String → Option String)
    (placements : Catalogue String) (points : Int) : Prop extends IsCredit c z places points where
  /-- Every item stands in one category. -/
  ids_perm : placements.ids.Perm (z.items.map (·.id)).dedup
  placed : ∀ e ∈ placements, places e.1 = some e.2 ∧ e.2 ∈ z.categories.map (·.id)

/-- A report tells how all items are graded where they stand. -/
def IsGrading (c : Setting) (z : Sorting) (places : String → Option String) (points : Int)
    (r : Report) : Prop :=
  ∃ placements time, Grades c z places placements points ∧
    r = .answer c.sectionId (.map (placements.map fun e => (e.1, .str e.2)))
      (correctIn z places == (itemsOf z).length) points time

/-- What the player is told when all items are graded where they stand. -/
def outcomeIn (z : Sorting) (places : String → Option String) (points : Int) : SortingOutcome :=
  ⟨correctIn z places, (itemsOf z).length, points, gradedIn z places⟩

/-- The numbers of points and items are such that floats hold what they come to. -/
structure IsModest (c : Setting) (z : Sorting) : Prop where
  nonneg : 0 ≤ c.pointsPerCorrect
  most : c.pointsPerCorrect ≤ 10000
  items : z.items.length ≤ 2 ^ 37

lemma whereabouts_concat (z : Sorting) (cues : List Cue) (cue : Cue) :
    whereabouts z (cues ++ [cue]) = moved z (whereabouts z cues) cue := by
  rw [whereabouts, List.foldl_append]
  rfl

/-! ### What holds throughout -/

/-- What holds at all stages of a sorting game. -/
structure Sound (z : Sorting) (T : Float → Prop) (p : Stage SortingSitting) : Prop where
  clock : T p.2.clock
  started : T p.1.started
  idle : p.2.running = none
  items : p.1.items = Catalogue.ofList SortItem.id z.items
  categories : p.1.categories = Catalogue.ofList SortCategory.id z.categories
  nodup : p.1.placements.ids.Nodup
  placed : ∀ {item category}, p.1.placements.find? item = some category →
    item ∈ z.items.map (·.id) ∧ category ∈ z.categories.map (·.id)

/-- What the cues have come to: items stand where they have been put until they are graded. -/
structure Recorded (c : Setting) (z : Sorting) (cues : List Cue) (s : SortingSitting)
    (reports : List Report) : Prop where
  whereabouts : s.submitted = false → ∀ item, s.placements.find? item = whereabouts z cues item
  /-- The section is not finished before the grading unless there is nothing to grade. -/
  completed : s.completed = true → s.submitted = true ∨ z.items = []
  open_answers : s.submitted = false → answers reports = []
  graded_answers : s.submitted = true → ∃ before since points r,
    cues = before ++ .move .submitAll :: since ∧
      IsGrading c z (SortingSitting.whereabouts z before) points r ∧ answers reports = [r]

lemma Takes.mem (h : s.Takes item category)
    (hitems : s.items = Catalogue.ofList SortItem.id z.items)
    (hcategories : s.categories = Catalogue.ofList SortCategory.id z.categories) :
    item ∈ z.items.map (·.id) ∧ category ∈ z.categories.map (·.id) :=
  ⟨Catalogue.has_ofList_iff.1 (hitems ▸ h.2.2.1),
    Catalogue.has_ofList_iff.1 (hcategories ▸ h.2.2.2)⟩

namespace Sound

variable (hp : Sound z T p)

include hp

lemma turn (h : Turn c p cue q) (hcue : cue.Within T) : Sound z T q := by
  cases h with
  | @place item category h =>
    refine { hp with nodup := Catalogue.nodup_ids_put hp.nodup _ _, placed := fun hplaced => ?_ }
    rw [Catalogue.find?_put] at hplaced
    split_ifs at hplaced with heq
    · cases heq
      cases hplaced
      exact h.mem hp.items hp.categories
    · exact hp.placed hplaced
  | remove item =>
    refine { hp with nodup := Catalogue.nodup_ids_erase hp.nodup _, placed := fun hplaced => ?_ }
    rw [Catalogue.find?_erase] at hplaced
    split_ifs at hplaced
    exact hp.placed hplaced
  | grade | leave => exact { hp with }
  | clock => exact { hp with clock := hcue }
  | ignore => exact hp

end Sound

/-! ### What is graded -/

/-- The points for the items that stand where they belong can be worked out. -/
lemma IsModest.exists_credit (h : IsModest c z) (places : String → Option String) :
    ∃ points,
      partialCredit (correctIn z places) (itemsOf z).length c.pointsPerCorrect = .ok points ∧
        IsCredit c z places points := by
  obtain ⟨hnonneg, hmost, hitems⟩ := h
  have hle : correctIn z places ≤ (itemsOf z).length :=
    List.countP_le_length.trans_eq (List.length_map ..)
  have hlength : (itemsOf z).length ≤ 2 ^ 37 := by
    rw [itemsOf, Catalogue.things, List.length_map]
    exact Catalogue.length_ofList_le.trans hitems
  rcases Nat.eq_zero_or_pos (itemsOf z).length with hnone | hsome
  · have hcorrect : correctIn z places = 0 := by omega
    rw [hnone]
    exact ⟨0, rfl, le_rfl, .inl (by simp [hcorrect]), fun _ => by simp [hcorrect]⟩
  · have hproduct : (correctIn z places : Int) * c.pointsPerCorrect < 2 ^ 51 :=
      calc (correctIn z places : Int) * c.pointsPerCorrect ≤ 2 ^ 37 * 10000 := by
            gcongr
            exact_mod_cast hle.trans hlength
        _ < 2 ^ 51 := by norm_num
    obtain ⟨points, hpoints, hpos, hmem, heq⟩ :=
      exists_partialCredit hsome hle (by omega) hnonneg (by omega) hproduct
    exact ⟨points, hpoints, hpos, hmem, heq⟩

lemma unplaced_eq_nil_iff :
    s.unplaced = [] ↔ ∀ item ∈ s.items.ids, (s.placements.find? item).isSome := by
  rw [unplaced, List.filter_eq_nil_iff]
  exact forall₂_congr fun item _ => by
    simp [Catalogue.has, Option.isSome_iff_ne_none]

namespace Sound

variable {places : String → Option String} (hp : Sound z T p)
  (hplaces : ∀ item, p.1.placements.find? item = places item)

include hp

lemma length_items : p.1.items.length = (itemsOf z).length := by
  rw [hp.items, itemsOf, Catalogue.things, List.length_map]

include hplaces

lemma graded_eq : p.1.graded = gradedIn z places := by
  rw [graded, hp.items, gradedIn, itemsOf, Catalogue.things, List.map_map]
  refine List.map_congr_left fun e he => ?_
  rw [Function.comp_apply, hplaces, (Catalogue.mem_ofList he).1]

lemma correct_eq : p.1.correct = correctIn z places := by
  rw [correct, hp.graded_eq hplaces, correctIn]

/-- Everything is placed as soon as all items stand somewhere. -/
lemma unplaced_iff : p.1.unplaced = [] ↔ ∀ i ∈ z.items, (places i.id).isSome := by
  rw [unplaced_eq_nil_iff, hp.items]
  simp only [Catalogue.mem_ids_ofList, List.forall_mem_map, hplaces]

lemma grades {points : Int} (hplaced : p.1.unplaced = []) (hcredit : IsCredit c z places points) :
    Grades c z places p.1.placements points where
  toIsCredit := hcredit
  ids_perm := by
    refine (List.perm_ext_iff_of_nodup hp.nodup (List.nodup_dedup _)).2 fun item => ?_
    rw [List.mem_dedup]
    constructor
    · intro hmem
      obtain ⟨e, he, rfl⟩ := List.mem_map.1 hmem
      exact (hp.placed (Catalogue.find?_of_mem hp.nodup he)).1
    · intro hmem
      obtain ⟨i, hi, rfl⟩ := List.mem_map.1 hmem
      obtain ⟨category, hcategory⟩ :=
        Option.isSome_iff_exists.1 ((hp.unplaced_iff hplaces).1 hplaced i hi)
      rw [← hplaces] at hcategory
      exact List.mem_map_of_mem (Catalogue.mem_of_find? hcategory)
  placed e he := by
    have hfind := Catalogue.find?_of_mem hp.nodup he
    exact ⟨(hplaces e.1).symm.trans hfind, (hp.placed hfind).2⟩

lemma isGrading {points : Int} (hplaced : p.1.unplaced = []) (hcredit : IsCredit c z places points)
    (time : Int) : IsGrading c z places points (gradeReport c p.1 points time) := by
  refine ⟨p.1.placements, time, hp.grades hplaces hplaced hcredit, ?_⟩
  rw [gradeReport, hp.correct_eq hplaces, hp.length_items]
  rfl

lemma outcome_eq (points : Int) : p.1.outcome points = outcomeIn z places points := by
  rw [outcome, hp.correct_eq hplaces, hp.graded_eq hplaces, hp.length_items, outcomeIn]

end Sound

/-! ### What the cues come to -/

namespace Recorded

variable {reports later : List Report} (h : Recorded c z cues s reports)

include h

/-- Between gradings a cue moves items at most. -/
lemma concat (hsubmitted : t.submitted = s.submitted)
    (hplaces : s.submitted = false →
      ∀ item, t.placements.find? item = moved z (SortingSitting.whereabouts z cues) cue item)
    (hcompleted : t.completed = true → s.submitted = true ∨ z.items = [])
    (hanswers : answers later = answers reports) : Recorded c z (cues ++ [cue]) t later where
  whereabouts hopen := by
    rw [whereabouts_concat]
    exact hplaces (hsubmitted ▸ hopen)
  completed hdone := hsubmitted ▸ hcompleted hdone
  open_answers hopen := hanswers.trans (h.open_answers (hsubmitted ▸ hopen))
  graded_answers hgraded := by
    obtain ⟨before, since, points, r, rfl, hr, hreports⟩ := h.graded_answers (hsubmitted ▸ hgraded)
    exact ⟨before, since ++ [cue], points, r, by simp, hr, hanswers.trans hreports⟩

end Recorded

/-- An item that is not taken does not move. -/
lemma Sound.moved_of_not_takes {reports : List Report} (hp : Sound z T p)
    (h : Recorded c z cues p.1 reports) (hrefused : ¬p.1.Takes item category)
    (hopen : p.1.submitted = false) (places : String → Option String) :
    moved z places (.move (.place item category)) = places := by
  refine if_neg fun ⟨hitem, hcategory⟩ => hrefused ⟨?_, hopen, ?_, ?_⟩
  · by_contra hdone
    rcases h.completed (by simpa using hdone) with hsubmitted | hnone
    · exact Bool.false_ne_true (hopen.symm.trans hsubmitted)
    · rw [hnone] at hitem
      exact List.not_mem_nil hitem
  · rw [hp.items]
    exact Catalogue.has_ofList_iff.2 hitem
  · rw [hp.categories]
    exact Catalogue.has_ofList_iff.2 hcategory

/-- A cue moves an item, has all of them graded or leaves them where they are. -/
lemma Recorded.turn (h : Recorded c z cues p.1 p.2.reports) (hp : Sound z T p)
    (hmodest : IsModest c z) (hturn : Turn c p cue q) :
    Recorded c z (cues ++ [cue]) q.1 q.2.reports := by
  cases hturn with
  | @place item category htakes =>
    refine h.concat rfl (fun hopen name => ?_) h.completed rfl
    rw [moved, if_pos (htakes.mem hp.items hp.categories), Catalogue.find?_put,
      Function.update_apply, h.whereabouts hopen]
    exact if_congr eq_comm rfl rfl
  | remove item hopen =>
    refine h.concat rfl (fun hopen name => ?_) h.completed rfl
    rw [moved, Catalogue.find?_erase, Function.update_apply, h.whereabouts hopen]
    exact if_congr eq_comm rfl rfl
  | @grade points time haccepts hpoints =>
    -- Nothing has been graded yet, so that what is graded here is where the cues have left things.
    have hplaces := h.whereabouts haccepts.2.1
    obtain ⟨credit, hcredit, hgood⟩ := hmodest.exists_credit (SortingSitting.whereabouts z cues)
    rw [hp.correct_eq hplaces, hp.length_items, hcredit] at hpoints
    obtain rfl : credit = points := Except.ok.inj hpoints
    refine ⟨nofun, fun _ => .inl rfl, nofun, fun _ => ⟨cues, [], credit,
      gradeReport c p.1 credit time, rfl, hp.isGrading hplaces haccepts.2.2 hgood time, ?_⟩⟩
    rw [gradeReport, answers_cons_answer, h.open_answers haccepts.2.1]
    rfl
  | leave hopen hleave =>
    refine h.concat rfl h.whereabouts (fun _ => hleave.imp_right fun hnone => ?_) rfl
    rw [hp.items] at hnone
    exact List.isEmpty_iff.1 (Catalogue.isEmpty_ofList.symm.trans (List.isEmpty_iff.2 hnone))
  | clock => exact h.concat rfl h.whereabouts h.completed rfl
  | ignore hignores =>
    refine h.concat rfl (fun hopen name => ?_) h.completed rfl
    rw [h.whereabouts hopen]
    cases cue with
    | second | clock => rfl
    | move m =>
      cases m with
      | place item category => rw [hp.moved_of_not_takes h hignores hopen]
      | remove item => exact absurd (hopen.symm.trans hignores) Bool.false_ne_true
      | _ => rfl

/-- A sorting game goes on from one sound stage to the next. -/
lemma proceeds (hT : Steady T) (hmodest : IsModest c z) :
    Proceeds .sorting c (Cue.Within T) (Sound z T) (Turn c) where
  follow {w p cue} hw hp hcue := by
    have hfinite : (p.2.clock - p.1.started).isFinite = true := hT.finite _ _ hp.started hp.clock
    cases cue with
    | clock time =>
      obtain ⟨v, hrun, hv⟩ := follow_clock hw time
      exact ⟨_, v, hrun, hv, .clock time⟩
    | second => exact ⟨p, w, follow_second_of_idle hw hp.idle, hw, .ignore trivial⟩
    | move m =>
      cases m with
      | place item category =>
        exact follow_move hw (y := Value.bool <$> place c item category) rfl
          (yields_map yields_place)
      | remove item =>
        exact follow_move hw (y := (fun _ => Value.null) <$> remove item) rfl
          (yields_map yields_remove)
      | submitAll =>
        refine follow_move hw (y := Player.optionally SortingOutcome.toValue <$> submit c) rfl
          (yields_map ?_)
        by_cases haccepts : p.1.Accepts
        · obtain ⟨points, hpoints, -⟩ := hmodest.exists_credit p.1.placements.find?
          rw [← hp.correct_eq fun _ => rfl, ← hp.length_items] at hpoints
          exact yields_submit hfinite haccepts hpoints fun time => .grade time haccepts hpoints
        · exact yields_submit_of_not_accepts haccepts (.ignore haccepts)
      | goOn =>
        exact follow_move hw (y := (fun _ => Value.null) <$> leave c) rfl (yields_map yields_leave)
      | _ => exact ⟨p, w, follow_unknown hw rfl, hw, .ignore trivial⟩
  sound hp hturn hcue := hp.turn hturn hcue

/-! ### The conduct of a sorting game -/

/-- What can be seen of a sorting game in which some cues have been followed. -/
structure Standing (c : Setting) (z : Sorting) (w : Rehearsal) (cues : List Cue)
    (s : SortingSitting) : Prop extends Recorded c z cues s w.reports where
  player : w.player = .sorting s
  /-- As soon as all items stand somewhere they can be graded, once. -/
  accepts_iff : s.Accepts ↔ s.completed = false ∧ s.submitted = false ∧
    ∀ i ∈ z.items, (SortingSitting.whereabouts z cues i.id).isSome

/-- How a sorting game is conducted while cues of some sort are followed. -/
structure Conduct (c : Setting) (z : Sorting) (T : Float → Prop) (w : Rehearsal) : Prop where
  begins : (Rehearsal.enter.runIn w).1 = .ok ()
  follows : ∀ {cues cue}, (∀ cue ∈ cues, cue.Within T) → cue.Within T →
    ((follow cue).runIn (w.rehearsed cues)).1 = .ok ()
  standing : ∀ {cues}, (∀ cue ∈ cues, cue.Within T) →
    ∃ s, Standing c z (w.rehearsed cues) cues s
  /-- The grading is the only answer, and its outcome is what the player is told. -/
  grades : ∀ {cues s}, (∀ cue ∈ cues, cue.Within T) → (w.rehearsed cues).player = .sorting s →
    s.Accepts → ∃ points r, IsGrading c z (whereabouts z cues) points r ∧
      (w.rehearsed cues).Gives .submitAll (outcomeIn z (whereabouts z cues) points).toValue ∧
      answers (w.rehearsed (cues ++ [.move .submitAll])).reports = [r]

lemma Sound.standing {w : Rehearsal} (hp : Sound z T p) (h : Recorded c z cues p.1 p.2.reports)
    (hw : w.Stands .sorting c p) : Standing c z w cues p.1 where
  whereabouts := h.whereabouts
  completed := h.completed
  open_answers := hw.reports ▸ h.open_answers
  graded_answers := hw.reports ▸ h.graded_answers
  player := hw.player
  accepts_iff := and_congr_right fun _ => and_congr_right fun hopen =>
    hp.unplaced_iff (h.whereabouts hopen)

/-- What is accepted is graded. -/
lemma exists_graded {w : Rehearsal} (hT : Steady T) (hmodest : IsModest c z)
    (hw : (w.rehearsed cues).Stands .sorting c p) (hp : Sound z T p)
    (h : Recorded c z cues p.1 p.2.reports) (haccepts : p.1.Accepts) :
    ∃ points r, IsGrading c z (whereabouts z cues) points r ∧
      (w.rehearsed cues).Gives .submitAll (outcomeIn z (whereabouts z cues) points).toValue ∧
      answers (w.rehearsed (cues ++ [.move .submitAll])).reports = [r] := by
  have hplaces := h.whereabouts haccepts.2.1
  have hfinite : (p.2.clock - p.1.started).isFinite = true := hT.finite _ _ hp.started hp.clock
  obtain ⟨points, hpoints, hcredit⟩ := hmodest.exists_credit (whereabouts z cues)
  rw [← hp.correct_eq hplaces, ← hp.length_items] at hpoints
  obtain ⟨a, q, v, hrun, hgives, hv, rfl, time, hreports⟩ :=
    follow_move_gives (m := .submitAll) (Q := fun a q => a = (p.1.outcome points).toValue ∧
      ∃ time, q.2.reports = gradeReport c p.1 points time :: p.2.reports) hw rfl
      (yields_map (f := Player.optionally SortingOutcome.toValue)
        (yields_submit hfinite haccepts hpoints fun time => ⟨rfl, time, rfl⟩))
  refine ⟨points, gradeReport c p.1 points time,
    hp.isGrading hplaces haccepts.2.2 hcredit time, hp.outcome_eq hplaces points ▸ hgives, ?_⟩
  rw [rehearsed_concat hrun, hv.reports, hreports, gradeReport, answers_cons_answer,
    h.open_answers haccepts.2.1]
  rfl

/-- However the items are put into categories and taken out, a sorting game is conducted as it
should be, but for a point that may be lost where the items in the right place are no binary share
of all. -/
theorem conduct_of_items (hkind : c.kind = .sorting) (z : Sorting) (hT : Steady T)
    (hmodest : IsModest c z) (dice : Dice) (plain : Bool) (hints : Int)
    (circumstances : Rules.Circumstances) :
    ∃ w, Rehearsal.create c (.sorting z) dice plain hints circumstances = .ok w ∧
      Conduct c z T w := by
  have hsit :
      (Player.sitDown c (.sorting z) 0).runIn dice = (.ok (.sorting (create z 0)), dice) := by
    unfold Player.sitDown
    rw [hkind]
    rfl
  obtain ⟨w, hw, hbegins, p, hbegun, hp, hstart⟩ :=
    exists_begun (y := pure ()) (Q := fun p => Sound z T p ∧ Recorded c z [] p.1 p.2.reports) hsit
      rfl (yields_pure ⟨⟨hT.zero, hT.zero, rfl, rfl, rfl, List.nodup_nil, nofun⟩,
        fun _ _ => rfl, nofun, fun _ => rfl, nofun⟩) plain hints circumstances
  have htold {cues : List Cue} (hcues : ∀ cue ∈ cues, cue.Within T) :
      ∃ q, (w.rehearsed cues).Stands .sorting c q ∧ Sound z T q ∧
        Recorded c z cues q.1 q.2.reports :=
    (proceeds hT hmodest).exists_told hbegun hp (fun cues q => Recorded c z cues q.1 q.2.reports)
      hstart (fun hrecorded hsound _ hturn => hrecorded.turn hsound hmodest hturn) hcues
  refine ⟨w, hw, hbegins, fun hcues hcue => ?_, fun hcues => ?_, fun hcues hs haccepts => ?_⟩
  · obtain ⟨q, r, -, -, hok, -⟩ := (proceeds hT hmodest).onward hbegun hp hcues hcue
    exact hok
  · obtain ⟨q, hq, hsound, hrecorded⟩ := htold hcues
    exact ⟨q.1, hsound.standing hrecorded hq⟩
  · obtain ⟨q, hq, hsound, hrecorded⟩ := htold hcues
    obtain rfl := hq.state_eq Player.sorting.inj hs
    exact exists_graded hT hmodest hq hsound hrecorded haccepts

/-- The points of a report. -/
def pointsOf : Report → Int
  | .answer _ _ _ points _ => points
  | _ => 0

/-- The setting of a sorting game. -/
def stall : Setting :=
  ⟨"s1", .sorting,
    ⟨"sorting", [], 0, 0, true, true, true, 3, 0, false, "immediate", true⟩, 10, 5⟩

/-- Four things on a stall. -/
def greens : Sorting :=
  ⟨[⟨"item1", "Apple", none, "cat1"⟩, ⟨"item2", "Carrot", none, "cat2"⟩,
    ⟨"item3", "Pear", none, "cat1"⟩, ⟨"item4", "Leek", none, "cat2"⟩],
    [⟨"cat1", "Fruit", none, none⟩, ⟨"cat2", "Vegetable", none, none⟩], ""⟩

/-- Three things in the right place earn their points, and are graded once. -/
theorem conduct_of_greens :
    ∃ w, Rehearsal.create stall (.sorting greens) ⟨fun _ => 0, 0⟩ true 3 nothing = .ok w ∧
      Conduct stall greens (fun t => t = 0 ∨ t = 1) w ∧
      (answers (w.rehearsed [.move (.place "item1" "cat2"), .move .submitAll,
        .move (.place "item2" "cat2"), .move (.place "item3" "cat1"),
        .move (.place "item4" "cat1"), .move (.remove "item1"), .move .submitAll,
        .move (.place "item1" "cat1"), .move .submitAll, .move .submitAll]).reports).map pointsOf =
        [30] := by
  obtain ⟨w, hw, hconduct⟩ := conduct_of_items (c := stall) rfl greens steady_zero_or_one
    ⟨by decide, by decide, by decide⟩ ⟨fun _ => 0, 0⟩ true 3 nothing
  refine ⟨w, hw, hconduct, ?_⟩
  cases hw
  decide +kernel

/-- The days of the week, of which one is in the middle. -/
def week : Sorting :=
  ⟨[⟨"mon", "Monday", none, "other"⟩, ⟨"tue", "Tuesday", none, "other"⟩,
    ⟨"wed", "Wednesday", none, "middle"⟩, ⟨"thu", "Thursday", none, "other"⟩,
    ⟨"fri", "Friday", none, "other"⟩, ⟨"sat", "Saturday", none, "other"⟩,
    ⟨"sun", "Sunday", none, "other"⟩],
    [⟨"middle", "The middle", none, none⟩, ⟨"other", "Other days", none, none⟩], ""⟩

/-- All days are put into the middle. -/
def crammed : List Cue := week.items.map fun i => .move (.place i.id "middle")

/-- One day out of seven is in the right place, for which a point too few is reported. -/
theorem point_lost_of_week :
    ∃ w, Rehearsal.create stall (.sorting week) ⟨fun _ => 0, 0⟩ true 3 nothing = .ok w ∧
      correctIn week (whereabouts week crammed) = 1 ∧ stall.pointsPerCorrect = 10 ∧
      (answers (w.rehearsed (crammed ++ [.move .submitAll])).reports).map pointsOf = [9] := by
  refine ⟨_, rfl, ?_⟩
  decide +kernel

end SortingSitting

end LearningGame.Play
