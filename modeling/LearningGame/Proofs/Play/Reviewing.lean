import LearningGame.Proofs.Play.Dice
import LearningGame.Proofs.Play.Rehearsing
import Mathlib.Data.List.Nodup

/-!
# Rehearsing flashcards

The player may go back to cards that have been reviewed and on again, but no card is reviewed before
the ones in front of it: the reviewed cards are always the first of the deck, and the card that is
shown is among them or the next one. So there is always a next card to be shown while cards are
left, and where the last card is shown no other one is left to be looked for.
-/

namespace LearningGame.Play.FlashcardSitting

open Content Rules Script Rehearsal

variable {c : Setting} {mode : TestMode} {cards : List Flashcard} {T : Float → Prop}
  {p q : Stage FlashcardSitting} {cue : Cue} {card : Flashcard}

/-! ### Reviews -/

/-- What the player says of a card. -/
def selfReport (known : Bool) : Value := if known then "known" else "unknown"

/-- How a card can be reviewed: the player tells whether its back was known, or types it in. -/
inductive Review (mode : TestMode) (card : Flashcard) : Value → Bool → Prop
  | told (hmode : mode ≠ .typeAnswer) (known : Bool) : Review mode card (selfReport known) known
  | typed (hmode : mode = .typeAnswer) (text : String) :
    Review mode card (.str text) (sameAnswer text card.back.text)

/-- The report of a review of a card. -/
def reviewOf (c : Setting) (card : Flashcard) (given : Value) (known : Bool) (time : Int) :
    Report :=
  .answer card.id given known (if known then c.pointsPerCorrect else 0) time

/-- A report is that of a review of a card. -/
def IsReviewOf (c : Setting) (mode : TestMode) (card : Flashcard) (r : Report) : Prop :=
  ∃ given known time, Review mode card given known ∧ r = reviewOf c card given known time

/-! ### Stages -/

/-- The stage at which a review has been taken down and reported. -/
def recorded (c : Setting) (p : Stage FlashcardSitting) (card : Flashcard) (given : Value)
    (known : Bool) (time : Int) : Stage FlashcardSitting :=
  ({ p.1 with reviewed := p.1.reviewed ++ [(card.id, known)] },
    { p.2 with reports := reviewOf c card given known time :: p.2.reports })

lemma length_recorded (c : Setting) (p : Stage FlashcardSitting) (card : Flashcard) (given : Value)
    (known : Bool) (time : Int) :
    (recorded c p card given known time).1.reviewed.length = p.1.reviewed.length + 1 :=
  List.length_append

/-- The stage at which a typed text has been graded. -/
def graded (c : Setting) (p : Stage FlashcardSitting) (card : Flashcard) (text : String)
    (time : Int) : Stage FlashcardSitting :=
  let known := sameAnswer text card.back.text
  let q := recorded c p card (.str text) known time
  ({ q.1 with
      showResult := true, flipped := true, lastResult := some ⟨card.id, known, card.back.text⟩ },
    q.2)

/-- The stage at which a card is shown afresh. -/
def shown (p : Stage FlashcardSitting) (i : Nat) : Stage FlashcardSitting :=
  ({ p.1 with
      started := p.2.clock, index := i, flipped := false, showResult := false, lastResult := none,
      hintVisible := false },
    p.2)

/-- The stage at which the end has been reported. -/
def finished (p : Stage FlashcardSitting) : Stage FlashcardSitting :=
  ({ p.1 with completed := true }, { p.2 with reports := .complete :: p.2.reports })

/-! ### Scripts -/

lemma yields_resetCard {Q : Unit → Stage FlashcardSitting → Prop} (h : Q () (shown p p.1.index)) :
    resetCard.Yields c Q p := yields_change_bind (yields_startClock h)

/-- The next card is shown if one is left, and otherwise the end is reported. -/
lemma yields_advance {Q : Unit → Stage FlashcardSitting → Prop} (hopen : p.1.completed = false)
    (hplace : p.1.reviewed.length < p.1.cards.length → p.1.index + 1 < p.1.cards.length)
    (hfinish : p.1.cards.length ≤ p.1.reviewed.length → Q () (finished p))
    (hnext : p.1.reviewed.length < p.1.cards.length → Q () (shown p (p.1.index + 1))) :
    (advance c).Yields c Q p := by
  refine yields_state_bind ?_
  by_cases hall : p.1.cards.length ≤ p.1.reviewed.length
  · rw [if_pos hall]
    exact yields_complete hopen (hfinish hall)
  · have hleft : p.1.reviewed.length < p.1.cards.length := by omega
    rw [if_neg hall, if_pos (hplace hleft)]
    exact yields_setState_bind (yields_resetCard (hnext hleft))

/-- A card is reviewed only once. -/
lemma yields_review {α : Type} {action : String} {refused : α}
    {x : Flashcard → Script FlashcardSitting α} {Q : α → Stage FlashcardSitting → Prop}
    (hasking : p.1.completed = false → ∃ card, p.1.current? = some card)
    (hdone : p.1.completed = true → Q refused p)
    (hseen : ∀ card, p.1.current? = some card → p.1.isReviewed card.id = true → Q refused p)
    (hx : ∀ card, p.1.completed = false → p.1.current? = some card →
      p.1.isReviewed card.id = false → (x card).Yields c Q p) :
    (review c action refused x).Yields c Q p := by
  refine yields_unlessCompleted hdone fun hopen => yields_state_bind ?_
  obtain ⟨card, hcard⟩ := hasking hopen
  simp only [hcard]
  cases hreviewed : p.1.isReviewed card.id with
  | true =>
    rw [if_pos rfl]
    exact yields_note_bind (yields_pure (hseen card hcard hreviewed))
  | false =>
    rw [if_neg Bool.false_ne_true]
    exact hx card hopen hcard hreviewed

lemma yields_record {given : Value} {known : Bool} {Q : Unit → Stage FlashcardSitting → Prop}
    (hfinite : (p.2.clock - p.1.started).isFinite = true)
    (h : ∀ time, Q () (recorded c p card given known time)) :
    (record c card given known).Yields c Q p := yields_change_bind (yields_answer hfinite h)

/-- A hint is spent only if the hint is not shown. -/
lemma yields_useHint {Q : Option String → Stage FlashcardSitting → Prop} (hrefused : Q none p)
    (hspent : ∀ granted hint, p.1.hintVisible = false → Q hint
      ({ p.1 with hintVisible := granted }, { p.2 with reports := .hint granted :: p.2.reports })) :
    useHint.Yields c Q p :=
  yields_revealHint (fun s => s.current?.bind (·.hint)) (·.hintVisible)
    (fun granted s => { s with hintVisible := granted }) (fun h => by rw [← h]) hrefused hspent

/-! ### What holds throughout -/

/-- The cards that have been reviewed are the first of the deck, and their reviews are reported. The
card that is shown is one of them or the next. -/
structure Orderly (c : Setting) (mode : TestMode) (cards : List Flashcard) (T : Float → Prop)
    (p : Stage FlashcardSitting) : Prop where
  clock : T p.2.clock
  started : T p.1.started
  running : p.2.running = none
  presented : p.1.cards = cards
  inMode : p.1.testMode = mode
  reviewed : p.1.reviewed.map (·.1) = (cards.take p.1.reviewed.length).map (·.id)
  answered : List.Forall₂ (IsReviewOf c mode) (cards.take p.1.reviewed.length) (answers p.2.reports)
  index_le : p.1.index ≤ p.1.reviewed.length
  inside : cards ≠ [] → p.1.index < cards.length
  asking : p.1.completed = false → cards ≠ []
  all_reviewed : p.1.completed = true → p.1.reviewed.length = cards.length
  ended : ends p.2.reports = if p.1.completed then 1 else 0

namespace Orderly

variable (h : Orderly c mode cards T p)

include h

lemma length_le : p.1.reviewed.length ≤ cards.length := by
  have hlength := congrArg List.length h.reviewed
  simp only [List.length_map, List.length_take] at hlength
  omega

lemma exists_current (hopen : p.1.completed = false) : ∃ card, p.1.current? = some card := by
  have hinside := h.inside (h.asking hopen)
  rw [← h.presented] at hinside
  exact ⟨_, List.getElem?_eq_getElem hinside⟩

/-- If the ids are distinct, the card that is shown has been reviewed unless it is the next one. -/
lemma isReviewed_iff (hids : (cards.map (·.id)).Nodup) (hcard : p.1.current? = some card) :
    p.1.isReviewed card.id = true ↔ p.1.index < p.1.reviewed.length := by
  rw [current?, h.presented] at hcard
  obtain ⟨hi, rfl⟩ := List.getElem?_eq_some_iff.1 hcard
  have hmem : p.1.isReviewed cards[p.1.index].id = true ↔
      cards[p.1.index].id ∈ (cards.take p.1.reviewed.length).map (·.id) := by
    rw [← h.reviewed, isReviewed, List.lookup_isSome_iff, List.mem_map]
    simp only [beq_iff_eq, @eq_comm _ cards[p.1.index].id]
  rw [hmem, List.mem_map]
  constructor
  · rintro ⟨card, hcard, hid⟩
    obtain ⟨j, hj, rfl⟩ := List.mem_take_iff_getElem.1 hcard
    have hsame : cards[j] = cards[p.1.index] :=
      List.inj_on_of_nodup_map hids (List.getElem_mem _) (List.getElem_mem hi) hid
    have hij : j = p.1.index := (List.Nodup.getElem_inj_iff (List.Nodup.of_map _ hids)).1 hsame
    omega
  · intro hseen
    exact ⟨cards[p.1.index], List.mem_take_iff_getElem.2 ⟨p.1.index, by omega, rfl⟩, rfl⟩

/-- A review of the next card goes with the ones before. -/
lemma recorded (hopen : p.1.completed = false) (hcard : p.1.current? = some card)
    (hnext : p.1.index = p.1.reviewed.length) {given : Value} {known : Bool}
    (hreview : Review mode card given known) (time : Int) :
    Orderly c mode cards T (recorded c p card given known time) := by
  have hnextCard : cards[p.1.reviewed.length]? = some card := by
    rw [← h.presented, ← hnext]
    exact hcard
  refine { h with reviewed := ?_, answered := ?_, index_le := ?_, all_reviewed := ?_ }
  · rw [length_recorded, List.take_add_one, hnextCard, List.map_append, ← h.reviewed]
    exact List.map_append
  · rw [length_recorded]
    show List.Forall₂ _ _ (answers (.answer .. :: p.2.reports))
    rw [answers_cons_answer]
    exact forall₂_answers_concat h.answered hnextCard ⟨given, known, time, hreview, rfl⟩
  · rw [length_recorded]
    exact Nat.le_succ_of_le h.index_le
  · exact fun hdone => nomatch hopen.symm.trans hdone

lemma shown {i : Nat} (hle : i ≤ p.1.reviewed.length) (hinside : i < cards.length) :
    Orderly c mode cards T (shown p i) :=
  { h with started := h.clock, index_le := hle, inside := fun _ => hinside }

lemma finished (hopen : p.1.completed = false) (hall : cards.length ≤ p.1.reviewed.length) :
    Orderly c mode cards T (finished p) := by
  have hended := h.ended
  rw [hopen] at hended
  exact { h with
    asking := nofun
    all_reviewed := fun _ => Nat.le_antisymm h.length_le hall
    ended := by
      show ends (.complete :: p.2.reports) = 1
      rw [ends_cons_complete, hended]
      rfl }

end Orderly

/-- What holds at all stages of flashcards. When the player has told of all cards, it is the end. -/
structure Sound (c : Setting) (mode : TestMode) (cards : List Flashcard) (T : Float → Prop)
    (p : Stage FlashcardSitting) : Prop extends Orderly c mode cards T p where
  left_of_told : p.1.completed = false → mode ≠ .typeAnswer → p.1.reviewed.length < cards.length

/-! ### Turns -/

/-- A cue reviews a card: the player tells whether its back was known, or types something in. -/
inductive Reviews (s : FlashcardSitting) : Cue → Prop
  | told (known : Bool) (hmode : s.testMode ≠ .typeAnswer) : Reviews s (.move (.mark known))
  | typed (text : String) (hmode : s.testMode = .typeAnswer)
      (htext : Text.isBlankText text = false) : Reviews s (.move (.submit (.str text)))

/-- A cue comes to nothing. -/
def Ignores (p : Stage FlashcardSitting) : Cue → Prop
  | .move .next => p.1.completed = true ∨ p.1.reviewed.length ≤ p.1.index
  | .clock _ => False
  | cue => p.1.completed = true ∨ p.1.index < p.1.reviewed.length ∨ ¬Reviews p.1 cue

/-- All that a cue can do. -/
inductive Turn (c : Setting) (p : Stage FlashcardSitting) : Cue → Stage FlashcardSitting → Prop
  | mark {card : Flashcard} (known : Bool) (time : Int) (hopen : p.1.completed = false)
      (hmode : p.1.testMode ≠ .typeAnswer) (hcard : p.1.current? = some card)
      (hnext : p.1.index = p.1.reviewed.length)
      (hmore : p.1.reviewed.length + 1 < p.1.cards.length) :
    Turn c p (.move (.mark known))
      (shown (recorded c p card (selfReport known) known time) (p.1.index + 1))
  | markLast {card : Flashcard} (known : Bool) (time : Int) (hopen : p.1.completed = false)
      (hmode : p.1.testMode ≠ .typeAnswer) (hcard : p.1.current? = some card)
      (hnext : p.1.index = p.1.reviewed.length)
      (hlast : p.1.cards.length ≤ p.1.reviewed.length + 1) :
    Turn c p (.move (.mark known)) (finished (recorded c p card (selfReport known) known time))
  | type {card : Flashcard} (text : String) (time : Int) (hopen : p.1.completed = false)
      (hmode : p.1.testMode = .typeAnswer) (htext : Text.isBlankText text = false)
      (hcard : p.1.current? = some card) (hnext : p.1.index = p.1.reviewed.length) :
    Turn c p (.move (.submit (.str text))) (graded c p card text time)
  | next (hopen : p.1.completed = false) (hseen : p.1.index < p.1.reviewed.length)
      (hmore : p.1.reviewed.length < p.1.cards.length) :
    Turn c p (.move .next) (shown p (p.1.index + 1))
  | finish (hopen : p.1.completed = false) (hseen : p.1.index < p.1.reviewed.length)
      (hall : p.1.cards.length ≤ p.1.reviewed.length) :
    Turn c p (.move .next) (finished p)
  | previous (hindex : 0 < p.1.index) : Turn c p (.move .previous) (shown p (p.1.index - 1))
  | flip : Turn c p (.move .flip) ({ p.1 with flipped := !p.1.flipped }, p.2)
  | hint (granted : Bool) (hhidden : p.1.hintVisible = false) :
    Turn c p (.move .useHint)
      ({ p.1 with hintVisible := granted }, { p.2 with reports := .hint granted :: p.2.reports })
  | clock (time : Float) : Turn c p (.clock time) (p.1, { p.2 with clock := time })
  | ignore {cue : Cue} (h : Ignores p cue) : Turn c p cue p

/-- A cue brings flashcards to their end: the player tells of the last card, or goes on from any
card when the texts for all have been graded. -/
inductive Concludes (s : FlashcardSitting) : Cue → Prop
  | told (known : Bool) (hmode : s.testMode ≠ .typeAnswer) (hnext : s.index = s.reviewed.length)
      (hlast : s.reviewed.length + 1 = s.cards.length) : Concludes s (.move (.mark known))
  | typed (hmode : s.testMode = .typeAnswer) (hall : s.reviewed.length = s.cards.length) :
    Concludes s (.move .next)

/-- What holds at all stages is kept. -/
lemma Turn.sound (h : Turn c p cue q) (hp : Sound c mode cards T p) (hcue : cue.Within T) :
    Sound c mode cards T q := by
  have hlength : p.1.cards.length = cards.length := congrArg List.length hp.presented
  cases h with
  | @mark card known time hopen hmode hcard hnext hmore =>
    have hrecorded := hp.recorded hopen hcard hnext (.told (hp.inMode ▸ hmode) known) time
    have hcount := length_recorded c p card (selfReport known) known time
    exact ⟨hrecorded.shown (by omega) (by omega), fun _ _ =>
      Nat.lt_of_le_of_lt (Nat.le_of_eq hcount) (by omega)⟩
  | @markLast card known time hopen hmode hcard hnext hlast =>
    have hrecorded := hp.recorded hopen hcard hnext (.told (hp.inMode ▸ hmode) known) time
    have hcount := length_recorded c p card (selfReport known) known time
    exact ⟨hrecorded.finished hopen (by omega), nofun⟩
  | type text time hopen hmode htext hcard hnext =>
    have htyped : mode = .typeAnswer := hp.inMode.symm.trans hmode
    have hrecorded := hp.recorded hopen hcard hnext (.typed htyped text) time
    exact ⟨{ hrecorded with }, fun _ htold => absurd htyped htold⟩
  | next hopen hseen hmore =>
    exact ⟨hp.shown (by omega) (by omega), hp.left_of_told⟩
  | finish hopen hseen hall => exact ⟨hp.finished hopen (by omega), nofun⟩
  | previous hindex =>
    have hinside : p.1.index < cards.length := by
      refine hp.inside fun hnone => ?_
      have hle := Nat.le_trans hp.index_le hp.length_le
      rw [hnone, List.length_nil] at hle
      omega
    have hle := hp.index_le
    exact ⟨hp.shown (by omega) (by omega), hp.left_of_told⟩
  | flip => exact { hp with }
  | hint granted hhidden => exact { hp with }
  | clock time => exact { hp with clock := hcue }
  | ignore h => exact hp

/-- A review is reported where a cue reviews the next card, and nowhere else. -/
lemma Turn.answers_ne_iff (h : Turn c p cue q) : answers q.2.reports ≠ answers p.2.reports ↔
    p.1.completed = false ∧ p.1.index = p.1.reviewed.length ∧ Reviews p.1 cue := by
  cases h with
  | mark known time hopen hmode hcard hnext hmore =>
    refine iff_of_true ?_ ⟨hopen, hnext, .told known hmode⟩
    simp [shown, recorded, reviewOf]
  | markLast known time hopen hmode hcard hnext hlast =>
    refine iff_of_true ?_ ⟨hopen, hnext, .told known hmode⟩
    simp [finished, recorded, reviewOf]
  | type text time hopen hmode htext hcard hnext =>
    refine iff_of_true ?_ ⟨hopen, hnext, .typed text hmode htext⟩
    simp [graded, recorded, reviewOf]
  | next hopen hseen hmore => exact iff_of_false (fun h => h rfl) nofun
  | finish hopen hseen hall => exact iff_of_false (by simp [finished]) nofun
  | previous hindex => exact iff_of_false (fun h => h rfl) nofun
  | flip => exact iff_of_false (fun h => h rfl) nofun
  | hint granted hhidden => exact iff_of_false (by simp) nofun
  | clock time => exact iff_of_false (fun h => h rfl) nofun
  | ignore hignores =>
    refine iff_of_false (fun h => h rfl) fun ⟨hopen, hnext, hreviews⟩ => ?_
    have hrefused : p.1.completed = true ∨ p.1.index < p.1.reviewed.length ∨ ¬Reviews p.1 cue := by
      cases hreviews <;> exact hignores
    rcases hrefused with hdone | hseen | hnot
    · exact nomatch hopen.symm.trans hdone
    · omega
    · exact hnot hreviews

/-- The end is reported where a cue brings flashcards to it, and nowhere else. -/
lemma Turn.ends_ne_iff (h : Turn c p cue q) (hp : Sound c mode cards T p) :
    ends q.2.reports ≠ ends p.2.reports ↔ p.1.completed = false ∧ Concludes p.1 cue := by
  have hlength : p.1.cards.length = cards.length := congrArg List.length hp.presented
  have hle := hp.length_le
  cases h with
  | mark known time hopen hmode hcard hnext hmore =>
    refine iff_of_false (fun h => h rfl) fun ⟨_, hend⟩ => ?_
    cases hend with
    | told _ _ _ hlast => omega
  | markLast known time hopen hmode hcard hnext hlast =>
    have hinside := hp.inside (hp.asking hopen)
    refine iff_of_true ?_ ⟨hopen, .told known hmode hnext (by omega)⟩
    simp [finished, recorded, reviewOf]
  | type text time hopen hmode htext hcard hnext => exact iff_of_false (fun h => h rfl) nofun
  | next hopen hseen hmore =>
    refine iff_of_false (fun h => h rfl) fun ⟨_, hend⟩ => ?_
    cases hend with
    | typed _ hall => omega
  | finish hopen hseen hall =>
    have hmode : p.1.testMode = .typeAnswer := by
      by_contra htold
      have hleft := hp.left_of_told hopen (hp.inMode ▸ htold)
      omega
    refine iff_of_true ?_ ⟨hopen, .typed hmode (by omega)⟩
    simp [finished]
  | previous hindex => exact iff_of_false (fun h => h rfl) nofun
  | flip => exact iff_of_false (fun h => h rfl) nofun
  | hint granted hhidden => exact iff_of_false (fun h => h rfl) nofun
  | clock time => exact iff_of_false (fun h => h rfl) nofun
  | ignore hignores =>
    refine iff_of_false (fun h => h rfl) fun ⟨hopen, hend⟩ => ?_
    cases hend with
    | told known hmode hnext hlast =>
      rcases hignores with hdone | hseen | hnot
      · exact nomatch hopen.symm.trans hdone
      · omega
      · exact hnot (.told known hmode)
    | typed hmode hall =>
      have hinside := hp.inside (hp.asking hopen)
      rcases hignores with hdone | hunseen
      · exact nomatch hopen.symm.trans hdone
      · omega

/-! ### Cues -/

/-- Only texts are typed in, and the clock shows only times of some sort. -/
def Typable (T : Float → Prop) : Cue → Prop
  | .move (.submit given) => ∃ text, given = .str text
  | cue => cue.Within T

/-- The player can go back, if that is allowed and there is a card before. -/
lemma yields_previous : (previous c).Yields c (fun _ => Turn c p (.move .previous)) p := by
  have hignores : Ignores p (.move .previous) := .inr (.inr nofun)
  refine yields_unlessCompleted (fun _ => .ignore hignores) fun _ => yields_state_bind ?_
  split
  · exact yields_note (.ignore hignores)
  · split
    case isTrue hindex => exact yields_setState_bind (yields_resetCard (.previous hindex))
    case isFalse => exact yields_pure (.ignore hignores)

section

variable (hids : (cards.map (·.id)).Nodup) (hp : Sound c mode cards T p)

include hids hp

/-- At a sound stage the next card can be told of or typed in. -/
lemma yields_review_of_sound {α : Type} {action : String} {refused : α}
    {x : Flashcard → Script FlashcardSitting α} {Q : α → Stage FlashcardSitting → Prop}
    (hrefused : p.1.completed = true ∨ p.1.index < p.1.reviewed.length → Q refused p)
    (hx : ∀ card, p.1.completed = false → p.1.current? = some card →
      p.1.index = p.1.reviewed.length → (x card).Yields c Q p) :
    (review c action refused x).Yields c Q p := by
  refine yields_review hp.exists_current (fun hdone => hrefused (.inl hdone)) ?_ ?_
  · exact fun card hcard hseen => hrefused (.inr ((hp.isReviewed_iff hids hcard).1 hseen))
  · intro card hopen hcard hnew
    refine hx card hopen hcard (Nat.le_antisymm hp.index_le (Nat.le_of_not_lt fun hseen => ?_))
    rw [(hp.isReviewed_iff hids hcard).2 hseen] at hnew
    cases hnew

/-- At a sound stage the player can go on. -/
lemma yields_next : (next c).Yields c (fun _ => Turn c p (.move .next)) p := by
  refine yields_unlessCompleted (fun hdone => .ignore (.inl hdone)) fun hopen =>
    yields_state_bind ?_
  obtain ⟨card, hcard⟩ := hp.exists_current hopen
  simp only [hcard]
  by_cases hseen : p.1.index < p.1.reviewed.length
  · rw [if_pos ((hp.isReviewed_iff hids hcard).2 hseen)]
    exact yields_advance hopen (Nat.lt_of_le_of_lt hseen) (.finish hopen hseen) (.next hopen hseen)
  · rw [if_neg (mt (hp.isReviewed_iff hids hcard).1 hseen)]
    exact yields_note (.ignore (.inr (Nat.le_of_not_lt hseen)))

variable (hT : Steady T)

include hT

/-- At a sound stage the player can tell of a card. -/
lemma yields_mark (known : Bool) :
    (mark c known).Yields c (fun _ => Turn c p (.move (.mark known))) p := by
  have hfinite : (p.2.clock - p.1.started).isFinite = true := hT.finite _ _ hp.started hp.clock
  refine yields_state_bind ?_
  by_cases hmode : p.1.testMode = .typeAnswer
  · rw [if_pos hmode]
    refine yields_note (.ignore (.inr (.inr fun hreviews => ?_)))
    cases hreviews with
    | told _ htold => exact htold hmode
  · rw [if_neg hmode]
    refine yields_review_of_sound hids hp (fun hrefused => .ignore ?_) ?_
    · exact hrefused.imp_right .inl
    · intro card hopen hcard hnext
      refine yields_bind (yields_record hfinite fun time => ?_)
      refine yields_advance hopen ?_ ?_ ?_ <;> rw [length_recorded]
      · intro hmore
        exact hnext ▸ hmore
      · exact .markLast known time hopen hmode hcard hnext
      · exact .mark known time hopen hmode hcard hnext

/-- At a sound stage a text can be typed in for a card. -/
lemma yields_submit (text : String) :
    (submit c (.str text)).Yields c (fun _ => Turn c p (.move (.submit (.str text)))) p := by
  have hfinite : (p.2.clock - p.1.started).isFinite = true := hT.finite _ _ hp.started hp.clock
  refine yields_state_bind ?_
  by_cases hmode : p.1.testMode = .typeAnswer
  · rw [if_neg (not_not_intro hmode)]
    have hblank (h : Text.isBlankText text = true) : Ignores p (.move (.submit (.str text))) := by
      refine .inr (.inr fun hreviews => ?_)
      cases hreviews with
      | typed _ _ htext => exact nomatch htext.symm.trans h
    split
    case isTrue hempty =>
      obtain rfl : text = "" := by simpa [Value.truthy] using hempty
      exact yields_pure (.ignore (hblank rfl))
    case isFalse =>
      show Script.Yields c _ (if Text.isBlankText text then _ else _) p
      cases htext : Text.isBlankText text with
      | true =>
        rw [if_pos rfl]
        exact yields_pure (.ignore (hblank htext))
      | false =>
        rw [if_neg Bool.false_ne_true]
        refine yields_review_of_sound hids hp (fun hrefused => .ignore ?_) ?_
        · exact hrefused.imp_right .inl
        · intro card hopen hcard hnext
          refine yields_bind (yields_record hfinite fun time => ?_)
          exact yields_change_bind (yields_pure (.type text time hopen hmode htext hcard hnext))
  · rw [if_pos hmode]
    refine yields_note_bind (yields_pure (.ignore (.inr (.inr fun hreviews => ?_))))
    cases hreviews with
    | typed _ htyped _ => exact hmode htyped

/-- At a sound stage every move can be made, if texts are typed in. -/
lemma exists_turn_move {w : Rehearsal} {m : Move} (hw : w.Stands .flashcards c p)
    (hm : Typable T (.move m)) :
    ∃ q v, (follow (.move m)).runIn w = (.ok (), v) ∧ v.Stands .flashcards c q ∧
      Turn c p (.move m) q := by
  cases m with
  | submit given =>
    obtain ⟨text, rfl⟩ := hm
    refine follow_move hw (y := _ <$> submit c (.str text)) rfl (yields_map ?_)
    exact yields_submit hids hp hT text
  | next =>
    refine follow_move hw (y := _ <$> next c) rfl (yields_map ?_)
    exact yields_next hids hp
  | useHint =>
    refine follow_move hw (y := _ <$> useHint) rfl (yields_map ?_)
    exact yields_useHint (.ignore (.inr (.inr nofun))) fun granted _ hhidden => .hint granted hhidden
  | flip =>
    refine follow_move hw (y := _ <$> flip) rfl (yields_map ?_)
    exact yields_state_bind (yields_setState_bind (yields_pure .flip))
  | mark known =>
    refine follow_move hw (y := _ <$> mark c known) rfl (yields_map ?_)
    exact yields_mark hids hp hT known
  | previous =>
    refine follow_move hw (y := _ <$> previous c) rfl (yields_map ?_)
    exact yields_previous
  | _ => exact ⟨p, w, follow_unknown hw rfl, hw, .ignore (.inr (.inr nofun))⟩

end

/-- Flashcards with distinct ids go on from one sound stage to the next. -/
lemma proceeds (hT : Steady T) (hids : (cards.map (·.id)).Nodup) :
    Proceeds .flashcards c (Typable T) (Sound c mode cards T) (Turn c) where
  follow {w p cue} hw hp hcue := by
    cases cue with
    | clock time =>
      obtain ⟨v, hrun, hv⟩ := follow_clock hw time
      exact ⟨_, v, hrun, hv, .clock time⟩
    | second =>
      exact ⟨p, w, follow_second_of_idle hw hp.running, hw, .ignore (.inr (.inr nofun))⟩
    | move m => exact exists_turn_move hids hp hT hw hcue
  sound {p q cue} hp hturn hcue := by
    refine hturn.sound hp ?_
    cases cue with
    | clock time => exact hcue
    | _ => trivial

/-! ### Rehearsals -/

/-- Sitting down to flashcards, the cards are put into some order and the first of them is shown. -/
lemma exists_create (c : Setting) (deck : Flashcards) (started : Float) (dice : Dice) :
    ∃ cards, cards.Perm deck.cards ∧
      (c.config.shuffleContent = false → cards = deck.cards) ∧
      (StateT.run (create c deck started) dice).1 =
        ⟨⟨false, started⟩, cards, deck.testMode, 0, false, [], false, none, false⟩ := by
  unfold create
  split_ifs with hshuffle
  · exact ⟨_, Dice.perm_shuffle _ dice, fun h => absurd hshuffle (by simp [h]), rfl⟩
  · exact ⟨_, .refl _, fun _ => rfl, rfl⟩

/-- Flashcards begin with the first card, or end at once if there is none. -/
lemma yields_enter (hT : Steady T) {throws : Nat → Float} : (enter c).Yields c
    (fun _ p => Sound c mode cards T p ∧ (ends p.2.reports = 1 ↔ cards = []))
    (⟨⟨false, 0⟩, cards, mode, 0, false, [], false, none, false⟩, ⟨0, [], none, throws⟩) := by
  refine yields_state_bind ?_
  cases cards with
  | nil =>
    simp only [List.isEmpty_nil, if_true]
    refine yields_note_bind (yields_complete rfl ⟨?_, by simp [ends]⟩)
    exact {
      clock := hT.zero
      started := hT.zero
      running := rfl
      presented := rfl
      inMode := rfl
      reviewed := rfl
      answered := .nil
      index_le := Nat.le_refl 0
      inside := fun h => absurd rfl h
      asking := by simp
      all_reviewed := fun _ => rfl
      ended := rfl
      left_of_told := by simp }
  | cons card rest =>
    simp only [List.isEmpty_cons, Bool.false_eq_true, if_false]
    refine yields_pure ⟨?_, by simp [ends]⟩
    exact {
      clock := hT.zero
      started := hT.zero
      running := rfl
      presented := rfl
      inMode := rfl
      reviewed := rfl
      answered := .nil
      index_le := Nat.le_refl 0
      inside := fun _ => Nat.zero_lt_succ _
      asking := by simp
      all_reviewed := by simp
      ended := rfl
      left_of_told := fun _ _ => Nat.zero_lt_succ _ }

/-! ### The conduct of flashcards -/

/-- What can be seen of flashcards that are played. -/
structure Standing (c : Setting) (mode : TestMode) (cards : List Flashcard) (w : Rehearsal)
    (s : FlashcardSitting) : Prop where
  player : w.player = .flashcards s
  presented : s.cards = cards
  inMode : s.testMode = mode
  /-- The reviewed cards are the first of the deck. -/
  reviewed : s.reviewed.map (·.1) = (cards.take s.reviewed.length).map (·.id)
  index_le : s.index ≤ s.reviewed.length
  inside : cards ≠ [] → s.index < cards.length
  /-- These cards have been reported, each once and one after the other. -/
  answered : List.Forall₂ (IsReviewOf c mode) (cards.take s.reviewed.length) (answers w.reports)
  ended : ends w.reports = if s.completed then 1 else 0
  all_reviewed : s.completed = true → s.reviewed.length = cards.length

/-- How flashcards are conducted, the cards being shown in some order, while cues of some sort are
followed. -/
structure Conduct (c : Setting) (mode : TestMode) (cards : List Flashcard) (A : Cue → Prop)
    (w : Rehearsal) : Prop where
  begins : (Rehearsal.enter.runIn w).1 = .ok ()
  follows : ∀ {cues cue}, (∀ cue ∈ cues, A cue) → A cue →
    ((follow cue).runIn (w.rehearsed cues)).1 = .ok ()
  standing : ∀ {cues}, (∀ cue ∈ cues, A cue) →
    ∃ s, Standing c mode cards (w.rehearsed cues) s
  /-- The next card is reviewed while it is shown, and no card is reviewed otherwise. -/
  reviews_by : ∀ {cues cue s}, (∀ cue ∈ cues, A cue) → A cue →
    (w.rehearsed cues).player = .flashcards s →
    (answers (w.rehearsed (cues ++ [cue])).reports ≠ answers (w.rehearsed cues).reports ↔
      s.completed = false ∧ s.index = s.reviewed.length ∧ Reviews s cue)
  ends_at_once : ends (w.rehearsed []).reports = 1 ↔ cards = []
  /-- The end is reported with the last card of which the player tells, or by going on once the
  texts for all cards have been graded, and by nothing else. -/
  ends_by : ∀ {cues cue s}, (∀ cue ∈ cues, A cue) → A cue →
    (w.rehearsed cues).player = .flashcards s →
    (ends (w.rehearsed (cues ++ [cue])).reports ≠ ends (w.rehearsed cues).reports ↔
      s.completed = false ∧ Concludes s cue)

/-- At a sound stage of a rehearsal flashcards stand as they should. -/
lemma Sound.standing {w : Rehearsal} (hp : Sound c mode cards T p)
    (hw : w.Stands .flashcards c p) : Standing c mode cards w p.1 :=
  { hp with
    player := hw.player
    answered := hw.reports ▸ hp.answered
    ended := hw.reports ▸ hp.ended }

/-- Flashcards with distinct ids can be begun, and whatever the player does they are conducted as
they should be: the cards are reviewed in the order in which they are shown, each once, however the
player goes back and on, and the end is reported when all have been reviewed. -/
theorem conduct_of_distinct (hkind : c.kind = .flashcards) {deck : Flashcards}
    (hids : (deck.cards.map (·.id)).Nodup) (hT : Steady T) (dice : Dice) (plain : Bool)
    (hints : Int) (circumstances : Circumstances) :
    ∃ w cards, Rehearsal.create c (.flashcards deck) dice plain hints circumstances = .ok w ∧
      cards.Perm deck.cards ∧ (c.config.shuffleContent = false → cards = deck.cards) ∧
      Conduct c deck.testMode cards (Typable T) w := by
  obtain ⟨cards, hperm, hdeclared, hcreate⟩ := exists_create c deck 0 dice
  obtain ⟨later, hsit⟩ : ∃ later, (Player.sitDown c (.flashcards deck) 0).runIn dice =
      (.ok (.flashcards ⟨⟨false, 0⟩, cards, deck.testMode, 0, false, [], false, none, false⟩),
        later) := by
    unfold Player.sitDown
    rw [hkind, ← hcreate]
    exact ⟨_, rfl⟩
  obtain ⟨w, hw, hbegins, p, hbegun, hp, hnone⟩ :=
    exists_begun hsit rfl (yields_enter hT) plain hints circumstances
  have hgo : Proceeds .flashcards c (Typable T) (Sound c deck.testMode cards T) (Turn c) :=
    proceeds hT ((hperm.map _).nodup_iff.2 hids)
  refine ⟨w, cards, hw, hperm, hdeclared, ?_⟩
  exact {
    begins := hbegins
    follows := fun hcues hcue => by
      obtain ⟨q, r, -, -, hok, -⟩ := hgo.onward hbegun hp hcues hcue
      exact hok
    standing := fun hcues => by
      obtain ⟨q, hq, hsound, -⟩ := hgo.passes hbegun hp hcues
      exact ⟨q.1, hsound.standing hq⟩
    reviews_by := fun hcues hcue hs => by
      obtain ⟨q, r, hq, -, -, hr, hturn⟩ := hgo.onward hbegun hp hcues hcue
      obtain rfl := hq.state_eq Player.flashcards.inj hs
      rw [hq.reports, hr.reports]
      exact hturn.answers_ne_iff
    ends_at_once := hbegun.reports ▸ hnone
    ends_by := fun hcues hcue hs => by
      obtain ⟨q, r, hq, hsound, -, hr, hturn⟩ := hgo.onward hbegun hp hcues hcue
      obtain rfl := hq.state_eq Player.flashcards.inj hs
      rw [hq.reports, hr.reports]
      exact hturn.ends_ne_iff hsound }

/-- The setting of flashcards with which one can go back. -/
def patient : Setting :=
  ⟨"s1", .flashcards,
    ⟨"flashcards", [], 0, 0, true, true, true, 3, 0, false, "immediate", true⟩, 10, 5⟩

/-- Two cards of which the backs are typed in. -/
def twoCards : Flashcards :=
  ⟨[⟨"card1", ⟨"one", none⟩, ⟨"eins", none⟩, none, none⟩,
    ⟨"card2", ⟨"two", none⟩, ⟨"zwei", none⟩, none, none⟩], .typeAnswer⟩

/-- When both of two cards have been graded, going on from the first of them brings the end. -/
theorem conduct_of_twoCards :
    ∃ w, Rehearsal.create patient (.flashcards twoCards) ⟨fun _ => 0, 0⟩ true 3 nothing = .ok w ∧
      (twoCards.cards.map (·.id)).Nodup ∧
      Conduct patient .typeAnswer twoCards.cards (Typable fun t => t = 0 ∨ t = 1) w ∧
      ends (w.rehearsed [.move (.submit "eins"), .move .next, .move (.submit "drei"),
        .move .previous]).reports = 0 ∧
      ends (w.rehearsed [.move (.submit "eins"), .move .next, .move (.submit "drei"),
        .move .previous, .move .next]).reports = 1 := by
  have hids : (twoCards.cards.map (·.id)).Nodup := by decide
  obtain ⟨w, cards, hw, -, hdeclared, hconduct⟩ := conduct_of_distinct (c := patient) rfl hids
    steady_zero_or_one ⟨fun _ => 0, 0⟩ true 3 nothing
  refine ⟨w, hw, hids, hdeclared rfl ▸ hconduct, ?_⟩
  cases hw
  decide +kernel

end LearningGame.Play.FlashcardSitting
