import LearningGame.Proofs.Completion.Again.Quiz
import LearningGame.Rules.Grading
import Mathlib.Data.Multiset.ZeroCons
import Mathlib.Data.List.Dedup

/-!
# Which answers are graded right

Options are chosen by their indices or by their ids, which stand for the indices. The answer key of
a question is compared as it is: an id in it stands for nothing, and no answer is equal to it. Of
several options as many have to be chosen as the key has indices, and each of these among them,
which is a rearrangement of the key unless an index is repeated in it.
-/

namespace LearningGame

open Schema RecordOf Content Completion

namespace Rules

variable {q : QuizQuestion}

/-! ### Indices -/

@[simp] lemma same_int_iff (n m : Int) : (Value.int n).same (.int m) = true ↔ n = m := by
  simp [Value.same, Value.number?, Number.same, Number.compare?]

/-- A float is equal to one integer at most. -/
lemma eq_of_compareInt {x : Float} {n m : Int} (hn : Number.compareInt n x = some .eq)
    (hm : Number.compareInt m x = some .eq) : n = m := by
  unfold Number.compareInt at hn hm
  cases hparts : Number.parts x with
  | nan => simp [hparts] at hn
  | infinite negative => cases negative <;> simp [hparts] at hn
  | finite negative mantissa e =>
    simp only [hparts, Option.some.injEq, Std.compare_eq_iff_eq] at hn hm
    have hdown : ((Number.powerOfTwo e).2 : Int) ≠ 0 := by
      unfold Number.powerOfTwo
      split_ifs
      · simp
      · exact Int.natCast_ne_zero.2 (Nat.two_pow_pos _).ne'
    exact Int.eq_of_mul_eq_mul_right hdown (hn.trans hm.symm)

/-- A value is equal to one integer at most. -/
lemma eq_of_same_int {v : Value} {n m : Int} (hn : v.same (.int n) = true)
    (hm : v.same (.int m) = true) : n = m := by
  cases v with
  | float x =>
    have hcompare {k : Int} (hk : (Value.float x).same (.int k) = true) :
        Number.compareInt k x = some .eq := by
      simpa [Value.same, Value.number?, Number.same, Number.compare?, Ordering.swap_eq_eq] using hk
    exact eq_of_compareInt (hcompare hn) (hcompare hm)
  | int k => exact ((same_int_iff k n).1 hn).symm.trans ((same_int_iff k m).1 hm)
  | bool b =>
    have hint {k : Int} (hk : (Value.bool b).same (.int k) = true) : (if b then 1 else 0) = k :=
      (same_int_iff _ _).1 hk
    exact (hint hn).symm.trans (hint hm)
  | _ => cases hn

/-! ### Chosen options -/

/-- The id of an option stands for its index. -/
lemma chosenIndex_id (hids : (q.options.map (·.id)).Nodup) {i : Nat} (hi : i < q.options.length) :
    chosenIndex q (.str q.options[i].id) = .int i := by
  have hfind : q.options.findIdx? (·.id == q.options[i].id) = some i := by
    rw [List.findIdx?_eq_some_iff_getElem]
    refine ⟨hi, by simp, fun j hj => ?_⟩
    have hne := List.pairwise_iff_getElem.1 hids j i (by simp; omega) (by simpa) hj
    simpa using hne
  simp only [chosenIndex, hfind]

/-- No choice is equal to a text that is the id of an option. -/
lemma chosenIndex_ne_id {o : QuizOption} (ho : o ∈ q.options) (answer : Value) :
    (chosenIndex q answer).same (.str o.id) = false := by
  cases answer with
  | str s =>
    cases hfind : q.options.findIdx? (·.id == s) with
    | some i => simp only [chosenIndex, hfind, Value.same, Value.number?, Option.map_none,
        Option.getD_none]
    | none =>
      have hne : o.id ≠ s := by simpa using List.findIdx?_eq_none_iff.1 hfind o ho
      simpa only [chosenIndex, hfind, Value.same, beq_eq_false_iff_ne] using hne.symm
  | _ => rfl

/-! ### One right option -/

/-- Where one option is to be chosen, the choice has to be equal to the answer key. -/
lemma isCorrect_eq_same (hkind : q.kind = .singleChoice ∨ q.kind = .trueFalse) (answer : Value) :
    isCorrect q answer = (chosenIndex q answer).same q.answerKey.toValue := by
  have hnull : Value.null.same q.answerKey.toValue = false := by
    cases q.answerKey <;> rfl
  rcases hkind with hkind | hkind <;>
  · unfold isCorrect
    rw [hkind]
    cases answer with
    | null => exact hnull.symm
    | _ => rfl

/-- The index that a question of some kind takes an answer for: an integer is one, and a text only
if it is one of the two words of a yes-or-no question. -/
def takenIndex? (kind : QuestionKind) : Value → Option Int
  | .int n => some n
  | .str s =>
    if kind = .trueFalse then
      if folded s = "true" then some 0 else if folded s = "false" then some 1 else none
    else none
  | _ => none

/-- An answer names an option: by its index, or by its id. -/
inductive Names (q : QuizQuestion) (i : Nat) : Value → Prop
  | index : Names q i (.int i)
  | id (h : i < q.options.length) : Names q i (.str q.options[i].id)

/-- The answer key of a question that was filled is read from the answer that was given. -/
lemma read_answer_of_fillQuestion {points : Int} {m filled : Fields} {n : Nat}
    (hfill : (fillQuestion points m n).result = .ok filled)
    (hread : QuizQuestion.codec.read (.map filled) = .valid q) :
    AnswerKey.read (answerFor q.kind (m.get "correctAnswer")) = .valid q.answerKey := by
  obtain ⟨named, hnamed⟩ : ∃ named, fillText (fillId m ("q" ++ toString n)) "question" = named :=
    ⟨_, rfl⟩
  have hanswer : named.get "correctAnswer" = m.get "correctAnswer" := by
    simp [← hnamed, Fields.get_eq, find?_fillText, find?_fillId]
  rw [fillQuestion_eq points m n hnamed rfl, fillWhole_eq_ok, hanswer] at hfill
  obtain ⟨k, -, rfl⟩ := hfill
  obtain ⟨-, hkind, -, hkey⟩ :=
    QuizQuestion.of_read hread (by simp; rfl) (by simp; rfl) (by simp; rfl)
  rw [hkind]
  exact hkey

/-- A text that is taken for an index is replaced by it, and kept as it is otherwise. -/
lemma answerFor_str {kind : QuestionKind} (hkind : kind = .singleChoice ∨ kind = .trueFalse)
    (s : String) :
    answerFor kind (.str s) = ((takenIndex? kind (.str s)).map Value.int).getD (.str s) := by
  rcases hkind with rfl | rfl
  · rfl
  · by_cases htrue : folded s = "true"
    · simp [answerFor, rawAnswer, truthIndex, takenIndex?, htrue, Value.isNull, fitAnswer,
        optionIndex?]
    · by_cases hfalse : folded s = "false" <;>
        simp [answerFor, rawAnswer, truthIndex, takenIndex?, htrue, hfalse, Value.isNull, fitAnswer,
          optionIndex?]

/-- The answer key of a question with one right option is the index that its answer is taken for, or
the text that is taken for none. -/
lemma answerKey_eq {v : Value} (hkind : q.kind = .singleChoice ∨ q.kind = .trueFalse)
    (hkey : AnswerKey.read (answerFor q.kind v) = .valid q.answerKey) :
    (∀ n, takenIndex? q.kind v = some n → q.answerKey = .index n) ∧
      ∀ s, v = .str s → takenIndex? q.kind v = none → q.answerKey = .text s := by
  have hstr {s : String} (hv : v = .str s) :
      AnswerKey.read (((takenIndex? q.kind v).map Value.int).getD (.str s)) =
        .valid q.answerKey := by
    rw [hv] at hkey ⊢
    rwa [answerFor_str hkind] at hkey
  refine ⟨fun n hn => ?_, fun s hs hnone => ?_⟩
  · cases v with
    | int k =>
      have hint : answerFor q.kind (.int k) = .int k := by
        rcases hkind with h | h <;> rw [h] <;> rfl
      rw [hint] at hkey
      cases hn
      exact (Checked.valid.inj hkey).symm
    | str s =>
      have hread := hstr rfl
      rw [hn] at hread
      exact (Checked.valid.inj hread).symm
    | _ => cases hn
  · have hread := hstr hs
    rw [hnone] at hread
    exact (Checked.valid.inj hread).symm

/-- A question of which the answer names an option grades this option right, chosen by its index or
its id, just if the answer is taken for its index. Otherwise some other option is, or nothing at
all. -/
theorem isCorrect_of_names {points : Int} {m filled : Fields} {n i : Nat}
    (hfill : (fillQuestion points m n).result = .ok filled)
    (hread : QuizQuestion.codec.read (.map filled) = .valid q)
    (hkind : q.kind = .singleChoice ∨ q.kind = .trueFalse)
    (hids : (q.options.map (·.id)).Nodup) (hi : i < q.options.length)
    (hnames : Names q i (m.get "correctAnswer")) :
    (isCorrect q (.int i) = true ∧ isCorrect q (.str q.options[i].id) = true ↔
      takenIndex? q.kind (m.get "correctAnswer") = some (i : Int)) ∧
    (∀ j (hj : j < q.options.length), isCorrect q (.str q.options[j].id) = isCorrect q (.int j)) ∧
    (∀ k, takenIndex? q.kind (m.get "correctAnswer") = some k →
      ∀ j, isCorrect q (.int j) = true ↔ j = k) ∧
    (takenIndex? q.kind (m.get "correctAnswer") = none →
      ∀ answer, isCorrect q answer = false) := by
  obtain ⟨htaken, htext⟩ := answerKey_eq hkind (read_answer_of_fillQuestion hfill hread)
  have hid {j : Nat} (hj : j < q.options.length) :
      isCorrect q (.str q.options[j].id) = isCorrect q (.int j) := by
    rw [isCorrect_eq_same hkind, isCorrect_eq_same hkind, chosenIndex_id hids hj]
    rfl
  have hindex {k : Int} (hk : takenIndex? q.kind (m.get "correctAnswer") = some k) (j : Int) :
      isCorrect q (.int j) = true ↔ j = k := by
    rw [isCorrect_eq_same hkind, htaken k hk]
    exact same_int_iff j k
  have hnothing (hnone : takenIndex? q.kind (m.get "correctAnswer") = none) (answer : Value) :
      isCorrect q answer = false := by
    generalize hv : m.get "correctAnswer" = v at hnames hnone htext
    cases hnames with
    | index => cases hnone
    | id h =>
      rw [isCorrect_eq_same hkind, htext _ rfl hnone]
      exact chosenIndex_ne_id (List.getElem_mem h) answer
  refine ⟨?_, fun j hj => hid hj, fun k hk => hindex hk, hnothing⟩
  rw [hid hi, and_self]
  cases hk : takenIndex? q.kind (m.get "correctAnswer") with
  | none => simp [hnothing hk]
  | some k => simp [hindex hk, eq_comm]

/-- The entries of a yes-or-no question with ids of its own. -/
def yesOrNo : Fields :=
  [("question", "Is it?"), ("questionType", "true-false"),
    ("options",
      .list [.map [("id", "true"), ("text", "Yes")], .map [("id", "false"), ("text", "No")]]),
    ("correctAnswer", "false")]

/-- That question as it is asked. Its answer is the second word, and also the id of the option. -/
def yesOrNoAsked : QuizQuestion :=
  ⟨"q1", "Is it?", none, .trueFalse, [⟨"true", "Yes", none⟩, ⟨"false", "No", none⟩], .index 1, none,
    none, 10, none⟩

theorem isCorrect_of_yesOrNo :
    ∃ filled, (fillQuestion 10 yesOrNo 1).result = .ok filled ∧
      QuizQuestion.codec.read (.map filled) = .valid yesOrNoAsked ∧
      (yesOrNoAsked.options.map (·.id)).Nodup ∧
      Names yesOrNoAsked 1 (yesOrNo.get "correctAnswer") ∧
      isCorrect yesOrNoAsked (.int 1) = true ∧ isCorrect yesOrNoAsked (.str "false") = true := by
  obtain ⟨filled, hfill, hread⟩ : ∃ filled, (fillQuestion 10 yesOrNo 1).result = .ok filled ∧
      QuizQuestion.codec.read (.map filled) = .valid yesOrNoAsked := ⟨_, rfl, rfl⟩
  have hids : (yesOrNoAsked.options.map (·.id)).Nodup := by decide
  have hnames : Names yesOrNoAsked 1 (yesOrNo.get "correctAnswer") := .id (by decide)
  obtain ⟨hright, -⟩ := isCorrect_of_names hfill hread (.inr rfl) hids (by decide) hnames
  exact ⟨filled, hfill, hread, hids, hnames, hright.2 (by decide +kernel)⟩

/-- The entries of a question that names its answer by the id of an option. -/
def answeredById : Fields :=
  [("question", "Which?"), ("options", .list ["one", "other"]), ("correctAnswer", "opt1")]

/-- That question as it is asked. -/
def askedById : QuizQuestion :=
  ⟨"q1", "Which?", none, .singleChoice, [⟨"opt0", "one", none⟩, ⟨"opt1", "other", none⟩],
    .text "opt1", none, none, 10, none⟩

/-- A question that names its answer by the id of an option cannot be answered right by it. -/
theorem not_isCorrect_of_answeredById :
    ∃ filled, (fillQuestion 10 answeredById 1).result = .ok filled ∧
      QuizQuestion.codec.read (.map filled) = .valid askedById ∧
      (askedById.options.map (·.id)).Nodup ∧
      Names askedById 1 (answeredById.get "correctAnswer") ∧
      ¬(isCorrect askedById (.int 1) = true ∧ isCorrect askedById (.str "opt1") = true) :=
  ⟨_, rfl, rfl, by decide, .id (by decide), by decide⟩

/-! ### Several right options -/

/-- Whether values are integers in some other order, by the equality of values. -/
def IsRearrangement (chosen : List Value) (ns : List Int) : Prop :=
  Multiset.Rel (fun (c : Value) (n : Int) => c.same (.int n) = true) chosen ns

/-- If every element of a multiset without repetitions is met, and none of as many others meets two,
then each of these meets one of its own. -/
lemma rel_of_card_eq {α β : Type} {R : α → β → Prop} (hR : ∀ a b b', R a b → R a b' → b = b')
    {s : Multiset α} {t : Multiset β} (ht : t.Nodup) (hcard : s.card = t.card)
    (hmet : ∀ b ∈ t, ∃ a ∈ s, R a b) : Multiset.Rel R s t := by
  induction t using Multiset.induction generalizing s with
  | empty =>
    rw [Multiset.card_zero, Multiset.card_eq_zero] at hcard
    rw [hcard]
    exact .zero
  | cons b t ih =>
    obtain ⟨hb, ht⟩ := Multiset.nodup_cons.1 ht
    obtain ⟨a, ha, hab⟩ := hmet b (Multiset.mem_cons_self b t)
    obtain ⟨rest, rfl⟩ := Multiset.exists_cons_of_mem ha
    rw [Multiset.card_cons, Multiset.card_cons, Nat.add_right_cancel_iff] at hcard
    refine .cons hab (ih ht hcard fun b' hb' => ?_)
    obtain ⟨a', ha', hab'⟩ := hmet b' (Multiset.mem_cons_of_mem hb')
    rcases Multiset.mem_cons.1 ha' with rfl | ha'
    · exact absurd (hR a' b b' hab hab' ▸ hb') hb
    · exact ⟨a', ha', hab'⟩

section

variable {ns : List Int} (hkind : q.kind = .multipleChoice) (hkey : q.answerKey = .indices ns)

include hkind hkey

/-- Several options are chosen rightly if they are as many as the indices of the key and each of
these is among them. -/
lemma isCorrect_list_iff (answers : List Value) :
    isCorrect q (.list answers) = true ↔ answers.length = ns.length ∧
      ∀ n ∈ ns, ∃ a ∈ answers, (chosenIndex q a).same (.int n) = true := by
  unfold isCorrect
  rw [hkind]
  simp [isChoiceCorrect, hkey, AnswerKey.parts]

lemma isCorrect_of_isRearrangement {answers : List Value}
    (h : IsRearrangement (answers.map (chosenIndex q)) ns) :
    isCorrect q (.list answers) = true := by
  rw [isCorrect_list_iff hkind hkey]
  refine ⟨by simpa using Multiset.card_eq_card_of_rel h, fun n hn => ?_⟩
  obtain ⟨c, hc, hsame⟩ := Multiset.exists_mem_of_rel_of_mem (Multiset.rel_flip.2 h) hn
  obtain ⟨a, ha, rfl⟩ := List.mem_map.1 (Multiset.mem_coe.1 hc)
  exact ⟨a, ha, hsame⟩

lemma isRearrangement_of_isCorrect (hns : ns.Nodup) {answers : List Value}
    (h : isCorrect q (.list answers) = true) :
    IsRearrangement (answers.map (chosenIndex q)) ns := by
  obtain ⟨hlength, hall⟩ := (isCorrect_list_iff hkind hkey answers).1 h
  have hcard : (answers.map (chosenIndex q) : Multiset Value).card = (ns : Multiset Int).card := by
    simpa using hlength
  refine rel_of_card_eq (fun c _ _ => eq_of_same_int (v := c)) (Multiset.coe_nodup.2 hns) hcard
    fun n hn => ?_
  obtain ⟨a, ha, hsame⟩ := hall n (Multiset.mem_coe.1 hn)
  exact ⟨_, Multiset.mem_coe.2 (List.mem_map_of_mem ha), hsame⟩

/-- If an index is repeated in the key, something else can be chosen in its place. -/
lemma exists_isCorrect_null (hns : ¬ns.Nodup) :
    ∃ answers, isCorrect q (.list answers) = true ∧ Value.null ∈ answers := by
  have hle : ns.dedup.length ≤ ns.length := ns.dedup_sublist.length_le
  have hlt : ns.dedup.length < ns.length := by
    refine Nat.lt_of_le_of_ne hle fun heq => hns ?_
    rw [← ns.dedup_sublist.eq_of_length heq]
    exact ns.nodup_dedup
  refine ⟨ns.dedup.map .int ++ List.replicate (ns.length - ns.dedup.length) .null, ?_, ?_⟩
  · rw [isCorrect_list_iff hkind hkey]
    refine ⟨by simp; omega, fun n hn => ⟨.int n, ?_, (same_int_iff n n).2 rfl⟩⟩
    exact List.mem_append_left _ (List.mem_map_of_mem (List.mem_dedup.2 hn))
  · exact List.mem_append_right _ (List.mem_replicate.2 ⟨by omega, rfl⟩)

/-- Several options are chosen rightly if they are as many as the indices of the key and each of
these is among them. That is a rearrangement of the key, with no wrong index in it, for all choices
just if no index is repeated in the key. -/
theorem isCorrect_list_of_indices :
    (∀ answers, isCorrect q (.list answers) = true ↔ answers.length = ns.length ∧
      ∀ n ∈ ns, ∃ a ∈ answers, (chosenIndex q a).same (.int n) = true) ∧
    (ns.Nodup → ∀ answers,
      (isCorrect q (.list answers) = true ↔
        IsRearrangement (answers.map (chosenIndex q)) ns) ∧
      (isCorrect q (.list answers) = true →
        ∀ a ∈ answers, ∃ n ∈ ns, (chosenIndex q a).same (.int n) = true)) ∧
    (¬ns.Nodup → ∃ answers, isCorrect q (.list answers) = true ∧
      ¬IsRearrangement (answers.map (chosenIndex q)) ns) := by
  have hmet {answers : List Value} (h : IsRearrangement (answers.map (chosenIndex q)) ns)
      {a : Value} (ha : a ∈ answers) : ∃ n ∈ ns, (chosenIndex q a).same (.int n) = true :=
    Multiset.exists_mem_of_rel_of_mem h (Multiset.mem_coe.2 (List.mem_map_of_mem ha))
  refine ⟨isCorrect_list_iff hkind hkey, fun hns answers => ⟨⟨?_, ?_⟩, fun h a ha => ?_⟩,
    fun hns => ?_⟩
  · exact isRearrangement_of_isCorrect hkind hkey hns
  · exact isCorrect_of_isRearrangement hkind hkey
  · exact hmet (isRearrangement_of_isCorrect hkind hkey hns h) ha
  · obtain ⟨answers, hcorrect, hnull⟩ := exists_isCorrect_null hkind hkey hns
    refine ⟨answers, hcorrect, fun h => ?_⟩
    obtain ⟨n, -, hsame⟩ := hmet h hnull
    cases hsame

end

/-- The entries of a question with several right options. -/
def withAnswer (answer : Value) : Fields :=
  [("question", "Which?"), ("questionType", "multiple-choice"),
    ("options", .list ["one", "other", "third"]), ("correctAnswer", answer)]

/-- That question as it is asked. -/
def askedWith (ns : List Int) : QuizQuestion :=
  ⟨"q1", "Which?", none, .multipleChoice,
    [⟨"opt0", "one", none⟩, ⟨"opt1", "other", none⟩, ⟨"opt2", "third", none⟩], .indices ns, none,
    none, 10, none⟩

/-- A question that is filled has the indices of the list, and an option chosen by its id is in its
place among the others. -/
theorem isCorrect_list_of_twoIndices :
    ∃ filled, (fillQuestion 10 (withAnswer (.list [.int 0, .int 2])) 1).result = .ok filled ∧
      QuizQuestion.codec.read (.map filled) = .valid (askedWith [0, 2]) ∧
      isCorrect (askedWith [0, 2]) (.list ["opt2", .int 0]) = true ∧
      IsRearrangement ([.str "opt2", .int 0].map (chosenIndex (askedWith [0, 2]))) [0, 2] := by
  obtain ⟨hiff, hnodup, -⟩ := isCorrect_list_of_indices (q := askedWith [0, 2]) rfl rfl
  have hcorrect : isCorrect (askedWith [0, 2]) (.list ["opt2", .int 0]) = true :=
    (hiff _).2 (by decide)
  exact ⟨_, rfl, rfl, hcorrect, ((hnodup (by decide) _).1.1 hcorrect)⟩

/-- A choice with a wrong index is right if the key repeats a right one. -/
theorem not_isRearrangement_of_repeated :
    ∃ filled, (fillQuestion 10 (withAnswer (.list [.int 0, .int 0])) 1).result = .ok filled ∧
      QuizQuestion.codec.read (.map filled) = .valid (askedWith [0, 0]) ∧
      isCorrect (askedWith [0, 0]) (.list [.int 0, .int 1]) = true ∧
      ¬IsRearrangement ([.int 0, .int 1].map (chosenIndex (askedWith [0, 0]))) [0, 0] := by
  refine ⟨_, rfl, rfl, by decide, fun h => ?_⟩
  obtain ⟨n, hn, hsame⟩ :=
    Multiset.exists_mem_of_rel_of_mem h (a := .int 1) (by simp [chosenIndex])
  obtain rfl := (same_int_iff 1 n).1 hsame
  simp at hn

end Rules

end LearningGame
