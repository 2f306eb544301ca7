import LearningGame.Proofs.Completion.Again.Challenge
import LearningGame.Proofs.Play.Challenging

/-!
# Prompts and the answers their authors wrote

The answer that is written beside a prompt is kept as it is if it is a number or a text that is not
blank, so that it is itself the right answer. A truth value is not kept: it becomes one or zero, and
is wrong where it is written itself.
-/

namespace LearningGame

open Schema RecordOf Content Completion Rules

/-- Whether a value is a truth value. -/
def Value.IsTruth (v : Value) : Prop := ∃ b, v = .bool b

namespace Content

/-- What an author may write as the answer to a prompt. -/
inductive IsWritten : Value → Prop
  | truth (b : Bool) : IsWritten (.bool b)
  | int (n : Int) : IsWritten (.int n)
  | float {x : Float} (h : x.isFinite = true) : IsWritten (.float x)
  | text {s : String} (h : Text.isBlankText s = false) : IsWritten (.str s)

lemma IsWritten.isNull {v : Value} (h : IsWritten v) : v.isNull = false := by
  cases h <;> rfl

/-- A number and a text stay what they are when they are read as an answer. -/
lemma ShortAnswer.toValue_of_read {v : Value} {a : ShortAnswer} (hread : read v = .valid a)
    (hwritten : IsWritten v) (hv : ¬v.IsTruth) : a.toValue = v := by
  cases hwritten with
  | truth b => exact absurd ⟨b, rfl⟩ hv
  | int | float | text =>
    cases hread
    rfl

/-- The prompt that is read from a filled one has the answer that was written. -/
lemma ChallengeItem.read_answer_of_fillPrompt {points : Int} {m filled : Fields} {n : Nat}
    {item : ChallengeItem} (hfill : (fillPrompt points m n).result = .ok filled)
    (hread : codec.read (.map filled) = .valid item)
    (hwritten : (m.get "correctAnswer").isNull = false) :
    ShortAnswer.read (m.get "correctAnswer") = .valid item.answer := by
  obtain ⟨v, hv⟩ : ∃ v, m.find? "correctAnswer" = some v := by
    cases hfind : m.find? "correctAnswer" with
    | none =>
      rw [Fields.get_eq, hfind] at hwritten
      cases hwritten
    | some v => exact ⟨v, rfl⟩
  have hget : m.get "correctAnswer" = v := by rw [Fields.get_eq, hv, Option.getD_some]
  rw [hget] at hwritten ⊢
  have hfound : filled.find? "correctAnswer" = some v := by
    obtain ⟨k, -, rfl⟩ := (fillWhole_eq_ok _ _ _ _).mp hfill
    simp [Fields.get_eq, find?_fillText, find?_fillId, hv, hwritten]
  simp only [codec, read_codec_eq_valid, readsAs_apply, readsAs_build, required,
    read_field_of_find? _ _ hfound, Value.map.injEq, exists_eq_left'] at hread
  obtain ⟨-, -, -, -, answer, hanswer, -, -, -, -, -, -, rfl⟩ := hread
  exact hanswer

end Content

namespace Rules

lemma sameAnswer_self (s : String) : sameAnswer s s = true := beq_self_eq_true _

/-- What is written beside a prompt is the right answer to it unless it is a truth value. -/
lemma sameAnswer_of_read {v : Value} {a : ShortAnswer} (hread : ShortAnswer.read v = .valid a)
    (hwritten : IsWritten v) : sameAnswer v.text a.toValue.text = true ↔ ¬v.IsTruth := by
  refine ⟨?_, fun hv => ?_⟩
  · rintro hsame ⟨b, rfl⟩
    cases hread
    revert hsame
    cases b <;> decide +kernel
  · rw [ShortAnswer.toValue_of_read hread hwritten hv]
    exact sameAnswer_self _

end Rules

namespace Play.ChallengeSitting

open Rehearsal
open Number (IsSmall)

variable {c : Setting} {z : Challenge} {T : Float → Prop} {p : Stage ChallengeSitting}
  {item : ChallengeItem} {v : Value}

/-- An answer to the prompt that is asked tells whether it is the right one. -/
lemma gives_answer {w : Rehearsal} (hT : Steady T) (hz : IsPriced z) (hw : w.Stands .challenge c p)
    (hp : Sound z T p) (hopen : p.1.won = none) (hitem : p.1.current? = some item)
    (hblank : isBlank v = false) :
    w.Gives (.answer v) (.bool (sameAnswer v.text item.answer.toValue.text)) := by
  have hyields := yields_answer (c := c) (v := v) (hp.presented ▸ hz) (hp.presented ▸ hp.asking)
    hp.ended hp.alarm_eq (hT.finite _ _ hp.started hp.clock)
  obtain ⟨-, -, -, -, hgives, -, rfl⟩ := follow_move_gives (m := .answer v)
    (y := Player.optionally .bool <$> answer c v)
    (Q := fun a _ => a = .bool (sameAnswer v.text item.answer.toValue.text)) hw rfl
    (yields_map (hyields.mono fun r q h => by
      rw [h.2 hopen hblank, hitem]
      rfl))
  exact hgives

/-- What an author may write is not blank. -/
lemma isBlank_of_isWritten (h : IsWritten v) : isBlank v = false := by
  cases h with
  | text h => exact h
  | truth | int | float => rfl

/-- The answer that is written beside a prompt is the right one unless it is a truth value; so a
challenge tells that answers it with what its author wrote, whenever the prompt is asked. -/
theorem gives_of_isWritten {points : Int} {m filled : Fields} {n : Nat}
    (hfill : (fillPrompt points m n).result = .ok filled)
    (hread : ChallengeItem.codec.read (.map filled) = .valid item)
    (hwritten : IsWritten (m.get "correctAnswer")) :
    (sameAnswer (m.get "correctAnswer").text item.answer.toValue.text = true ↔
      ¬(m.get "correctAnswer").IsTruth) ∧
    ∀ {c z T}, c.kind = .challenge → IsPriced z → Steady T → ∀ dice plain hints circumstances,
      ∃ w, Rehearsal.create c (.challenge z) dice plain hints circumstances = .ok w ∧
        ∀ {cues s}, (∀ cue ∈ cues, cue.Within T) → (w.rehearsed cues).player = .challenge s →
          s.won = none → s.current? = some item →
          ∃ isRight, (w.rehearsed cues).Gives (.answer (m.get "correctAnswer")) (.bool isRight) ∧
            (isRight = true ↔ ¬(m.get "correctAnswer").IsTruth) := by
  have hsame := sameAnswer_of_read
    (ChallengeItem.read_answer_of_fillPrompt hfill hread hwritten.isNull) hwritten
  refine ⟨hsame, fun hkind hz hT dice plain hints circumstances => ?_⟩
  obtain ⟨w, hw, -, p, hbegun, hp, -⟩ := exists_begun_create hkind hT dice plain hints circumstances
  refine ⟨w, hw, fun hcues hs hopen hitem => ?_⟩
  obtain ⟨q, hq, hsound, -⟩ := (proceeds hT hz).passes hbegun hp hcues
  obtain rfl := hq.state_eq Player.challenge.inj hs
  exact ⟨_, gives_answer hT hz hq hsound hopen hitem (isBlank_of_isWritten hwritten), hsame⟩

/-- The entries of a prompt with a text as its answer. -/
def capital : Fields := [("prompt", "The capital of France?"), ("correctAnswer", " PARIS\n")]

/-- That prompt as it is asked. -/
def capitalAsked : ChallengeItem :=
  ⟨"c1", "The capital of France?", .text " PARIS\n", none, 10, none⟩

theorem gives_of_capital :
    ∃ filled, (fillPrompt 10 capital 1).result = .ok filled ∧
      ChallengeItem.codec.read (.map filled) = .valid capitalAsked ∧
      IsWritten (capital.get "correctAnswer") ∧
      IsPriced ⟨"speed-round", [capitalAsked], 60, 0, 0⟩ ∧
      ∃ w, Rehearsal.create contest (.challenge ⟨"speed-round", [capitalAsked], 60, 0, 0⟩)
          ⟨fun _ => 0, 0⟩ true 3 nothing = .ok w ∧
        (w.rehearsed []).Gives (.answer (.str " PARIS\n")) (.bool true) := by
  have hwritten : IsWritten (capital.get "correctAnswer") := .text (by decide)
  have hpriced : IsPriced ⟨"speed-round", [capitalAsked], 60, 0, 0⟩ := by
    constructor
    · unfold IsSmall
      decide
    · unfold IsSmall
      decide
  obtain ⟨-, hplay⟩ :=
    gives_of_isWritten (show (fillPrompt 10 capital 1).result = .ok _ from rfl) rfl hwritten
  obtain ⟨w, hw, hgives⟩ := hplay (c := contest) rfl hpriced steady_zero_or_one
    ⟨fun _ => 0, 0⟩ true 3 nothing
  refine ⟨_, rfl, rfl, hwritten, hpriced, w, hw, ?_⟩
  cases hw
  obtain ⟨isRight, hright, hiff⟩ :=
    hgives (show ∀ cue ∈ [], Cue.Within _ cue from nofun) rfl rfl rfl
  have htext : ¬(capital.get "correctAnswer").IsTruth := nofun
  rwa [hiff.2 htext] at hright

/-- The entries of a prompt with a truth value as its answer. -/
def seven : Fields := [("prompt", "Is 7 a prime number?"), ("correctAnswer", .bool true)]

/-- That prompt as it is asked. -/
def sevenAsked : ChallengeItem := ⟨"c1", "Is 7 a prime number?", .int 1, none, 10, none⟩

/-- A truth value is wrong where it has been written itself. -/
theorem gives_false_of_truth :
    ∃ filled, (fillPrompt 10 seven 1).result = .ok filled ∧
      ChallengeItem.codec.read (.map filled) = .valid sevenAsked ∧
      IsWritten (seven.get "correctAnswer") ∧
      ¬sameAnswer (seven.get "correctAnswer").text sevenAsked.answer.toValue.text = true ∧
      ∃ w, Rehearsal.create contest (.challenge ⟨"speed-round", [sevenAsked], 60, 0, 0⟩)
          ⟨fun _ => 0, 0⟩ true 3 nothing = .ok w ∧
        (w.rehearsed []).Gives (.answer (.bool true)) (.bool false) :=
  ⟨_, rfl, rfl, .truth true, by decide +kernel, _, rfl, _, rfl, rfl⟩

end Play.ChallengeSitting

end LearningGame
