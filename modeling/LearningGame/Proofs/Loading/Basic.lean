import LearningGame.Proofs.Completion.Document
import LearningGame.Loading

/-!
# Games that are loaded

Whatever is loaded, from a text, a document or the record of a stored game, has been read from a
filled document.
-/

namespace LearningGame

open Completion Schema

variable {g : Game} {gameType : Value}

lemma checkGame_eq_ok (doc : Fields) (g : Game) :
    (checkGame doc).result = .ok g ↔ Game.codec.read (.map doc) = .valid g := by
  unfold checkGame
  cases Game.codec.read (.map doc) <;> simp [refuse]

lemma buildGame_eq_ok (doc record : Fields) (gameType : Value) (g : Game) :
    (buildGame doc gameType record).result = .ok g ↔
      ∃ shape known filled, (recognize doc record).result = .ok (shape, known) ∧
        (fillDocument known gameType).result = .ok filled ∧
        Game.codec.read (.map filled) = .valid g := by
  simp [buildGame, Traced.bind_eq_ok, checkGame_eq_ok, -Traced.result_bind]

lemma recognize_of_hasSections {doc : Fields} (h : hasSections doc = true) (record : Fields) :
    (recognize doc record).result = .ok ("gamespec", doc) := by
  rw [recognize, if_pos h]
  rfl

/-- A document, or a text that holds it. -/
def HoldsDocument (doc : Fields) : Value → Prop
  | .str text => parseDocument text = .ok (.map doc)
  | raw => raw = .map doc

lemma load_of_holdsDocument {doc : Fields} {raw : Value} (h : HoldsDocument doc raw)
    (gameType : Value) : (load raw gameType).result = (buildGame doc gameType []).result := by
  cases raw with
  | str text =>
    have hparse : parseDocument text = .ok (.map doc) := h
    simp only [load, hparse]
    exact Traced.result_bind _ _
  | map m =>
    cases h
    rfl
  | _ => cases h

/-- A game that is read from a filled document. -/
def Game.IsFilledFrom (g : Game) (doc : Fields) (gameType : Value) : Prop :=
  ∃ filled, (fillDocument doc gameType).result = .ok filled ∧
    Game.codec.read (.map filled) = .valid g

lemma isFilledFrom_of_ofDocument {doc : Value} {record : Fields}
    (h : (ofDocument doc gameType record).result = .ok g) :
    ∃ known, g.IsFilledFrom known gameType := by
  cases doc with
  | map m =>
    obtain ⟨-, known, filled, -, hfilled, hg⟩ := (buildGame_eq_ok m record gameType g).mp h
    exact ⟨known, filled, hfilled, hg⟩
  | _ => simp [ofDocument, refuse] at h

lemma isFilledFrom_of_load {raw : Value} (h : (load raw gameType).result = .ok g) :
    ∃ known, g.IsFilledFrom known gameType := by
  cases raw with
  | str text =>
    obtain ⟨doc, -, h⟩ := (Traced.bind_eq_ok _ _ _).mp h
    exact isFilledFrom_of_ofDocument h
  | _ => exact isFilledFrom_of_ofDocument h

lemma isFilledFrom_of_loadRecord {record : Fields}
    (h : (loadRecord record gameType).result = .ok g) :
    ∃ known, g.IsFilledFrom known (recordGameType record gameType) := by
  unfold loadRecord at h
  split at h
  · split_ifs at h
    · simp [refuse] at h
    · obtain ⟨doc, -, h⟩ := (Traced.bind_eq_ok _ _ _).mp h
      exact isFilledFrom_of_ofDocument h
  · simp [refuse] at h

/-- A game that is loaded in whatever way is filled from a document. -/
lemma exists_isFilledFrom {raw : Value} {record : Fields}
    (h : (load raw gameType).result = .ok g ∨ (loadRecord record gameType).result = .ok g) :
    ∃ known gameType, g.IsFilledFrom known gameType := by
  rcases h with h | h
  · obtain ⟨known, hg⟩ := isFilledFrom_of_load h
    exact ⟨known, _, hg⟩
  · obtain ⟨known, hg⟩ := isFilledFrom_of_loadRecord h
    exact ⟨known, _, hg⟩

end LearningGame
