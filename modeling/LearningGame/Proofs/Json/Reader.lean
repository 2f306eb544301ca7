import LearningGame.Proofs.Value.Document

/-!
# What the reader reads

Every value that is read from a text is a document: its maps are built by putting in one named entry
after the other.
-/

namespace LearningGame.Json

open Value Fields

/-- What the three readers of one fuel read, given that what they have read before is of documents. -/
structure ReadsDocuments (fuel : Nat) : Prop where
  value : ∀ {cs v rest}, readValue fuel cs = .ok (v, rest) → v.IsDocument
  items : ∀ {done cs v rest}, (∀ w ∈ done, w.IsDocument) →
    readItems fuel done cs = .ok (v, rest) → v.IsDocument
  entries : ∀ {done cs v rest}, Fields.IsDocumentOf (fun _ => True) done →
    readEntries fuel done cs = .ok (v, rest) → v.IsDocument

lemma readNumber_isDocument {cs rest : List Char} {v : Value}
    (h : readNumber cs = .ok (v, rest)) : v.IsDocument := by
  unfold readNumber at h
  dsimp only at h
  split_ifs at h
  · cases h
  · cases h
  · cases h
    exact .int _
  · cases h
    exact .float trivial

lemma readValue_isDocument {fuel : Nat} (ih : ReadsDocuments fuel) {cs rest : List Char} {v : Value}
    (h : readValue (fuel + 1) cs = .ok (v, rest)) : v.IsDocument := by
  unfold readValue at h
  split at h
  · rename_i tail
    cases ht : readText tail with
    | error e => simp [ht, Except.map] at h
    | ok r =>
      simp only [ht, Except.map, Except.ok.injEq, Prod.mk.injEq] at h
      simp [← h.1]
  · split at h
    · cases h
      simp
    · exact ih.entries Fields.isDocumentOf_nil h
  · split at h
    · cases h
      simp
    · exact ih.items (by simp) h
  all_goals first
    | exact readNumber_isDocument h
    | (cases h; simp)

lemma readItems_isDocument {fuel : Nat} (ih : ReadsDocuments fuel) {done : List Value}
    {cs rest : List Char} {v : Value} (hd : ∀ w ∈ done, w.IsDocument)
    (h : readItems (fuel + 1) done cs = .ok (v, rest)) : v.IsDocument := by
  unfold readItems at h
  split at h
  · cases h
  · rename_i w tail hw
    have hall : ∀ u ∈ w :: done, u.IsDocument := by
      intro u hu
      rcases List.mem_cons.mp hu with rfl | hu
      · exact ih.value hw
      · exact hd u hu
    split at h
    · cases h
      exact .list fun u hu => hall u (List.mem_reverse.mp hu)
    · exact ih.items hall h
    · cases h

lemma readEntries_isDocument {fuel : Nat} (ih : ReadsDocuments fuel) {done : Fields}
    {cs rest : List Char} {v : Value} (hd : Fields.IsDocumentOf (fun _ => True) done)
    (h : readEntries (fuel + 1) done cs = .ok (v, rest)) : v.IsDocument := by
  unfold readEntries at h
  split at h
  · split at h
    · cases h
    · split at h
      · split at h
        · cases h
        · rename_i w tail hw
          have hput := fun a => hd.put (a := a) (ih.value hw)
          dsimp only at h
          split at h
          · cases h
            exact (isDocumentOf_map _).mpr (hput _)
          · exact ih.entries (hput _) h
          · cases h
      · cases h
  · cases h

theorem readsDocuments (fuel : Nat) : ReadsDocuments fuel := by
  induction fuel with
  | zero =>
    constructor
    · intro cs v rest h
      simp [readValue, fail] at h
    · intro done cs v rest _ h
      simp [readItems, fail] at h
    · intro done cs v rest _ h
      simp [readEntries, fail] at h
  | succ fuel ih =>
    exact ⟨readValue_isDocument ih, readItems_isDocument ih, readEntries_isDocument ih⟩

/-- What is read from a text is a document. -/
theorem isDocument_of_read {text : String} {v : Value} (h : read text = .ok v) : v.IsDocument := by
  unfold read at h
  dsimp only at h
  split at h
  · rename_i w hw
    cases h
    unfold readAll at hw
    split at hw
    · cases hw
    · split at hw
      · cases hw
      · rename_i u rest hu
        split at hw
        · cases hw
          exact (readsDocuments _).value hu
        · cases hw
  · cases h

end LearningGame.Json
