import LearningGame.Proofs.Loading.Basic
import LearningGame.Proofs.Content.Game

/-!
# Loaded games can be played

Play relies on this without looking again: a game that is loaded has sections with distinct ids that
are not blank, each with a content of its own kind, and an order of play that names some of them,
each once, with the first section among them.
-/

namespace LearningGame

open Completion Content Schema

/-- A game that can be played from its first section on. -/
structure Game.IsPlayable (g : Game) : Prop where
  sections_ne_nil : g.sections ≠ []
  nodup_sectionIds : g.sectionIds.Nodup
  not_blank : ∀ id ∈ g.sectionIds, Text.isBlankText id = false
  kind_eq : ∀ s ∈ g.sections, s.content.kind = s.kind
  order_ne_nil : g.order ≠ []
  nodup_order : g.order.Nodup
  mem_sectionIds : ∀ id ∈ g.order, id ∈ g.sectionIds
  firstSectionId_mem : g.firstSectionId ∈ g.order

/-- An order of play that a game has keeps to its sections. -/
def Game.KeepsOrder (g : Game) : Prop :=
  ∀ order, g.progression.sectionOrder = some order →
    order ≠ [] ∧ order.Nodup ∧ ∀ id ∈ order, id ∈ g.sectionIds

/-! ### Order of play -/

lemma Game.firstSectionId_mem_order {g : Game} (hne : g.sections ≠ []) :
    g.firstSectionId ∈ g.order := by
  unfold firstSectionId order
  split
  · exact List.mem_cons_self
  · dsimp only
    split_ifs with hstart
    · rw [Bool.and_eq_true] at hstart
      obtain ⟨s, hs⟩ := Option.isSome_iff_exists.mp hstart.2
      have hid : s.id = g.progression.startSection.getD "" := by
        simpa using List.find?_some hs
      rw [← hid]
      exact List.mem_map_of_mem (List.mem_of_find?_eq_some hs)
    · obtain ⟨s, rest, hs⟩ := List.exists_cons_of_ne_nil hne
      simp [sectionIds, hs]

lemma Game.order_of_keepsOrder {g : Game} (hne : g.sections ≠ []) (hnodup : g.sectionIds.Nodup)
    (h : g.KeepsOrder) : g.order ≠ [] ∧ g.order.Nodup ∧ ∀ id ∈ g.order, id ∈ g.sectionIds := by
  unfold order
  split
  · exact h _ ‹_›
  · exact ⟨by simpa [sectionIds] using hne, hnodup, fun _ hid => hid⟩

/-! ### Games -/

/-- The sections of a game that is read from filled sections are those sections. -/
lemma Game.sections_of_read {g : Game} {p : DocumentParts} {doc : Fields} {gameType : Value}
    (h : codec.read (.map (p.fill doc gameType)) = .valid g) :
    List.Forall₂ (fun v s => Section.codec.read v = .valid s) (p.sections.map .map) g.sections := by
  obtain ⟨⟨content, hcontent, hsections⟩, -⟩ := p.find?_fill doc gameType
  obtain ⟨⟨v, hv, hread⟩, -⟩ := Game.of_read h
  rw [given?_of_find? hcontent] at hv
  cases hv
  obtain ⟨items, hitems, hall⟩ := Script.of_read hread
  rw [given?_of_find? hsections] at hitems
  cases hitems
  exact hall

lemma Game.keepsOrder_of_read {g : Game} {p : DocumentParts} {doc : Fields} {gameType v : Value}
    (h : codec.read (.map (p.fill doc gameType)) = .valid g)
    (hv : Fields.find? p.progression "sectionOrder" = some v) (horder : IsOrderOf g.sectionIds v) :
    g.KeepsOrder := by
  obtain ⟨-, hprogression⟩ := p.find?_fill doc gameType
  obtain ⟨-, w, hw, hread⟩ := Game.of_read h
  rw [given?_of_find? hprogression] at hw
  cases hw
  have hgiven := Progression.of_read hread (given?_of_find? hv)
  intro order heq
  rw [heq] at hgiven
  rcases horder with rfl | ⟨names, rfl, hspec⟩
  · simp [Codec.read_optional_eq_some] at hgiven
  · cases (read_order_eq_some names _).mp hgiven
    exact hspec

/-- The sections of a game that is filled have distinct ids and kinds of their own, and its order of
play keeps to them. -/
lemma Game.IsFilledFrom.spec {g : Game} {doc : Fields} {gameType : Value}
    (h : g.IsFilledFrom doc gameType) :
    g.sections ≠ [] ∧ g.sectionIds.Nodup ∧
      (∀ s ∈ g.sections, Text.isBlankText s.id = false ∧ s.content.kind = s.kind) ∧
      g.KeepsOrder := by
  obtain ⟨filled, hfilled, hg⟩ := h
  obtain ⟨p, -, ⟨points, -, raw, -, hsections⟩, hne, -, hprogression, rfl⟩ :=
    (fillDocument_eq_ok doc filled gameType).mp hfilled
  obtain ⟨hall, hnodup, -⟩ := fillSections_spec hsections
  obtain ⟨hids, hkinds⟩ := isFilled_sections hall (Game.sections_of_read hg)
  have hids : g.sectionIds = p.sectionIds := hids
  have hids_ne : p.sectionIds ≠ [] := by simpa [DocumentParts.sectionIds] using hne
  have hsections_ne : g.sections ≠ [] := by
    rw [← hids] at hids_ne
    simpa [sectionIds] using hids_ne
  have hids_nodup : p.sectionIds.Nodup := hnodup
  obtain ⟨v, hv, horder⟩ := fillProgression_spec hids_ne hids_nodup hprogression
  rw [← hids] at hids_nodup horder
  exact ⟨hsections_ne, hids_nodup, hkinds, Game.keepsOrder_of_read hg hv horder⟩

lemma Game.IsFilledFrom.isPlayable {g : Game} {doc : Fields} {gameType : Value}
    (h : g.IsFilledFrom doc gameType) : g.IsPlayable := by
  obtain ⟨hne, hnodup, hkinds, hkeeps⟩ := h.spec
  obtain ⟨horder_ne, horder_nodup, hmem⟩ := Game.order_of_keepsOrder hne hnodup hkeeps
  refine ⟨hne, hnodup, ?_, fun s hs => (hkinds s hs).2, horder_ne, horder_nodup, hmem,
    Game.firstSectionId_mem_order hne⟩
  intro id hid
  obtain ⟨s, hs, rfl⟩ := List.mem_map.mp hid
  exact (hkinds s hs).1

/-- Every game that is loaded, from a text, a document or the record of a stored game, can be
played. -/
theorem isPlayable_of_loaded {raw gameType : Value} (record : Fields) {g : Game}
    (h : (load raw gameType).result = .ok g ∨ (loadRecord record gameType).result = .ok g) :
    g.IsPlayable := by
  rcases h with h | h
  · obtain ⟨known, hg⟩ := isFilledFrom_of_load h
    exact hg.isPlayable
  · obtain ⟨known, hg⟩ := isFilledFrom_of_loadRecord h
    exact hg.isPlayable

/-- Ids that are missing, that are numbers or that are taken, and an order that names unknown ones. -/
def mixedIds : Value :=
  .map
    [("content", .map
      [("sections", .list
        [.map [("id", .int 7), ("type", "info")],
          .map [("id", "7"), ("type", "quiz")],
          .null,
          .map [("id", " "), ("content", .map [("type", "flashcards")])]])]),
      ("progression", .map
        [("sectionOrder", .list [.int 9, "section4", .int 7, "section4"]),
          ("startSection", "9")])]

theorem isPlayable_of_mixedIds :
    ∃ g, (load mixedIds "quiz").result = .ok g ∧ g.IsPlayable := by
  obtain ⟨g, hg⟩ := Traced.exists_ok_of_isOk (x := load mixedIds "quiz") (by decide +kernel)
  exact ⟨g, hg, isPlayable_of_loaded [] (.inl hg)⟩

end LearningGame
