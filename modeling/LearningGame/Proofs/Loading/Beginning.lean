import LearningGame.Proofs.Completion.Again.Section
import LearningGame.Proofs.Loading.Ids

/-!
# Where loaded stories and explorations begin

Filling makes a story begin in one of its scenes and an exploration in one of its locations, as long
as there are any. So what is empty in a loaded game is told by the lists that it holds.
-/

namespace LearningGame

open Schema RecordOf Content Completion

/-! ### Contents -/

namespace Content.SectionContent

/-- Whether a content that is gone through item by item has no item. -/
def isTrivial : SectionContent → Bool
  | .quiz x => x.questions.isEmpty
  | .flashcards x => x.cards.isEmpty
  | .matching x => x.pairs.isEmpty
  | .narrative x => x.scenes.isEmpty
  | .exploration x => x.locations.isEmpty
  | _ => false

/-- A story or an exploration that is not trivial begins in one of its scenes or locations. -/
def HasStart : SectionContent → Prop
  | .narrative x => x.scenes ≠ [] → x.startScene ∈ x.scenes.map (·.id)
  | .exploration x => x.locations ≠ [] → x.startLocation ∈ x.locations.map (·.id)
  | _ => True

end Content.SectionContent

/-! ### Filled contents -/

lemma Content.Scene.id_of_read {m : Fields} {s : Scene} (h : codec.read (.map m) = .valid s)
    {id : String} (hid : m.find? "id" = some (.str id)) : id = s.id := by
  simp only [codec, read_codec_eq_valid, readsAs_apply, readsAs_build, required,
    read_field_of_find? _ _ hid, Codec.read_text_eq_valid, Value.map.injEq, exists_eq_left'] at h
  obtain ⟨id, hid, -, -, -, -, -, -, -, -, -, -, -, -, -, -, -, -, rfl⟩ := h
  exact Value.str.inj hid

namespace Completion

/-- A start among some ids is one of them. -/
lemma mem_of_startAmong {ids : List String} {start : Value} {s : String}
    (h : startAmong ids start = .str s) (hne : ids ≠ []) : s ∈ ids := by
  unfold startAmong at h
  split_ifs at h with hstart
  · subst h
    simpa [Value.isOneOf] using hstart
  · obtain ⟨id, rest, rfl⟩ := List.exists_cons_of_ne_nil hne
    cases h
    exact List.mem_cons_self

/-- Entries that are filled with ids are read with them. -/
lemma FilledAll.ids_of_read {ρ : Type} {c : Codec ρ} {k : ρ → String} {word : String}
    {f : Fields → Nat → Filling Fields} {given ms : List Fields} {as : List ρ}
    (hf : GivesIds word f) (h : FilledAll f given ms) (hread : c.list.read (mapList ms) = .valid as)
    (hk : ∀ {m : Fields} {a}, c.read (.map m) = .valid a →
      ∀ {s}, m.find? "id" = some (.str s) → s = k a) :
    (ms.map fun m => textAt m "id") = as.map k := by
  refine Completion.ids_of_read hread fun m hm a ha => ?_
  obtain ⟨e, -, hfill⟩ := h.exists_of_mem_right hm
  have hid := hf _ _ _ hfill
  rw [hid, hk ha hid]

/-- A story that was filled begins in one of its scenes. -/
lemma hasStart_of_fillNarrative {content filled : Fields} {z : Narrative}
    (h : (fillNarrative content).result = .ok filled)
    (hz : Narrative.fields.read filled = .valid z) : (SectionContent.narrative z).HasStart := by
  obtain ⟨ms, hms, rfl⟩ := (fillNarrative_iff _ _).mp h
  obtain ⟨hread, hstart⟩ := (Narrative.read_eq_valid (by simp; rfl) (by simp; rfl) z).mp hz
  rw [FilledAll.ids_of_read givesIds_fillScene hms hread Scene.id_of_read] at hstart
  exact fun hne => mem_of_startAmong hstart (by simpa using hne)

/-- An exploration that was filled begins in one of its locations. -/
lemma hasStart_of_fillExploration {content filled : Fields} {z : Exploration}
    (h : (fillExploration content).result = .ok filled)
    (hz : Exploration.fields.read filled = .valid z) : (SectionContent.exploration z).HasStart := by
  obtain ⟨ms, items, hms, -, rfl⟩ := (fillExploration_iff _ _).mp h
  obtain ⟨hread, -, hstart⟩ := Exploration.of_read hz (by simp; rfl) (by simp; rfl) (by simp; rfl)
  rw [FilledAll.ids_of_read givesIds_fillLocation hms hread Location.id_of_read] at hstart
  exact fun hne => mem_of_startAmong hstart (by simpa using hne)

lemma hasStart_of_fillContent {kind : SectionKind} {points : Int} {title : Value}
    {content filled : Fields} {c : SectionContent}
    (h : (fillContent kind points title content).result = .ok filled)
    (hc : SectionContent.readAs filled kind = .valid c) : c.HasStart := by
  cases kind with
  | narrative =>
    obtain ⟨z, hz, rfl⟩ := (Checked.map_eq_valid _ _ _).mp hc
    exact hasStart_of_fillNarrative h hz
  | exploration =>
    obtain ⟨z, hz, rfl⟩ := (Checked.map_eq_valid _ _ _).mp hc
    exact hasStart_of_fillExploration h hz
  | _ =>
    obtain ⟨z, -, rfl⟩ := (Checked.map_eq_valid _ _ _).mp hc
    trivial

/-- The content of a section is read from what its content was filled with. -/
lemma exists_content_of_fillSection {v : Value} {index points : Int} {m : Fields} {s : Section}
    (h : (fillSection v index points).result = .ok (some m))
    (hs : Section.codec.read (.map m) = .valid s) :
    ∃ (n : Fields) (kind : SectionKind) (filled : Fields), v = .map n ∧ kindOf? n = some kind ∧
      (fillContent kind points (titleOf n index) (fieldsOf (n.get "content"))).result = .ok filled ∧
      SectionContent.readAs filled kind = .valid s.content := by
  obtain ⟨n, rfl, h⟩ := (fillSection_eq_some v index points m).mp h
  obtain ⟨kind, filled, hkind, hfilled, rfl⟩ := (fillKnownSection_eq_some n m index points).mp h
  exact ⟨n, kind, filled, rfl, hkind, hfilled, readAs_of_read_withContent hs⟩

lemma hasStart_of_fillSection {v : Value} {index points : Int} {m : Fields} {s : Section}
    (h : (fillSection v index points).result = .ok (some m))
    (hs : Section.codec.read (.map m) = .valid s) : s.content.HasStart := by
  obtain ⟨n, kind, filled, -, -, hfilled, hread⟩ := exists_content_of_fillSection h hs
  exact hasStart_of_fillContent hfilled hread

end Completion

/-! ### Games -/

/-- The sections of a loaded game have a start. -/
lemma Game.IsFilledFrom.hasStart {g : Game} {doc : Fields} {gameType : Value}
    (h : g.IsFilledFrom doc gameType) {s : Section} (hs : s ∈ g.sections) :
    s.content.HasStart := by
  obtain ⟨filled, hfilled, hg⟩ := h
  obtain ⟨p, -, ⟨points, -, raw, -, hsections⟩, -, -, -, rfl⟩ :=
    (fillDocument_eq_ok doc filled gameType).mp hfilled
  obtain ⟨v, hv, hread⟩ := (Game.sections_of_read hg).exists_of_mem_right hs
  obtain ⟨m, hm, rfl⟩ := List.mem_map.mp hv
  obtain ⟨w, -, i, hfill⟩ := exists_of_mem_fillSections hsections hm
  exact hasStart_of_fillSection hfill hread

end LearningGame
