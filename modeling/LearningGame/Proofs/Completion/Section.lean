import LearningGame.Proofs.Completion.Entries
import LearningGame.Proofs.Content.Game
import LearningGame.Completion.Section

/-!
# Filled sections

A section that is filled is of a known kind, which its content names as well, and has an id that is
not blank.
-/

namespace LearningGame.Completion

open Content Schema

/-! ### Names of kinds -/

/-- A kind is found by its name. -/
@[simp] lemma find?_name_sectionKind (kind : SectionKind) :
    Named.find? (Named.name kind) = some kind := by
  cases kind <;> rfl

/-! ### Single sections -/

/-- The kind that a section or its content names. -/
def kindOf? (m : Fields) : Option SectionKind :=
  sectionKind? ((m.get "type").orElse (Fields.get (fieldsOf (m.get "content")) "type"))

/-- The title that a section at an index gets. -/
def titleOf (m : Fields) (index : Int) : Value :=
  ((fillId m ("section" ++ Number.intText (index + 1))).get "title").orElse
    ("Section " ++ Number.intText (index + 1))

/-- A section at an index with its kind and its filled content. -/
def withContent (m : Fields) (index : Int) (kind : SectionKind) (filled : Fields) : Fields :=
  let named := fillId m ("section" ++ Number.intText (index + 1))
  let titled := if (named.get "title").truthy then named else named.put "title" (titleOf m index)
  (titled.put "type" (Named.name kind)).put "content" (.map (filled.put "type" (Named.name kind)))

/-- A section is kept if its kind is known and its content can be filled. -/
lemma fillKnownSection_eq_some (m m' : Fields) (index points : Int) :
    (fillKnownSection m index points).result = .ok (some m') ↔
      ∃ kind filled, kindOf? m = some kind ∧
        (fillContent kind points (titleOf m index) (fieldsOf (m.get "content"))).result =
          .ok filled ∧ withContent m index kind filled = m' := by
  unfold fillKnownSection kindOf?
  dsimp only
  cases h : sectionKind? _ with
  | none => simp [Except.bind]
  | some kind =>
    simp only [Traced.bind_eq_ok, Traced.result_pure, Except.ok.injEq, Option.some.injEq,
      exists_and_left, exists_eq_left']
    exact Iff.rfl

/-- What a section that is kept has been filled with. -/
structure IsFilled (m : Fields) (kind : SectionKind) : Prop where
  id : ∃ id, m.find? "id" = some (.str id) ∧ Text.isBlankText id = false
  type : m.find? "type" = some (.str (Named.name kind))
  content : ∃ content : Fields, m.find? "content" = some (.map content) ∧
    content.find? "type" = some (.str (Named.name kind))

lemma isFilled_withContent (m : Fields) (index : Int) (kind : SectionKind) (filled : Fields) :
    IsFilled (withContent m index kind filled) kind := by
  have hid : Text.isBlankText ("section" ++ Number.intText (index + 1)) = false :=
    Text.isBlankText_append_left _ (by decide)
  refine ⟨⟨_, ?_, isBlankText_idOf m hid⟩, ?_, ⟨filled.put "type" (Named.name kind), ?_, ?_⟩⟩
  · unfold withContent
    dsimp only
    split_ifs <;> simp
  · simp [withContent]
  · simp [withContent]
  · simp

lemma fillSection_eq_some (v : Value) (index points : Int) (m' : Fields) :
    (fillSection v index points).result = .ok (some m') ↔
      ∃ m, v = .map m ∧ (fillKnownSection m index points).result = .ok (some m') := by
  cases v <;> simp [fillSection, Except.bind]

lemma isFilled_of_fillSection {v : Value} {index points : Int} {m' : Fields}
    (h : (fillSection v index points).result = .ok (some m')) : ∃ kind, IsFilled m' kind := by
  obtain ⟨m, rfl, h⟩ := (fillSection_eq_some v index points m').mp h
  obtain ⟨kind, filled, -, -, rfl⟩ := (fillKnownSection_eq_some m m' index points).mp h
  exact ⟨kind, isFilled_withContent m index kind filled⟩

/-! ### Sections that are read -/

/-- A section that is read from a filled one has its id and its kind. -/
lemma isFilled_section {m : Fields} {kind : SectionKind} {s : Section} (hm : IsFilled m kind)
    (h : Section.codec.read (.map m) = .valid s) :
    s.id = textAt m "id" ∧ Text.isBlankText s.id = false ∧ s.content.kind = s.kind := by
  obtain ⟨hid, ⟨name, hname, hkind⟩, v, hv, hcontent⟩ := Section.of_read h
  obtain ⟨id, hfind, hblank⟩ := hm.id
  obtain ⟨content, hfound, htag⟩ := hm.content
  rw [given?_of_find? hfind] at hid
  rw [given?_of_find? hm.type] at hname
  rw [given?_of_find? hfound] at hv
  cases hid
  cases hname
  cases hv
  obtain ⟨tag, hfind', hkind', -⟩ := SectionContent.of_read hcontent
  rw [htag] at hfind'
  cases hfind'
  exact ⟨(textAt_of_find? hfind).symm, hblank, Option.some.inj (hkind'.symm.trans hkind)⟩

/-- Sections that are read from filled ones have their ids and kinds. -/
lemma isFilled_sections {ms : List Fields} {sections : List Section}
    (hms : ∀ m ∈ ms, ∃ kind, IsFilled m kind)
    (h : List.Forall₂ (fun v s => Section.codec.read v = .valid s) (ms.map .map) sections) :
    sections.map (·.id) = ms.map (fun m => textAt m "id") ∧
      ∀ s ∈ sections, Text.isBlankText s.id = false ∧ s.content.kind = s.kind := by
  induction ms generalizing sections with
  | nil =>
    cases h
    simp
  | cons m ms ih =>
    obtain ⟨s, rest, hs, hrest, rfl⟩ := List.forall₂_cons_left_iff.mp h
    obtain ⟨kind, hm⟩ := hms m List.mem_cons_self
    obtain ⟨hid, hblank, hkind⟩ := isFilled_section hm hs
    obtain ⟨hids, hall⟩ := ih (fun m hm => hms m (List.mem_cons_of_mem _ hm)) hrest
    refine ⟨by rw [List.map_cons, List.map_cons, hid, hids], ?_⟩
    rintro s' (_ | ⟨_, hs'⟩)
    · exact ⟨hblank, hkind⟩
    · exact hall s' hs'

end LearningGame.Completion
