import LearningGame.Proofs.Completion.Kept
import LearningGame.Proofs.Completion.Reduced
import LearningGame.Proofs.Loading.Faults
import LearningGame.Proofs.Loading.Reload

/-!
# Loading incomplete documents

A document that is loaded is still loaded when entries are deleted from the contents of its
sections, unless one of the few things is missing then that filling does not put in.
-/

namespace LearningGame

open Completion Content Schema

/-! ### Sections -/

/-- A section and what is left of it when entries in its content are deleted, and its kind stays. -/
inductive SectionReduces : Value → Value → Prop
  | refl (v : Value) : SectionReduces v v
  | content {m content left : Fields} (hcontent : m.find? "content" = some (.map content))
      (h : content.Reduces left) (hkind : kindOf? (m.put "content" (.map left)) = kindOf? m) :
      SectionReduces (.map m) (.map (m.put "content" (.map left)))

/-- The content of a section. -/
def contentOf (v : Value) : Fields := fieldsOf (Fields.get (fieldsOf v) "content")

/-- What is left of a section lacks nothing that filling does not put in. -/
def SectionWhole (v : Value) : Prop :=
  ∀ kind, playableKind? v = some kind → ContentWhole (contentOf v) kind

/-- A simulation whose initial state gives no entries. -/
def LacksState (v : Value) : Prop :=
  playableKind? v = some .simulation ∧ InitialStateBreaks ((contentOf v).get "initialState")

namespace SectionReduces

variable {v w : Value}

lemma playableKind?_eq (h : SectionReduces v w) : playableKind? w = playableKind? v := by
  cases h with
  | refl => rfl
  | content _ _ hkind => exact hkind

lemma content_reduces (h : SectionReduces v w) : (contentOf v).Reduces (contentOf w) := by
  cases h with
  | refl => exact .refl _
  | content hcontent h => simpa [contentOf, fieldsOf, Fields.get_of_find? hcontent] using h

lemma sectionId_eq (h : SectionReduces v w) (i : Nat) : sectionId (w, i) = sectionId (v, i) := by
  cases h with
  | refl => rfl
  | content => simp [sectionId, idOf, fieldsOf]

lemma titleOf_eq (h : SectionReduces v w) (i : Nat) :
    titleOf (fieldsOf w) i = titleOf (fieldsOf v) i := by
  cases h with
  | refl => rfl
  | content => simp [titleOf, fillId, fieldsOf]

lemma frameFits_iff (h : SectionReduces v w) (title : Value) :
    FrameFits (fieldsOf w) title ↔ FrameFits (fieldsOf v) title := by
  cases h with
  | refl => exact Iff.rfl
  | content =>
    simp (disch := decide) only [Completion.frameFits_iff, fieldsOf, fits_put_of_ne]

/-- Filling what is left of a section breaks off at an initial state only. -/
lemma sectionBreaks_iff (h : SectionReduces v w) (hv : ¬SectionBreaks v) :
    SectionBreaks w ↔ LacksState w := by
  unfold SectionBreaks LacksState
  have hbreaks (kind : SectionKind) (hkind : playableKind? w = some kind) :
      ContentBreaks (contentOf w) kind ↔ kind = .simulation ∧
        InitialStateBreaks ((contentOf w).get "initialState") := by
    refine contentBreaks_iff_of_reduces (fun hb => hv ⟨kind, ?_, hb⟩) h.content_reduces
    rw [← h.playableKind?_eq, hkind]
  constructor
  · rintro ⟨kind, hkind, hb⟩
    obtain ⟨rfl, hstate⟩ := (hbreaks kind hkind).mp hb
    exact ⟨hkind, hstate⟩
  · rintro ⟨hkind, hstate⟩
    exact ⟨_, hkind, (hbreaks _ hkind).mpr ⟨rfl, hstate⟩⟩

/-- What is left of a section that fits does so exactly if it lacks nothing. -/
lemma sectionFits_iff (h : SectionReduces v w) {i : Nat} (hv : SectionFits (v, i))
    (hbreaks : ¬SectionBreaks v) : SectionFits (w, i) ↔ SectionWhole w := by
  obtain ⟨hframe, hcontent⟩ := hv
  unfold SectionFits SectionWhole
  rw [h.titleOf_eq, and_iff_right ((h.frameFits_iff _).mpr hframe)]
  refine forall_congr' fun kind => imp_congr_right fun hkind => ?_
  rw [h.playableKind?_eq] at hkind
  exact contentFits_iff_of_reduces (hcontent kind hkind) (fun hb => hbreaks ⟨kind, hkind, hb⟩)
    hframe.title h.content_reduces

end SectionReduces

lemma keptSections_of_reduces {raws left : List Value} (h : List.Forall₂ SectionReduces raws left)
    (seen : List String) (index : Nat) :
    List.Forall₂ (fun e d => SectionReduces e.1 d.1 ∧ e.2 = d.2)
      (keptSections seen (raws.zipIdx index)) (keptSections seen (left.zipIdx index)) := by
  induction h generalizing seen index with
  | nil => exact .nil
  | @cons v w raws left hvw _ ih =>
    rw [List.zipIdx_cons, List.zipIdx_cons, keptSections, keptSections, hvw.playableKind?_eq,
      hvw.sectionId_eq]
    split_ifs
    · exact .cons ⟨hvw, rfl⟩ (ih _ _)
    · exact ih _ _

/-! ### Documents -/

/-- A document and what is left of it when entries in the contents of its sections are deleted. -/
inductive DocumentReduces : Fields → Fields → Prop
  | refl (doc : Fields) : DocumentReduces doc doc
  | sections {doc content : Fields} {raws left : List Value}
      (hcontent : doc.find? "content" = some (.map content))
      (hsections : content.find? "sections" = some (.list raws))
      (h : List.Forall₂ SectionReduces raws left) :
      DocumentReduces doc (doc.put "content" (.map (content.put "sections" (.list left))))

lemma load_eq_ok_iff {doc : Fields} {raw : Value} (hraw : HoldsDocument doc raw)
    (hdoc : hasSections doc = true) (gameType : Value) (g : Game) :
    (load raw gameType).result = .ok g ↔ g.IsFilledFrom doc gameType := by
  rw [load_of_holdsDocument hraw, buildGame_eq_ok]
  constructor
  · rintro ⟨shape, known, filled, hknown, hfilled, hg⟩
    cases (recognize_of_hasSections hdoc []).symm.trans hknown
    exact ⟨filled, hfilled, hg⟩
  · rintro ⟨filled, hfilled, hg⟩
    exact ⟨_, _, filled, recognize_of_hasSections hdoc [], hfilled, hg⟩

/-- A game is read with other sections as well as with its own. -/
lemma Game.read_fill_sections {p : DocumentParts} {doc content : Fields} {gameType : Value}
    {g : Game} (hcontent : doc.find? "content" = some (.map content))
    (h : codec.read (.map (p.fill doc gameType)) = .valid g) (left : List Value) {ms : List Fields}
    {sections : List Section} (hms : Section.codec.list.read (mapList ms) = .valid sections) :
    codec.read (.map (DocumentParts.fill { p with sections := ms }
      (doc.put "content" (.map (content.put "sections" (.list left)))) gameType)) =
        .valid { g with content := { g.content with sections := sections } } := by
  rw [read_fill_iff] at h ⊢
  obtain ⟨hversion, hmetadata, htheme, hconfig, hscript, hprogression, hscoring⟩ := h
  rw [Fields.get_of_find? hcontent, fieldsOf] at hscript
  have hsections := Script.read_put_sections hscript hms
  simp only [Fields.get_put, String.reduceEq, if_true, if_false, fieldsOf, Fields.put_put]
  rw [Fields.put_put] at hsections
  exact ⟨hversion, hmetadata, htheme, hconfig, hsections, hprogression, hscoring⟩

section Filled

variable {doc content : Fields} {raws left : List Value} {gameType : Value} {g : Game}

/-- Sections that are filled do not break off. -/
lemma not_sectionBreaks_of_fillSections {points : Int} {seen : List String} {index : Nat}
    {ms : List Fields} (h : (fillSections points seen index raws).result = .ok ms) :
    ∀ v ∈ raws, ¬SectionBreaks v := by
  intro v hv hbreaks
  obtain ⟨f, hf⟩ := (faults_fillSections points seen index raws).mpr ⟨v, hv, hbreaks⟩
  rw [h] at hf
  cases hf

/-- What is left of sections that are kept gets the same ids. -/
lemma ids_of_reduces (h : List.Forall₂ SectionReduces raws left) {points : Int}
    {ms ns : List Fields} (hms : (fillSections points [] 0 raws).result = .ok ms)
    (hns : (fillSections points [] 0 left).result = .ok ns) :
    (ns.map fun m => textAt m "id") = ms.map fun m => textAt m "id" := by
  rw [ids_of_fillSections hms, ids_of_fillSections hns, eq_comm, ← List.forall₂_eq_eq_eq,
    List.forall₂_map_left_iff, List.forall₂_map_right_iff]
  refine (keptSections_of_reduces h [] 0).imp ?_
  rintro ⟨v, i⟩ ⟨w, j⟩ ⟨hvw, rfl⟩
  exact (hvw.sectionId_eq i).symm

/-- The parts that a document with some sections is filled with. -/
structure PartsFilled (doc : Fields) (raws : List Value) (p : DocumentParts) : Prop where
  scoring : (fillScoring (doc.get "scoring")).result = .ok p.scoring
  sections : ∃ points, wholeOr (p.scoring.get "pointsPerCorrect") 10 = .ok points ∧
    (fillSections points [] 0 raws).result = .ok p.sections
  ne_nil : p.sections ≠ []
  metadata : fillMetadata (doc.get "metadata") = .ok p.metadata
  progression : (fillProgression p.sectionIds (doc.get "progression")).result = .ok p.progression

lemma isFilledFrom_iff (hcontent : doc.find? "content" = some (.map content))
    (hsections : content.find? "sections" = some (.list raws)) :
    g.IsFilledFrom doc gameType ↔
      ∃ p, PartsFilled doc raws p ∧ Game.codec.read (.map (p.fill doc gameType)) = .valid g := by
  unfold Game.IsFilledFrom
  have hraws : (Fields.get (fieldsOf (doc.get "content")) "sections").elements = .ok raws := by
    rw [Fields.get_of_find? hcontent, fieldsOf, Fields.get_of_find? hsections]
    rfl
  simp only [fillDocument_eq_ok, hraws, Except.ok.injEq, exists_eq_left']
  constructor
  · rintro ⟨filled, ⟨p, hscoring, hfill, hne, hmetadata, hprogression, rfl⟩, hg⟩
    exact ⟨p, ⟨hscoring, hfill, hne, hmetadata, hprogression⟩, hg⟩
  · rintro ⟨p, hp, hg⟩
    exact ⟨_, ⟨p, hp.scoring, hp.sections, hp.ne_nil, hp.metadata, hp.progression, rfl⟩, hg⟩

lemma accepts_sections_of_read {p : DocumentParts}
    (h : Game.codec.read (.map (p.fill doc gameType)) = .valid g) :
    ∀ m ∈ p.sections, Section.codec.Accepts (.map m) := by
  have hall := (List.exists_forall₂_iff _ _).mp ⟨_, Game.sections_of_read h⟩
  exact fun m hm => hall _ (List.mem_map_of_mem hm)

section Reduced

variable (hred : List.Forall₂ SectionReduces raws left)

include hred

lemma forall_not_sectionBreaks_iff (h : ∀ v ∈ raws, ¬SectionBreaks v) :
    (∀ w ∈ left, ¬SectionBreaks w) ↔ ∀ w ∈ left, ¬LacksState w := by
  refine forall₂_congr fun w hw => not_congr ?_
  obtain ⟨v, hv, hvw⟩ := hred.exists_of_mem_right hw
  exact hvw.sectionBreaks_iff (h v hv)

lemma forall_sectionFits_iff (h : ∀ v ∈ raws, ¬SectionBreaks v)
    (hfits : ∀ e ∈ keptSections [] raws.zipIdx, SectionFits e) :
    (∀ d ∈ keptSections [] left.zipIdx, SectionFits d) ↔
      ∀ d ∈ keptSections [] left.zipIdx, SectionWhole d.1 := by
  refine forall₂_congr fun d hd => ?_
  obtain ⟨w, i⟩ := d
  obtain ⟨⟨v, j⟩, he, hvw, rfl⟩ := (keptSections_of_reduces hred [] 0).exists_of_mem_right hd
  have hv : v ∈ raws := List.fst_mem_of_mem_zipIdx (mem_of_mem_keptSections he)
  exact SectionReduces.sectionFits_iff hvw (hfits _ he) (h v hv)

/-- With the sections that are left the other parts of a document are filled as before. -/
lemma PartsFilled.reduced {p : DocumentParts} (hp : PartsFilled doc raws p) {points : Int}
    {ms : List Fields} (hpoints : wholeOr (p.scoring.get "pointsPerCorrect") 10 = .ok points)
    (hfill : (fillSections points [] 0 raws).result = .ok p.sections)
    (hms : (fillSections points [] 0 left).result = .ok ms) :
    PartsFilled (doc.put "content" (.map (content.put "sections" (.list left)))) left
      { p with sections := ms } := by
  have hids := ids_of_reduces hred hfill hms
  have hother (key : String) (hkey : "content" ≠ key) :
      (doc.put "content" (.map (content.put "sections" (.list left)))).get key = doc.get key := by
    rw [Fields.get_put, if_neg hkey]
  refine ⟨?_, ⟨points, hpoints, hms⟩, ?_, ?_, ?_⟩
  · rw [hother _ (by decide)]
    exact hp.scoring
  · intro hnil
    rw [show ms = [] from hnil, List.map_nil, eq_comm, List.map_eq_nil_iff] at hids
    exact hp.ne_nil hids
  · rw [hother _ (by decide)]
    exact hp.metadata
  · -- The order of the sections is filled from their ids.
    rw [hother _ (by decide), DocumentParts.sectionIds, hids]
    exact hp.progression

/-- A game is filled from what is left of a document exactly if the initial states of its
simulations still give entries and the sections that are kept lack nothing. -/
lemma isFilledFrom_reduced_iff (hcontent : doc.find? "content" = some (.map content))
    (hsections : content.find? "sections" = some (.list raws)) (hg : g.IsFilledFrom doc gameType) :
    (∃ g' : Game, g'.IsFilledFrom
      (doc.put "content" (.map (content.put "sections" (.list left)))) gameType) ↔
      (∀ v ∈ left, ¬LacksState v) ∧ ∀ e ∈ keptSections [] left.zipIdx, SectionWhole e.1 := by
  obtain ⟨p, hp, hread⟩ := (isFilledFrom_iff hcontent hsections).mp hg
  obtain ⟨points, hpoints, hfill⟩ := hp.sections
  have hunbroken := not_sectionBreaks_of_fillSections hfill
  have hfits := (accepts_fillSections hfill).mp (accepts_sections_of_read hread)
  have hcontent' :
      (doc.put "content" (.map (content.put "sections" (.list left)))).find? "content" =
        some (.map (content.put "sections" (.list left))) := by simp
  have hsections' : (content.put "sections" (.list left)).find? "sections" = some (.list left) := by
    simp
  simp only [isFilledFrom_iff hcontent' hsections']
  rw [← forall_not_sectionBreaks_iff hred hunbroken, ← forall_sectionFits_iff hred hunbroken hfits]
  constructor
  · rintro ⟨g', p', hp', hread'⟩
    obtain ⟨points', -, hfill'⟩ := hp'.sections
    exact ⟨not_sectionBreaks_of_fillSections hfill',
      (accepts_fillSections hfill').mp (accepts_sections_of_read hread')⟩
  · rintro ⟨hbreaks, hall⟩
    obtain ⟨ms, hms⟩ := exists_fillSections hbreaks points [] 0
    obtain ⟨sections, hlist⟩ := (accepts_mapList ms).mpr ((accepts_fillSections hms).mpr hall)
    exact ⟨_, _, hp.reduced hred hpoints hfill hms,
      Game.read_fill_sections hcontent hread left hlist⟩

end Reduced

end Filled

lemma Value.items_of_not_isList {v : Value} (h : v.isList = false) : v.items = [] := by
  cases v with
  | list vs => cases h
  | _ => rfl

lemma exists_sections_of_hasSections {doc : Fields} (h : hasSections doc = true) :
    ∃ (content : Fields) (raws : List Value), doc.find? "content" = some (.map content) ∧
      content.find? "sections" = some (.list raws) := by
  unfold hasSections at h
  cases hcontent : doc.get "content" with
  | map content =>
    rw [hcontent, fieldsOf] at h
    cases hsections : Fields.get content "sections" with
    | list raws =>
      exact ⟨content, raws, Fields.find?_of_get hcontent (by simp),
        Fields.find?_of_get hsections (by simp)⟩
    | _ => simp [hsections, Value.isList] at h
  | _ => simp [hcontent, fieldsOf, Fields.get_eq, Value.isList] at h

namespace DocumentReduces

variable {doc left : Fields}

/-- A document with sections is left as one with sections. -/
lemma sections_or (h : DocumentReduces doc left) :
    (hasSections doc = false ∧ left = doc) ∨
      ∃ (content : Fields) (raws rest : List Value), doc.find? "content" = some (.map content) ∧
        content.find? "sections" = some (.list raws) ∧ List.Forall₂ SectionReduces raws rest ∧
        left = doc.put "content" (.map (content.put "sections" (.list rest))) := by
  cases h with
  | refl =>
    cases hdoc : hasSections doc with
    | false => exact .inl ⟨rfl, rfl⟩
    | true =>
      obtain ⟨content, raws, hcontent, hsections⟩ := exists_sections_of_hasSections hdoc
      refine .inr ⟨content, raws, raws, hcontent, hsections, ?_, ?_⟩
      · exact List.forall₂_same.mpr fun v _ => .refl v
      · rw [Fields.put_of_find? hsections, Fields.put_of_find? hcontent]
  | sections hcontent hsections h => exact .inr ⟨_, _, _, hcontent, hsections, h, rfl⟩

end DocumentReduces

/-- When entries are deleted from the contents of the sections of a document that is loaded, then
what is left is loaded exactly if the initial states of its simulations still give entries and the
sections that are kept lack nothing that filling does not put in. -/
theorem load_reduced_iff {doc left : Fields} {raw raw' gameType : Value} {g : Game}
    (hraw : HoldsDocument doc raw) (hleft : HoldsDocument left raw')
    (hred : DocumentReduces doc left) (h : (load raw gameType).result = .ok g) :
    (∃ g', (load raw' gameType).result = .ok g') ↔
      (∀ v ∈ sectionsOf left, ¬LacksState v) ∧
        ∀ e ∈ keptSections [] (sectionsOf left).zipIdx, SectionWhole e.1 := by
  rcases hred.sections_or with ⟨hflat, rfl⟩ |
    ⟨content, raws, rest, hcontent, hsections, hrest, rfl⟩
  · rw [load_of_holdsDocument hraw] at h
    have hnone : sectionsOf left = [] := Value.items_of_not_isList hflat
    simp only [hnone, load_of_holdsDocument hleft, List.zipIdx_nil, keptSections,
      List.not_mem_nil, false_imp_iff, implies_true, and_self, iff_true]
    exact ⟨g, h⟩
  · have hdoc : hasSections doc = true := by
      simp [hasSections, Fields.get_of_find? hcontent, fieldsOf, Fields.get_of_find? hsections,
        Value.isList]
    have hlist : sectionsOf (doc.put "content" (.map (content.put "sections" (.list rest)))) =
        rest := by
      simp [sectionsOf, fieldsOf, Value.items]
    have hleftdoc : hasSections
        (doc.put "content" (.map (content.put "sections" (.list rest)))) = true := by
      simp [hasSections, fieldsOf, Value.isList]
    have hg := (load_eq_ok_iff hraw hdoc gameType g).mp h
    rw [hlist, ← isFilledFrom_reduced_iff hrest hcontent hsections hg]
    exact exists_congr fun g' => load_eq_ok_iff hleft hleftdoc gameType g'

/-- A section with a simulation of one event, which offers one choice. -/
def simulationOffering (choice : Fields) : Value :=
  .map [("id", "a"), ("type", "simulation"), ("content",
    .map [("events", .list [.map [("choices", .list [.map choice])]])])]

/-- A document with such a simulation. -/
def documentOffering (choice : Fields) : Fields :=
  [("content", .map [("sections", .list [simulationOffering choice])])]

lemma documentReduces_offering {choice left : Fields} (h : choice.Reduces left) :
    DocumentReduces (documentOffering choice) (documentOffering left) := by
  have hevents : Fields.Reduces [("events", .list [.map [("choices", .list [.map choice])]])]
      [("events", .list [.map [("choices", .list [.map left])]])] :=
    .keep (.list (.cons (.map (.keep (.list (.cons (.map h) .nil)) .nil)) .nil)) .nil
  have hsection : SectionReduces (simulationOffering choice) (simulationOffering left) :=
    SectionReduces.content (by rfl) hevents (by rfl)
  have hcontent : (documentOffering choice).find? "content" =
      some (.map [("sections", .list [simulationOffering choice])]) := rfl
  exact .sections hcontent rfl (.cons hsection .nil)

theorem load_reduced_iff_of_effects :
    DocumentReduces (documentOffering [("text", "Go"), ("effects", .map [])])
        (documentOffering [("text", "Go")]) ∧
      (∃ g, (load (.map (documentOffering [("text", "Go"), ("effects", .map [])]))
        "simulation").result = .ok g) ∧
      ((∃ g, (load (.map (documentOffering [("text", "Go")])) "simulation").result = .ok g) ↔
        (∀ v ∈ [simulationOffering [("text", "Go")]], ¬LacksState v) ∧
          ∀ e ∈ keptSections [] [simulationOffering [("text", "Go")]].zipIdx,
            SectionWhole e.1) := by
  have hred : DocumentReduces (documentOffering [("text", "Go"), ("effects", .map [])])
      (documentOffering [("text", "Go")]) :=
    documentReduces_offering (.keep (.refl _) (.delete rfl .nil))
  obtain ⟨g, hg⟩ := Traced.exists_ok_of_isOk
    (x := load (.map (documentOffering [("text", "Go"), ("effects", .map [])])) "simulation")
    (by decide +kernel)
  have hraw (doc : Fields) : HoldsDocument doc (.map doc) := rfl
  exact ⟨hred, ⟨g, hg⟩, load_reduced_iff (hraw _) (hraw _) hred hg⟩

/-- Without its text a choice in an event is not filled, and all of the game is refused. -/
theorem not_load_of_choiceWithoutText :
    DocumentReduces (documentOffering [("text", "Go")]) (documentOffering []) ∧
      (∃ g, (load (.map (documentOffering [("text", "Go")])) "simulation").result = .ok g) ∧
      ∃ issues, (load (.map (documentOffering [])) "simulation").result =
        .error (.unplayable (.invalid issues)) :=
  ⟨documentReduces_offering (.delete rfl .nil),
    Traced.exists_ok_of_isOk (by decide +kernel), _, rfl⟩

end LearningGame
