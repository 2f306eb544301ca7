import LearningGame.Proofs.Completion.Fitting

/-!
# Contents with deleted entries

What is left of a content when entries are deleted from it still fits, unless it lacks one of the
few things that filling does not put in.
-/

namespace LearningGame.Completion

open Content Schema

/-! ### Entries -/

section Entries

variable {m n : Fields} {key : String}

lemma exists_of_mem_mapsAt (h : m.Reduces n) {o : Fields} (ho : o ∈ mapsAt n key) :
    ∃ p ∈ mapsAt m key, p.Reduces o := by
  rw [mem_mapsAt] at ho
  rcases h.get key with hnull | hred
  · simp [hnull, Value.items] at ho
  · obtain ⟨v, hv, hvo⟩ := hred.items.exists_of_mem_right ho
    rcases hvo.eq_or with heq | ⟨vs, rfl⟩ | ⟨p, rfl⟩
    · exact ⟨o, mem_mapsAt.mpr (heq ▸ hv), .refl o⟩
    · cases hvo
    · obtain ⟨_, heq, hpo⟩ := (Value.reduces_map_iff p).mp hvo
      cases heq
      exact ⟨p, mem_mapsAt.mpr hv, hpo⟩

/-- Where a map is left there was one before. -/
lemma exists_of_get_eq_map (h : m.Reduces n) {o : Fields} (ho : n.get key = .map o) :
    ∃ p : Fields, m.get key = .map p ∧ p.Reduces o := by
  rcases h.get key with hnull | hred
  · rw [hnull] at ho
    cases ho
  · rw [ho] at hred
    generalize m.get key = v at hred ⊢
    cases hred with
    | refl => exact ⟨o, rfl, .refl o⟩
    | map h => exact ⟨_, rfl, h⟩

lemma isNotFinite_of_reduces {v w : Value} (h : v.Reduces w) (hw : w.IsNotFinite) :
    v.IsNotFinite := by
  obtain ⟨x, rfl, hx⟩ := hw
  cases h
  exact ⟨x, rfl, hx⟩

lemma isNotFinite_of_get (h : m.Reduces n) (hn : (n.get key).IsNotFinite) :
    (m.get key).IsNotFinite := by
  rcases h.get key with hnull | hred
  · simp [hnull] at hn
  · exact isNotFinite_of_reduces hred hn

lemma hasNotFinite_of_reduces {list : String} (h : m.Reduces n) (hn : HasNotFinite n list key) :
    HasNotFinite m list key := by
  obtain ⟨o, ho, hfloat⟩ := hn
  obtain ⟨p, hp, hpo⟩ := exists_of_mem_mapsAt h (mem_mapsAt.mpr ho)
  exact ⟨p, mem_mapsAt.mp hp, isNotFinite_of_get hpo hfloat⟩

/-- A text in place of what counts as false stands in for what is deleted as well. -/
lemma accepts_orElse_of_reduces {other : Value} (h : m.Reduces n)
    (hother : Codec.text.Accepts other) (hm : Codec.text.Accepts ((m.get key).orElse other)) :
    Codec.text.Accepts ((n.get key).orElse other) := by
  unfold Value.orElse at hm ⊢
  split_ifs with hn
  · rcases h.get key with hnull | hred
    · rw [hnull] at hn
      cases hn
    · rw [if_pos (hred.truthy hn)] at hm
      exact Codec.isSteady_text _ _ hred hm
  · exact hother

lemma fits_of_plain {α : Type} {c : Codec α} (hc : c.IsSteady) {names : List String}
    (hnames : ∀ name ∈ names, underscored name = name) (h : m.Reduces n)
    (hm : ∀ name ∈ names, Fits c m name) : ∀ name ∈ names, Fits c n name :=
  fun name hname => (hm name hname).reduces_plain hc h (hnames name hname)

end Entries

/-! ### Media -/

/-- A medium that is given names its type and its content. -/
def MediumWhole (v : Value) : Prop :=
  ∀ m, v = .map m → Fields.has m "type" = true ∧ Fields.has m "content" = true

lemma fits_media {m n : Fields} (h : m.Reduces n) (hm : Fits Media.codec.optional m "media")
    (hn : MediumWhole (n.get "media")) : Fits Media.codec.optional n "media" := by
  refine fits_iff.mpr ⟨fun w hw => ?_, fitsOtherwise_of_plain (by decide)⟩
  obtain ⟨v, hv, hvw⟩ := h.find? hw
  have hfits := (fits_iff.mp hm).1 v hv
  rw [Fields.get_of_find? hw] at hn
  rw [Codec.accepts_optional, Media.codec, RecordOf.accepts_codec_iff] at hfits ⊢
  rcases hfits with rfl | ⟨m, rfl, hm⟩
  · cases hvw
    exact .inl rfl
  · obtain ⟨n, rfl, hmn⟩ := (Value.reduces_map_iff m).mp hvw
    obtain ⟨htype, hcontent⟩ := hn n rfl
    refine .inr ⟨n, rfl, ?_⟩
    simp only [RecordOf.accepts_apply, RecordOf.accepts_build, RecordOf.accepts_required,
      RecordOf.accepts_optional, true_and] at hm ⊢
    obtain ⟨⟨⟨-, hkind⟩, -, hwhat⟩, hcaption⟩ := hm
    exact ⟨⟨⟨given?_of_has htype, hkind.reduces_plain Codec.isSteady_text hmn (by decide)⟩,
      given?_of_has hcontent, hwhat.reduces_plain Codec.isSteady_text hmn (by decide)⟩,
      hcaption.reduces_plain Codec.isSteady_text.optional hmn (by decide)⟩

lemma mediumWhole_of_fits {m : Fields} (h : Fits Media.codec.optional m "media") :
    MediumWhole (m.get "media") := by
  intro medium hmedium
  have haccepts := (fits_of_find? (Fields.find?_of_get hmedium (by simp))).mp h
  simp only [Codec.accepts_optional, reduceCtorEq, false_or, Media.codec, RecordOf.accepts_codec,
    RecordOf.accepts_apply, RecordOf.accepts_build, RecordOf.accepts_required,
    RecordOf.accepts_optional, true_and] at haccepts
  obtain ⟨⟨⟨⟨_, htype⟩, -⟩, ⟨_, hcontent⟩, -⟩, -⟩ := haccepts
  exact ⟨has_of_given? htype (by decide), has_of_given? hcontent (by decide)⟩

/-! ### Quizzes, cards, pairs and things to sort -/

/-- What is left of a question has whole media, and its time limit can be read. -/
structure QuestionWhole (q : Fields) : Prop where
  media : MediumWhole (q.get "media")
  timeLimit : FitsOtherwise Codec.integer.optional q "timeLimit"

lemma QuestionFits.reduces {q p : Fields} (h : QuestionFits q) (hqp : q.Reduces p)
    (hp : QuestionWhole p) : QuestionFits p where
  media := fits_media hqp h.media hp.media
  options o ho := by
    obtain ⟨o', ho', hred⟩ := exists_of_mem_mapsAt hqp ho
    exact (h.options o' ho').reduces_plain Codec.isSteady_text.optional hred (by decide)
  explanation := h.explanation.reduces_plain Codec.isSteady_text.optional hqp (by decide)
  hint := h.hint.reduces_plain Codec.isSteady_text.optional hqp (by decide)
  timeLimit := h.timeLimit.reduces Codec.isSteady_integer.optional hqp hp.timeLimit

lemma QuestionFits.whole {q : Fields} (h : QuestionFits q) : QuestionWhole q :=
  ⟨mediumWhole_of_fits h.media, (fits_iff.mp h.timeLimit).2⟩

/-- What is left of the sides of a card has whole media. -/
def CardWhole (card : Fields) : Prop :=
  ∀ key ∈ ["front", "back"], ∀ side, card.get (.text key) = .map side →
    MediumWhole (Fields.get side "media")

lemma CardFits.reduces {card p : Fields} (h : CardFits card) (hred : card.Reduces p)
    (hp : CardWhole p) : CardFits p where
  front side hside := by
    obtain ⟨given, hgiven, hs⟩ := exists_of_get_eq_map hred hside
    exact fits_media hs (h.front given hgiven) (hp "front" (by decide) side hside)
  back side hside := by
    obtain ⟨given, hgiven, hs⟩ := exists_of_get_eq_map hred hside
    exact fits_media hs (h.back given hgiven) (hp "back" (by decide) side hside)
  hint := h.hint.reduces_plain Codec.isSteady_text.optional hred (by decide)
  category := h.category.reduces_plain Codec.isSteady_text.optional hred (by decide)

lemma CardFits.whole {card : Fields} (h : CardFits card) : CardWhole card := by
  intro key hkey side hside
  simp only [List.mem_cons, List.not_mem_nil, or_false] at hkey
  rcases hkey with rfl | rfl
  · exact mediumWhole_of_fits (h.front side hside)
  · exact mediumWhole_of_fits (h.back side hside)

lemma PairFits.reduces {pair p : Fields} (h : PairFits pair) (hred : pair.Reduces p) :
    PairFits p where
  left side hside := by
    obtain ⟨given, hgiven, hs⟩ := exists_of_get_eq_map hred hside
    exact (h.left given hgiven).reduces_plain Codec.isSteady_text.optional hs (by decide)
  right side hside := by
    obtain ⟨given, hgiven, hs⟩ := exists_of_get_eq_map hred hside
    exact (h.right given hgiven).reduces_plain Codec.isSteady_text.optional hs (by decide)

lemma CategoryFits.reduces {category p : Fields} (h : CategoryFits category)
    (hred : category.Reduces p) : CategoryFits p where
  description := h.description.reduces_plain Codec.isSteady_text.optional hred (by decide)
  color := h.color.reduces_plain Codec.isSteady_text.optional hred (by decide)

/-! ### Narratives -/

/-- What a scene is given under other names only can be read. -/
structure SceneWhole (scene : Fields) : Prop where
  nextScene : FitsOtherwise Codec.text.optional scene "nextScene"
  isEnding : FitsOtherwise Codec.boolean scene "isEnding"
  ending : FitsOtherwise (Codec.named (α := EndingKind)).optional scene "endingType"

lemma SceneFits.reduces {scene p : Fields} (h : SceneFits scene) (hred : scene.Reduces p)
    (hp : SceneWhole p) : SceneFits p where
  speaker := h.speaker.reduces_plain Codec.isSteady_text.optional hred (by decide)
  background := h.background.reduces_plain Codec.isSteady_text.optional hred (by decide)
  nextScene := h.nextScene.reduces Codec.isSteady_text.optional hred hp.nextScene
  actions a ha := by
    obtain ⟨a', ha', hs⟩ := exists_of_mem_mapsAt hred ha
    exact (h.actions a' ha').reduces_plain Codec.isSteady_any.entries hs (by decide)
  isEnding := h.isEnding.reduces Codec.isSteady_boolean hred hp.isEnding
  ending := hp.ending

lemma SceneFits.whole {scene : Fields} (h : SceneFits scene) : SceneWhole scene :=
  ⟨(fits_iff.mp h.nextScene).2, (fits_iff.mp h.isEnding).2, h.ending⟩

/-! ### Simulations -/

lemma ResourceFits.reduces {r p : Fields} (h : ResourceFits r) (hred : r.Reduces p)
    (hp : ∀ name ∈ ["initialValue", "minValue", "maxValue"], FitsOtherwise Codec.number p name) :
    ResourceFits p where
  texts := fits_of_plain Codec.isSteady_text (by decide) hred h.texts
  numbers name hname := (h.numbers name hname).reduces Codec.isSteady_number hred (hp name hname)

lemma isSteady_amounts : Amounts.codec.IsSteady := Codec.isSteady_float.entries

lemma ActionFits.reduces {a p : Fields} (h : ActionFits a) (hred : a.Reduces p)
    (hp : FitsOtherwise Codec.text.optional p "unlockCondition") : ActionFits p where
  texts := fits_of_plain Codec.isSteady_text (by decide) hred h.texts
  amounts := fits_of_plain isSteady_amounts (by decide) hred h.amounts
  unlockCondition := h.unlockCondition.reduces Codec.isSteady_text.optional hred hp
  cooldown := h.cooldown.reduces_plain Codec.isSteady_integer hred (by decide)

lemma accepts_eventChoice_of_reduces {c p : Fields} (h : EventChoice.codec.Accepts (.map c))
    (hred : c.Reduces p) (hp : p.has "text" = true) : EventChoice.codec.Accepts (.map p) := by
  simp only [EventChoice.codec, RecordOf.accepts_codec, RecordOf.accepts_apply,
    RecordOf.accepts_build, RecordOf.accepts_required, RecordOf.accepts_withDefault,
    true_and] at h ⊢
  obtain ⟨⟨-, htext⟩, heffects⟩ := h
  exact ⟨⟨given?_of_has hp, htext.reduces_plain Codec.isSteady_text hred (by decide)⟩,
    heffects.reduces_plain isSteady_amounts hred (by decide)⟩

lemma has_text_of_accepts {c : Fields} (h : EventChoice.codec.Accepts (.map c)) :
    c.has "text" = true := by
  simp only [EventChoice.codec, RecordOf.accepts_codec, RecordOf.accepts_apply,
    RecordOf.accepts_build, RecordOf.accepts_required, RecordOf.accepts_withDefault,
    true_and] at h
  obtain ⟨⟨⟨_, htext⟩, -⟩, -⟩ := h
  exact has_of_given? htext (by decide)

lemma EventFits.reduces {e p : Fields} (h : EventFits e) (hred : e.Reduces p)
    (hp : ∀ c ∈ mapsAt p "choices", c.has "text" = true) : EventFits p where
  texts := fits_of_plain Codec.isSteady_text (by decide) hred h.texts
  probability := h.probability.reduces_plain Codec.isSteady_float hred (by decide)
  conditions := h.conditions.reduces_plain Codec.isSteady_text.optional hred (by decide)
  effects := h.effects.reduces_plain isSteady_amounts hred (by decide)
  choices c hc := by
    obtain ⟨c', hc', hs⟩ := exists_of_mem_mapsAt hred hc
    exact accepts_eventChoice_of_reduces (h.choices c' hc') hs (hp c hc)

lemma ObjectiveFits.reduces {o p : Fields} (h : ObjectiveFits o) (hred : o.Reduces p) :
    ObjectiveFits p where
  texts := fits_of_plain Codec.isSteady_text (by decide) hred h.texts
  value := h.value.reduces_plain Codec.isSteady_number hred (by decide)
  required := h.required.reduces_plain Codec.isSteady_boolean hred (by decide)
  points := h.points.reduces_plain Codec.isSteady_integer hred (by decide)

/-! ### Entries that are given by pairs -/

/-- Entries with the same keys, of whose values something is left. -/
def KeepsKeys (m n : Fields) : Prop :=
  List.Forall₂ (fun e d => e.1 = d.1 ∧ Value.Reduces e.2 d.2) m n

lemma KeepsKeys.reduces {m n : Fields} (h : KeepsKeys m n) : m.Reduces n := by
  induction h with
  | nil => exact .nil
  | @cons e d m n hed _ ih =>
    obtain ⟨k, v⟩ := e
    obtain ⟨j, w⟩ := d
    obtain ⟨rfl, hvw⟩ := hed
    exact .keep hvw ih

lemma KeepsKeys.put {m n : Fields} (h : KeepsKeys m n) (k : Key) {v w : Value}
    (hvw : v.Reduces w) : KeepsKeys (m.put k v) (n.put k w) := by
  induction h with
  | nil => exact .cons ⟨rfl, hvw⟩ .nil
  | @cons e d m n hed h ih =>
    obtain ⟨j, x⟩ := e
    obtain ⟨i, y⟩ := d
    obtain ⟨rfl, hxy⟩ := hed
    rw [Fields.put, Fields.put]
    split_ifs
    · exact .cons ⟨rfl, hvw⟩ h
    · exact .cons ⟨rfl, hxy⟩ ih

lemma toPair_eq_ok {v : Value} {e : Key × Value} (h : v.toPair = .ok e) :
    ∃ a, v.elements = .ok [a, e.2] ∧ a.toKey? = some e.1 := by
  unfold Value.toPair at h
  split at h
  · cases h
  · rename_i a x helements
    unfold Value.toKey at h
    cases hkey : a.toKey? with
    | none =>
      rw [hkey] at h
      cases h
    | some k =>
      rw [hkey] at h
      cases h
      exact ⟨a, helements, hkey⟩
  · cases h

/-- Of two elements two are left. -/
lemma reduces_of_elements {v w a b x y : Value} (h : v.Reduces w) (hv : v.elements = .ok [a, x])
    (hw : w.elements = .ok [b, y]) : a.Reduces b ∧ x.Reduces y := by
  cases h with
  | refl =>
    cases hv.symm.trans hw
    exact ⟨.refl a, .refl x⟩
  | list h =>
    cases hv
    cases hw
    cases h with
    | cons hab h =>
      cases h with
      | cons hxy _ => exact ⟨hab, hxy⟩
  | @map m n h =>
    -- The elements of a map are its keys, so that none of the two has been deleted.
    have hm : m.map (fun e => e.1.toValue) = [a, x] := Except.ok.inj hv
    have hn : n.map (fun e => e.1.toValue) = [b, y] := Except.ok.inj hw
    have hlength : n.length = m.length := by
      simpa using (congrArg List.length hn).trans (congrArg List.length hm).symm
    have hkeys := congrArg (List.map Key.toValue) (h.keys.eq_of_length (by simpa using hlength))
    rw [List.map_map, List.map_map] at hkeys
    cases hn.symm.trans (hkeys.trans hm)
    exact ⟨.refl a, .refl x⟩

/-- A pair that is left after a deletion is a pair with the same key. -/
lemma keepsKey_toPair {v w : Value} (h : v.Reduces w) {e d : Key × Value} (hv : v.toPair = .ok e)
    (hw : w.toPair = .ok d) : e.1 = d.1 ∧ Value.Reduces e.2 d.2 := by
  obtain ⟨a, hvs, ha⟩ := toPair_eq_ok hv
  obtain ⟨b, hws, hb⟩ := toPair_eq_ok hw
  obtain ⟨hab, hvalue⟩ := reduces_of_elements h hvs hws
  refine ⟨?_, hvalue⟩
  -- Lists and maps, of which something may have been deleted, are no keys.
  rcases hab.eq_or with rfl | ⟨vs, rfl⟩ | ⟨m, rfl⟩
  · exact Option.some.inj (ha.symm.trans hb)
  · cases ha
  · cases ha

lemma keepsKeys_putPairs {vs ws : List Value} (h : List.Forall₂ Value.Reduces vs ws)
    {m n m' n' : Fields} (hmn : KeepsKeys m n) (hv : Value.putPairs m vs = .ok m')
    (hw : Value.putPairs n ws = .ok n') : KeepsKeys m' n' := by
  induction h generalizing m n with
  | nil =>
    cases hv
    cases hw
    exact hmn
  | @cons v w vs ws hvw _ ih =>
    rw [Value.putPairs] at hv hw
    cases hpair : v.toPair with
    | error f =>
      rw [hpair] at hv
      cases hv
    | ok e =>
      cases hpair' : w.toPair with
      | error f =>
        rw [hpair'] at hw
        cases hw
      | ok d =>
        obtain ⟨k, x⟩ := e
        obtain ⟨j, y⟩ := d
        obtain ⟨rfl, hxy⟩ := keepsKey_toPair hvw hpair hpair'
        rw [hpair] at hv
        rw [hpair'] at hw
        exact ih (hmn.put k hxy) hv hw

/-- The entries that are left, given as such or by pairs. -/
lemma reduces_entriesOf {v w : Value} (h : v.Reduces w) {m n : Fields} (hv : entriesOf v = .ok m)
    (hw : entriesOf w = .ok n) : m.Reduces n := by
  have hmap (m : Fields) : entriesOf (.map m) = .ok m := by
    cases m <;> rfl
  cases h with
  | refl =>
    cases hv.symm.trans hw
    exact .refl m
  | map h =>
    rw [hmap] at hv hw
    cases hv
    cases hw
    exact h
  | list h =>
    cases h with
    | nil =>
      cases hv
      cases hw
      exact .nil
    | cons hvw h => exact (keepsKeys_putPairs (.cons hvw h) .nil hv hw).reduces

/-- What is left of an initial state fits, as long as it can be told what its entries are. -/
lemma InitialFits.reduces {m n : Fields} (h : InitialFits m) (hmn : m.Reduces n)
    (hm : (m.get "resources").GivesEntries) : InitialFits n := by
  have hsteady {α : Type} {c : Codec α} (hc : c.IsSteady) {name : String}
      (hname : ∀ v, m.find? name = some v → c.Accepts v) :
      ∀ w, n.find? name = some w → c.Accepts w := by
    intro w hw
    obtain ⟨v, hv, hvw⟩ := hmn.find? hw
    exact hc v w hvw (hname v hv)
  refine ⟨hsteady Codec.isSteady_integer h.turn, fun amounts hamounts => ?_,
    hsteady Codec.isSteady_any.entries h.vars, hsteady Codec.isSteady_text.list h.actions,
    hsteady Codec.isSteady_text.list h.objectives⟩
  rcases hmn.get "resources" with hnull | hred
  · rw [hnull] at hamounts
    cases hamounts
    exact Codec.accepts_entries_iff.mpr ⟨[], rfl, by simp⟩
  · obtain ⟨given, hgiven⟩ := (exists_entriesOf_iff _).mpr hm
    exact isSteady_amounts _ _ (.map (reduces_entriesOf hred hgiven hamounts))
      (h.amounts given hgiven)

lemma initialFits_nil : InitialFits [] := by
  refine ⟨nofun, fun amounts hamounts => ?_, nofun, nofun, nofun⟩
  cases hamounts
  exact Codec.accepts_entries_iff.mpr ⟨[], rfl, by simp⟩

/-- In what is left of a simulation the choices in events have their texts, and what is given under
other names only can be read. -/
structure SimulationWhole (content : Fields) : Prop where
  resources : ∀ r ∈ mapsAt content "resources",
    ∀ name ∈ ["initialValue", "minValue", "maxValue"], FitsOtherwise Codec.number r name
  actions : ∀ a ∈ mapsAt content "actions", FitsOtherwise Codec.text.optional a "unlockCondition"
  events : ∀ e ∈ mapsAt content "events", ∀ c ∈ mapsAt e "choices", c.has "text" = true

lemma SimulationFits.reduces {content p : Fields} (h : SimulationFits content)
    (hbreaks : ¬InitialStateBreaks (content.get "initialState")) (hred : content.Reduces p)
    (hp : SimulationWhole p) : SimulationFits p where
  initial initial hinitial := by
    rw [InitialStateBreaks, not_or, not_not, ← exists_entriesOf_iff] at hbreaks
    obtain ⟨⟨given, hgiven⟩, hamounts⟩ := hbreaks
    have hgives : (Fields.get given "resources").GivesEntries := by
      by_contra hnot
      exact hamounts ⟨given, hgiven, hnot⟩
    rcases hred.get "initialState" with hnull | hs
    · rw [hnull] at hinitial
      cases hinitial
      exact initialFits_nil
    · exact (h.initial given hgiven).reduces (reduces_entriesOf hs hgiven hinitial) hgives
  resources r hr := by
    obtain ⟨r', hr', hs⟩ := exists_of_mem_mapsAt hred hr
    exact (h.resources r' hr').reduces hs (hp.resources r hr)
  actions a ha := by
    obtain ⟨a', ha', hs⟩ := exists_of_mem_mapsAt hred ha
    exact (h.actions a' ha').reduces hs (hp.actions a ha)
  events e he := by
    obtain ⟨e', he', hs⟩ := exists_of_mem_mapsAt hred he
    exact (h.events e' he').reduces hs (hp.events e he)
  objectives o ho := by
    obtain ⟨o', ho', hs⟩ := exists_of_mem_mapsAt hred ho
    exact (h.objectives o' ho').reduces hs

lemma SimulationFits.whole {content : Fields} (h : SimulationFits content) :
    SimulationWhole content where
  resources r hr name hname := (fits_iff.mp ((h.resources r hr).numbers name hname)).2
  actions a ha := (fits_iff.mp (h.actions a ha).unlockCondition).2
  events e he c hc := has_text_of_accepts ((h.events e he).choices c hc)

/-! ### Explorations -/

lemma isSteady_worldSize : WorldSize.codec.IsSteady := by
  intro v w hvw hv
  obtain ⟨m, rfl, hm⟩ := (RecordOf.accepts_codec_iff _ _ _).mp hv
  obtain ⟨n, rfl, hmn⟩ := (Value.reduces_map_iff m).mp hvw
  simp only [WorldSize.codec, RecordOf.accepts_codec, RecordOf.accepts_apply,
    RecordOf.accepts_build, RecordOf.accepts_withDefault, true_and] at hm ⊢
  obtain ⟨hwidth, hheight⟩ := hm
  exact ⟨hwidth.reduces_plain Codec.isSteady_integer hmn (by decide),
    hheight.reduces_plain Codec.isSteady_integer hmn (by decide)⟩

lemma isSteady_world : World.codec.IsSteady := by
  intro v w hvw hv
  obtain ⟨m, rfl, hm⟩ := (RecordOf.accepts_codec_iff _ _ _).mp hv
  obtain ⟨n, rfl, hmn⟩ := (Value.reduces_map_iff m).mp hvw
  simp only [World.codec, RecordOf.accepts_codec, RecordOf.accepts_apply,
    RecordOf.accepts_build, RecordOf.accepts_withDefault, true_and] at hm ⊢
  obtain ⟨⟨⟨hname, hdescription⟩, hsize⟩, htheme⟩ := hm
  exact ⟨⟨⟨hname.reduces_plain Codec.isSteady_text hmn (by decide),
    hdescription.reduces_plain Codec.isSteady_text hmn (by decide)⟩,
    hsize.reduces_plain isSteady_worldSize hmn (by decide)⟩,
    htheme.reduces_plain Codec.isSteady_text hmn (by decide)⟩

lemma accepts_position_of_reduces {v w : Value} (h : v.Reduces w)
    (hv : (Codec.entries .float).Accepts (.map (position v))) :
    (Codec.entries .float).Accepts (.map (position w)) := by
  cases h with
  | refl => exact hv
  | list h => exact hv
  | @map m n h =>
    obtain ⟨given, hgiven, hall⟩ := Codec.accepts_entries_iff.mp hv
    cases hgiven
    refine Codec.accepts_entries_iff.mpr ⟨_, rfl, fun e he => ?_⟩
    obtain ⟨hmem, hnumber⟩ := List.mem_filter.mp he
    obtain ⟨v, hv, hvw⟩ := h.exists_of_mem hmem
    have heq : v = e.2 := by
      rcases hvw.eq_or with heq | ⟨vs, rfl⟩ | ⟨m, rfl⟩
      · exact heq.symm
      · obtain ⟨ws, hws, -⟩ := (Value.reduces_list_iff vs).mp hvw
        rw [hws] at hnumber
        cases hnumber
      · obtain ⟨n, hn, -⟩ := (Value.reduces_map_iff m).mp hvw
        rw [hn] at hnumber
        cases hnumber
    subst heq
    exact hall _ (List.mem_filter.mpr ⟨hv, hnumber⟩)

lemma LocationFits.reduces {l p : Fields} (h : LocationFits l) (hred : l.Reduces p)
    (hp : FitsOtherwise LocationEvent.codec.optional p "onVisit") : LocationFits p where
  texts := fits_of_plain Codec.isSteady_text (by decide) hred h.texts
  position := by
    rcases hred.get "position" with hnull | hs
    · rw [hnull]
      exact Codec.accepts_entries_iff.mpr ⟨[], rfl, by simp⟩
    · exact accepts_position_of_reduces hs h.position
  visit := hp
  icon := h.icon.reduces_plain Codec.isSteady_text hred (by decide)

lemma ExplorationFits.reduces {content p : Fields} (h : ExplorationFits content)
    (hred : content.Reduces p)
    (hp : ∀ l ∈ mapsAt p "locations", FitsOtherwise LocationEvent.codec.optional l "onVisit") :
    ExplorationFits p where
  world := h.world.reduces_plain isSteady_world hred (by decide)
  locations l hl := by
    obtain ⟨l', hl', hs⟩ := exists_of_mem_mapsAt hred hl
    exact (h.locations l' hl').reduces hs (hp l hl)
  collectibles c hc := by
    obtain ⟨c', hc', hs⟩ := exists_of_mem_mapsAt hred hc
    exact fits_of_plain Codec.isSteady_text (by decide) hs (h.collectibles c' hc')

/-! ### Challenges -/

lemma isSteady_shortAnswer : ShortAnswer.codec.IsSteady :=
  Codec.isSteady_of_scalar (fun vs ⟨a, h⟩ => by cases h) fun m ⟨a, h⟩ => by cases h

lemma PromptFits.reduces {item p : Fields} (h : PromptFits item) (hred : item.Reduces p)
    (hp : FitsOtherwise Codec.integer.optional p "timeBonus") : PromptFits p where
  answer := by
    rcases hred.get "correctAnswer" with hnull | hs
    · simp [hnull]
    · exact isSteady_shortAnswer.optional _ _ hs h.answer
  options := h.options.reduces_plain isSteady_shortAnswer.list.optional hred (by decide)
  timeBonus := h.timeBonus.reduces Codec.isSteady_integer.optional hred hp

lemma ChallengeFits.reduces {content p : Fields} (h : ChallengeFits content)
    (hred : content.Reduces p)
    (hp : ∀ i ∈ mapsAt p "items", FitsOtherwise Codec.integer.optional i "timeBonus") :
    ChallengeFits p where
  style := accepts_orElse_of_reduces hred (by simp) h.style
  items i hi := by
    obtain ⟨i', hi', hs⟩ := exists_of_mem_mapsAt hred hi
    exact (h.items i' hi').reduces hs (hp i hi)

/-! ### Contents -/

/-- What is left of a content lacks nothing that filling does not put in. -/
def ContentWhole (content : Fields) : SectionKind → Prop
  | .quiz => ∀ q ∈ mapsAt content "questions", QuestionWhole q
  | .flashcards => ∀ card ∈ mapsAt content "cards", CardWhole card
  | .matching => FitsOtherwise Codec.integer.optional content "timeLimit"
  | .narrative => ∀ s ∈ mapsAt content "scenes", SceneWhole s
  | .simulation => SimulationWhole content
  | .exploration =>
    ∀ l ∈ mapsAt content "locations", FitsOtherwise LocationEvent.codec.optional l "onVisit"
  | .challenge => ∀ i ∈ mapsAt content "items", FitsOtherwise Codec.integer.optional i "timeBonus"
  | .sorting => True
  | .info => True

section Contents

variable {kind : SectionKind} {title : Value} {content p : Fields}

/-- Filling what is left of a content breaks off at an initial state only. -/
lemma contentBreaks_iff_of_reduces (h : ¬ContentBreaks content kind) (hred : content.Reduces p) :
    ContentBreaks p kind ↔ kind = .simulation ∧ InitialStateBreaks (p.get "initialState") := by
  cases kind with
  | quiz => exact iff_of_false (mt (hasNotFinite_of_reduces hred) h) (by simp)
  | simulation =>
    have hturns : ¬(p.get "maxTurns").IsNotFinite := fun hturns =>
      h (.inr (isNotFinite_of_get hred hturns))
    simp [ContentBreaks, hturns]
  | exploration => exact iff_of_false (mt (hasNotFinite_of_reduces hred) h) (by simp)
  | challenge =>
    exact iff_of_false (mt (Or.imp (hasNotFinite_of_reduces hred) (Or.imp (isNotFinite_of_get hred)
      (Or.imp (isNotFinite_of_get hred) (isNotFinite_of_get hred)))) h) (by simp)
  | _ => simp [ContentBreaks]

/-- What is left of a content that fits does so as well if it lacks nothing. -/
lemma ContentFits.reduces (h : ContentFits title content kind)
    (hbreaks : ¬ContentBreaks content kind) (htitle : Codec.text.Accepts title)
    (hred : content.Reduces p) (hp : ContentWhole p kind) : ContentFits title p kind := by
  cases kind with
  | quiz =>
    intro q hq
    obtain ⟨q', hq', hs⟩ := exists_of_mem_mapsAt hred hq
    exact (h q' hq').reduces hs (hp q hq)
  | flashcards =>
    intro card hcard
    obtain ⟨card', hcard', hs⟩ := exists_of_mem_mapsAt hred hcard
    exact (h card' hcard').reduces hs (hp card hcard)
  | matching =>
    refine ⟨fun pair hpair => ?_, accepts_orElse_of_reduces hred (by simp) h.style,
      h.timeLimit.reduces Codec.isSteady_integer.optional hred hp⟩
    obtain ⟨pair', hpair', hs⟩ := exists_of_mem_mapsAt hred hpair
    exact (h.pairs pair' hpair').reduces hs
  | sorting =>
    refine ⟨fun i hi => ?_, fun c hc => ?_, accepts_orElse_of_reduces hred (by simp) h.instructions⟩
    · obtain ⟨i', hi', hs⟩ := exists_of_mem_mapsAt hred hi
      exact (h.items i' hi').reduces_plain Codec.isSteady_text.optional hs (by decide)
    · obtain ⟨c', hc', hs⟩ := exists_of_mem_mapsAt hred hc
      exact (h.categories c' hc').reduces hs
  | narrative =>
    intro s hs
    obtain ⟨s', hs', hred⟩ := exists_of_mem_mapsAt hred hs
    exact (h s' hs').reduces hred (hp s hs)
  | simulation => exact SimulationFits.reduces h (fun hinitial => hbreaks (.inl hinitial)) hred hp
  | exploration => exact ExplorationFits.reduces h hred hp
  | challenge => exact ChallengeFits.reduces h hred hp
  | info => exact accepts_orElse_of_reduces hred htitle h

/-- What is left of a content that fits does so exactly if it lacks nothing. -/
lemma contentFits_iff_of_reduces (h : ContentFits title content kind)
    (hbreaks : ¬ContentBreaks content kind) (htitle : Codec.text.Accepts title)
    (hred : content.Reduces p) : ContentFits title p kind ↔ ContentWhole p kind := by
  refine ⟨fun hp => ?_, h.reduces hbreaks htitle hred⟩
  cases kind with
  | quiz => exact fun q hq => (hp q hq).whole
  | flashcards => exact fun card hcard => (hp card hcard).whole
  | matching => exact (fits_iff.mp (MatchingFits.timeLimit hp)).2
  | narrative => exact fun s hs => (hp s hs).whole
  | simulation => exact SimulationFits.whole hp
  | exploration => exact fun l hl => (ExplorationFits.locations hp l hl).visit
  | challenge => exact fun i hi => (fits_iff.mp (ChallengeFits.items hp i hi).timeBonus).2
  | sorting => trivial
  | info => trivial

end Contents

end LearningGame.Completion
