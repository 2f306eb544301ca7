import LearningGame.Completion.Simulation
import LearningGame.Proofs.Completion.Again
import LearningGame.Proofs.Content.Restored

/-!
# Filling simulations again

A simulation that was filled is left as it is: every resource has an amount by then. The initial
state may be given by pairs, so its entries need not be named by texts.
-/

namespace LearningGame

open Schema RecordOf Content Completion

/-! ### Entries that are given by pairs -/

namespace Fields

/-- The text that a key is. -/
def textKey? : Key → Option String
  | .text s => some s
  | _ => none

/-- The texts that name entries. -/
def textNames (m : Fields) : List String := m.filterMap fun e => textKey? e.1

/-- Entries with finite documents, no two named by the same text. -/
structure IsLoose (m : Fields) : Prop where
  nodup : (textNames m).Nodup
  finite : ∀ e ∈ m, e.2.IsFinite

variable {m : Fields} {k : Key} {v : Value}

lemma isLoose_of_isFinite (h : m.IsFinite) : m.IsLoose := by
  obtain ⟨⟨names, hnodup, hnames⟩, hfinite⟩ := h
  have heq : textNames m = names := by
    have hmap : textNames m = (m.map (·.1)).filterMap textKey? := by
      rw [textNames, List.filterMap_map]
      rfl
    rw [hmap, hnames, List.filterMap_map]
    exact List.filterMap_some
  exact ⟨heq ▸ hnodup, hfinite⟩

lemma mem_textNames {a : String} : a ∈ textNames m ↔ ∃ v, (.text a, v) ∈ m := by
  unfold textNames
  rw [List.mem_filterMap]
  constructor
  · rintro ⟨⟨k, v⟩, he, hk⟩
    cases k with
    | text s =>
      cases hk
      exact ⟨v, he⟩
    | _ => cases hk
  · rintro ⟨v, hv⟩
    exact ⟨_, hv, rfl⟩

lemma textNames_cons (e : Key × Value) (m : Fields) :
    textNames (e :: m) = (textKey? e.1).toList ++ textNames m := by
  unfold textNames
  rw [List.filterMap_cons]
  cases textKey? e.1 <;> rfl

/-- Putting in a value adds the text that names it unless an entry is named by it. -/
lemma textNames_put (m : Fields) (k : Key) (v : Value) :
    textNames (m.put k v) = textNames m ∨
      ∃ a, k = .text a ∧ a ∉ textNames m ∧ textNames (m.put k v) = textNames m ++ [a] := by
  induction m with
  | nil =>
    cases k with
    | text a => exact .inr ⟨a, rfl, by simp [textNames], rfl⟩
    | _ => exact .inl rfl
  | cons e m ih =>
    obtain ⟨k', w⟩ := e
    rw [put]
    split_ifs with hk
    · exact .inl rfl
    · rw [textNames_cons, textNames_cons]
      rcases ih with heq | ⟨a, rfl, ha, heq⟩
      · exact .inl (by rw [heq])
      · refine .inr ⟨a, rfl, ?_, by rw [heq, List.append_assoc]⟩
        rw [Key.same_text_iff] at hk
        rw [List.mem_append, not_or]
        refine ⟨fun hmem => ?_, ha⟩
        cases k' with
        | text b =>
          exact hk (congrArg Key.text (Option.some.inj (Option.mem_toList.mp hmem)))
        | _ => cases hmem

lemma mem_put {e : Key × Value} (h : e ∈ m.put k v) : e ∈ m ∨ e.2 = v := by
  induction m with
  | nil =>
    rcases List.mem_singleton.mp h with rfl
    exact .inr rfl
  | cons d m ih =>
    rw [put] at h
    split_ifs at h
    · rcases List.mem_cons.mp h with rfl | h
      · exact .inr rfl
      · exact .inl (List.mem_cons_of_mem _ h)
    · rcases List.mem_cons.mp h with rfl | h
      · exact .inl List.mem_cons_self
      · exact (ih h).imp_left (List.mem_cons_of_mem _)

lemma IsLoose.put (h : m.IsLoose) (k : Key) (hv : v.IsFinite) : (m.put k v).IsLoose := by
  refine ⟨?_, fun e he => ?_⟩
  · rcases textNames_put m k v with heq | ⟨a, -, ha, heq⟩
    · exact heq ▸ h.nodup
    · rw [heq, List.nodup_append]
      exact ⟨h.nodup, by simp, fun b hb c hc hbc =>
        ha (List.mem_singleton.mp hc ▸ hbc ▸ hb)⟩
  · rcases mem_put he with he | rfl
    · exact h.finite e he
    · exact hv

lemma IsLoose.putNew (h : m.IsLoose) (k : Key) (hv : v.IsFinite) : (m.putNew k v).IsLoose := by
  unfold Fields.putNew
  split_ifs
  · exact h
  · exact h.put k hv

lemma has_of_mem {a : String} (h : (.text a, v) ∈ m) : m.has (.text a) = true := by
  rw [has, find?, Option.isSome_map, List.find?_isSome]
  exact ⟨_, h, (Key.same_text_iff _ _).mpr rfl⟩

lemma has_putNew (m : Fields) (a b : String) (v : Value) :
    (m.putNew (.text a) v).has (.text b) = true ↔ a = b ∨ m.has (.text b) = true := by
  rw [has, find?_putNew, has]
  split_ifs with hab <;> simp [hab]

lemma mem_textNames_of_has {a : String} (h : m.has (.text a) = true) : a ∈ textNames m := by
  obtain ⟨v, hv⟩ := Option.isSome_iff_exists.mp h
  exact mem_textNames.mpr ⟨v, mem_of_find? hv⟩

end Fields

namespace Value

lemma isFinite_elements {v : Value} {items : List Value} (hv : v.IsFinite)
    (h : v.elements = .ok items) : ∀ w ∈ items, w.IsFinite := by
  cases v with
  | str s =>
    cases h
    intro w hw
    obtain ⟨c, -, rfl⟩ := List.mem_map.mp hw
    exact .str _
  | list l =>
    cases h
    exact (isDocumentOf_list items).mp hv
  | map m =>
    cases h
    intro w hw
    obtain ⟨e, he, rfl⟩ := List.mem_map.mp hw
    obtain ⟨⟨names, -, hnames⟩, -⟩ := (isDocumentOf_map m).mp hv
    have hkey : e.1 ∈ names.map Key.text := hnames ▸ List.mem_map_of_mem he
    obtain ⟨a, -, ha⟩ := List.mem_map.mp hkey
    rw [← ha]
    exact .str a
  | _ => cases h

lemma isFinite_toPair {v : Value} {e : Key × Value} (hv : v.IsFinite) (h : v.toPair = .ok e) :
    e.2.IsFinite := by
  unfold toPair at h
  cases helements : v.elements with
  | error f =>
    rw [helements] at h
    cases h
  | ok items =>
    have hitems := isFinite_elements hv helements
    rw [helements] at h
    match items, h with
    | [k, x], h =>
      cases hk : k.toKey with
      | error f => simp [hk, Except.map] at h
      | ok key =>
        simp only [hk, Except.map, Except.ok.injEq] at h
        exact h ▸ hitems x (by simp)

lemma isLoose_putPairs {items : List Value} {m n : Fields} (hm : m.IsLoose)
    (hitems : ∀ w ∈ items, w.IsFinite) (h : putPairs m items = .ok n) : n.IsLoose := by
  induction items generalizing m with
  | nil =>
    cases h
    exact hm
  | cons v items ih =>
    rw [putPairs] at h
    cases hpair : v.toPair with
    | error e =>
      rw [hpair] at h
      cases h
    | ok e =>
      rw [hpair] at h
      have he := isFinite_toPair (hitems v List.mem_cons_self) hpair
      exact ih (hm.put e.1 he) (fun w hw => hitems w (List.mem_cons_of_mem _ hw)) h

end Value

namespace Completion

lemma isLoose_entriesOf {v : Value} {m : Fields} (hv : v.IsFinite) (h : entriesOf v = .ok m) :
    m.IsLoose := by
  have hnil : Fields.IsLoose [] := Fields.isLoose_of_isFinite Fields.isDocumentOf_nil
  unfold entriesOf at h
  split_ifs at h
  · unfold Value.toFields at h
    split at h
    · cases h
      exact Fields.isLoose_of_isFinite ((Value.isDocumentOf_map m).mp hv)
    · split at h
      · cases h
      · exact Value.isLoose_putPairs hnil (Value.isFinite_elements hv ‹_›) h
  · cases h
    exact hnil

/-! ### The initial state -/

lemma isLoose_startResources {resources : List Fields} {amounts : Fields} (h : amounts.IsLoose)
    (hresources : ∀ r ∈ resources, r.IsFinite) : (startResources resources amounts).IsLoose := by
  induction resources generalizing amounts with
  | nil => exact h
  | cons r resources ih =>
    refine ih (h.putNew _ ?_) fun s hs => hresources s (List.mem_cons_of_mem _ hs)
    rw [Fields.getD_eq]
    cases hfind : r.find? "initialValue" with
    | none => exact .int 0
    | some v => exact (hresources r List.mem_cons_self).of_find? hfind

lemma has_startResources {resources : List Fields} {amounts : Fields} {a : String}
    (h : amounts.has a = true ∨ ∃ r ∈ resources, textAt r "id" = a) :
    (startResources resources amounts).has a = true := by
  induction resources generalizing amounts with
  | nil =>
    rcases h with h | ⟨s, hs, -⟩
    · exact h
    · cases hs
  | cons r resources ih =>
    refine ih ?_
    rw [Fields.has_putNew]
    rcases h with h | ⟨s, hs, hid⟩
    · exact .inl (.inr h)
    · rcases List.mem_cons.mp hs with rfl | hs
      · exact .inl (.inl hid)
      · exact .inr ⟨s, hs, hid⟩

lemma startResources_of_has {resources : List Fields} {amounts : Fields}
    (h : ∀ r ∈ resources, amounts.has (textAt r "id") = true) :
    startResources resources amounts = amounts := by
  induction resources with
  | nil => rfl
  | cons r resources ih =>
    have hr : amounts.putNew (textAt r "id") (r.getD "initialValue" (.int 0)) = amounts := by
      rw [Fields.putNew, if_pos (h r List.mem_cons_self)]
    show startResources resources (amounts.putNew _ _) = amounts
    rw [hr]
    exact ih fun s hs => h s (List.mem_cons_of_mem _ hs)

/-- What is found in an initial state that was filled. -/
lemma of_fillInitialState {resources : List Fields} {v : Value} {initial : Fields}
    (hv : v.IsFinite) (hresources : ∀ r ∈ resources, r.IsFinite)
    (h : fillInitialState resources v = .ok initial) :
    ∃ amounts vars, initial.find? "resources" = some (.map (startResources resources amounts)) ∧
      (startResources resources amounts).IsLoose ∧ initial.find? "variables" = some vars ∧
      vars.IsFinite := by
  unfold fillInitialState at h
  cases hm : entriesOf v with
  | error e => simp [hm, bind, Except.bind] at h
  | ok m =>
    have hmLoose := isLoose_entriesOf hv hm
    have hshows : m.ShowsFinite := fun a w hw => hmLoose.finite _ (Fields.mem_of_find? hw)
    cases hamounts : entriesOf (m.get "resources") with
    | error e => simp [hm, hamounts, bind, Except.bind] at h
    | ok amounts =>
      simp only [hm, hamounts, bind, Except.bind, pure, Except.pure, Except.ok.injEq] at h
      subst h
      have hget : (m.get "resources").IsFinite := by
        rw [Fields.get_eq]
        cases hfind : m.find? "resources" with
        | none => exact .null
        | some w => exact hshows _ w hfind
      refine ⟨amounts, (m.find? "variables").getD (.map []), by simp,
        isLoose_startResources (isLoose_entriesOf hget hamounts) hresources, by simp, ?_⟩
      cases hfind : m.find? "variables" with
      | none => exact (Value.isDocumentOf_map _).mpr Fields.isDocumentOf_nil
      | some w => exact hshows _ w hfind

end Completion

namespace Content

lemma InitialState.of_read {m : Fields} {r : InitialState} (h : codec.read (.map m) = .valid r)
    {v w : Value} (hv : m.find? "resources" = some v) (hw : m.find? "variables" = some w) :
    Amounts.codec.read v = .valid r.resources ∧
      (Codec.entries .any).read w = .valid r.vars := by
  simp only [codec, read_codec_eq_valid, readsAs_apply, readsAs_build, withDefault,
    read_field_of_find? _ _ hv, read_field_of_find? _ _ hw, Value.map.injEq, exists_eq_left'] at h
  obtain ⟨turn, -, resources, hresources, vars, hvars, -, -, -, -, rfl⟩ := h
  exact ⟨hresources, hvars⟩

/-- Amounts are read with the names of the entries. -/
lemma names_of_read {α : Type} {c : Codec α} {m : Fields} {as : List (String × α)}
    (h : c.entries.read (.map m) = .valid as) : m.textNames = as.map (·.1) := by
  obtain ⟨n, hn, hall⟩ := (Codec.read_entries_eq_valid c _ as).mp h
  cases hn
  induction hall with
  | nil => rfl
  | cons he hrest ih =>
    rw [Fields.textNames_cons, he.1, List.map_cons, ih]
    · rfl
    · exact (Codec.read_entries_eq_valid c _ _).mpr ⟨_, rfl, hrest⟩

end Content

namespace Completion

/-- An initial state that was filled is restored, and has an amount for every resource. -/
lemma restores_of_fillInitialState {resources : List Fields} {v : Value} {initial : Fields}
    {st : InitialState} (hv : v.IsFinite) (hresources : ∀ r ∈ resources, r.IsFinite)
    (h : fillInitialState resources v = .ok initial)
    (hst : InitialState.codec.read (.map initial) = .valid st) :
    InitialState.codec.Restores st st ∧
      ∀ r ∈ resources, textAt r "id" ∈ st.resources.map (·.1) := by
  obtain ⟨amounts, vars, hamounts, hloose, hvars, hfinite⟩ := of_fillInitialState hv hresources h
  obtain ⟨hread, hreadVars⟩ := InitialState.of_read hst hamounts hvars
  have hnames := names_of_read hread
  refine ⟨InitialState.restores st (Codec.restores_entries (hnames ▸ hloose.nodup) fun e _ =>
    Codec.isExact_float e.2) (Codec.isFaithful_any.entries vars _ hfinite hreadVars), fun r hr => ?_⟩
  rw [← hnames]
  exact Fields.mem_textNames_of_has (has_startResources (.inr ⟨r, hr, rfl⟩))

/-- The entries that are written of amounts. -/
def amountEntries (as : Amounts) : Fields := as.map fun e => (.text e.1, .float e.2)

lemma has_amountEntries {as : Amounts} {a : String} (h : a ∈ as.map (·.1)) :
    (amountEntries as).has a = true := by
  obtain ⟨e, he, rfl⟩ := List.mem_map.mp h
  exact Fields.has_of_mem (v := .float e.2) (List.mem_map.mpr ⟨e, he, rfl⟩)

lemma fillInitialState_written (resources : List Fields) (st : InitialState)
    (h : ∀ r ∈ resources, textAt r "id" ∈ st.resources.map (·.1)) :
    fillInitialState resources (.map (InitialState.codec.written st)) =
      .ok (InitialState.codec.written st) := by
  have hresources : (InitialState.codec.written st).find? "resources" =
      some (.map (amountEntries st.resources)) := by
    simp [InitialState.codec]
    exact ⟨rfl, rfl⟩
  have hinitial : entriesOf (.map (InitialState.codec.written st)) =
      .ok (InitialState.codec.written st) := rfl
  have hamounts : entriesOf ((InitialState.codec.written st).get "resources") =
      .ok (amountEntries st.resources) := by
    rw [Fields.get_eq, hresources, Option.getD_some, entriesOf]
    cases has : amountEntries st.resources <;> rfl
  have hstart := startResources_of_has fun r hr => has_amountEntries (h r hr)
  -- Every other entry is there already, so nothing is put in for it.
  have hnew {a : String} {v : Value} (hv : (InitialState.codec.written st).find? a = some v)
      (w : Value) : (InitialState.codec.written st).putNew a w =
        InitialState.codec.written st := Fields.putNew_of_find? hv
  have hturn := hnew (a := "turn") (v := .int st.turn) (by simp [InitialState.codec])
  have hvars := hnew (a := "variables") (v := (Codec.entries .any).write false st.vars)
    (by simp [InitialState.codec])
  have hunlocked := hnew (a := "unlockedActions")
    (v := (Codec.list .text).write false st.unlockedActions) (by simp [InitialState.codec])
  have hcompleted := hnew (a := "completedObjectives")
    (v := (Codec.list .text).write false st.completedObjectives) (by simp [InitialState.codec])
  unfold fillInitialState
  simp only [hinitial, hamounts, hstart, bind, Except.bind, pure, Except.pure,
    Fields.put_of_find? hresources, hturn, hvars, hunlocked, hcompleted]

end Completion

/-! ### The parts of a simulation -/

namespace Content

lemma Resource.id_of_read {m : Fields} {r : Resource} (h : codec.read (.map m) = .valid r)
    {s : String} (hs : m.find? "id" = some (.str s)) : s = r.id := by
  simp only [codec, read_codec_eq_valid, readsAs_apply, readsAs_build, required,
    read_field_of_find? _ _ hs, Codec.read_text_eq_valid, Value.map.injEq, exists_eq_left'] at h
  obtain ⟨id, hid, -, -, -, -, -, -, -, -, -, -, -, -, rfl⟩ := h
  exact Value.str.inj hid

lemma SimAction.id_of_read {m : Fields} {a : SimAction} (h : codec.read (.map m) = .valid a)
    {s : String} (hs : m.find? "id" = some (.str s)) : s = a.id := by
  simp only [codec, read_codec_eq_valid, readsAs_apply, readsAs_build, required,
    read_field_of_find? _ _ hs, Codec.read_text_eq_valid, Value.map.injEq, exists_eq_left'] at h
  obtain ⟨id, hid, -, -, -, -, -, -, -, -, -, -, -, -, -, -, rfl⟩ := h
  exact Value.str.inj hid

lemma SimEvent.id_of_read {m : Fields} {e : SimEvent} (h : codec.read (.map m) = .valid e)
    {s : String} (hs : m.find? "id" = some (.str s)) : s = e.id := by
  simp only [codec, read_codec_eq_valid, readsAs_apply, readsAs_build, required,
    read_field_of_find? _ _ hs, Codec.read_text_eq_valid, Value.map.injEq, exists_eq_left'] at h
  obtain ⟨id, hid, -, -, -, -, -, -, -, -, -, -, -, -, rfl⟩ := h
  exact Value.str.inj hid

lemma Objective.id_of_read {m : Fields} {o : Objective} (h : codec.read (.map m) = .valid o)
    {s : String} (hs : m.find? "id" = some (.str s)) : s = o.id := by
  simp only [codec, read_codec_eq_valid, readsAs_apply, readsAs_build, RecordOf.required,
    read_field_of_find? _ _ hs, Codec.read_text_eq_valid, Value.map.injEq, exists_eq_left'] at h
  obtain ⟨id, hid, -, -, -, -, -, -, -, -, -, -, -, -, rfl⟩ := h
  exact Value.str.inj hid

/-- A simulation as it is filled again: its numbers are floats. -/
def Simulation.settled (z : Simulation) : Simulation :=
  { z with
    resources := z.resources.map Resource.settled
    objectives := z.objectives.map Objective.settled }

/-- What filling makes sure of in a simulation. -/
structure Simulation.IsComplete (z : Simulation) : Prop where
  resources : ∀ r ∈ z.resources, Text.isBlankText r.id = false
  amounts : ∀ r ∈ z.resources, r.id ∈ z.initialState.resources.map (·.1)
  actions : ∀ a ∈ z.actions, Text.isBlankText a.id = false
  events : ∀ e ∈ z.events, Text.isBlankText e.id = false
  objectives : ∀ o ∈ z.objectives, Text.isBlankText o.id = false
  restores : fields.Restores z z.settled

lemma Simulation.of_read {m : Fields} {z : Simulation} (h : fields.read m = .valid z)
    {initial resources actions events objectives : Value}
    (hinitial : m.find? "initialState" = some initial)
    (hresources : m.find? "resources" = some resources)
    (hactions : m.find? "actions" = some actions) (hevents : m.find? "events" = some events)
    (hobjectives : m.find? "objectives" = some objectives) :
    InitialState.codec.read initial = .valid z.initialState ∧
      Resource.codec.list.read resources = .valid z.resources ∧
      SimAction.codec.list.read actions = .valid z.actions ∧
      SimEvent.codec.list.read events = .valid z.events ∧
      Objective.codec.list.read objectives = .valid z.objectives := by
  rw [read_eq_valid_iff] at h
  simp only [fields, readsAs_apply, readsAs_build, required, withDefault,
    read_field_of_find? _ _ hinitial, read_field_of_find? _ _ hresources,
    read_field_of_find? _ _ hactions, read_field_of_find? _ _ hevents,
    read_field_of_find? _ _ hobjectives] at h
  obtain ⟨_, hinitial, _, hresources, _, hactions, _, hevents, _, hobjectives, -, -, rfl⟩ := h
  exact ⟨hinitial, hresources, hactions, hevents, hobjectives⟩

lemma Simulation.restores (z : Simulation)
    (hinitial : InitialState.codec.Restores z.initialState z.initialState)
    (hresources : Resource.codec.list.Restores z.resources (z.resources.map Resource.settled))
    (hactions : SimAction.codec.list.Restores z.actions z.actions)
    (hevents : SimEvent.codec.list.Restores z.events z.events)
    (hobjectives : Objective.codec.list.Restores z.objectives
      (z.objectives.map Objective.settled)) : fields.Restores z z.settled :=
  restores_fields (spells_build (r := z) (s := z.settled) _ |>.required rfl hinitial
    |>.required rfl hresources |>.withDefault rfl hactions |>.withDefault rfl hevents
    |>.withDefault rfl hobjectives |>.withDefault rfl (Codec.isExact_integer _)) (by decide)

end Content

namespace Completion

lemma fillIds_spec (word : String) (hword : Text.isBlankText word = false) {ms : List Fields}
    (h : ∀ m ∈ ms, m.IsFinite) : ∀ m ∈ fillIds word ms, m.IsFinite ∧ HasId m := by
  intro m hm
  obtain ⟨e, he, rfl⟩ := List.mem_map.mp hm
  exact ⟨isFinite_fillId (h e.1 (List.fst_mem_of_mem_zipIdx he)) _, hasId_fillId e.1 word _ hword⟩

lemma fillEvent_spec {event m : Fields} {n : Nat} (hfinite : event.IsFinite)
    (h : (fillEvent event n).result = .ok m) : m.IsFinite ∧ HasId m := by
  obtain ⟨choices, hchoices, h⟩ := (Traced.bind_eq_ok _ _ _).mp h
  cases h
  have hevent := isFinite_fillId hfinite ("event" ++ toString n)
  exact ⟨hevent.put (isFinite_mapList (isFinite_of_objects (hevent.get _) hchoices)),
    (hasId_fillId event "event" _ (by decide)).put (by decide) _⟩

lemma fillEvent_written {e : SimEvent} (h : Text.isBlankText e.id = false) (n : Nat) :
    (fillEvent (SimEvent.codec.written e) n).result = .ok (SimEvent.codec.written e) := by
  have hchoices : (SimEvent.codec.written e).find? "choices" =
      some (mapList (e.choices.map EventChoice.codec.written)) := by
    rw [← write_list_eq fun _ => rfl]
    simp [SimEvent.codec]
  unfold fillEvent
  rw [fillId_of_find? (s := e.id) (by simp [SimEvent.codec]) h]
  refine (Traced.bind_eq_ok _ _ _).mpr ⟨_, objects_of_find? hchoices _, ?_⟩
  rw [Fields.put_of_find? hchoices]
  rfl

lemma fillObjective_spec {objective : Fields} (h : objective.IsFinite) (n : Nat) :
    (fillObjective objective n).IsFinite ∧ HasId (fillObjective objective n) := by
  have hid := hasId_fillId objective "obj" (toString n) (by decide)
  unfold fillObjective
  dsimp only
  split_ifs
  · exact ⟨isFinite_fillId h _, hid⟩
  · exact ⟨(isFinite_fillId h _).put (.str _), hid.put (by decide) _⟩

lemma fillObjective_written {o : Objective} (h : Text.isBlankText o.id = false) (n : Nat) :
    fillObjective (Objective.codec.written o) n = Objective.codec.written o := by
  have hkind : (Objective.codec.written o).find? "type" = some (.str (Named.name o.kind)) := by
    simp [Objective.codec]
  have hknown : (Named.names ObjectiveKind).contains (Named.name o.kind) = true := by
    cases o.kind <;> decide
  unfold fillObjective
  dsimp only
  rw [fillId_of_find? (s := o.id) (by simp [Objective.codec]) h, Fields.get_eq, hkind, if_pos]
  exact hknown

/-! ### Simulations -/

lemma isComplete_of_fillSimulation {content filled : Fields} {z : Simulation}
    (hfinite : content.IsFinite) (h : (fillSimulation content).result = .ok filled)
    (hz : Simulation.fields.read filled = .valid z) : z.IsComplete := by
  obtain ⟨resources, hresources, h⟩ := (Traced.bind_eq_ok _ _ _).mp h
  obtain ⟨initial, hinitial, h⟩ := (Traced.bind_eq_ok _ _ _).mp h
  obtain ⟨actions, hactions, h⟩ := (Traced.bind_eq_ok _ _ _).mp h
  obtain ⟨given, hgiven, h⟩ := (Traced.bind_eq_ok _ _ _).mp h
  obtain ⟨events, hevents, h⟩ := (Traced.bind_eq_ok _ _ _).mp h
  obtain ⟨objectives, hobjectives, h⟩ := (Traced.bind_eq_ok _ _ _).mp h
  obtain ⟨n, -, rfl⟩ := (fillWhole_eq_ok _ _ _ _).mp h
  rw [Traced.result_lift] at hinitial
  have hr := fillIds_spec "res" (by decide)
    (isFinite_of_objects (hfinite.get _) hresources)
  have ha := fillIds_spec "action" (by decide)
    (isFinite_of_objects (hfinite.get _) hactions)
  have he (e : Fields) (hmem : e ∈ events) : e.IsFinite ∧ HasId e := by
    obtain ⟨o, ho, n, hfill⟩ := exists_of_mem_traverse hevents hmem
    exact fillEvent_spec (isFinite_of_objects (hfinite.get _) hgiven o ho) hfill
  have ho (o : Fields) (hmem : o ∈ (numbered objectives).map fun e => fillObjective e.1 e.2) :
      o.IsFinite ∧ HasId o := by
    obtain ⟨p, hp, n, rfl⟩ := exists_of_mem_map_numbered hmem
    exact fillObjective_spec (isFinite_of_objects (hfinite.get _) hobjectives p hp) n
  obtain ⟨hinitial', hresources', hactions', hevents', hobjectives'⟩ := Simulation.of_read hz
    (by simp; rfl) (by simp; rfl) (by simp; rfl) (by simp; rfl) (by simp; rfl)
  obtain ⟨hstate, hamounts⟩ := restores_of_fillInitialState (hfinite.get _)
    (fun r hr' => (hr r hr').1) hinitial hinitial'
  obtain ⟨hresourceIds, hresources⟩ :=
    of_read_hasId hresources' hr Resource.id_of_read Resource.isSound
  obtain ⟨hactionIds, hactions⟩ :=
    of_read_hasId (g := fun a => a) hactions' ha SimAction.id_of_read SimAction.isFaithful
  obtain ⟨heventIds, hevents⟩ :=
    of_read_hasId (g := fun e => e) hevents' he SimEvent.id_of_read SimEvent.isFaithful
  obtain ⟨hobjectiveIds, hobjectives⟩ :=
    of_read_hasId hobjectives' ho Objective.id_of_read Objective.isSound
  rw [List.map_id'] at hactions hevents
  refine ⟨hresourceIds, fun r hrz => ?_, hactionIds, heventIds, hobjectiveIds,
    Simulation.restores z hstate hresources hactions hevents hobjectives⟩
  obtain ⟨m, hm, hread⟩ := exists_of_read_mapList hresources' hrz
  obtain ⟨id, hid, -⟩ := (hr m hm).2
  rw [← Resource.id_of_read hread hid, ← textAt_of_find? hid]
  exact hamounts m hm

/-- A complete simulation that is filled again is left as it is. -/
lemma fillSimulation_written {z : Simulation} (h : z.IsComplete) (tag : Value) :
    (fillSimulation ((.text "type", tag) :: Simulation.fields.write false z)).result =
      .ok ((.text "type", tag) :: Simulation.fields.write false z) := by
  obtain ⟨content, hcontent⟩ : ∃ content : Fields,
    (.text "type", tag) :: Simulation.fields.write false z = content := ⟨_, rfl⟩
  have hinitial : content.find? "initialState" =
      some (.map (InitialState.codec.written z.initialState)) := by
    simp [← hcontent, Simulation.fields, InitialState.codec, write_codec]
  have hresources : content.find? "resources" =
      some (mapList (z.resources.map Resource.codec.written)) := by
    rw [← write_list_eq fun _ => rfl]
    simp [← hcontent, Simulation.fields]
  have hactions : content.find? "actions" =
      some (mapList (z.actions.map SimAction.codec.written)) := by
    rw [← write_list_eq fun _ => rfl]
    simp [← hcontent, Simulation.fields]
  have hevents : content.find? "events" =
      some (mapList (z.events.map SimEvent.codec.written)) := by
    rw [← write_list_eq fun _ => rfl]
    simp [← hcontent, Simulation.fields]
  have hobjectives : content.find? "objectives" =
      some (mapList (z.objectives.map Objective.codec.written)) := by
    rw [← write_list_eq fun _ => rfl]
    simp [← hcontent, Simulation.fields]
  have hturns : content.find? "maxTurns" = some (.int z.maxTurns) := by
    simp [← hcontent, Simulation.fields]
  rw [hcontent]
  have hrIds : fillIds "res" (z.resources.map Resource.codec.written) =
      z.resources.map Resource.codec.written :=
    map_numbered (f := fun m n => fillId m ("res" ++ toString n)) fun r hr n =>
      fillId_of_find? (s := r.id) (by simp [Resource.codec]) (h.resources r hr) _
  have haIds : fillIds "action" (z.actions.map SimAction.codec.written) =
      z.actions.map SimAction.codec.written :=
    map_numbered (f := fun m n => fillId m ("action" ++ toString n)) fun a ha n =>
      fillId_of_find? (s := a.id) (by simp [SimAction.codec]) (h.actions a ha) _
  have hevent := traverse_numbered fun e he n => fillEvent_written (h.events e he) n
  have hobjective := map_numbered fun o ho n => fillObjective_written (h.objectives o ho) n
  have hstate := fillInitialState_written (z.resources.map Resource.codec.written)
    z.initialState fun m hm => by
      obtain ⟨r, hr, rfl⟩ := List.mem_map.mp hm
      rw [textAt_of_find? (s := r.id) (by simp [Resource.codec])]
      exact h.amounts r hr
  refine (Traced.bind_eq_ok _ _ _).mpr ⟨_, objects_of_find? hresources _, ?_⟩
  refine (Traced.bind_eq_ok _ _ _).mpr ⟨InitialState.codec.written z.initialState, ?_, ?_⟩
  · rw [Traced.result_lift, hrIds, Fields.get_eq, hinitial]
    exact hstate
  refine (Traced.bind_eq_ok _ _ _).mpr ⟨_, objects_of_find? hactions _, ?_⟩
  refine (Traced.bind_eq_ok _ _ _).mpr ⟨_, objects_of_find? hevents _, ?_⟩
  refine (Traced.bind_eq_ok _ _ _).mpr ⟨_, hevent, ?_⟩
  refine (Traced.bind_eq_ok _ _ _).mpr ⟨_, objects_of_find? hobjectives _, ?_⟩
  dsimp only
  rw [hrIds, haIds, hobjective, Fields.put_of_find? hinitial, Fields.put_of_find? hresources,
    Fields.put_of_find? hactions, Fields.put_of_find? hevents, Fields.put_of_find? hobjectives]
  exact fillWhole_of_find? hturns _

end Completion

end LearningGame
