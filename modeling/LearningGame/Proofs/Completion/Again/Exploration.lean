import LearningGame.Completion.Exploration
import LearningGame.Proofs.Completion.Again.Narrative

/-!
# Filling explorations again

An exploration that was filled is left as it is: its positions hold numbers only, its visit events
are of known kinds, and its start is one of its locations.
-/

namespace LearningGame

open Schema RecordOf Content Completion

namespace Content

/-- What filling makes sure of in an exploration. -/
structure Exploration.IsComplete (z : Exploration) : Prop where
  locations : ∀ l ∈ z.locations, Text.isBlankText l.id = false
  collectibles : ∀ c ∈ z.collectibles, Text.isBlankText c.id = false
  startLocation : startAmong (z.locations.map (·.id)) (.str z.startLocation) = .str z.startLocation
  restores : fields.Restores z z

lemma Location.id_of_read {m : Fields} {l : Location} (h : codec.read (.map m) = .valid l)
    {s : String} (hs : m.find? "id" = some (.str s)) : s = l.id := by
  simp only [codec, read_codec_eq_valid, readsAs_apply, readsAs_build, required,
    read_field_of_find? _ _ hs, Codec.read_text_eq_valid, Value.map.injEq, exists_eq_left'] at h
  obtain ⟨id, hid, -, -, -, -, -, -, -, -, -, -, -, -, rfl⟩ := h
  exact Value.str.inj hid

lemma Collectible.id_of_read {m : Fields} {c : Collectible} (h : codec.read (.map m) = .valid c)
    {s : String} (hs : m.find? "id" = some (.str s)) : s = c.id := by
  simp only [codec, read_codec_eq_valid, readsAs_apply, readsAs_build, required,
    read_field_of_find? _ _ hs, Codec.read_text_eq_valid, Value.map.injEq, exists_eq_left'] at h
  obtain ⟨id, hid, -, -, -, -, -, -, -, -, -, -, -, -, rfl⟩ := h
  exact Value.str.inj hid

lemma Exploration.of_read {m : Fields} {z : Exploration} (h : fields.read m = .valid z)
    {locations items start : Value} (hlocations : m.find? "locations" = some locations)
    (hitems : m.find? "collectibles" = some items)
    (hstart : m.find? "startLocation" = some start) :
    Location.codec.list.read locations = .valid z.locations ∧
      Collectible.codec.list.read items = .valid z.collectibles ∧ start = .str z.startLocation := by
  rw [read_eq_valid_iff] at h
  simp only [fields, readsAs_apply, readsAs_build, required, withDefault,
    read_field_of_find? _ _ hlocations, read_field_of_find? _ _ hitems,
    read_field_of_find? _ _ hstart, Codec.read_text_eq_valid] at h
  obtain ⟨_, -, _, hlocations, _, hitems, _, hstart, rfl⟩ := h
  exact ⟨hlocations, hitems, hstart⟩

lemma Exploration.restores (z : Exploration)
    (hlocations : Location.codec.list.Restores z.locations z.locations)
    (hitems : Collectible.codec.list.Restores z.collectibles z.collectibles) :
    fields.Restores z z :=
  restores_fields (spells_build (r := z) (s := z) _ |>.withDefault rfl (World.isExact _)
    |>.required rfl hlocations |>.withDefault rfl hitems |>.required rfl (Codec.isExact_text _))
    (by decide)

end Content

namespace Completion

/-! ### Locations -/

lemma fillVisit_eq_ok {location m : Fields} (h : (fillVisit location).result = .ok m) :
    m = location ∨ m = location.put "onVisit" .null := by
  unfold fillVisit at h
  dsimp only at h
  split_ifs at h
  · cases h
    exact .inl rfl
  · cases h
    exact .inr rfl

lemma isFinite_position {v : Value} (h : v.IsFinite) : (position v).IsFinite := by
  cases v with
  | map m => exact ((Value.isDocumentOf_map m).mp h).filter _
  | _ => exact Fields.isDocumentOf_nil

lemma fillLocation_spec {location m : Fields} {n : Nat} (hfinite : location.IsFinite)
    (h : (fillLocation location n).result = .ok m) : m.IsFinite ∧ HasId m := by
  obtain ⟨visited, hvisit, h⟩ := (Traced.bind_eq_ok _ _ _).mp h
  cases h
  have hid := hasId_fillId location "loc" (toString n) (by decide)
  have hlocation := isFinite_fillId hfinite ("loc" ++ toString n)
  have hvisited : visited.IsFinite ∧ HasId visited := by
    rcases fillVisit_eq_ok hvisit with rfl | rfl
    · exact ⟨hlocation, hid⟩
    · exact ⟨hlocation.put .null, hid.put (by decide) _⟩
  have hposition := isFinite_position (hvisited.1.get "position")
  exact ⟨(hvisited.1.put ((Value.isDocumentOf_map _).mpr hposition)).put (.bool _),
    (hvisited.2.put (by decide) _).put (by decide) _⟩

lemma fillVisit_written {m : Fields} {e : Option LocationEvent}
    (h : m.find? "onVisit" = e.map (LocationEvent.codec.write false)) :
    (fillVisit m).result = .ok m := by
  have hknown : (m.get "onVisit").isNull = true ∨ isVisitEvent (m.get "onVisit") = true := by
    rw [Fields.get_eq, h]
    cases e with
    | none => exact .inl rfl
    | some e =>
      right
      have hkind : (LocationEvent.codec.written e).find? "type" =
          some (.str (Named.name e.kind)) := by
        simp [LocationEvent.codec]
      show (Fields.get (LocationEvent.codec.written e) "type").isOneOf _ = true
      rw [Fields.get_eq, hkind]
      cases e.kind <;> decide
  unfold fillVisit
  dsimp only
  rw [if_pos hknown]
  rfl

/-- Positions that are written hold numbers only. -/
lemma position_written (as : List (String × Float)) :
    .map (position ((Codec.entries .float).write false as)) =
      (Codec.entries .float).write false as := by
  refine congrArg Value.map (List.filter_eq_self.mpr fun e he => ?_)
  obtain ⟨a, -, rfl⟩ := List.mem_map.mp he
  rfl

lemma fillLocation_written {l : Location} (h : Text.isBlankText l.id = false) (n : Nat) :
    (fillLocation (Location.codec.written l) n).result = .ok (Location.codec.written l) := by
  have hevent : (Location.codec.written l).find? "onVisit" =
      l.onVisit.map (LocationEvent.codec.write false) := by
    cases he : l.onVisit <;> simp [Location.codec, he]
  have hposition : (Location.codec.written l).find? "position" =
      some ((Codec.entries .float).write false l.position) := by
    simp [Location.codec]
  have hvisible : (Location.codec.written l).find? "visible" = some (.bool l.visible) := by
    simp [Location.codec]
  have hbool : visibility (.bool l.visible) = l.visible := by
    cases l.visible <;> rfl
  unfold fillLocation
  rw [fillId_of_find? (s := l.id) (by simp [Location.codec]) h]
  refine (Traced.bind_eq_ok _ _ _).mpr ⟨_, fillVisit_written hevent, ?_⟩
  dsimp only
  rw [Fields.get_eq, hposition, Option.getD_some, position_written,
    Fields.put_of_find? hposition, Fields.get_eq, hvisible, Option.getD_some, hbool,
    Fields.put_of_find? hvisible]
  rfl

/-! ### Collectibles -/

lemma fillCollectible_spec {item m : Fields} {n : Nat} (hfinite : item.IsFinite)
    (h : (fillCollectible item n).result = .ok m) : m.IsFinite ∧ HasId m := by
  obtain ⟨k, -, rfl⟩ := (fillWhole_eq_ok _ _ _ _).mp h
  have hid := hasId_fillId item "collect" (toString n) (by decide)
  exact ⟨(isFinite_fillText (isFinite_fillId hfinite _) _).put (.int k),
    (hid.put (by decide) _).put (by decide) _⟩

lemma fillCollectible_written {c : Collectible} (h : Text.isBlankText c.id = false) (n : Nat) :
    (fillCollectible (Collectible.codec.written c) n).result =
      .ok (Collectible.codec.written c) := by
  unfold fillCollectible
  rw [fillId_of_find? (s := c.id) (by simp [Collectible.codec]) h,
    fillText_of_find? (s := c.locationId) (by simp [Collectible.codec])]
  exact fillWhole_of_find? (n := c.points) (by simp [Collectible.codec]) 0

/-! ### Explorations -/

lemma isComplete_of_fillExploration {content filled : Fields} {z : Exploration}
    (hfinite : content.IsFinite) (h : (fillExploration content).result = .ok filled)
    (hz : Exploration.fields.read filled = .valid z) : z.IsComplete := by
  obtain ⟨given, hgiven, h⟩ := (Traced.bind_eq_ok _ _ _).mp h
  obtain ⟨locations, hlocations, h⟩ := (Traced.bind_eq_ok _ _ _).mp h
  obtain ⟨objs, hobjs, h⟩ := (Traced.bind_eq_ok _ _ _).mp h
  obtain ⟨items, hitems, h⟩ := (Traced.bind_eq_ok _ _ _).mp h
  cases h
  have hl (m : Fields) (hm : m ∈ locations) : m.IsFinite ∧ HasId m := by
    obtain ⟨o, ho, n, hfill⟩ := exists_of_mem_traverse hlocations hm
    exact fillLocation_spec (isFinite_of_objects (hfinite.get _) hgiven o ho) hfill
  have hi (m : Fields) (hm : m ∈ items) : m.IsFinite ∧ HasId m := by
    obtain ⟨o, ho, n, hfill⟩ := exists_of_mem_traverse hitems hm
    exact fillCollectible_spec (isFinite_of_objects (hfinite.get _) hobjs o ho) hfill
  obtain ⟨hreadLocations, hreadItems, hstart⟩ :=
    Exploration.of_read hz (by simp; rfl) (by simp; rfl) (by simp; rfl)
  obtain ⟨hlocationIds, hrestoresLocations⟩ :=
    of_read_hasId (g := fun l => l) hreadLocations hl Location.id_of_read Location.isFaithful
  obtain ⟨hitemIds, hrestoresItems⟩ := of_read_hasId (g := fun c => c) hreadItems hi
    Collectible.id_of_read Collectible.isExact.isFaithful
  rw [List.map_id'] at hrestoresLocations hrestoresItems
  have hids := ids_of_read (k := (·.id)) hreadLocations fun m hm l hread => by
    obtain ⟨id, hid, -⟩ := (hl m hm).2
    rw [hid, Location.id_of_read hread hid]
  refine ⟨hlocationIds, hitemIds, ?_, Exploration.restores z hrestoresLocations hrestoresItems⟩
  rw [← hids, ← hstart]
  exact startAmong_startAmong _ _

/-- A complete exploration that is filled again is left as it is. -/
lemma fillExploration_written {z : Exploration} (h : z.IsComplete) (tag : Value) :
    (fillExploration ((.text "type", tag) :: Exploration.fields.write false z)).result =
      .ok ((.text "type", tag) :: Exploration.fields.write false z) := by
  obtain ⟨content, hcontent⟩ : ∃ content : Fields,
    (.text "type", tag) :: Exploration.fields.write false z = content := ⟨_, rfl⟩
  have hlocations : content.find? "locations" =
      some (mapList (z.locations.map Location.codec.written)) := by
    rw [← write_list_eq fun _ => rfl]
    simp [← hcontent, Exploration.fields]
  have hitems : content.find? "collectibles" =
      some (mapList (z.collectibles.map Collectible.codec.written)) := by
    rw [← write_list_eq fun _ => rfl]
    simp [← hcontent, Exploration.fields]
  have hstart : content.find? "startLocation" = some (.str z.startLocation) := by
    simp [← hcontent, Exploration.fields]
  rw [hcontent]
  have hl := traverse_numbered fun l hl n => fillLocation_written (h.locations l hl) n
  have hi := traverse_numbered fun c hc n => fillCollectible_written (h.collectibles c hc) n
  have hids : (z.locations.map Location.codec.written).map (fun l => textAt l "id") =
      z.locations.map (·.id) := by
    rw [List.map_map]
    exact List.map_congr_left fun l _ => textAt_of_find? (by simp [Location.codec])
  refine (Traced.bind_eq_ok _ _ _).mpr ⟨_, objects_of_find? hlocations _, ?_⟩
  refine (Traced.bind_eq_ok _ _ _).mpr ⟨_, hl, ?_⟩
  refine (Traced.bind_eq_ok _ _ _).mpr ⟨_, objects_of_find? hitems _, ?_⟩
  refine (Traced.bind_eq_ok _ _ _).mpr ⟨_, hi, ?_⟩
  dsimp only
  rw [hids, Fields.put_of_find? hlocations, Fields.put_of_find? hitems, Fields.get_eq, hstart,
    Option.getD_some, h.startLocation, Fields.put_of_find? hstart]
  rfl

end Completion

end LearningGame
