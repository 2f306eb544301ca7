import LearningGame.Proofs.Completion.Again
import LearningGame.Proofs.Completion.Flat
import Mathlib.Data.List.Induction

/-!
# Pairs of memory cards

Memory cards are put into a table of groups one after the other. At every moment the table has one
group for each key that has occurred, in the order of the first occurrences, and the group holds all
cards of its key. Every group makes a pair of its first two cards, so that later ones, and whatever
is no card, can be left out.
-/

namespace LearningGame.Completion

/-! ### Keys -/

/-- The key by which a memory card is matched. -/
def matchKey (card : Fields) : String := (card.get "matchId").text

/-- The cards of a key. -/
def cardsOf (key : String) (cards : List Fields) : List Fields :=
  cards.filter fun card => matchKey card == key

/-- The keys of cards, each once, in the order in which they occur first. -/
structure ListsKeys (keys : List String) (cards : List Fields) : Prop where
  mem_iff : ∀ key, key ∈ keys ↔ ∃ card ∈ cards, matchKey card = key
  ordered : keys.Pairwise fun a b =>
    (cards.map matchKey).idxOf a < (cards.map matchKey).idxOf b

section Keys

variable {keys : List String} {cards : List Fields}

lemma ListsKeys.mem_map_iff (h : ListsKeys keys cards) (key : String) :
    key ∈ cards.map matchKey ↔ key ∈ keys := by
  rw [h.mem_iff, List.mem_map]

/-- Keys that have occurred stay where they are, and a new one goes to the end. -/
lemma ListsKeys.concat (h : ListsKeys keys cards) (card : Fields) :
    ListsKeys (if matchKey card ∈ keys then keys else keys ++ [matchKey card])
      (cards ++ [card]) where
  mem_iff key := by
    have hkeys := h.mem_iff key
    split_ifs with hcard
    · obtain ⟨other, hother, hsame⟩ := (h.mem_iff _).1 hcard
      simp only [hkeys, List.mem_append, List.mem_singleton]
      constructor
      · rintro ⟨c, hc, rfl⟩
        exact ⟨c, .inl hc, rfl⟩
      · rintro ⟨c, hc | rfl, rfl⟩
        · exact ⟨c, hc, rfl⟩
        · exact ⟨other, hother, hsame⟩
    · simp only [List.mem_append, List.mem_singleton, hkeys, or_and_right, exists_or,
        exists_eq_left, eq_comm (a := key)]
  ordered := by
    have hold {key : String} (hkey : key ∈ keys) :
        ((cards ++ [card]).map matchKey).idxOf key = (cards.map matchKey).idxOf key := by
      rw [List.map_append, List.idxOf_append_of_mem ((h.mem_map_iff key).2 hkey)]
    have hkeys : keys.Pairwise fun a b =>
        ((cards ++ [card]).map matchKey).idxOf a < ((cards ++ [card]).map matchKey).idxOf b := by
      refine h.ordered.imp_of_mem fun ha hb hlt => ?_
      rwa [hold ha, hold hb]
    split_ifs with hcard
    · exact hkeys
    · refine List.pairwise_append.2 ⟨hkeys, List.pairwise_singleton _ _, fun a ha b hb => ?_⟩
      obtain rfl := List.mem_singleton.1 hb
      have hnew : matchKey card ∉ cards.map matchKey := fun hmem =>
        hcard ((h.mem_map_iff _).1 hmem)
      rw [hold ha, List.map_append, List.idxOf_append_of_notMem hnew]
      exact Nat.lt_add_right _ (List.idxOf_lt_length_of_mem ((h.mem_map_iff a).2 ha))

lemma cardsOf_concat (key : String) (cards : List Fields) (card : Fields) :
    cardsOf key (cards ++ [card]) =
      cardsOf key cards ++ if matchKey card = key then [card] else [] := by
  rw [cardsOf, List.filter_append, ← cardsOf]
  split_ifs with hcard <;> simp [hcard]

/-- A key without cards has not occurred. -/
lemma cardsOf_eq_nil (h : ListsKeys keys cards) {key : String} (hkey : key ∉ keys) :
    cardsOf key cards = [] := by
  rw [cardsOf, List.filter_eq_nil_iff]
  intro card hcard hsame
  exact hkey ((h.mem_iff key).2 ⟨card, hcard, by simpa using hsame⟩)

end Keys

/-! ### The table of groups -/

/-- A table has one group for each key of some cards, with all cards of the key. -/
structure IsGrouping (groups : List CardGroup) (cards : List Fields) : Prop where
  keys : ListsKeys (groups.map (·.key)) cards
  cards_eq : ∀ group ∈ groups, group.cards = cardsOf group.key cards

section Groups

variable {groups : List CardGroup} {cards : List Fields}

/-- Add a card to a group if it is of the group's key. -/
def CardGroup.join (card : Fields) (group : CardGroup) : CardGroup :=
  if group.key == matchKey card then { group with cards := group.cards ++ [card] } else group

@[simp] lemma CardGroup.key_join (card : Fields) (group : CardGroup) :
    (group.join card).key = group.key := by
  unfold CardGroup.join
  split_ifs <;> rfl

lemma CardGroup.cards_join (card : Fields) (group : CardGroup) :
    (group.join card).cards =
      group.cards ++ if matchKey card = group.key then [card] else [] := by
  unfold CardGroup.join
  simp only [beq_iff_eq, eq_comm (a := group.key)]
  split_ifs <;> simp

lemma addCard_eq (groups : List CardGroup) (card : Fields) :
    addCard groups card = if matchKey card ∈ groups.map (·.key) then
      groups.map (CardGroup.join card) else groups ++ [⟨matchKey card, [card]⟩] := by
  have hany : groups.any (·.key == matchKey card) = true ↔
      matchKey card ∈ groups.map (·.key) := by
    simp [List.any_eq_true, List.mem_map]
  show (if groups.any (·.key == matchKey card) = true then _ else _) = _
  simp only [hany]
  rfl

lemma keys_addCard (groups : List CardGroup) (card : Fields) :
    (addCard groups card).map (·.key) = if matchKey card ∈ groups.map (·.key) then
      groups.map (·.key) else groups.map (·.key) ++ [matchKey card] := by
  rw [addCard_eq]
  split_ifs with hcard
  · rw [List.map_map]
    exact List.map_congr_left fun group _ => group.key_join card
  · rw [List.map_append, List.map_singleton]

/-- Adding a card to the table. -/
lemma IsGrouping.addCard (h : IsGrouping groups cards) (card : Fields) :
    IsGrouping (addCard groups card) (cards ++ [card]) where
  keys := by
    rw [keys_addCard]
    exact h.keys.concat card
  cards_eq group hgroup := by
    rw [addCard_eq] at hgroup
    rw [cardsOf_concat]
    split_ifs at hgroup with hcard
    · obtain ⟨old, hold, rfl⟩ := List.mem_map.1 hgroup
      rw [old.cards_join, old.key_join, h.cards_eq old hold]
    · rcases List.mem_append.1 hgroup with hold | hnew
      · have hne : matchKey card ≠ group.key := by
          intro hsame
          exact hcard (hsame ▸ List.mem_map_of_mem hold)
        rw [if_neg hne, List.append_nil, h.cards_eq group hold]
      · obtain rfl := List.mem_singleton.1 hnew
        rw [if_pos rfl, cardsOf_eq_nil h.keys hcard, List.nil_append]

lemma isGrouping_foldl (cards : List Fields) :
    IsGrouping (cards.foldl Completion.addCard []) cards := by
  induction cards using List.reverseRecOn with
  | nil => exact ⟨⟨by simp, .nil⟩, by simp⟩
  | append_singleton cards card ih =>
    rw [List.foldl_concat]
    exact ih.addCard card

/-- The table after all cards. -/
lemma isGrouping_groupCards (cards : List Value) :
    IsGrouping (groupCards cards) (cards.filterMap Value.fields?) :=
  isGrouping_foldl _

/-- No group is empty. -/
lemma IsGrouping.exists_cards (h : IsGrouping groups cards) {group : CardGroup}
    (hgroup : group ∈ groups) : ∃ first rest, group.cards = first :: rest := by
  obtain ⟨card, hcard, hkey⟩ := (h.keys.mem_iff _).1 (List.mem_map_of_mem hgroup)
  have hmem : card ∈ group.cards := by
    rw [h.cards_eq group hgroup]
    exact List.mem_filter.2 ⟨hcard, by simpa using hkey⟩
  exact List.exists_cons_of_ne_nil (List.ne_nil_of_mem hmem)

end Groups

/-! ### Pairs -/

/-- The text beside the first card of a group: that of the second card, or that of the first one if
there is no other or the text would be empty. -/
def rightText (first : Fields) : List Fields → String
  | [] => someTextAt first "content"
  | second :: _ =>
    if someTextAt second "content" = "" then someTextAt first "content"
    else someTextAt second "content"

lemma someTextAt_eq (m : Fields) (key : String) :
    someTextAt m key = if (m.get key).truthy = true then (m.get key).text else "" := by
  rw [someTextAt, Value.orElse]
  split_ifs <;> rfl

/-- The text is empty exactly if it is that of nothing. -/
lemma someTextAt_eq_empty_iff (m : Fields) (key : String) :
    someTextAt m key = "" ↔ (m.get key).truthy = false := by
  rw [someTextAt_eq]
  split_ifs with h
  · simp [h, Value.text_ne_empty h]
  · simp [h]

lemma text_orElse (m : Fields) (key default : String) :
    ((m.get key).orElse default).text =
      if someTextAt m key = "" then default else someTextAt m key := by
  simp only [someTextAt_eq_empty_iff]
  cases h : (m.get key).truthy with
  | true => rw [orElse_of_truthy h, someTextAt_eq, if_pos h, if_neg (by decide)]
  | false => simp [Value.orElse, h, Value.text]

/-- A pair of two texts. -/
def pairOf (n : Nat) (left right : String) : Value :=
  .map [("id", "pair" ++ toString n), ("left", .map [("text", left)]),
    ("right", .map [("text", right)])]

lemma CardGroup.pair_eq {group : CardGroup} {first : Fields} {rest : List Fields}
    (h : group.cards = first :: rest) (n : Nat) :
    group.pair n = pairOf n (someTextAt first "content") (rightText first rest) := by
  unfold CardGroup.pair
  rw [h]
  cases rest with
  | nil => rfl
  | cons second rest => simp only [rightText, text_orElse, pairOf]

/-- Every group makes its pair. -/
lemma result_pairCards (cards : List Value) :
    (pairCards cards).result =
      .ok ((numbered (groupCards cards)).map fun e => e.1.pair e.2) := by
  rw [pairCards, Traced.traverse_eq_ok, List.forall₂_map_right_iff, List.forall₂_same]
  intro e _
  exact result_toPair e.1 e.2

/-! ### Cards that can be left out -/

/-- A group without its third card and all later ones. -/
def CardGroup.trimmed (group : CardGroup) : CardGroup :=
  { group with cards := group.cards.take 2 }

/-- The third card and all later ones make no difference to the pair, nor to what is noted. -/
lemma CardGroup.toPair_trimmed (group : CardGroup) (n : Nat) :
    group.trimmed.toPair n = group.toPair n := by
  obtain ⟨key, cards⟩ := group
  rcases cards with - | ⟨first, - | ⟨second, rest⟩⟩
  · rfl
  · rfl
  · simp [CardGroup.toPair, CardGroup.trimmed, CardGroup.pair]

lemma CardGroup.trimmed_join (card : Fields) (group : CardGroup) :
    (group.trimmed.join card).trimmed = (group.join card).trimmed := by
  obtain ⟨key, cards⟩ := group
  rcases cards with - | ⟨first, - | ⟨second, rest⟩⟩ <;>
    simp [CardGroup.join, CardGroup.trimmed, apply_ite]

section Trimmed

variable {groups : List CardGroup} {card : Fields}

/-- A table without the third and later cards of its groups. -/
def trim (groups : List CardGroup) : List CardGroup := groups.map CardGroup.trimmed

lemma keys_trim (groups : List CardGroup) : (trim groups).map (·.key) = groups.map (·.key) := by
  rw [trim, List.map_map]
  rfl

/-- What is left out of a table does not come back. -/
lemma trim_addCard_trim (groups : List CardGroup) (card : Fields) :
    trim (addCard (trim groups) card) = trim (addCard groups card) := by
  rw [addCard_eq, addCard_eq, keys_trim]
  split_ifs with hcard
  · simp only [trim, List.map_map]
    exact List.map_congr_left fun group _ => group.trimmed_join card
  · simp [trim, CardGroup.trimmed, List.take_take]

/-- A card after two ones of its key is left out. -/
lemma trim_addCard_of_le (hcard : matchKey card ∈ groups.map (·.key))
    (hle : ∀ group ∈ groups, group.key = matchKey card → 2 ≤ group.cards.length) :
    trim (addCard groups card) = trim groups := by
  rw [addCard_eq, if_pos hcard, trim, List.map_map]
  refine List.map_congr_left fun group hgroup => ?_
  show (group.join card).trimmed = group.trimmed
  unfold CardGroup.join
  split_ifs with hkey
  · have hlength := hle group hgroup (by simpa using hkey)
    simp [CardGroup.trimmed, List.take_append_of_le_length hlength]
  · rfl

lemma numbered_trim (groups : List CardGroup) :
    numbered (trim groups) = (numbered groups).map fun e => (e.1.trimmed, e.2) := by
  rw [numbered, trim, List.zipIdx_map]
  rfl

/-- The pairs and the notes depend on what is not left out only. -/
lemma pairCards_eq_of_trim {some all : List Value}
    (h : trim (groupCards some) = trim (groupCards all)) : pairCards some = pairCards all := by
  have hall (cards : List Value) : pairCards cards =
      Traced.traverse (fun e => CardGroup.toPair e.1 e.2) (numbered (trim (groupCards cards))) := by
    rw [numbered_trim, Traced.traverse_map]
    simp only [CardGroup.toPair_trimmed]
    rfl
  rw [hall, hall, h]

end Trimmed

/-- Whether an entry makes no difference after other ones: it is no card, or two cards of its key
stand before it. -/
def IsSpare (before : List Value) : Value → Prop
  | .map card => 2 ≤ (cardsOf (matchKey card) (before.filterMap Value.fields?)).length
  | _ => True

/-- The elements of a list at the places that are kept. -/
def keptAt {α : Type} (keep : Nat → Bool) (l : List α) : List α :=
  (l.zipIdx.filter fun e => keep e.2).map (·.1)

lemma keptAt_concat {α : Type} (keep : Nat → Bool) (l : List α) (a : α) :
    keptAt keep (l ++ [a]) = keptAt keep l ++ if keep l.length then [a] else [] := by
  unfold keptAt
  rw [List.zipIdx_append, List.filter_append, List.map_append]
  cases h : keep l.length <;> simp [h]

lemma groupCards_concat (cards : List Value) (v : Value) :
    groupCards (cards ++ [v]) = match v with
      | .map card => addCard (groupCards cards) card
      | _ => groupCards cards := by
  unfold groupCards
  rw [List.filterMap_append, List.foldl_append]
  cases v <;> rfl

/-- Adding a spare entry changes nothing but what is left out. -/
lemma trim_groupCards_concat {cards : List Value} {v : Value} (h : IsSpare cards v) :
    trim (groupCards (cards ++ [v])) = trim (groupCards cards) := by
  rw [groupCards_concat]
  cases v with
  | map card =>
    have hgroups := isGrouping_groupCards cards
    have hcards : cardsOf (matchKey card) (cards.filterMap Value.fields?) ≠ [] := by
      intro hnil
      rw [IsSpare, hnil] at h
      exact absurd h (by decide)
    refine trim_addCard_of_le (Decidable.byContradiction fun hkey => ?_) fun group hgroup hkey => ?_
    · exact hcards (cardsOf_eq_nil hgroups.keys hkey)
    · rw [hgroups.cards_eq group hgroup, hkey]
      exact h
  | _ => rfl

/-- Spare entries that are left out are not missed by the table. -/
lemma trim_groupCards_keptAt {keep : Nat → Bool} {cards : List Value}
    (h : ∀ i v, cards[i]? = some v → keep i = false → IsSpare (cards.take i) v) :
    trim (groupCards (keptAt keep cards)) = trim (groupCards cards) := by
  induction cards using List.reverseRecOn with
  | nil => rfl
  | append_singleton cards v ih =>
    have hbefore : trim (groupCards (keptAt keep cards)) = trim (groupCards cards) := by
      refine ih fun i w hw hkeep => ?_
      have hi := (List.getElem?_eq_some_iff.1 hw).1
      have hspare := h i w (by rw [List.getElem?_append_left hi, hw]) hkeep
      rwa [List.take_append_of_le_length hi.le] at hspare
    rw [keptAt_concat]
    cases hkeep : keep cards.length with
    | true =>
      rw [if_pos rfl, groupCards_concat, groupCards_concat]
      cases v with
      | map card =>
        show trim (addCard _ card) = trim (addCard _ card)
        rw [← trim_addCard_trim, hbefore, trim_addCard_trim]
      | _ => exact hbefore
    | false =>
      have hspare := h cards.length v List.getElem?_concat_length hkeep
      rw [List.take_left] at hspare
      rw [if_neg (by decide), List.append_nil, hbefore, trim_groupCards_concat hspare]

/-! ### All pairs -/

/-- Memory cards make one pair for each key, in the order in which the keys occur first, of the
first two cards of the key. What is no card, and cards after two ones of their key, can be left
out. -/
theorem pairCards_spec (cards : List Value) :
    (∃ keys pairs, ListsKeys keys (cards.filterMap Value.fields?) ∧
      (pairCards cards).result = .ok pairs ∧ pairs.length = keys.length ∧
      ∀ i key, keys[i]? = some key → ∃ first rest,
        cardsOf key (cards.filterMap Value.fields?) = first :: rest ∧
        pairs[i]? =
          some (pairOf (i + 1) (someTextAt first "content") (rightText first rest))) ∧
    ∀ keep, (∀ i v, cards[i]? = some v → keep i = false → IsSpare (cards.take i) v) →
      pairCards (keptAt keep cards) = pairCards cards := by
  have hgroups := isGrouping_groupCards cards
  constructor
  · refine ⟨_, _, hgroups.keys, result_pairCards cards, by simp [numbered], fun i key hkey => ?_⟩
    rw [List.getElem?_map] at hkey
    obtain ⟨group, hgroup, rfl⟩ := Option.map_eq_some_iff.1 hkey
    have hmem := List.mem_of_getElem? hgroup
    obtain ⟨first, rest, hcards⟩ := hgroups.exists_cards hmem
    refine ⟨first, rest, by rw [← hgroups.cards_eq group hmem, hcards], ?_⟩
    simp [numbered, hgroup, CardGroup.pair_eq hcards, Nat.add_comm 1 i]
  · exact fun keep hkeep => pairCards_eq_of_trim (trim_groupCards_keptAt hkeep)

/-- Three cards of one key, given as a number and as a text, between two cards without a key and
something that is no card. -/
def mixedCards : List Value :=
  [.map [("content", "Dog"), ("matchId", .int 1)],
   .str "Cat",
   .map [("content", "Solo")],
   .map [("content", "Perro"), ("matchId", "1")],
   .map [("content", ""), ("matchId", .null)],
   .map [("content", "Chien"), ("matchId", .int 1)]]

/-- What is no card and the third card of the key are not missed. -/
theorem pairCards_spec_of_mixed :
    (∀ i v, mixedCards[i]? = some v → (i != 1 && i != 5) = false →
      IsSpare (mixedCards.take i) v) ∧
    pairCards (keptAt (fun i => i != 1 && i != 5) mixedCards) = pairCards mixedCards := by
  have hspare : ∀ i v, mixedCards[i]? = some v → (i != 1 && i != 5) = false →
      IsSpare (mixedCards.take i) v := by
    intro i v hv hi
    have hcases : i = 1 ∨ i = 5 := by simpa [Decidable.imp_iff_not_or] using hi
    rcases hcases with rfl | rfl
    · cases hv
      exact trivial
    · cases hv
      show 2 ≤ _
      decide
  exact ⟨hspare, (pairCards_spec mixedCards).2 _ hspare⟩

example : (pairCards mixedCards).result =
    .ok [pairOf 1 "Dog" "Perro", pairOf 2 "Solo" "Solo"] := rfl

end LearningGame.Completion
