import LearningGame.Proofs.Completion.Filled
import LearningGame.Proofs.Schema.Accepting

/-!
# What contents have to be given

Filling puts in most of what a content needs. What is left to the content itself is told here, kind
by kind: a content that is filled is accepted exactly if it fits.
-/

namespace LearningGame.Completion

open Content Schema

/-! ### Lists -/

@[simp] lemma mem_mapsAt {m o : Fields} {key : String} :
    o ∈ mapsAt m key ↔ .map o ∈ (m.get key).items := by
  rw [mapsAt, List.mem_filterMap]
  constructor
  · rintro ⟨v, hv, ho⟩
    cases v <;> cases ho
    exact hv
  · exact fun h => ⟨_, h, rfl⟩

@[simp] lemma accepts_mapList {α : Type} {c : Codec α} (ms : List Fields) :
    c.list.Accepts (mapList ms) ↔ ∀ m ∈ ms, c.Accepts (.map m) := by
  simp [Codec.accepts_list_iff, mapList]

lemma forall_zipIdx_iff {α : Type} (items : List α) (n : Nat) (p : α → Prop) :
    (∀ e ∈ items.zipIdx n, p e.1) ↔ ∀ a ∈ items, p a := by
  have h := exists_zipIdx_iff items n fun a => ¬p a
  rw [← not_iff_not]
  simpa using h

section Lists

variable {α : Type} {c : Codec α} {P : Fields → Prop} {given filled : List Fields}

/-- Entries that are filled one by one are accepted if each of those that were given fits. -/
lemma accepts_filledAll {f : Fields → Nat → Filling Fields}
    (hf : ∀ g n m, (f g n).result = .ok m → (c.Accepts (.map m) ↔ P g))
    (h : FilledAll f given filled) : (∀ m ∈ filled, c.Accepts (.map m)) ↔ ∀ g ∈ given, P g := by
  rw [← forall_zipIdx_iff given 1]
  rw [FilledAll, numbered] at h
  generalize given.zipIdx 1 = numbers at h ⊢
  induction h with
  | nil => simp
  | cons hm _ ih => simp only [List.forall_mem_cons, ih, hf _ _ _ hm]

lemma accepts_map_numbered {f : Fields → Nat → Fields}
    (hf : ∀ g n, c.Accepts (.map (f g n)) ↔ P g) :
    c.list.Accepts (mapList ((numbered given).map fun e => f e.1 e.2)) ↔ ∀ g ∈ given, P g := by
  rw [accepts_mapList, ← forall_zipIdx_iff given 1]
  simp only [List.forall_mem_map, hf, numbered]

end Lists

/-! ### Quizzes -/

lemma accepts_fillOption (v : Value) (n : Nat) :
    QuizOption.codec.Accepts (.map (fillOption v n)) ↔
      ∀ o, v = .map o → Fits Codec.text.optional o "image" := by
  cases v with
  | map o =>
    simp (disch := decide) [fillOption, fillText, fillId, QuizOption.codec, fits_put_of_ne,
      given?_put_of_ne]
  | _ => simp (disch := decide) [fillOption, QuizOption.codec, fits_cons_of_ne, given?_cons_of_ne]

lemma accepts_optionsFor (kind : QuestionKind) (v : Value) :
    (∀ o ∈ optionsFor kind v, QuizOption.codec.Accepts (.map o)) ↔
      ∀ o, .map o ∈ v.items → Fits Codec.text.optional o "image" := by
  have hfill (w : Value) : (∀ o ∈ fillOptions w, QuizOption.codec.Accepts (.map o)) ↔
      ∀ o, .map o ∈ w.items → Fits Codec.text.optional o "image" := by
    simp only [fillOptions, List.forall_mem_map, accepts_fillOption]
    refine (forall_zipIdx_iff w.items 0 fun v =>
      ∀ o, v = Value.map o → Fits Codec.text.optional o "image").trans ?_
    exact ⟨fun h o ho => h _ ho o rfl, fun h w hw o ho => h o (ho ▸ hw)⟩
  unfold optionsFor
  split_ifs with hempty
  · rw [hfill]
    have hnone : v.items = [] := by simpa [fillOptions] using hempty.2
    rw [hnone]
    simp [Value.items]
  · exact hfill v

/-- The answer that a question gets is always one of the three forms of an answer key. -/
lemma accepts_answerFor (kind : QuestionKind) (v : Value) :
    AnswerKey.codec.Accepts (answerFor kind v) := by
  have hstr (s : String) : AnswerKey.codec.Accepts (.str s) := ⟨.text s, rfl⟩
  have hint (n : Int) : AnswerKey.codec.Accepts (.int n) := ⟨.index n, rfl⟩
  have hlist (items : List Value) : AnswerKey.codec.Accepts
      (.list (items.filterMap fun v => (optionIndex? v).map Value.int)) := by
    obtain ⟨ns, hns⟩ : (Codec.list .integer).Accepts
        (.list (items.filterMap fun v => (optionIndex? v).map Value.int)) := by
      refine Codec.accepts_list_iff.mpr ⟨_, rfl, fun w hw => ?_⟩
      obtain ⟨v, -, hv⟩ := List.mem_filterMap.mp hw
      obtain ⟨n, -, rfl⟩ := Option.map_eq_some_iff.mp hv
      exact Codec.accepts_integer_int n
    refine ⟨.indices ns, ?_⟩
    unfold AnswerKey.codec AnswerKey.read
    dsimp only
    rw [hns]
    rfl
  show AnswerKey.codec.Accepts (fitAnswer kind
    (if (rawAnswer kind v).isNull then defaultAnswer kind else rawAnswer kind v))
  generalize (if (rawAnswer kind v).isNull then defaultAnswer kind else rawAnswer kind v) = w
  unfold fitAnswer
  split
  · exact hstr _
  · exact hlist _
  · exact hstr _
  · split
    · exact hint _
    · exact hstr _

/-- What a question has to be given. -/
@[mk_iff] structure QuestionFits (q : Fields) : Prop where
  media : Fits Media.codec.optional q "media"
  options : ∀ o ∈ mapsAt q "options", Fits Codec.text.optional o "image"
  explanation : Fits Codec.text.optional q "explanation"
  hint : Fits Codec.text.optional q "hint"
  timeLimit : Fits Codec.integer.optional q "timeLimit"

lemma accepts_fillQuestion {points : Int} (q : Fields) (n : Nat) (m : Fields)
    (h : (fillQuestion points q n).result = .ok m) :
    QuizQuestion.codec.Accepts (.map m) ↔ QuestionFits q := by
  rw [fillQuestion_eq points q n rfl rfl, fillWhole_eq_ok] at h
  obtain ⟨k, -, rfl⟩ := h
  simp (disch := decide) [QuizQuestion.codec, fillText, fillId, fits_put_of_ne, given?_put_of_ne,
    questionFits_iff, accepts_answerFor, accepts_optionsFor, and_assoc]

/-! ### Cards, pairs and things to sort -/

lemma accepts_cardFace (v : Value) :
    CardFace.codec.Accepts (textSide v) ↔
      ∀ side, v = .map side → Fits Media.codec.optional side "media" := by
  cases v with
  | map side =>
    simp (disch := decide) [textSide, fillText, CardFace.codec, fits_put_of_ne]
  | _ => simp (disch := decide) [textSide, CardFace.codec, fits_cons_of_ne]

lemma accepts_pairSide (v : Value) :
    PairSide.codec.Accepts (textSide v) ↔
      ∀ side, v = .map side → Fits Codec.text.optional side "image" := by
  cases v with
  | map side =>
    simp (disch := decide) [textSide, fillText, PairSide.codec, fits_put_of_ne]
  | _ => simp (disch := decide) [textSide, PairSide.codec, fits_cons_of_ne]

/-- What a card has to be given. -/
@[mk_iff] structure CardFits (card : Fields) : Prop where
  front : ∀ side, card.get "front" = .map side → Fits Media.codec.optional side "media"
  back : ∀ side, card.get "back" = .map side → Fits Media.codec.optional side "media"
  hint : Fits Codec.text.optional card "hint"
  category : Fits Codec.text.optional card "category"

lemma accepts_fillCard (card : Fields) (n : Nat) :
    Flashcard.codec.Accepts (.map (fillCard card n)) ↔ CardFits card := by
  simp (disch := decide) [Flashcard.codec, fillCard, fillSide, fillId, fits_put_of_ne,
    given?_put_of_ne, cardFits_iff, accepts_cardFace, and_assoc]

/-- What a pair has to be given. -/
@[mk_iff] structure PairFits (pair : Fields) : Prop where
  left : ∀ side, pair.get "left" = .map side → Fits Codec.text.optional side "image"
  right : ∀ side, pair.get "right" = .map side → Fits Codec.text.optional side "image"

lemma accepts_fillPair (pair : Fields) (n : Nat) :
    MatchPair.codec.Accepts (.map (fillPair pair n)) ↔ PairFits pair := by
  simp (disch := decide) [MatchPair.codec, fillPair, fillSide, fillId, fits_put_of_ne,
    given?_put_of_ne, pairFits_iff, accepts_pairSide]

lemma accepts_fillItem (categories : List Fields) (item : Fields) (n : Nat) :
    SortItem.codec.Accepts (.map (fillItem categories item n)) ↔
      Fits Codec.text.optional item "image" := by
  simp (disch := decide) [SortItem.codec, fillItem, fillText, fillId, fits_put_of_ne,
    given?_put_of_ne]

/-- What a category has to be given. -/
@[mk_iff] structure CategoryFits (category : Fields) : Prop where
  description : Fits Codec.text.optional category "description"
  color : Fits Codec.text.optional category "color"

lemma accepts_fillCategory (category : Fields) (n : Nat) :
    SortCategory.codec.Accepts (.map (fillCategory category n)) ↔ CategoryFits category := by
  simp (disch := decide) [SortCategory.codec, fillCategory, fillId, fits_put_of_ne,
    given?_put_of_ne, categoryFits_iff]

/-! ### Narratives -/

lemma find?_of_isOneOf {m : Fields} {key : String} {texts : List String}
    (h : (m.get key).isOneOf texts = true) : m.find? key = some (m.get key) := by
  refine Fields.find?_of_get rfl fun hnull => ?_
  simp [hnull, Value.isOneOf] at h

/-- The condition of a choice is accepted once it is filled. -/
lemma accepts_fillCondition {scene : String} {v w : Value}
    (h : (fillCondition scene v).result = .ok w) : Condition.codec.optional.Accepts w := by
  cases v with
  | map m =>
    simp only [fillCondition, fillKnownCondition] at h
    split_ifs at h with hknown
    · cases h
      simp only [Fields.get_put, String.reduceEq, if_true, if_false] at hknown
      simp (disch := decide) [Condition.codec, fillSomeText, fits_put_of_ne,
        Codec.accepts_named_of_isOneOf hknown.1, Codec.accepts_named_of_isOneOf hknown.2]
    · cases h
      simp
  | _ =>
    cases h
    simp

lemma accepts_fillEffects {scene : String} {v : Value} {ms : List Fields}
    (h : (fillEffects scene v).result = .ok ms) : ∀ m ∈ ms, Effect.codec.Accepts (.map m) := by
  intro m hm
  obtain ⟨effects, -, h⟩ := (Traced.bind_eq_ok _ _ _).mp h
  obtain ⟨effect, -, h⟩ := exists_of_mem_filterMap h hm
  unfold fillEffect? at h
  dsimp only at h
  split_ifs at h with hknown
  · cases h
    have hkind := given?_of_find? (find?_of_isOneOf hknown)
    simp (disch := decide) [Effect.codec, fillSomeText, fits_put_of_ne, given?_put_of_ne,
      fits_of_find? (find?_of_isOneOf hknown), Codec.accepts_named_of_isOneOf hknown, hkind]
  · cases h

/-- A choice that is kept is always accepted. -/
lemma accepts_fillChoice? {scene : String} {choice m : Fields} {n : Nat}
    (h : (fillChoice? scene choice n).result = .ok (some m)) : Choice.codec.Accepts (.map m) := by
  obtain ⟨-, condition, effects, hcondition, heffects, rfl⟩ :=
    (fillChoice?_eq_some scene choice m n).mp h
  have hc : condition = .null ∨ Condition.codec.Accepts condition := by
    simpa using accepts_fillCondition hcondition
  have he := accepts_fillEffects heffects
  simp (disch := decide) [Choice.codec, fillText, fillId, fits_put_of_ne, given?_put_of_ne, hc]
  exact he

/-- The kind of an ending is known once it is filled, unless it is given under another name. -/
lemma fits_of_fillEnding {scene : String} {s m : Fields} (h : (fillEnding scene s).result = .ok m) :
    Fits (Codec.named (α := EndingKind)).optional m "endingType" ↔
      FitsOtherwise (Codec.named (α := EndingKind)).optional s "endingType" := by
  unfold fillEnding at h
  dsimp only at h
  split_ifs at h with hknown
  · cases h
    rw [fits_iff, and_iff_right_iff_imp]
    intro _ v hv
    rw [Fields.get_of_find? hv] at hknown
    rcases hknown with hnull | hknown
    · cases v <;> simp [Value.isNull] at hnull ⊢
    · exact Codec.accepts_optional.mpr (.inr (Codec.accepts_named_of_isOneOf hknown))
  · cases h
    refine iff_of_true (by simp) (fitsOtherwise_of_find? (Fields.find?_of_get rfl fun hnull => ?_))
    simp [hnull, Value.isNull] at hknown

lemma accepts_filledChoices {scene : String} {given filled : List Fields}
    (h : FilledChoices scene given filled) : ∀ c ∈ filled, Choice.codec.Accepts (.map c) := by
  obtain ⟨os, hos, rfl⟩ := h
  intro c hc
  obtain ⟨o, ho, rfl⟩ := List.mem_filterMap.mp hc
  obtain ⟨e, -, he⟩ := hos.exists_of_mem_right ho
  exact accepts_fillChoice? he

/-- What a scene has to be given. -/
@[mk_iff] structure SceneFits (scene : Fields) : Prop where
  speaker : Fits Codec.text.optional scene "speaker"
  background : Fits Codec.text.optional scene "background"
  nextScene : Fits Codec.text.optional scene "nextScene"
  actions : ∀ a ∈ mapsAt scene "actions", Fits (Codec.entries .any) a "payload"
  isEnding : Fits Codec.boolean scene "isEnding"
  ending : FitsOtherwise (Codec.named (α := EndingKind)).optional scene "endingType"

lemma accepts_fillScene (scene : Fields) (n : Nat) (m : Fields)
    (h : (fillScene scene n).result = .ok m) : Scene.codec.Accepts (.map m) ↔ SceneFits scene := by
  obtain ⟨choices, hchoices, hending⟩ := (fillScene_iff scene m n).mp h
  have hchoices : ∀ c, c ∈ choices → Choice.codec.Accepts (.map c) := accepts_filledChoices hchoices
  have hactions (a : Fields) (kind : String) :
      SceneAction.codec.Accepts (.map (a.put "type" kind)) ↔
        Fits (Codec.entries .any) a "payload" := by
    simp (disch := decide) [SceneAction.codec, fits_put_of_ne]
  have hother : FitsOtherwise (Codec.named (α := EndingKind)).optional (sceneWith scene n choices)
      "endingType" ↔ FitsOtherwise (Codec.named (α := EndingKind)).optional scene "endingType" := by
    simp (disch := decide) only [sceneWith, fillSomeText, fillId, fitsOtherwise_put_of_ne]
  -- The ending is told apart, whether or not one had to be put in.
  simp only [Scene.codec, RecordOf.accepts_codec, RecordOf.accepts_apply,
    RecordOf.accepts_optional _ _ _ Scene.ending, fits_of_fillEnding hending, hother]
  rcases fillEnding_eq_ok hending with rfl | rfl <;>
  · simp (disch := decide) [sceneWith, fillSomeText, fillId, fits_put_of_ne, given?_put_of_ne,
      sceneFits_iff, hactions, and_assoc]
    exact fun _ _ _ _ _ _ => hchoices

/-! ### Simulations -/

/-- What the entries of an initial state have to be given. -/
@[mk_iff] structure InitialFits (initial : Fields) : Prop where
  turn : ∀ v, initial.find? "turn" = some v → Codec.integer.Accepts v
  amounts : ∀ amounts, entriesOf (initial.get "resources") = .ok amounts →
    Amounts.codec.Accepts (.map amounts)
  vars : ∀ v, initial.find? "variables" = some v → (Codec.entries .any).Accepts v
  actions : ∀ v, initial.find? "unlockedActions" = some v → (Codec.list .text).Accepts v
  objectives : ∀ v, initial.find? "completedObjectives" = some v → (Codec.list .text).Accepts v

/-- The amounts that resources start with are accepted if those that are given are. -/
lemma accepts_startResources {resources : List Fields} {amounts : Fields}
    (h : ∀ r ∈ resources, Codec.float.Accepts (r.getD "initialValue" (.int 0))) :
    Amounts.codec.Accepts (.map (startResources resources amounts)) ↔
      Amounts.codec.Accepts (.map amounts) := by
  induction resources generalizing amounts with
  | nil => exact Iff.rfl
  | cons r resources ih =>
    refine (ih fun s hs => h s (List.mem_cons_of_mem _ hs)).trans ?_
    have hr := h r List.mem_cons_self
    unfold Fields.putNew
    dsimp only
    split_ifs with hhas
    · exact Iff.rfl
    · have hnone : amounts.find? (textAt r "id") = none := by simpa [Fields.has] using hhas
      rw [Fields.put_of_find?_eq_none hnone]
      simp [Amounts.codec, Codec.accepts_entries_iff, or_imp, forall_and, hr]

/-- What is put into an initial state beside the amounts. -/
def initialWith (initial amounts : Fields) : Fields :=
  ((((initial.put "resources" (.map amounts)).putNew "turn" (.int 0)).putNew "variables"
    (.map [])).putNew "unlockedActions" (.list [])).putNew "completedObjectives" (.list [])

lemma fillInitialState_iff (resources : List Fields) (v : Value) (m : Fields) :
    fillInitialState resources v = .ok m ↔
      ∃ initial amounts, entriesOf v = .ok initial ∧
        entriesOf (initial.get "resources") = .ok amounts ∧
        initialWith initial (startResources resources amounts) = m := by
  unfold fillInitialState
  cases hinitial : entriesOf v with
  | error e => simp [Bind.bind, Except.bind]
  | ok initial =>
    cases hamounts : entriesOf (initial.get "resources") with
    | error e => simp [hamounts, Bind.bind, Except.bind]
    | ok amounts =>
      simp [hamounts, Bind.bind, Except.bind, pure, Except.pure, initialWith]

lemma fits_of_getD {α : Type} {c : Codec α} {m n : Fields} {name : String} {v : Value}
    (h : n.find? name = some ((m.find? name).getD v)) (hv : c.Accepts v) :
    Fits c n name ↔ ∀ w, m.find? name = some w → c.Accepts w := by
  rw [fits_of_find? h]
  cases m.find? name <;> simp [hv]

lemma accepts_fillInitialState {resources : List Fields} {v : Value} {m : Fields}
    (hresources : ∀ r ∈ resources, Codec.float.Accepts (r.getD "initialValue" (.int 0)))
    (h : fillInitialState resources v = .ok m) :
    InitialState.codec.Accepts (.map m) ↔
      ∀ initial, entriesOf v = .ok initial → InitialFits initial := by
  obtain ⟨initial, amounts, hinitial, hamounts, rfl⟩ := (fillInitialState_iff resources v m).mp h
  have hstarted : Amounts.codec.Accepts (.map (startResources resources amounts)) ↔
      Amounts.codec.Accepts (.map amounts) := accepts_startResources hresources
  generalize startResources resources amounts = started at hstarted ⊢
  have hstart : (initialWith initial started).find? "resources" = some (.map started) := by
    simp [initialWith]
  have hturn : (initialWith initial started).find? "turn" =
      some ((initial.find? "turn").getD (.int 0)) := by simp [initialWith]
  have hvars : (initialWith initial started).find? "variables" =
      some ((initial.find? "variables").getD (.map [])) := by simp [initialWith]
  have hactions : (initialWith initial started).find? "unlockedActions" =
      some ((initial.find? "unlockedActions").getD (.list [])) := by simp [initialWith]
  have hobjectives : (initialWith initial started).find? "completedObjectives" =
      some ((initial.find? "completedObjectives").getD (.list [])) := by simp [initialWith]
  have hnone : (Codec.entries .any).Accepts (.map []) := by simp [Codec.accepts_entries_iff]
  have hempty : (Codec.list .text).Accepts (.list []) := by simp [Codec.accepts_list_iff]
  simp [InitialState.codec, fits_of_find? hstart, hstarted, fits_of_getD hturn, fits_of_getD hvars,
    fits_of_getD hactions, fits_of_getD hobjectives, hnone, hempty, hinitial, hamounts,
    initialFits_iff, and_assoc]

/-- What a resource has to be given. -/
@[mk_iff] structure ResourceFits (r : Fields) : Prop where
  texts : ∀ name ∈ ["name", "icon", "description"], Fits Codec.text r name
  numbers : ∀ name ∈ ["initialValue", "minValue", "maxValue"], Fits Codec.number r name

lemma accepts_resource (r : Fields) (id : String) :
    Resource.codec.Accepts (.map (fillId r id)) ↔ ResourceFits r := by
  simp (disch := decide) [Resource.codec, fillId, fits_put_of_ne, resourceFits_iff]
  tauto

/-- What an action has to be given. -/
@[mk_iff] structure ActionFits (a : Fields) : Prop where
  texts : ∀ name ∈ ["name", "description", "icon"], Fits Codec.text a name
  amounts : ∀ name ∈ ["cost", "effects"], Fits Amounts.codec a name
  unlockCondition : Fits Codec.text.optional a "unlockCondition"
  cooldown : Fits Codec.integer a "cooldown"

lemma accepts_action (a : Fields) (id : String) :
    SimAction.codec.Accepts (.map (fillId a id)) ↔ ActionFits a := by
  simp (disch := decide) [SimAction.codec, fillId, fits_put_of_ne, actionFits_iff, and_assoc]

/-- What an event has to be given. -/
@[mk_iff] structure EventFits (e : Fields) : Prop where
  texts : ∀ name ∈ ["name", "description"], Fits Codec.text e name
  probability : Fits Codec.float e "probability"
  conditions : Fits Codec.text.optional e "conditions"
  effects : Fits Amounts.codec e "effects"
  choices : ∀ c ∈ mapsAt e "choices", EventChoice.codec.Accepts (.map c)

lemma accepts_event (e : Fields) (id : String) :
    SimEvent.codec.Accepts (.map ((fillId e id).put "choices" (mapList (mapsAt e "choices")))) ↔
      EventFits e := by
  simp (disch := decide) [SimEvent.codec, fillId, fits_put_of_ne, given?_put_of_ne,
    eventFits_iff, and_assoc]

/-- What an objective has to be given. -/
@[mk_iff] structure ObjectiveFits (o : Fields) : Prop where
  texts : ∀ name ∈ ["description", "target"], Fits Codec.text o name
  value : Fits Codec.number o "value"
  required : Fits Codec.boolean o "required"
  points : Fits Codec.integer o "points"

lemma accepts_fillObjective (o : Fields) (n : Nat) :
    Objective.codec.Accepts (.map (fillObjective o n)) ↔ ObjectiveFits o := by
  unfold fillObjective
  dsimp only
  split_ifs with hknown
  · rw [fillId, Fields.get_put, if_neg (by decide)] at hknown
    have hkind := find?_of_isOneOf hknown
    simp (disch := decide) [Objective.codec, fillId, fits_put_of_ne, given?_put_of_ne,
      fits_of_find? hkind, given?_of_find? hkind, Codec.accepts_named_of_isOneOf hknown,
      objectiveFits_iff, and_assoc]
  · simp (disch := decide) [Objective.codec, fillId, fits_put_of_ne, given?_put_of_ne,
      objectiveFits_iff, and_assoc]

/-- What a simulation has to be given. -/
@[mk_iff] structure SimulationFits (content : Fields) : Prop where
  initial : ∀ initial, entriesOf (content.get "initialState") = .ok initial → InitialFits initial
  resources : ∀ r ∈ mapsAt content "resources", ResourceFits r
  actions : ∀ a ∈ mapsAt content "actions", ActionFits a
  events : ∀ e ∈ mapsAt content "events", EventFits e
  objectives : ∀ o ∈ mapsAt content "objectives", ObjectiveFits o

/-- A resource that is accepted starts with an amount. -/
lemma ResourceFits.initialValue {r : Fields} (h : ResourceFits r) :
    Codec.float.Accepts (r.getD "initialValue" (.int 0)) := by
  have hnumber := h.numbers "initialValue" (by decide)
  rw [Fields.getD_eq]
  cases hfind : r.find? "initialValue" with
  | none => exact ⟨_, rfl⟩
  | some v => simpa using (fits_of_find? hfind).mp hnumber

lemma accepts_fillSimulation {content filled : Fields}
    (h : (fillSimulation content).result = .ok filled) :
    Simulation.fields.Accepts filled ↔ SimulationFits content := by
  obtain ⟨initial, turns, hinitial, -, rfl⟩ := (fillSimulation_iff content filled).mp h
  have hresources : Resource.codec.list.Accepts
      (mapList (fillIds "res" (mapsAt content "resources"))) ↔ _ :=
    accepts_map_numbered fun r n => accepts_resource r ("res" ++ toString n)
  have hactions : SimAction.codec.list.Accepts
      (mapList (fillIds "action" (mapsAt content "actions"))) ↔ _ :=
    accepts_map_numbered fun a n => accepts_action a ("action" ++ toString n)
  have hevents : SimEvent.codec.list.Accepts (mapList (filledEvents content)) ↔ _ :=
    accepts_map_numbered fun e n => accepts_event e ("event" ++ toString n)
  have hobjectives : Objective.codec.list.Accepts (mapList
      ((numbered (mapsAt content "objectives")).map fun e => fillObjective e.1 e.2)) ↔ _ :=
    accepts_map_numbered accepts_fillObjective
  -- The initial state is given amounts of the resources, so that these have to fit first.
  have hinitial' (hfits : ∀ r ∈ mapsAt content "resources", ResourceFits r) :
      InitialState.codec.Accepts (.map initial) ↔
        ∀ initial, entriesOf (content.get "initialState") = .ok initial → InitialFits initial := by
    refine accepts_fillInitialState (fun r hr => ?_) hinitial
    obtain ⟨e, he, rfl⟩ := List.mem_map.mp hr
    rw [fillId, Fields.getD_eq, Fields.find?_put, if_neg (by decide)]
    exact (hfits e.1 (List.fst_mem_of_mem_zipIdx he)).initialValue
  have hfields : Simulation.fields.Accepts
      ((simulationWith content initial).put "maxTurns" (.int turns)) ↔
        InitialState.codec.Accepts (.map initial) ∧
          (∀ r ∈ mapsAt content "resources", ResourceFits r) ∧
          (∀ a ∈ mapsAt content "actions", ActionFits a) ∧
          (∀ e ∈ mapsAt content "events", EventFits e) ∧
          ∀ o ∈ mapsAt content "objectives", ObjectiveFits o := by
    rw [← hresources, ← hactions, ← hevents, ← hobjectives]
    simp (disch := decide) [Simulation.fields, simulationWith, fits_put_of_ne, given?_put_of_ne,
      and_assoc, -accepts_mapList, -mem_mapsAt]
  rw [hfields, simulationFits_iff]
  constructor
  · rintro ⟨hi, hr, hrest⟩
    exact ⟨(hinitial' hr).mp hi, hr, hrest⟩
  · rintro ⟨hi, hr, hrest⟩
    exact ⟨(hinitial' hr).mpr hi, hr, hrest⟩

/-! ### Explorations -/

/-- A visit event is of a known kind once it is filled, unless it is given under another name. -/
lemma fits_of_fillVisit {l visited : Fields} (h : (fillVisit l).result = .ok visited) :
    Fits LocationEvent.codec.optional visited "onVisit" ↔
      FitsOtherwise LocationEvent.codec.optional l "onVisit" := by
  unfold fillVisit at h
  dsimp only at h
  split_ifs at h with hknown
  · cases h
    rw [fits_iff, and_iff_right_iff_imp]
    intro _ v hv
    rw [Fields.get_of_find? hv] at hknown
    rw [Codec.accepts_optional]
    cases v with
    | null => exact .inl rfl
    | map m =>
      have hkind : (Fields.get m "type").isOneOf (Named.names LocationEventKind) = true := by
        simpa [Value.isNull, isVisitEvent] using hknown
      have hfind := find?_of_isOneOf hkind
      right
      simp [LocationEvent.codec, fits_of_find? hfind, given?_of_find? hfind,
        Codec.accepts_named_of_isOneOf hkind]
    | _ => simp [Value.isNull, isVisitEvent] at hknown
  · cases h
    refine iff_of_true (by simp) (fitsOtherwise_of_find? (Fields.find?_of_get rfl fun hnull => ?_))
    simp [hnull, Value.isNull] at hknown

/-- What a location has to be given. -/
@[mk_iff] structure LocationFits (l : Fields) : Prop where
  texts : ∀ name ∈ ["name", "description"], Fits Codec.text l name
  position : (Codec.entries .float).Accepts (.map (position (l.get "position")))
  visit : FitsOtherwise LocationEvent.codec.optional l "onVisit"
  icon : Fits Codec.text l "icon"

lemma accepts_fillLocation (l : Fields) (n : Nat) (m : Fields)
    (h : (fillLocation l n).result = .ok m) :
    Location.codec.Accepts (.map m) ↔ LocationFits l := by
  obtain ⟨visited, hvisit, rfl⟩ := (fillLocation_iff l m n).mp h
  have hevent : Fits LocationEvent.codec.optional visited "onVisit" ↔
      FitsOtherwise LocationEvent.codec.optional l "onVisit" := by
    rw [fits_of_fillVisit hvisit, fillId, fitsOtherwise_put_of_ne (by decide) (by decide)]
  simp (disch := decide) [Location.codec, fits_put_of_ne, given?_put_of_ne, hevent]
  rcases fillVisit_eq_ok hvisit with rfl | rfl <;>
  · simp (disch := decide) [fillId, fits_put_of_ne, given?_put_of_ne, locationFits_iff, and_assoc]

/-- What a collectible has to be given. -/
def CollectibleFits (c : Fields) : Prop :=
  ∀ name ∈ ["name", "description", "icon", "knowledge"], Fits Codec.text c name

lemma accepts_fillCollectible (c : Fields) (n : Nat) (m : Fields)
    (h : (fillCollectible c n).result = .ok m) :
    Collectible.codec.Accepts (.map m) ↔ CollectibleFits c := by
  obtain ⟨k, -, rfl⟩ := (fillWhole_eq_ok _ _ _ _).mp h
  simp (disch := decide) [Collectible.codec, fillText, fillId, fits_put_of_ne, given?_put_of_ne,
    CollectibleFits, and_assoc]

/-- What an exploration has to be given. -/
@[mk_iff] structure ExplorationFits (content : Fields) : Prop where
  world : Fits World.codec content "world"
  locations : ∀ l ∈ mapsAt content "locations", LocationFits l
  collectibles : ∀ c ∈ mapsAt content "collectibles", CollectibleFits c

lemma accepts_startAmong (ids : List String) (v : Value) :
    ∃ s, startAmong ids v = .str s := by
  unfold startAmong
  split_ifs with h
  · cases v with
    | str s => exact ⟨s, rfl⟩
    | _ => simp [Value.isOneOf] at h
  · exact ⟨_, rfl⟩

lemma accepts_fillExploration {content filled : Fields}
    (h : (fillExploration content).result = .ok filled) :
    Exploration.fields.Accepts filled ↔ ExplorationFits content := by
  obtain ⟨locations, items, hlocations, hitems, rfl⟩ := (fillExploration_iff content filled).mp h
  simp (disch := decide) [Exploration.fields, fits_put_of_ne, given?_put_of_ne,
    accepts_filledAll accepts_fillLocation hlocations, accepts_startAmong,
    accepts_filledAll accepts_fillCollectible hitems, explorationFits_iff, and_assoc]

/-! ### Challenges and reading matter -/

/-- What a prompt has to be given. -/
@[mk_iff] structure PromptFits (item : Fields) : Prop where
  answer : ShortAnswer.codec.optional.Accepts (item.get "correctAnswer")
  options : Fits ShortAnswer.codec.list.optional item "options"
  timeBonus : Fits Codec.integer.optional item "timeBonus"

lemma accepts_fillPrompt {points : Int} (item : Fields) (n : Nat) (m : Fields)
    (h : (fillPrompt points item n).result = .ok m) :
    ChallengeItem.codec.Accepts (.map m) ↔ PromptFits item := by
  unfold fillPrompt at h
  dsimp only at h
  obtain ⟨k, -, rfl⟩ := (fillWhole_eq_ok _ _ _ _).mp h
  have hanswer : (fillText (fillId item ("c" ++ toString n)) "prompt").get "correctAnswer" =
      item.get "correctAnswer" := by simp [fillText, fillId]
  rw [hanswer]
  cases hnull : (item.get "correctAnswer").isNull with
  | true =>
    have hget : item.get "correctAnswer" = .null := by
      cases hget : item.get "correctAnswer" <;> simp [hget, Value.isNull] at hnull ⊢
    have hempty : ShortAnswer.codec.Accepts (.str "") := ⟨.text "", rfl⟩
    simp (disch := decide) [ChallengeItem.codec, fillText, fillId, fits_put_of_ne,
      given?_put_of_ne, hempty, promptFits_iff, hget]
  | false =>
    have hne : item.get "correctAnswer" ≠ .null := by
      intro hget
      simp [hget, Value.isNull] at hnull
    have hfind := Fields.find?_of_get rfl hne
    simp (disch := decide) [ChallengeItem.codec, fillText, fillId, fits_put_of_ne,
      given?_put_of_ne, given?_of_find? hfind, fits_of_find? hfind, promptFits_iff, hne, and_assoc]

/-- What a challenge has to be given. -/
@[mk_iff] structure ChallengeFits (content : Fields) : Prop where
  style : Codec.text.Accepts ((content.get "challengeType").orElse "speed-round")
  items : ∀ i ∈ mapsAt content "items", PromptFits i

lemma accepts_fillChallenge {points : Int} {content filled : Fields}
    (h : (fillChallenge points content).result = .ok filled) :
    Challenge.fields.Accepts filled ↔ ChallengeFits content := by
  obtain ⟨items, limit, target, mistakes, hitems, -, -, -, rfl⟩ :=
    (fillChallenge_iff points content filled).mp h
  simp (disch := decide) [Challenge.fields, fits_put_of_ne, given?_put_of_ne,
    accepts_filledAll accepts_fillPrompt hitems, challengeFits_iff]

lemma accepts_fillBlock (v : Value) : InfoBlock.codec.Accepts (.map (fillBlock v)) := by
  cases v with
  | map m =>
    unfold fillBlock
    dsimp only
    split_ifs with hknown
    · have hkind := find?_of_isOneOf hknown
      simp [InfoBlock.codec, fits_of_find? hkind, given?_of_find? hkind,
        Codec.accepts_named_of_isOneOf hknown]
    · simp [InfoBlock.codec]
  | _ => simp [fillBlock, InfoBlock.codec]

lemma accepts_fillInfo (title : Value) (content : Fields) :
    Info.fields.Accepts (fillInfo title content) ↔
      Codec.text.Accepts ((content.get "title").orElse title) := by
  simp (disch := decide) [Info.fields, fillInfo, fits_put_of_ne, accepts_fillBlock]

/-! ### Contents -/

/-- What a matching game has to be given. -/
@[mk_iff] structure MatchingFits (content : Fields) : Prop where
  pairs : ∀ p ∈ mapsAt content "pairs", PairFits p
  style : Codec.text.Accepts ((content.get "matchStyle").orElse "tap-tap")
  timeLimit : Fits Codec.integer.optional content "timeLimit"

/-- What a sorting game has to be given. -/
@[mk_iff] structure SortingFits (content : Fields) : Prop where
  items : ∀ i ∈ mapsAt content "items", Fits Codec.text.optional i "image"
  categories : ∀ c ∈ mapsAt content "categories", CategoryFits c
  instructions : Codec.text.Accepts ((content.get "instructions").orElse "")

/-- What a content of a kind has to be given. -/
def ContentFits (title : Value) (content : Fields) : SectionKind → Prop
  | .quiz => ∀ q ∈ mapsAt content "questions", QuestionFits q
  | .flashcards => ∀ card ∈ mapsAt content "cards", CardFits card
  | .matching => MatchingFits content
  | .sorting => SortingFits content
  | .narrative => ∀ s ∈ mapsAt content "scenes", SceneFits s
  | .simulation => SimulationFits content
  | .exploration => ExplorationFits content
  | .challenge => ChallengeFits content
  | .info => Codec.text.Accepts ((content.get "title").orElse title)

lemma accepts_fillFlashcards {content filled : Fields}
    (h : (fillFlashcards content).result = .ok filled) :
    Flashcards.fields.Accepts filled ↔ ∀ card ∈ mapsAt content "cards", CardFits card := by
  rw [fillFlashcards_eq] at h
  cases h
  have hcards : Flashcard.codec.list.Accepts (mapList
      ((numbered (mapsAt content "cards")).map fun e => fillCard e.1 e.2)) ↔ _ :=
    accepts_map_numbered accepts_fillCard
  have hmode : (Codec.named (α := TestMode)).Accepts
      (if (content.get "testMode").isOneOf (Named.names TestMode) then content.get "testMode"
        else .str (Named.name TestMode.flipReveal)) := by
    split_ifs with h
    · exact Codec.accepts_named_of_isOneOf h
    · simp
  simp (disch := decide) [Flashcards.fields, fits_put_of_ne, given?_put_of_ne, hcards, hmode,
    -accepts_mapList, -mem_mapsAt]

lemma accepts_fillMatching {content filled : Fields}
    (h : (fillMatching content).result = .ok filled) :
    Matching.fields.Accepts filled ↔ MatchingFits content := by
  rw [fillMatching_eq] at h
  cases h
  have hpairs : MatchPair.codec.list.Accepts (mapList
      ((numbered (mapsAt content "pairs")).map fun e => fillPair e.1 e.2)) ↔ _ :=
    accepts_map_numbered accepts_fillPair
  simp (disch := decide) [Matching.fields, fits_put_of_ne, given?_put_of_ne, hpairs,
    matchingFits_iff, and_assoc, -accepts_mapList, -mem_mapsAt]

lemma accepts_fillSorting {content filled : Fields}
    (h : (fillSorting content).result = .ok filled) :
    Sorting.fields.Accepts filled ↔ SortingFits content := by
  rw [fillSorting_eq] at h
  cases h
  have hitems : SortItem.codec.list.Accepts (mapList ((numbered (mapsAt content "items")).map
      fun e => fillItem (filledCategories content) e.1 e.2)) ↔ _ :=
    accepts_map_numbered (accepts_fillItem (filledCategories content))
  have hcategories : SortCategory.codec.list.Accepts (mapList (filledCategories content)) ↔ _ :=
    accepts_map_numbered accepts_fillCategory
  simp (disch := decide) [Sorting.fields, fits_put_of_ne, given?_put_of_ne, hitems, hcategories,
    sortingFits_iff, and_assoc, -accepts_mapList, -mem_mapsAt]

/-- A content that is filled is accepted exactly if it was given what it has to be given. -/
lemma accepts_fillContent {kind : SectionKind} {points : Int} {title : Value}
    {content filled : Fields} (h : (fillContent kind points title content).result = .ok filled) :
    (∃ c, SectionContent.readAs filled kind = .valid c) ↔ ContentFits title content kind := by
  have hmap {α : Type} (f : α → SectionContent) (x : Checked α) :
      (∃ c, x.map f = .valid c) ↔ ∃ a, x = .valid a := by
    simp [Checked.map_eq_valid]
  cases kind with
  | quiz =>
    obtain ⟨ms, hms, rfl⟩ := (fillQuiz_iff points content filled).mp h
    refine (hmap _ _).trans ((?_ : Quiz.fields.Accepts _ ↔ _).trans
      (accepts_filledAll accepts_fillQuestion hms))
    simp [Quiz.fields]
  | flashcards => exact (hmap _ _).trans (accepts_fillFlashcards h)
  | matching => exact (hmap _ _).trans (accepts_fillMatching h)
  | sorting => exact (hmap _ _).trans (accepts_fillSorting h)
  | narrative =>
    obtain ⟨ms, hms, rfl⟩ := (fillNarrative_iff content filled).mp h
    refine (hmap _ _).trans ((?_ : Narrative.fields.Accepts _ ↔ _).trans
      (accepts_filledAll accepts_fillScene hms))
    simp (disch := decide) [Narrative.fields, fits_put_of_ne, given?_put_of_ne, accepts_startAmong]
  | simulation => exact (hmap _ _).trans (accepts_fillSimulation h)
  | exploration => exact (hmap _ _).trans (accepts_fillExploration h)
  | challenge => exact (hmap _ _).trans (accepts_fillChallenge h)
  | info =>
    cases h
    exact (hmap _ _).trans (accepts_fillInfo title content)

end LearningGame.Completion
