import LearningGame.Play.Matching
import LearningGame.Play.Quiz
import LearningGame.Play.Flashcards
import LearningGame.Play.Sorting
import LearningGame.Play.Narrative
import LearningGame.Play.Simulation
import LearningGame.Play.Exploration
import LearningGame.Play.Challenge
import LearningGame.Play.Reading

/-!
# A section in play

The state of a section of any kind, how play in it begins, what a player can do in it and what that
does, what happens as its countdowns run, and what the player sees. Each kind of section knows some
of the moves.
-/

namespace LearningGame.Play

open Content Schema Rules

/-- Something that a player does. -/
inductive Move where
  /-- Give an answer to a question or type the back of a card. -/
  | submit (answer : Value)
  /-- Go on to the next question or card. -/
  | next
  /-- Go back to the card before. -/
  | previous
  | useHint
  /-- Turn a card over. -/
  | flip
  /-- Say whether the back of a card was known. -/
  | mark (known : Bool)
  /-- Select an entry of a column. -/
  | select (column : Column) (id : String)
  /-- Put an item into a category. -/
  | place (itemId categoryId : String)
  /-- Take an item out of its category. -/
  | remove (itemId : String)
  /-- Have all placements graded. -/
  | submitAll
  /-- Have the rest of a text at once. -/
  | skipTyping
  /-- Make a choice in a story. -/
  | choose (id : String)
  /-- Go on from where nothing more is to be done. -/
  | goOn
  /-- Perform an action of a simulation. -/
  | perform (id : String)
  /-- Unlock an action of a simulation. -/
  | unlock (id : String)
  | endTurn
  /-- Resolve an event, by one of its choices or as it is. -/
  | resolveEvent (choice : Option Int)
  /-- Walk to a location. -/
  | visit (id : String)
  /-- Pick up a thing. -/
  | collect (id : String)
  /-- Stop exploring. -/
  | finish
  /-- Answer a prompt of a challenge. -/
  | answer (value : Value)
  /-- Note that a text has been scrolled to its end. -/
  | markScrolled

/-- A section in play. -/
inductive Player where
  | quiz (s : QuizSitting)
  | flashcards (s : FlashcardSitting)
  | matching (s : MatchingSitting)
  | sorting (s : SortingSitting)
  | narrative (s : NarrativeSitting)
  | simulation (s : SimulationSitting)
  | exploration (s : ExplorationSitting)
  | challenge (s : ChallengeSitting)
  | reading (content : SectionContent) (s : ReadingSitting)

namespace Player

/-- What all kinds have in common. -/
def sitting : Player → Sitting
  | .quiz s => s.toSitting
  | .flashcards s => s.toSitting
  | .matching s => s.toSitting
  | .sorting s => s.toSitting
  | .narrative s => s.toSitting
  | .simulation s => s.toSitting
  | .exploration s => s.toSitting
  | .challenge s => s.toSitting
  | .reading _ s => s.toSitting

/-- Whether the section is finished. -/
def completed (p : Player) : Bool := p.sitting.completed

/-- The kind of the section. -/
def kind : Player → SectionKind
  | .quiz _ => .quiz
  | .flashcards _ => .flashcards
  | .matching _ => .matching
  | .sorting _ => .sorting
  | .narrative _ => .narrative
  | .simulation _ => .simulation
  | .exploration _ => .exploration
  | .challenge _ => .challenge
  | .reading _ _ => .info

/-! ### Beginning -/

/-- Sit down to a section at a time. Only reading does not ask for content of its own kind. -/
def sitDown (c : Setting) (content : SectionContent) (started : Float) : Act Dice Player :=
  match c.kind, content with
  | .quiz, .quiz x => Player.quiz <$> QuizSitting.create c x started
  | .flashcards, .flashcards x => Player.flashcards <$> FlashcardSitting.create c x started
  | .matching, .matching x => Player.matching <$> MatchingSitting.create x started
  | .sorting, .sorting x => return Player.sorting (SortingSitting.create x started)
  | .narrative, .narrative x => return Player.narrative (NarrativeSitting.create x started)
  | .simulation, .simulation x => return Player.simulation (SimulationSitting.create x started)
  | .exploration, .exploration x => return Player.exploration (ExplorationSitting.create x started)
  | .challenge, .challenge x => return Player.challenge (ChallengeSitting.create x started)
  | .info, x => return Player.reading x (ReadingSitting.create started)
  | _, _ => Act.fault .contentMismatch

/-- Begin to play. -/
def enter (c : Setting) : Player → Script Player Unit
  | .quiz s => (QuizSitting.enter c).embed .quiz s
  | .flashcards s => (FlashcardSitting.enter c).embed .flashcards s
  | .matching s => (MatchingSitting.enter c).embed .matching s
  | .narrative s => (NarrativeSitting.enter c).embed .narrative s
  | .exploration s => (ExplorationSitting.enter c).embed .exploration s
  | .challenge s => (ChallengeSitting.enter c).embed .challenge s
  | .sorting _ => return ()
  | .simulation _ => return ()
  | .reading _ _ => return ()

/-! ### Countdowns -/

/-- A second of a countdown has gone by. -/
def tick (alarm : Alarm) (remaining : Int) : Player → Script Player Unit
  | .challenge s =>
    if alarm = .challenge then (ChallengeSitting.tick remaining).embed .challenge s else return ()
  | _ => return ()

/-- A countdown has run out. -/
def expire (c : Setting) (alarm : Alarm) : Player → Script Player Unit
  | .quiz s => if alarm = .question then (QuizSitting.expire c).embed .quiz s else return ()
  | .matching s =>
    if alarm = .matching then (MatchingSitting.expire c).embed .matching s else return ()
  | .challenge s =>
    if alarm = .challenge then (ChallengeSitting.expire c).embed .challenge s else return ()
  | _ => return ()

/-! ### Moves -/

/-- A result that may be absent, as a value. -/
def optionally {α : Type} (f : α → Value) : Option α → Value
  | some a => f a
  | none => .null

/-- A move in a quiz. -/
def inQuiz (c : Setting) : Move → Option (Script QuizSitting Value)
  | .submit answer => some (optionally QuizResult.toValue <$> QuizSitting.submit c answer)
  | .next => some ((fun _ => .null) <$> QuizSitting.next c)
  | .useHint => some (optionalText <$> QuizSitting.useHint)
  | _ => none

/-- A move with flashcards. -/
def inFlashcards (c : Setting) : Move → Option (Script FlashcardSitting Value)
  | .flip => some (.bool <$> FlashcardSitting.flip)
  | .mark known => some ((fun _ => .null) <$> FlashcardSitting.mark c known)
  | .submit answer => some (optionally CardResult.toValue <$> FlashcardSitting.submit c answer)
  | .next => some ((fun _ => .null) <$> FlashcardSitting.next c)
  | .previous => some ((fun _ => .null) <$> FlashcardSitting.previous c)
  | .useHint => some (optionalText <$> FlashcardSitting.useHint)
  | _ => none

/-- A move in a matching game. -/
def inMatching (c : Setting) : Move → Option (Script MatchingSitting Value)
  | .select column id => some ((fun _ => .null) <$> MatchingSitting.select c column id)
  | _ => none

/-- A move in a sorting game. -/
def inSorting (c : Setting) : Move → Option (Script SortingSitting Value)
  | .place item category => some (.bool <$> SortingSitting.place c item category)
  | .remove item => some ((fun _ => .null) <$> SortingSitting.remove item)
  | .submitAll => some (optionally SortingOutcome.toValue <$> SortingSitting.submit c)
  | .goOn => some ((fun _ => .null) <$> SortingSitting.leave c)
  | _ => none

/-- A move in a narrative. -/
def inNarrative (c : Setting) : Move → Option (Script NarrativeSitting Value)
  | .skipTyping => some ((fun _ => .null) <$> NarrativeSitting.skipTyping)
  | .choose id => some (.bool <$> NarrativeSitting.choose c id)
  | .goOn => some ((fun _ => .null) <$> NarrativeSitting.goOn c)
  | _ => none

/-- A move in a simulation. -/
def inSimulation (c : Setting) : Move → Option (Script SimulationSitting Value)
  | .perform id => some (.bool <$> SimulationSitting.perform c id)
  | .unlock id => some ((fun _ => .null) <$> SimulationSitting.unlock id)
  | .endTurn => some (optionally (fun e => .str e.id) <$> SimulationSitting.endTurn c)
  | .resolveEvent choice => some ((fun _ => .null) <$> SimulationSitting.resolveEvent c choice)
  | .goOn => some ((fun _ => .null) <$> SimulationSitting.leave c)
  | _ => none

/-- A move in an exploration. -/
def inExploration (c : Setting) : Move → Option (Script ExplorationSitting Value)
  | .visit id => some (.bool <$> ExplorationSitting.visit c id)
  | .collect id => some (optionalText <$> ExplorationSitting.collect c id)
  | .finish => some ((fun _ => .null) <$> ExplorationSitting.finish c)
  | _ => none

/-- A move in a challenge. -/
def inChallenge (c : Setting) : Move → Option (Script ChallengeSitting Value)
  | .answer value => some (optionally .bool <$> ChallengeSitting.answer c value)
  | .goOn => some ((fun _ => .null) <$> ChallengeSitting.leave c)
  | _ => none

/-- A move in reading matter. -/
def inReading (c : Setting) : Move → Option (Script ReadingSitting Value)
  | .markScrolled => some ((fun _ => .null) <$> ReadingSitting.markScrolled)
  | .goOn => some ((fun _ => .null) <$> ReadingSitting.leave c)
  | _ => none

/-- What a move does, if the section knows it. -/
def act? (c : Setting) (m : Move) : Player → Option (Script Player Value)
  | .quiz s => (inQuiz c m).map (·.embed .quiz s)
  | .flashcards s => (inFlashcards c m).map (·.embed .flashcards s)
  | .matching s => (inMatching c m).map (·.embed .matching s)
  | .sorting s => (inSorting c m).map (·.embed .sorting s)
  | .narrative s => (inNarrative c m).map (·.embed .narrative s)
  | .simulation s => (inSimulation c m).map (·.embed .simulation s)
  | .exploration s => (inExploration c m).map (·.embed .exploration s)
  | .challenge s => (inChallenge c m).map (·.embed .challenge s)
  | .reading content s => (inReading c m).map (·.embed (.reading content) s)

/-! ### What is seen -/

/-- What the player sees, as a document. -/
def view (c : Setting) (p : Player) (circumstances : Circumstances)
    (remaining : Alarm → Option Int) : Except Fault Fields :=
  match p with
  | .quiz s => .ok (s.view remaining)
  | .flashcards s => .ok (FlashcardSitting.view c s)
  | .matching s => .ok (s.view remaining)
  | .sorting s => .ok s.view
  | .narrative s => s.view circumstances
  | .simulation s => .ok s.view
  | .exploration s => .ok s.view
  | .challenge s => .ok s.view
  | .reading (.info content) s => .ok (s.view content)
  | .reading _ _ => .error .contentMismatch

end Player

end LearningGame.Play
