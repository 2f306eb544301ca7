import LearningGame.Log
import LearningGame.Play.Dice
import LearningGame.Rules.Comparison

/-!
# Scripts

A section in play owns its own state and asks its surroundings for everything else: to take a report,
to spend a hint, to arm a countdown, for a random number or the time. A script is such a course of
action as a tree of requests, each going on with the reply. What answers the requests is told when
the script is run: a session, or a rehearsal that records the reports.
-/

namespace LearningGame.Play

open Rules

/-! ### Requests -/

/-- The countdowns of a section. -/
inductive Alarm where
  | question
  | matching
  | challenge
  deriving DecidableEq

/-- The name of a countdown within its section. -/
def Alarm.name : Alarm → String
  | .question => "question"
  | .matching => "matching"
  | .challenge => "challenge"

/-- The name of a countdown of a section. -/
def Alarm.fullName (sectionId : String) (a : Alarm) : String := sectionId ++ ":" ++ a.name

/-- What a section asks of its surroundings. -/
inductive Request where
  /-- Take a graded answer. -/
  | report (itemId : String) (answer : Value) (isCorrect : Bool) (points timeSpent : Int)
  /-- Take note that the section is finished. -/
  | complete
  /-- Spend a hint, if there is one left. -/
  | spendHint
  /-- Go to another section. -/
  | navigate (sectionId : String)
  | updateVariables (patch : Fields)
  | addItem (item : String)
  | removeItem (item : String)
  /-- Show what conditions look at. -/
  | look
  | arm (alarm : Alarm) (seconds : Int)
  | cancel (alarm : Alarm)
  /-- Draw a random number from zero up to below one. -/
  | draw
  /-- Read the clock. -/
  | now
  | note (level : Log.Level) (message : String)

/-- What comes back. -/
def Request.Reply : Request → Type
  | .spendHint => Bool
  | .look => Circumstances
  | .draw => Float
  | .now => Float
  | _ => Unit

/-! ### Computations on a world -/

/-- A computation that changes a world and may be broken off; the changes made before stay. -/
abbrev Act (ω : Type) := ExceptT Fault (StateM ω)

namespace Act

variable {ω α : Type}

/-- Run a computation in a world. -/
def runIn (x : Act ω α) (w : ω) : Except Fault α × ω := StateT.run (ExceptT.run x) w

/-- The computation that does what a function says. -/
def ofFun (f : ω → Except Fault α × ω) : Act ω α := ExceptT.mk (fun w => f w)

/-- Break off. -/
def fault (f : Fault) : Act ω α := throw f

/-- Take over a result. -/
def lift (r : Except Fault α) : Act ω α := ofFun fun w => (r, w)

@[simp] theorem runIn_pure (a : α) (w : ω) : runIn (pure a) w = (.ok a, w) := rfl

@[simp] theorem runIn_ofFun (f : ω → Except Fault α × ω) (w : ω) : runIn (ofFun f) w = f w := rfl

@[simp] theorem runIn_lift (r : Except Fault α) (w : ω) : runIn (lift r) w = (r, w) := rfl

end Act

/-! ### Scripts -/

/-- A course of action of a section with a state `σ`. -/
inductive Script (σ α : Type) where
  | done (a : α)
  | fail (fault : Fault)
  | get (next : σ → Script σ α)
  | put (s : σ) (next : Script σ α)
  | ask (r : Request) (next : r.Reply → Script σ α)

namespace Script

variable {σ α β : Type}

/-- Go on after a script. -/
def andThen : Script σ α → (α → Script σ β) → Script σ β
  | .done a, f => f a
  | .fail e, _ => .fail e
  | .get next, f => .get fun s => (next s).andThen f
  | .put s next, f => .put s (next.andThen f)
  | .ask r next, f => .ask r fun x => (next x).andThen f

instance : Monad (Script σ) where
  pure := .done
  bind := andThen

/-- The state of the section. -/
def state : Script σ σ := .get .done

/-- Replace the state of the section. -/
def setState (s : σ) : Script σ Unit := .put s (.done ())

/-- Change the state of the section. -/
def change (f : σ → σ) : Script σ Unit := .get fun s => .put (f s) (.done ())

/-! ### Requests as scripts -/

/-- Report an answer. -/
def report (itemId : String) (answer : Value) (isCorrect : Bool) (points timeSpent : Int) :
    Script σ Unit :=
  .ask (.report itemId answer isCorrect points timeSpent) fun _ => .done ()

/-- Report the end of the section. -/
def reportEnd : Script σ Unit := .ask .complete fun _ => .done ()

/-- Try to spend a hint. -/
def spendHint : Script σ Bool := .ask .spendHint fun (granted : Bool) => .done granted

/-- Go to another section. -/
def navigate (sectionId : String) : Script σ Unit := .ask (.navigate sectionId) fun _ => .done ()

/-- Set variables. -/
def updateVariables (patch : Fields) : Script σ Unit :=
  .ask (.updateVariables patch) fun _ => .done ()

/-- Put an item into the inventory. -/
def addItem (item : String) : Script σ Unit := .ask (.addItem item) fun _ => .done ()

/-- Take an item out of the inventory. -/
def removeItem (item : String) : Script σ Unit := .ask (.removeItem item) fun _ => .done ()

/-- See what conditions look at. -/
def look : Script σ Circumstances := .ask .look fun (c : Circumstances) => .done c

/-- Arm a countdown. -/
def arm (alarm : Alarm) (seconds : Int) : Script σ Unit :=
  .ask (.arm alarm seconds) fun _ => .done ()

/-- Take a countdown out. -/
def cancel (alarm : Alarm) : Script σ Unit := .ask (.cancel alarm) fun _ => .done ()

/-- Draw a random number. -/
def draw : Script σ Float := .ask .draw fun (x : Float) => .done x

/-- Read the clock. -/
def now : Script σ Float := .ask .now fun (t : Float) => .done t

/-- Make a note. -/
def note (level : Log.Level) (message : String) : Script σ Unit :=
  .ask (.note level message) fun _ => .done ()

/-- Note that something was ignored. -/
def warn (message : String) : Script σ Unit := note .warning message

/-- Take over a result. -/
def lift : Except Fault α → Script σ α
  | .ok a => .done a
  | .error f => .fail f

/-- Do something for every element of a list. -/
def forEach (f : β → Script σ Unit) : List β → Script σ Unit
  | [] => pure ()
  | b :: rest => do
    f b
    forEach f rest

/-- The elements of a list that pass a test, which is made for one after the other. -/
def filter (p : β → Script σ Bool) : List β → Script σ (List β)
  | [] => pure []
  | b :: rest => do
    let keep ← p b
    let others ← filter p rest
    return if keep then b :: others else others

/-! ### Running a script -/

/-- Run a script in a world that answers requests. The changes made before a fault stay. -/
def run {ω : Type} (answer : (r : Request) → Act ω r.Reply) :
    Script σ α → σ → ω → Except Fault α × σ × ω
  | .done a, s, w => (.ok a, s, w)
  | .fail f, s, w => (.error f, s, w)
  | .get next, s, w => (next s).run answer s w
  | .put s next, _, w => next.run answer s w
  | .ask r next, s, w =>
    match (answer r).runIn w with
    | (.ok x, w) => (next x).run answer s w
    | (.error f, w) => (.error f, s, w)

@[simp] theorem run_done {ω : Type} (answer : (r : Request) → Act ω r.Reply) (a : α) (s : σ)
    (w : ω) : (done a : Script σ α).run answer s w = (.ok a, s, w) := rfl

@[simp] theorem run_fail {ω : Type} (answer : (r : Request) → Act ω r.Reply) (f : Fault) (s : σ)
    (w : ω) : (fail f : Script σ α).run answer s w = (.error f, s, w) := rfl

@[simp] theorem run_get {ω : Type} (answer : (r : Request) → Act ω r.Reply)
    (next : σ → Script σ α) (s : σ) (w : ω) :
    (get next).run answer s w = (next s).run answer s w := rfl

@[simp] theorem run_put {ω : Type} (answer : (r : Request) → Act ω r.Reply) (s t : σ)
    (next : Script σ α) (w : ω) : (put s next).run answer t w = next.run answer s w := rfl

/-- A script and what follows it run one after the other. -/
theorem run_andThen {ω : Type} (answer : (r : Request) → Act ω r.Reply) (x : Script σ α)
    (f : α → Script σ β) (s : σ) (w : ω) :
    (x.andThen f).run answer s w =
      match x.run answer s w with
      | (.ok a, s, w) => (f a).run answer s w
      | (.error e, s, w) => (.error e, s, w) := by
  induction x generalizing s w with
  | done a => rfl
  | fail e => rfl
  | get next ih => exact ih s s w
  | put t next ih => exact ih t w
  | ask r next ih =>
    simp only [andThen, run]
    split
    · exact ih _ s _
    · rfl

@[simp] theorem run_pure {ω : Type} (answer : (r : Request) → Act ω r.Reply) (a : α) (s : σ)
    (w : ω) : (pure a : Script σ α).run answer s w = (.ok a, s, w) := rfl

theorem run_bind {ω : Type} (answer : (r : Request) → Act ω r.Reply) (x : Script σ α)
    (f : α → Script σ β) (s : σ) (w : ω) :
    (x >>= f).run answer s w =
      match x.run answer s w with
      | (.ok a, s, w) => (f a).run answer s w
      | (.error e, s, w) => (.error e, s, w) :=
  run_andThen answer x f s w

/-! ### States inside states -/

/-- A script on a state that is part of another, from the part with which it starts. -/
def embed {τ : Type} (into : σ → τ) : Script σ α → σ → Script τ α
  | .done a, _ => .done a
  | .fail f, _ => .fail f
  | .get next, s => (next s).embed into s
  | .put s next, _ => .put (into s) (next.embed into s)
  | .ask r next, s => .ask r fun x => (next x).embed into s

/-- An embedded script does what the script does, on the part. -/
theorem run_embed {ω τ : Type} (answer : (r : Request) → Act ω r.Reply) (into : σ → τ)
    (x : Script σ α) (s : σ) (w : ω) :
    (x.embed into s).run answer (into s) w =
      ((x.run answer s w).1, into (x.run answer s w).2.1, (x.run answer s w).2.2) := by
  induction x generalizing s w with
  | done a => rfl
  | fail e => rfl
  | get next ih => exact ih s s w
  | put t next ih => exact ih t w
  | ask r next ih =>
    simp only [embed, run]
    split
    · exact ih _ s _
    · rfl

/-! ### Chance -/

/-- A random element of a list. -/
def choose (xs : List α) : Script σ α := do
  let x ← draw
  match xs[Dice.index x xs.length]? with
  | some a => .done a
  | none => .fail .outOfRange

end Script

end LearningGame.Play
