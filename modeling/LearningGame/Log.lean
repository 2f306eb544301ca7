/-!
# Log

Notes that accompany a result: what was dropped, replaced or ignored on the way, and by which part
of the library. A computation that fails keeps the notes it has made.
-/

namespace LearningGame

namespace Log

/-- How serious a note is. -/
inductive Level where
  | debug
  | info
  | warning
  | error
  | critical
  deriving DecidableEq

/-- The weight of a level. -/
def Level.weight : Level → Nat
  | .debug => 10
  | .info => 20
  | .warning => 30
  | .error => 40
  | .critical => 50

/-- The name of a level. -/
def Level.name : Level → String
  | .debug => "DEBUG"
  | .info => "INFO"
  | .warning => "WARNING"
  | .error => "ERROR"
  | .critical => "CRITICAL"

/-- A note. -/
structure Record where
  level : Level
  /-- The part of the library that made the note. -/
  source : String
  message : String

end Log

/-- A result, or why there is none, with the notes made on the way. -/
structure Traced (ε α : Type) where
  notes : List Log.Record
  result : Except ε α

namespace Traced

variable {ε α β : Type}

/-- A result without notes. -/
def ok (a : α) : Traced ε α := ⟨[], .ok a⟩

/-- Break off. -/
def fail (e : ε) : Traced ε α := ⟨[], .error e⟩

/-- Go on with a result; the notes are joined. -/
def andThen (x : Traced ε α) (f : α → Traced ε β) : Traced ε β :=
  match x.result with
  | .ok a => ⟨x.notes ++ (f a).notes, (f a).result⟩
  | .error e => ⟨x.notes, .error e⟩

instance : Monad (Traced ε) where
  pure := ok
  bind := andThen

/-- Make a note. -/
def note (level : Log.Level) (source message : String) : Traced ε Unit :=
  ⟨[⟨level, source, message⟩], .ok ()⟩

/-- Take over a result without notes. -/
def lift : Except ε α → Traced ε α := fun r => ⟨[], r⟩

/-- Change the reason for which a computation is broken off. -/
def mapError {δ : Type} (f : ε → δ) (x : Traced ε α) : Traced δ α := ⟨x.notes, x.result.mapError f⟩

/-- Apply a computation to every element of a list, from the first to the last. -/
def traverse (f : α → Traced ε β) : List α → Traced ε (List β)
  | [] => ok []
  | a :: rest => andThen (f a) fun b => andThen (traverse f rest) fun bs => ok (b :: bs)

/-- Keep what a computation yields for the elements of a list. -/
def filterMap (f : α → Traced ε (Option β)) : List α → Traced ε (List β)
  | [] => ok []
  | a :: rest => andThen (f a) fun b => andThen (filterMap f rest) fun bs =>
    ok (match b with | some b => b :: bs | none => bs)

@[simp] theorem result_pure (a : α) : (pure a : Traced ε α).result = .ok a := rfl

@[simp] theorem result_bind (x : Traced ε α) (f : α → Traced ε β) :
    (x >>= f).result = x.result.bind fun a => (f a).result := by
  cases x with
  | mk notes result => cases result <;> rfl

@[simp] theorem result_note (level : Log.Level) (source message : String) :
    (note level source message : Traced ε Unit).result = .ok () := rfl

@[simp] theorem result_lift (r : Except ε α) : (lift r).result = r := rfl

end Traced

end LearningGame
