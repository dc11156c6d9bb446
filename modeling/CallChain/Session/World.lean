/-
# The world of a session

The operations of a session read an `Environment` and change a `World`: the
session, what the client remembers, and which runs are in progress. A `Run` is an
operation that may end in a fault; what it has changed until then stays changed.
The combinators here say what a fault does on its way out: `between` undoes a
change whatever happens, `caught` turns step errors into values, `transported`
turns addresses that cannot be prepared into failures of the transport.
-/

import CallChain.Session.Operation

namespace CallChain

/-- What the operations of a session read and never change. -/
structure Environment (σ : Type) where
  /-- What answers calls. -/
  client : Client σ
  /-- How requests are sent. -/
  connection : Connection
  /-- How requests are built. -/
  builder : Builder
  /-- The endpoints that imports know. -/
  catalog : List Endpoint := []
  /-- The id that is given out under a number. -/
  stepId : Nat → String
  /-- The time, for reports and documents. -/
  now : String
  /-- The day, for documents without a name. -/
  today : String

/-- What the operations of a session change. -/
structure World (σ : Type) where
  /-- The session. -/
  session : Session
  /-- What the client remembers. -/
  peer : σ
  /-- The ids of the steps that are in progress. -/
  running : List String := []
  /-- Whether the sequence is in progress. -/
  sequenceRunning : Bool := false
  /-- Steps that were taken out of the sequence while they were in progress. Their
  runs still read them. -/
  withdrawn : List Step := []
  /-- How many ids have been given out. -/
  created : Nat := 0
  /-- What has been seen from outside, latest first. -/
  events : List Event := []

/-- An operation on the world that may end in a fault. What it has changed until
then stays changed. -/
abbrev Run (σ : Type) := EStateM Fault (World σ)

namespace World

variable {σ : Type}

/-- Whether some run is in progress. -/
def isBusy (w : World σ) : Bool := w.sequenceRunning || !w.running.isEmpty

/-- The world with one more event. -/
def record (w : World σ) (e : Event) : World σ := { w with events := e :: w.events }

/-- The world with another session. Steps that are in progress and no longer part
of the sequence are kept for their runs. -/
def withSession (w : World σ) (s : Session) : World σ :=
  let gone := w.session.steps.filter fun x => w.running.contains x.id && (s.find? x.id).isNone
  { w with session := s, withdrawn := w.withdrawn ++ gone }

/-- What the run of a step reads of it: the step as it is in the sequence, or as it
was when it was taken out. -/
def current (w : World σ) (x : Step) : Step :=
  ((w.session.find? x.id).or (w.withdrawn.find? (·.id = x.id))).getD x

end World

namespace StepName

/-- The id of the step that is named. A place without a step names an id that no
step has. -/
def resolve (name : StepName) (s : Session) : String :=
  match name with
  | named id => id
  | place n =>
    match (if n < 0 then none else s.steps[n.toNat]?) with
    | some x => x.id
    | none => "missing_" ++ Text.intText n

end StepName

namespace Run

variable {σ : Type} {α : Type}

/-- The run of a result that may be a fault. -/
def ofExcept : Except Fault α → Run σ α
  | .ok a => pure a
  | .error f => throw f

/-- A record, which has to be well formed. -/
def checked : Option α → Run σ α
  | some a => pure a
  | none => throw .malformedRecord

/-- A run between a change and its undoing, which is made however the run ends. -/
def between (enter leave : World σ → World σ) (run : Run σ α) : Run σ α := fun w =>
  match run (enter w) with
  | .ok a w' => .ok a (leave w')
  | .error f w' => .error f (leave w')

/-- A run in which step errors become values. -/
def caught (run : Run σ α) (onError : StepError → α) : Run σ α := fun w =>
  match run w with
  | .error (.step e) w' => .ok (onError e) w'
  | other => other

/-- A run in which an address that cannot be prepared counts as a failure of the
transport. -/
def transported (run : Run σ α) : Run σ α := fun w =>
  match run w with
  | .error (.badAddress p) w' =>
    .error (if p.showsInPreparation then .step (.transport p.message) else .badAddress p) w'
  | other => other

end Run

end CallChain
