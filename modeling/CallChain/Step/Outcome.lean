/-
# Outcomes of requests and steps

A request ends in a received body or in a failure. A step ends in one of these
too, or, when it was run once for each item of a list, in the summary of its
iterations, which counts as received.
-/

import CallChain.Value.Basic

namespace CallChain

/-- What a successful request received. -/
structure Received where
  /-- The status of the reply. -/
  httpStatus : Option Int
  /-- The data of the body: what its envelope holds, or the body itself. -/
  data : Value
  /-- The whole body, which later steps may refer to. -/
  payload : Value
  deriving DecidableEq

/-- Why a request or a step failed. -/
structure Failure where
  /-- The status of the reply, when there was one. -/
  httpStatus : Option Int
  /-- The wording of the cause. -/
  message : String
  /-- The kind of the cause. -/
  kind : String
  deriving DecidableEq

/-- The outcome of one request. -/
inductive CallOutcome where
  /-- A body was received. -/
  | received (r : Received)
  /-- The request failed, or was not sent. -/
  | failed (f : Failure)
  deriving DecidableEq

/-- How far an iteration has come. -/
inductive IterationState where
  | pending | executing | succeeded | failed
  deriving DecidableEq, Repr

namespace IterationState

/-- All states. -/
def all : List IterationState := [pending, executing, succeeded, failed]

/-- The name of a state. -/
def name : IterationState → String
  | pending => "pending"
  | executing => "executing"
  | succeeded => "succeeded"
  | failed => "failed"

/-- The state of a name. -/
def ofName? (text : String) : Option IterationState := all.find? (·.name = text)

end IterationState

/-- The outcome of one item of an iterated step. -/
structure IterationOutcome where
  /-- The place of the item, from zero. -/
  index : Nat
  /-- The item. -/
  item : Value
  /-- How far its request has come. -/
  state : IterationState
  /-- How its request ended. -/
  result : Option CallOutcome
  deriving DecidableEq

namespace IterationOutcome

/-- The data that a succeeded item contributes. -/
def data? (o : IterationOutcome) : Option Value :=
  match o.state, o.result with
  | .succeeded, some (.received r) => some r.data
  | _, _ => none

end IterationOutcome

/-- The summary of an iterated step. -/
structure IterationSummary where
  /-- How many items there were. -/
  total : Int
  /-- How many requests succeeded. -/
  succeeded : Int
  /-- How many items failed. -/
  failed : Int
  /-- The data of the succeeded items as one list. -/
  unified : List Value
  /-- The outcome of each item. -/
  iterations : List IterationOutcome
  deriving DecidableEq

/-- What data contributes to one list: with `flatten` the items of a list, nothing
for null, and itself otherwise; without, always itself. -/
def contribution (flatten : Bool) (data : Value) : List Value :=
  if flatten then
    match data with
    | .list items => items
    | .null => []
    | other => [other]
  else [data]

/-- The data of the succeeded items as one list, in order. -/
def unify (flatten : Bool) (iterations : List IterationOutcome) : List Value :=
  (iterations.filterMap IterationOutcome.data?).flatMap (contribution flatten)

/-- How a step ended. -/
inductive StepResult where
  /-- Its request received a body. -/
  | received (r : Received)
  /-- It was run once for each item of a list; the status is that of the last
  success, and later steps refer to the payload. -/
  | iterated (httpStatus : Option Int) (summary : IterationSummary) (payload : Value)
  /-- It failed. -/
  | failed (f : Failure)
  deriving DecidableEq

namespace StepResult

/-- The result of a step that sends one request. -/
def ofCall : CallOutcome → StepResult
  | .received r => received r
  | .failed f => failed f

/-- Whether a step succeeded. -/
def isOk : StepResult → Bool
  | failed _ => false
  | _ => true

/-- The body that later steps may refer to, of a step that succeeded. -/
def payload? : StepResult → Option Value
  | received r => some r.payload
  | iterated _ _ payload => some payload
  | failed _ => none

/-- The records that a step's data holds: the unified items of an iterated step,
the items of a list, nothing for null, and one record otherwise. -/
def records : StepResult → List Value
  | received r => contribution true r.data
  | iterated _ summary _ => summary.unified
  | failed _ => []

@[simp] theorem isOk_iff_payload? (r : StepResult) : r.isOk = r.payload?.isSome := by
  cases r <;> rfl

end StepResult

end CallChain
