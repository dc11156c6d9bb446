/-
# Running steps

A run sends the requests of steps through a client and stores what they receive.
Step errors are recorded in the step; every other fault ends the operation that
meets it. A step, and the sequence as a whole, can be in progress only once at a
time: whatever ends a run, it is no longer in progress afterwards.

While a request waits for its reply, other operations may be asked for; the
parameter `inner` carries them out.
-/

import CallChain.Session.Iterating
import CallChain.Session.World

namespace CallChain

namespace Session

/-- The session with the last run of a step forgotten. -/
def forget (s : Session) (id : String) : Session :=
  { s.modify id Step.reset with results := s.results.erase id }

/-- The session with the result of a step stored. -/
def store (s : Session) (id : String) (result : StepResult) : Session :=
  let settled := s.modify id (·.settle result)
  match result.payload? with
  | some payload => { settled with results := settled.results.set id payload }
  | none => settled

end Session

namespace Run

variable {σ : Type} (env : Environment σ) (inner : Operation → Run σ Answer)

/-- The operations that are asked for while a request waits. -/
def performMeantime : List Operation → Run σ Unit
  | [] => pure ()
  | op :: ops => do
    let answer ← inner op
    modify fun w => w.record (.nested answer w.isBusy)
    performMeantime ops

/-- The reply to a call. -/
def exchange (call : Call) : Run σ Reply := do
  modify fun w => w.record (.sent call)
  let w ← get
  let (x, peer) := env.client.answer w.peer call
  set { w with peer }
  performMeantime inner x.meantime
  return x.reply

/-- The response to a request. The body is encoded and the address is prepared first;
one that cannot be is a fault. -/
def send (request : Request) : Run σ Response := do
  match request.prepare env.builder.isHalf with
  | .error fault => throw fault
  | .ok _ =>
    let reply ← transported (exchange env inner (env.connection.call request))
    ofExcept (Response.ofReply reply)

/-- What a request receives. -/
def execute (request : Request) : Run σ Received := do
  let response ← send env inner request
  ofExcept (response.received.mapError .step)

/-- What the request of a step receives, with local names in scope. -/
def executeStepOnce (x : Step) (stepIds : List String) (scope : Fields Value) :
    Run σ Received := do
  let w ← get
  let request ← ofExcept (env.builder.build (w.current x) ⟨w.session.results, stepIds⟩ scope)
  execute env inner request

/-- The outcome of one item of an iterated step. -/
def iterateItem (x : Step) (stepIds : List String) (name : String) (index : Nat)
    (item : Value) : Run σ IterationOutcome := do
  let outcome ← caught
    (do
      let received ← executeStepOnce env inner x stepIds (Iteration.itemScope name index item)
      return CallOutcome.received received)
    (fun e => .failed e.toFailure)
  return match outcome with
    | .received _ => ⟨index, item, .succeeded, some outcome⟩
    | .failed _ => ⟨index, item, .failed, some outcome⟩

/-- The outcomes of items from a place on, one after another. -/
def iterateItems (x : Step) (stepIds : List String) (name : String) :
    Nat → List Value → Run σ (List IterationOutcome)
  | _, [] => return []
  | index, item :: items => do
    let outcome ← iterateItem env inner x stepIds name index item
    let others ← iterateItems x stepIds name (index + 1) items
    return outcome :: others

/-- The result of running a step once for each item of its source. It fails as a
whole only when its settings are wrong or its source is no list. -/
def iterate (x : Step) (stepIds : List String) (place : Nat) : Run σ StepResult := do
  let w ← get
  let name := x.iteration.variableName
  let source := do
    Iteration.checkVariable name stepIds
    x.iteration.items ⟨w.session.results, stepIds⟩ place
  match source with
  | .error (.step e) => return .failed e.toFailure
  | .error fault => throw fault
  | .ok items =>
    let outcomes ← iterateItems env inner x stepIds name 0 items
    return x.iteration.result outcomes

/-- The result of a step that is in progress. -/
def stepResult (x : Step) : Run σ StepResult := do
  let w ← get
  let place ← ofExcept (w.session.place x.id)
  let stepIds := w.session.stepIds
  caught
    (if x.iteration.enabled then iterate env inner x stepIds place
     else return .received (← executeStepOnce env inner x stepIds []))
    (fun e => .failed e.toFailure)

/-- The run of one step, which must not be in progress. -/
def runStep (id : String) : Run σ StepResult := do
  let w ← get
  if w.running.contains id then throw (.stepInProgress id)
  let x ← ofExcept (w.session.step id)
  between (fun w => { w with running := id :: w.running })
    (fun w => { w with
      running := w.running.filter (· ≠ id)
      withdrawn := w.withdrawn.filter (·.id ≠ id) })
    (do
      modify fun w => { w with session := w.session.forget id }
      let result ← stepResult env inner x
      modify fun w => { w with session := w.session.store id result }.record (.settled id result)
      return result)

/-- The runs of steps one after another, up to the first that fails, with a pause
between each two. -/
def runSteps : List String → Run σ (List StepResult)
  | [] => return []
  | id :: ids => do
    let result ← runStep env inner id
    if !result.isOk then return [result]
    if ids.isEmpty then return [result]
    modify (·.record .paused)
    let others ← runSteps ids
    return result :: others

/-- The run of the whole sequence, which must not be in progress. -/
def runAll : Run σ (List StepResult) := do
  let w ← get
  if w.sequenceRunning then throw .sequenceInProgress
  between (fun w => { w with sequenceRunning := true })
    (fun w => { w with sequenceRunning := false })
    (runSteps env inner w.session.stepIds)

/-- The next id. -/
def newId : Run σ String := do
  let w ← get
  set { w with created := w.created + 1 }
  return env.stepId w.created

/-- The result of a call of an endpoint outside the sequence. -/
def runEndpoint (endpoint : Endpoint) (parameters : Parameters) : Run σ StepResult := do
  let id ← newId env
  caught
    (do
      let w ← get
      let x : Step := { id, endpoint, inputs := Inputs.ofParameters parameters }
      let request ← ofExcept (env.builder.build x w.session.resolver [])
      return .received (← execute env inner request))
    (fun e => .failed e.toFailure)

/-- The result of asking the service who the caller is. -/
def testConnection : Run σ StepResult :=
  caught
    (do
      let url := Text.dropTrailing '/' env.connection.baseUrl ++ "/users/me"
      return .received (← execute env inner { method := "GET", url }))
    (fun e => .failed e.toFailure)

end Run

end CallChain
