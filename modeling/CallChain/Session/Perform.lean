/-
# Carrying operations out

`perform` carries one operation out, and hands the operations that are asked for
while its requests wait to `inner`. `performAt` ties the knot: it carries
operations within operations out, to a given depth.
-/

import CallChain.Session.Run

namespace CallChain

namespace Run

variable {σ : Type} (env : Environment σ) (inner : Operation → Run σ Answer)

/-- The id of the step that an operation names. -/
def stepNamed (name : StepName) : Run σ String := do
  let w ← get
  return name.resolve w.session

/-- The session after an edit. -/
def edit (f : Session → Except Fault Session) : Run σ Session := do
  let w ← get
  let s ← ofExcept (f w.session)
  set (w.withSession s)
  return s

/-- A step of the session after an edit of it. -/
def editStep (name : StepName) (f : Session → String → Except Fault Session) : Run σ Step := do
  let id ← stepNamed name
  let s ← edit fun s => f s id
  ofExcept (s.step id)

/-- The answer to an import. -/
def importValue (document : Value) : Run σ Answer := do
  let w ← get
  match w.session.importDocument env.catalog env.stepId w.created document with
  | .error problem => throw (.badSequence problem)
  | .ok (report, session, created) =>
    set { w.withSession session with created }
    let report ← ofExcept (report.mapError .badNumber)
    return .imported report session.steps session.transformations

/-- The document of the session. -/
def exportDocument (name : Option String) : Run σ SequenceDocument := do
  let w ← get
  checked (w.session.document? env.now env.today name)

/-- The text of the document of the session. -/
def exportText (name : Option String) : Run σ String := do
  let document ← exportDocument env name
  ofExcept (document.dump env.builder.isHalf)

/-- The answer to an import of the text of a sequence file. -/
def importText (text : String) : Run σ Answer := do
  importValue env (← ofExcept (readSequence text))

/-- The optional parameters of an operation, which have to be well formed. -/
def optionalRecord {α : Type} (default : α) (read : Value → Option α) : Option Value → Run σ α
  | none => pure default
  | some v => checked (read v)

/-- Carries an operation out. -/
def perform : Operation → Run σ Answer
  | .add endpoint parameters mappings iteration => do
    let endpoint ← checked (Endpoint.ofValue? endpoint)
    let parameters ← optionalRecord {} Parameters.ofValue? parameters
    let iteration ← optionalRecord {} Iteration.ofValue? iteration
    let id ← newId env
    let mappings ← checked (Value.fieldsOf? Value.text? mappings)
    let x : Step := { id, endpoint, inputs := Inputs.ofParameters parameters, mappings, iteration }
    let _ ← edit fun s => .ok (s.append x)
    return .id id
  | .find name => do
    let id ← stepNamed name
    return .step (← ofExcept ((← get).session.step id))
  | .place name => do
    let id ← stepNamed name
    return .place (← ofExcept ((← get).session.place id))
  | .remove name => do
    let id ← stepNamed name
    let _ ← edit fun s => s.remove id
    return .done
  | .clear => do
    let _ ← edit fun s => .ok s.clear
    return .done
  | .update name kind parameter value => do
    let x ← editStep name fun s id => s.update id kind parameter value
    return .inputs x.inputs
  | .preset name preset => do
    let x ← editStep name fun s id => s.applyPreset id preset
    return .query x.inputs.query
  | .bindTo name parameter expression => do
    let x ← editStep name fun s id => s.bindParameter id parameter expression
    return .mappings x.mappings
  | .executed => return .ids (Step.ids (← get).session.executed)
  | .resolve expression => do
    let w ← get
    return .value (← ofExcept (w.session.resolver.resolve [] expression))
  | .runStep name => do
    let id ← stepNamed name
    return .result (← runStep env inner id)
  | .runAll => return .results (← runAll env inner)
  | .runEndpoint endpoint parameters => do
    let endpoint ← checked (Endpoint.ofValue? endpoint)
    let parameters ← optionalRecord {} Parameters.ofValue? parameters
    return .result (← runEndpoint env inner endpoint parameters)
  | .testConnection => return .result (← testConnection env inner)
  | .setTransformations value => do
    let transformations ← checked (Transformations.ofValue? value)
    let _ ← edit fun s => .ok { s with transformations }
    return .transformations transformations
  | .transform => return .rows (← get).session.rows
  | .grid => return .rows (Step.grid (← get).session.steps)
  | .suggest before => return .suggestions (Suggestion.before (← get).session.steps before)
  | .report => return .text (Report.ofSteps env.now (← get).session.steps)
  | .exportText name => return .text (← exportText env name)
  | .importValue document => importValue env document
  | .importSample => importValue env (SequenceDocument.sample env.now)
  | .load (.error problem) => throw (.ofUnreadable problem)
  | .load (.ok text) => importText env text
  | .roundTrip name => do
    let text ← exportText env name
    importText env text

/-- Carries an operation out, with operations inside its exchanges to a depth. -/
def performAt {σ : Type} (env : Environment σ) : Nat → Operation → Run σ Answer
  | 0, _ => throw .nestedTooDeep
  | depth + 1, op => perform env (performAt env depth) op

/-- How deep operations may be asked for inside each other, for a first one that is asked
for from nowhere deep: each takes about twelve of a thousand calls that may be open.
Whoever carries operations out at another depth uses `performAt`. -/
def nestingLimit : Nat := 80

/-- Carries an operation out. -/
def performOperation {σ : Type} (env : Environment σ) (op : Operation) : Run σ Answer :=
  performAt env nestingLimit op

end Run

end CallChain
