/-
# Sessions

A session owns a sequence of steps, the results that its runs have left for later
steps, and the transformations of its records. The operations here edit it; none
of them sends a request.
-/

import CallChain.Fault
import CallChain.Report.Transformation
import CallChain.Request.Preset
import CallChain.Reference.Resolver
import CallChain.Step.Basic

namespace CallChain

/-- The steps of a sequence and what its runs have left. -/
structure Session where
  /-- What every address starts with. -/
  baseUrl : String
  /-- The token that requests carry; the empty text for none. -/
  token : String := ""
  /-- The steps, in order. -/
  steps : List Step := []
  /-- The bodies that steps have received, by step id. -/
  results : Fields Value := []
  /-- How the records of the final result become rows. -/
  transformations : Transformations := {}

/-- The base address of the service that the built-in catalog describes. -/
def defaultBaseUrl : String := "https://app.asana.com/api/1.0"

namespace Session

variable (s : Session)

/-- The ids of the steps, in order. -/
def stepIds : List String := Step.ids s.steps

/-- What references to the steps are resolved against. -/
def resolver : Resolver := ⟨s.results, s.stepIds⟩

/-- The step of an id. -/
def find? (id : String) : Option Step := s.steps.find? (·.id = id)

/-- The step of an id, which has to exist. -/
def step (id : String) : Except Fault Step :=
  match s.find? id with
  | some found => .ok found
  | none => .error (.noSuchStep id)

/-- The place of the step of an id, which has to exist. -/
def place (id : String) : Except Fault Nat :=
  match s.steps.findIdx? (·.id = id) with
  | some found => .ok found
  | none => .error (.noSuchStep id)

/-- The steps that have been run. -/
def executed : List Step := s.steps.filter Step.hasRun

/-- The session with the step of an id replaced by its image. -/
def modify (id : String) (f : Step → Step) : Session :=
  { s with steps := s.steps.map fun x => if x.id = id then f x else x }

/-- The session with one more step at its end. -/
def append (x : Step) : Session := { s with steps := s.steps ++ [x] }

/-- The session without a step and without its result. -/
def remove (id : String) : Except Fault Session := do
  let _ ← s.step id
  return { s with steps := s.steps.filter (·.id ≠ id), results := s.results.erase id }

/-- The session without steps, results and transformations. -/
def clear : Session := { s with steps := [], results := [], transformations := {} }

/-- The session with one input of a step replaced. A blank text takes a parameter
out of the query, any other is trimmed there; the name does not matter for the
body. -/
def update (id kind name : String) (value : Value) : Except Fault Session := do
  let _ ← s.step id
  match kind with
  | "path" => return s.modify id fun x =>
      { x with inputs := { x.inputs with path := x.inputs.path.set name value } }
  | "query" => return s.modify id fun x =>
      let query := match value with
        | .text text =>
          if Text.isBlankText text then x.inputs.query.erase name
          else x.inputs.query.set name (.text (Text.trim text))
        | other => x.inputs.query.set name other
      { x with inputs := { x.inputs with query } }
  | "body" => return s.modify id fun x => { x with inputs := { x.inputs with body := value } }
  | _ => throw (.unknownParameterKind kind)

/-- The session with the query parameters of a preset set for a step. -/
def applyPreset (id name : String) : Except Fault Session := do
  let _ ← s.step id
  match Preset.ofName? name with
  | none => throw (.unknownPreset name)
  | some preset => return s.modify id fun x =>
      let added := (preset.parameters x.endpoint.path).mapValues Value.text
      { x with inputs := { x.inputs with query := x.inputs.query.merge added } }

/-- The session with a parameter of a step bound to an expression; an empty
expression takes the binding away. -/
def bindParameter (id name expression : String) : Except Fault Session := do
  let _ ← s.step id
  return s.modify id fun x =>
    { x with mappings := if expression = "" then x.mappings.erase name
                         else x.mappings.set name expression }

/-- The records of the final result as rows. -/
def rows : List (Fields Value) := s.transformations.apply (Step.finalRecords s.steps)

end Session

end CallChain
