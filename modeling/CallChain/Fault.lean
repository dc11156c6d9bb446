/-
# What goes wrong

Two kinds of things go wrong in a session. A `StepError` is the cause of a step's
failure: a run records it in the step and goes on. A `Fault` ends the operation
that meets it; some faults carry a step error that has not been recorded anywhere.
Each cause has one wording, given by `message`.
-/

import CallChain.Address.Prepared
import CallChain.Files.Basic
import CallChain.Json.Error
import CallChain.Number.Limit
import CallChain.Step.Outcome

namespace CallChain

/-- Why a step fails. -/
inductive StepError where
  /-- A parameter of the path has no text. -/
  | missingParameter (name : String)
  /-- The body is no JSON. -/
  | invalidBody (error : Json.Error)
  /-- A reference names no stored result. -/
  | unknownReference (reference : String)
  /-- The source of an iteration is the step itself or a later one. -/
  | laterSource (reference : String)
  /-- The source of an iteration is no list. -/
  | sourceNotList (expression : String) (found : Value)
  /-- The expression of the source of an iteration is blank. -/
  | blankSource
  /-- The name of the item of an iteration is no name. -/
  | invalidLoopVariable (name : String)
  /-- The name of the item of an iteration names a step. -/
  | capturingLoopVariable (name : String)
  /-- No reply came. -/
  | transport (detail : String)
  /-- A successful reply is no JSON. -/
  | undecodable (error : Json.Error)
  /-- A number in a successful reply is not read. -/
  | unreadableNumber (problem : NumberProblem)
  /-- The service refused the request. -/
  | refused (status : Int) (message : String)
  deriving DecidableEq

namespace StepError

/-- What kind of value was found in place of a list. -/
def valueKind : Value → String
  | .null => "null"
  | .bool _ => "a bool"
  | .int _ => "a int"
  | .float _ => "a float"
  | .text _ => "a str"
  | .list _ => "a list"
  | .object _ => "an object"

/-- The kind of a step error. -/
def kind : StepError → String
  | missingParameter _ => "MissingRequiredParameter"
  | invalidBody _ => "InvalidBodyJSON"
  | unknownReference _ | laterSource _ => "UnknownStepReference"
  | sourceNotList _ _ => "IterationSourceNotArray"
  | blankSource | invalidLoopVariable _ | capturingLoopVariable _ => "InvalidIterationConfig"
  | transport _ | undecodable _ | unreadableNumber _ => "NetworkFailure"
  | refused _ _ => "ApiError"

/-- The status of the reply that a step error comes from. -/
def status? : StepError → Option Int
  | refused status _ => some status
  | _ => none

/-- The wording of a step error. -/
def message : StepError → String
  | missingParameter name => "Missing required path parameter: " ++ name
  | invalidBody error => "Invalid JSON in request body: " ++ error.message
  | unknownReference reference =>
    "Unknown step reference '" ++ reference ++ "': no result is stored for this step"
  | laterSource reference =>
    "Unknown step reference '" ++ reference ++ "': iteration source must be an earlier step"
  | sourceNotList expression found =>
    "Iteration source '" ++ expression ++ "' resolved to " ++ valueKind found ++
      ", expected an array"
  | blankSource => "Iteration source expression is empty"
  | invalidLoopVariable name => "Loop variable '" ++ name ++ "' is not a valid name"
  | capturingLoopVariable name =>
    "Loop variable '" ++ name ++ "' collides with a step reference"
  | transport detail => "Network Error: " ++ detail
  | undecodable error => "Network Error: Invalid JSON response: " ++ error.message
  | unreadableNumber problem => "Network Error: Invalid JSON response: " ++ problem.message
  | refused status message => Text.intText status ++ ": " ++ message

/-- The failure that records a step error. -/
def toFailure (e : StepError) : Failure := ⟨e.status?, e.message, e.kind⟩

end StepError

/-- Why a sequence file cannot be imported at all. -/
inductive SequenceProblem where
  /-- It has no list of entries. -/
  | noEntries
  /-- It is no JSON. -/
  | notJson (error : Json.Error)
  /-- It cannot be read. -/
  | unreadable (reason : String)
  deriving DecidableEq

namespace SequenceProblem

/-- The wording of a problem. -/
def message : SequenceProblem → String
  | noEntries => "Invalid sequence format: missing or invalid sequence array"
  | notJson error => "Invalid JSON file format: " ++ error.message
  | unreadable reason => "Invalid JSON file format: " ++ reason

end SequenceProblem

/-- What ends an operation of a session. -/
inductive Fault where
  /-- A step error outside any run that would record it. -/
  | step (error : StepError)
  /-- The step is in progress. -/
  | stepInProgress (id : String)
  /-- The sequence is in progress. -/
  | sequenceInProgress
  /-- No step has the id. -/
  | noSuchStep (id : String)
  /-- The address of a request cannot be prepared. -/
  | badAddress (problem : AddressProblem)
  /-- A number is not read or not written. -/
  | badNumber (problem : NumberProblem)
  /-- A file cannot be used at all. -/
  | badFile (problem : FileProblem)
  /-- A sequence file cannot be imported at all. -/
  | badSequence (problem : SequenceProblem)
  /-- There are no parameters of this kind. -/
  | unknownParameterKind (kind : String)
  /-- There is no preset of this name. -/
  | unknownPreset (name : String)
  /-- A record does not have the shape that it should. -/
  | malformedRecord
  /-- The body that was entered for a step is neither null nor a text. -/
  | bodyNotText
  /-- A text that is sent or saved cannot be written in UTF-8. -/
  | notEncoded
  /-- A text of a document cannot be written in UTF-8. -/
  | notDumped
  /-- Operations are started inside each other without end, or the lists and objects
  of a text are nested too deeply. -/
  | nestedTooDeep
  deriving DecidableEq

namespace Fault

/-- The fault of a sequence file that cannot be read. -/
def ofUnreadable (problem : FileProblem) : Fault :=
  if problem.isReported then badSequence (.unreadable problem.message) else badFile problem

/-- The fault of a text that is not read as a value. -/
def ofRefusal {ε : Type} (ofMalformed : ε → Fault) : Refusal ε → Fault
  | .malformed error => ofMalformed error
  | .number problem => badNumber problem
  | .tooDeep => nestedTooDeep

/-- The wording of a fault. -/
def message : Fault → String
  | step error => error.message
  | stepInProgress id => "Step " ++ id ++ " is already running"
  | sequenceInProgress => "The sequence is already running"
  | noSuchStep id => id
  | badAddress problem => problem.message
  | badNumber problem => problem.message
  | badFile problem => problem.message
  | badSequence problem => problem.message
  | unknownParameterKind kind => "Unknown parameter kind: " ++ kind
  | unknownPreset name =>
    "Unknown preset '" ++ name ++ "', expected one of: minimal, detailed, full"
  | malformedRecord => "The record is malformed"
  | bodyNotText => "The body is not a text"
  | notEncoded => "The text cannot be encoded"
  | notDumped => "The document cannot be written"
  | nestedTooDeep => "The nesting is too deep"

end Fault

end CallChain
