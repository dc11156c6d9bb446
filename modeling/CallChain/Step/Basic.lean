/-
# Steps

A step is an endpoint with its parameters, the expressions that its parameters
are bound to, and the settings of its iteration, together with how its last run
ended. Steps of a sequence are told apart by their ids.
-/

import CallChain.Endpoint
import CallChain.Step.Outcome
import CallChain.Step.Parameters

namespace CallChain

/-- How a step is run once for each item of an earlier result. -/
structure Iteration where
  /-- Whether it is. -/
  enabled : Bool := false
  /-- The expression of the list. -/
  source : String := ""
  /-- The name of the item in the step's expressions. -/
  loopVariable : String := "item"
  /-- Whether lists among the data of the items are joined. -/
  unifyResults : Bool := true
  deriving DecidableEq

namespace Iteration

/-- The settings that an object describes. -/
def ofValue? (v : Value) : Option Iteration := do
  let fields ← v.object?
  let enabled ← Fields.member? fields ["enabled"] false Value.asFlag?
  let source ← Fields.member? fields ["sourceExpression", "source_expression"] "" Value.text?
  let loopVariable ← Fields.member? fields ["loopVariable", "loop_variable"] "item" Value.text?
  let unifyResults ← Fields.member? fields ["unifyResults", "unify_results"] true Value.asFlag?
  return { enabled, source, loopVariable, unifyResults }

end Iteration

/-- Whether a step has been run. -/
inductive RunState where
  | notRun | ran
  deriving DecidableEq, Repr

namespace RunState

/-- The name of a state. -/
def name : RunState → String
  | notRun => "not_run"
  | ran => "ran"

/-- The state of a name. -/
def ofName? (text : String) : Option RunState := [notRun, ran].find? (·.name = text)

end RunState

/-- A step of a sequence. -/
structure Step where
  /-- What tells it apart from all other steps. -/
  id : String
  /-- The endpoint that it calls. -/
  endpoint : Endpoint
  /-- The parameters as they were entered. -/
  inputs : Inputs := {}
  /-- The expressions that parameters are bound to, by parameter. -/
  mappings : Fields String := []
  /-- The settings of its iteration. -/
  iteration : Iteration := {}
  /-- Whether it has been run. -/
  state : RunState := .notRun
  /-- How its last run ended. -/
  result : Option StepResult := none
  /-- Whether its endpoint was not in the catalog when it was imported. -/
  isPlaceholder : Bool := false
  deriving DecidableEq

namespace Step

/-- Whether a step has been run. -/
def hasRun (s : Step) : Bool := s.state == .ran

/-- Whether the last run of a step failed. -/
def hasFailed (s : Step) : Bool := (s.result.map (!·.isOk)).getD false

/-- A step without its last run. -/
def reset (s : Step) : Step := { s with state := .notRun, result := none }

/-- A step whose run has ended. -/
def settle (s : Step) (result : StepResult) : Step :=
  { s with state := .ran, result := some result }

/-- The records of the last run of a step. -/
def records (s : Step) : List Value := (s.result.map StepResult.records).getD []

/-- The body of the last run that later steps may refer to. -/
def payload? (s : Step) : Option Value := s.result.bind StepResult.payload?

/-- The ids of steps, in order. -/
def ids (steps : List Step) : List String := steps.map Step.id

end Step

end CallChain
