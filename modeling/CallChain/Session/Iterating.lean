/-
# Iterated steps

An iterated step is run once for each item of a list that an earlier step has
received. This module holds the parts of an iteration that send nothing: the name
of the item and the check that it names no step, the items of the source, the
local names of an item, and the result that the outcomes of the items make.
-/

import CallChain.Fault
import CallChain.Reference.Resolver
import CallChain.Step.Basic

namespace CallChain.Iteration

/-- The name of the item of an iteration: the one that was chosen, or the usual
one when that is blank. -/
def variableName (i : Iteration) : String :=
  if Text.isBlankText i.loopVariable then "item" else Text.trim i.loopVariable

/-- Whether a text is a name: letters of the Latin alphabet, digits and low lines,
with no digit first. -/
def isVariableName (name : String) : Bool :=
  match name.toList with
  | [] => false
  | c :: rest => (c.isAlpha || c = '_') && rest.all fun d => d.isAlphanum || d = '_'

/-- The name of the item of an iteration, which must not name a step. -/
def checkVariable (name : String) (stepIds : List String) : Except Fault Unit :=
  if !isVariableName name then .error (.step (.invalidLoopVariable name))
  else if Reference.isPlace name || stepIds.contains name then
    .error (.step (.capturingLoopVariable name))
  else .ok ()

/-- The expression of the source of an iteration, without the braces that may stand
around it. -/
def sourceExpression (i : Iteration) : String :=
  let chars := Text.trimChars i.source.toList
  if ['\x7b', '\x7b'].isPrefixOf chars && ['\x7d', '\x7d'].isSuffixOf chars then
    String.ofList (Text.trimChars ((chars.drop 2).take (chars.length - 4)))
  else String.ofList chars

/-- The items of the source of an iteration. It has to be a list, and of an earlier
step where it is one of the sequence. -/
def items (i : Iteration) (r : Resolver) (place : Nat) :
    Except Fault (List Value) :=
  let expression := i.sourceExpression
  if expression = "" then .error (.step .blankSource)
  else
    let reference := (Expression.split expression).reference
    match r.placeOf reference with
    | .error problem => .error (.badNumber problem)
    | .ok (some source) =>
      if place ≤ source then .error (.step (.laterSource reference))
      else listOf expression
    | .ok none => listOf expression
where
  /-- The list that an expression resolves to. -/
  listOf (expression : String) : Except Fault (List Value) :=
    match r.resolve [] expression with
    | .error e => .error e
    | .ok (.list items) => .ok items
    | .ok other => .error (.step (.sourceNotList expression other))

/-- The local names of an item: the item and its place. -/
def itemScope (name : String) (index : Nat) (item : Value) : Fields Value :=
  [(name, item), (name ++ "_index", .int index)]

/-- The status of the last success among outcomes. -/
def lastStatus (outcomes : List IterationOutcome) : Option Int :=
  (outcomes.filterMap fun o => match o.result with
    | some (.received r) => some r.httpStatus
    | _ => none).getLast?.join

/-- The result of an iterated step with the given outcomes. -/
def result (i : Iteration) (outcomes : List IterationOutcome) : StepResult :=
  let succeeded := outcomes.countP (·.state = .succeeded)
  let failed := outcomes.countP (·.state = .failed)
  let unified := unify i.unifyResults outcomes
  .iterated (lastStatus outcomes)
    ⟨outcomes.length, succeeded, failed, unified, outcomes⟩
    (.object [("data", .list unified), ("total_iterations", .int outcomes.length),
      ("succeeded", .int succeeded), ("failed", .int failed)])

end CallChain.Iteration
