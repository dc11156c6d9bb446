/-
# Resolving expressions

An expression is resolved against local names, the scope, and against the results
that earlier steps have left. A reference that the scope does not know names a
step: by its id, or by its place in the sequence. The value is where the path
leads in what the reference names; only a reference without a stored result is an
error.
-/

import CallChain.Fault
import CallChain.Reference.Expression
import CallChain.Reference.Template
import CallChain.Value.Display
import CallChain.Value.Path

namespace CallChain

/-- What references to steps are resolved against. -/
structure Resolver where
  /-- The bodies that steps have received, by step id. -/
  results : Fields Value
  /-- The ids of the steps of the sequence, in order. -/
  stepIds : List String

namespace Resolver

variable (r : Resolver)

/-- The id of the step that a reference names, if it names one. -/
def idOf (reference : String) : Except NumberProblem (Option String) :=
  if r.results.has reference || r.stepIds.contains reference then .ok (some reference)
  else (Reference.place reference).map fun place => place.bind fun n => r.stepIds[n]?

/-- The place of the step that a reference names, if it names one. -/
def placeOf (reference : String) : Except NumberProblem (Option Nat) :=
  (r.idOf reference).map fun id => id.bind fun id => r.stepIds.idxOf? id

/-- What a reference names, if anything: a local value, or the stored result of a
step. -/
def lookup (scope : Fields Value) (reference : String) : Except NumberProblem (Option Value) :=
  match scope.get? reference with
  | some v => .ok (some v)
  | none => (r.idOf reference).map fun id => id.bind r.results.get?

/-- The value of an expression. -/
def resolve (scope : Fields Value) (expression : String) : Except Fault Value :=
  let parts := Expression.split expression
  match r.lookup scope parts.reference with
  | .ok (some v) => (v.walk parts.path).mapError .badNumber
  | .ok none => .error (.step (.unknownReference parts.reference))
  | .error problem => .error (.badNumber problem)

/-- The text of a piece: the text form of the value of a hole. -/
def renderPiece (scope : Fields Value) : Piece → Except Fault (List Char)
  | .literal text => .ok text
  | .hole inner =>
    (r.resolve scope (String.ofList inner)).map fun v => v.stringify.toList

/-- The text that pieces make when each hole is filled with its value; of several
holes without a value the first is reported. -/
def renderPieces (scope : Fields Value) : List Piece → Except Fault (List Char)
  | [] => .ok []
  | piece :: pieces =>
    match r.renderPiece scope piece with
    | .error e => .error e
    | .ok text => (renderPieces scope pieces).map (text ++ ·)

/-- The value of a text that may hold placeholders. A text that is one placeholder
has the value of its expression; any other has a text, each placeholder replaced by
the text form of its value. -/
def interpolate (scope : Fields Value) (text : String) : Except Fault Value :=
  match Template.whole? text with
  | some expression => r.resolve scope expression
  | none => (r.renderPieces scope (Template.pieces text.toList)).map fun chars =>
      .text (String.ofList chars)

end Resolver

/-- Whether a value is a text that holds a placeholder. -/
def Value.hasHole : Value → Bool
  | .text s => Template.hasHole s
  | _ => false

end CallChain
