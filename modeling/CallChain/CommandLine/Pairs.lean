/-
# Pairs on the command line

An option may give a name with a value, with an equals sign between them. The name
is trimmed and the value is not; the last value of a name counts.
-/

import CallChain.Fields
import CallChain.Text.Blank

namespace CallChain.CommandLine

/-- An argument that is no pair. -/
structure PairProblem where
  /-- The argument. -/
  argument : String
  deriving DecidableEq

/-- The wording of a problem. -/
def PairProblem.message (p : PairProblem) : String :=
  "expected key=value, got '" ++ p.argument ++ "'"

/-- The pair that an argument writes. -/
def pair (argument : String) : Except PairProblem (String × String) :=
  match Text.cutAt '=' argument.toList with
  | (name, some value) =>
    if name.isEmpty then .error ⟨argument⟩
    else .ok (Text.trim (String.ofList name), String.ofList value)
  | (_, none) => .error ⟨argument⟩

/-- The pairs that arguments write. -/
def pairs (arguments : List String) : Except PairProblem (Fields String) :=
  (arguments.mapM pair).map Fields.ofEntries

end CallChain.CommandLine
