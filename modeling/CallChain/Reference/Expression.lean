/-
# References and expressions

An expression names a step and, after the name, a path into the body that the
step received. The name is either the id of a step or its place in the sequence,
written `step0`, `step1` and so on; `split` takes the two parts of an expression
apart and `place` reads a place.
-/

import CallChain.Number.Limit
import CallChain.Text.Blank

namespace CallChain

/-- A reference and the path that follows it. -/
structure Expression where
  /-- The id or the place of a step, or a local name. -/
  reference : String
  /-- The path into what the reference names. -/
  path : String
  deriving DecidableEq

namespace Expression

/-- The parts of an expression: the reference ends at the first dot or opening
bracket, and a path that starts with a bracket keeps it. -/
def split (expression : String) : Expression :=
  let (front, path) := Text.cutAt '.' (Text.trimChars expression.toList)
  match Text.cutAt '[' front with
  | (_, none) => ⟨String.ofList front, String.ofList (path.getD [])⟩
  | (reference, some indexes) =>
    let after := match path.getD [] with
      | [] => []
      | rest => '.' :: rest
    ⟨String.ofList reference, String.ofList ('[' :: indexes ++ after)⟩

end Expression

namespace Reference

/-- The word before the number of a place. -/
def placeWord : List Char := ['s', 't', 'e', 'p']

/-- The digits of the place that a reference writes: those after the word, up to the
end or one line feed before the end. -/
def placeDigits? (reference : String) : Option (List Char) :=
  let chars := reference.toList
  if placeWord.isPrefixOf chars then
    let number := chars.drop 4
    let digits := if number.getLast? = some '\n' then number.dropLast else number
    if digits.isEmpty || !digits.all Text.isDigit then none else some digits
  else none

/-- Whether a reference writes a place. -/
def isPlace (reference : String) : Bool := (placeDigits? reference).isSome

/-- The place that a reference writes, if it writes one. A place of too many digits
is a problem. -/
def place (reference : String) : Except NumberProblem (Option Nat) :=
  match placeDigits? reference with
  | none => .ok none
  | some digits => (Text.readNumber digits).map some

/-- The reference that writes a place. -/
def ofPlace (place : Nat) : String := "step" ++ Text.natText place

end Reference

end CallChain
