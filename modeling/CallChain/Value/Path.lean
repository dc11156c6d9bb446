/-
# Paths into values

A path is a text of segments separated by dots. A segment is a field name, any
number of bracketed indexes, or a name followed by indexes; each of these is a
move, and a path is followed by making its moves one after another. A move that
cannot be made, and a segment that is not well formed, lead to null, where every
further move stays. An index of too many digits is read only where it is needed: at
a list it is a problem, and anywhere else it leads to null.
-/

import CallChain.Number.Limit
import CallChain.Value.Basic

namespace CallChain

/-- One move from a value to a value inside it. -/
inductive Move where
  /-- To the field of an object. -/
  | name (field : String)
  /-- To the item of a list. -/
  | index (position : Nat)
  /-- To the item of a list, whose index has too many digits. -/
  | longIndex (digits : Nat)
  deriving DecidableEq

namespace Move

/-- The move that the digits of an index write. -/
def ofDigits (digits : List Char) : Move :=
  match Text.readNumber digits with
  | .ok position => index position
  | .error _ => longIndex digits.length

/-- Where a move leads; null when it cannot be made. -/
def follow (v : Value) : Move → Except NumberProblem Value
  | name field => .ok ((v.field? field).getD .null)
  | index position => match v with
    | .list items => .ok (items.getD position .null)
    | _ => .ok .null
  | longIndex digits => match v with
    | .list _ => .error (.longText digits)
    | _ => .ok .null

/-- The indexes that bracketed digits write. `digits` holds the digits of the
bracket that is open. A segment may end in one line feed. -/
def indexes? (digits : Option (List Char)) : List Char → Option (List Move)
  | [] => if digits.isNone then some [] else none
  | c :: rest => match digits with
    | none =>
      if c = '[' then indexes? (some []) rest
      else if c = '\n' && rest.isEmpty then some []
      else none
    | some read =>
      if c = ']' then
        if read.isEmpty then none else (indexes? none rest).map (ofDigits read :: ·)
      else if Text.isDigit c then indexes? (some (read ++ [c])) rest
      else none

/-- Whether a character is neither bracket. -/
def isNameChar (c : Char) : Bool := c != '[' && c != ']'

/-- The moves of one segment of a path; nothing if it is not well formed. -/
def ofSegment? (segment : List Char) : Option (List Move) := do
  let field := segment.takeWhile isNameChar
  let moves ← indexes? none (segment.dropWhile isNameChar)
  return if field.isEmpty then moves else name (String.ofList field) :: moves

end Move

namespace Value

/-- Where a list of moves leads. -/
def follow (v : Value) (moves : List Move) : Except NumberProblem Value :=
  moves.foldlM Move.follow v

/-- Where one segment of a path leads. -/
def followSegment (v : Value) (segment : List Char) : Except NumberProblem Value :=
  match Move.ofSegment? segment with
  | some moves => v.follow moves
  | none => .ok .null

/-- Where a path leads. -/
def walk (v : Value) (path : String) : Except NumberProblem Value :=
  (Text.splitAt '.' path.toList).foldlM followSegment v

@[simp] theorem follow_null (moves : List Move) : follow .null moves = .ok .null := by
  induction moves with
  | nil => rfl
  | cons move moves ih =>
    have h : Move.follow .null move = .ok .null := by cases move <;> rfl
    simp only [follow, List.foldlM_cons, h] at ih ⊢
    exact ih

/-- The empty path leads to the value itself. -/
@[simp] theorem walk_empty (v : Value) : v.walk "" = .ok v := rfl

end Value

end CallChain
