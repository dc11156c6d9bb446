/-
# Reading typed records

Documents, settings and callers supply values of any shape. A record is read from
an object: each member has one or more names, of which the first that is present
counts, and a default for when none is; members of other names are passed over.
A reader gives nothing when the value does not have the shape it asks for.
-/

import CallChain.Number.Shortest
import CallChain.Number.Written
import CallChain.Value.Basic

universe u

namespace CallChain

namespace Value

/-- The text of a text, or of a number as it is displayed. -/
def asText? : Value → Option String
  | text s => some s
  | int n => some (Text.intText n)
  | float x => some (plainFormat.numberText x)
  | _ => none

/-- The words that stand for a truth value, in small letters. -/
def flagWord? (word : String) : Option Bool :=
  if ["0", "off", "f", "false", "n", "no"].contains word then some false
  else if ["1", "on", "t", "true", "y", "yes"].contains word then some true
  else none

/-- The truth value that a value stands for: itself, zero or one, or a word in
capital or small letters of the Latin alphabet. -/
def asFlag? : Value → Option Bool
  | bool b => some b
  | int n => if n = 0 then some false else if n = 1 then some true else none
  | float x => match x.toInt? with
    | some n => if n = 0 then some false else if n = 1 then some true else none
    | none => none
  | text s => flagWord? (s.map Char.toLower)
  | _ => none

/-- The integer that a value stands for. -/
def asInt? : Value → Option Int
  | int n => some n
  | bool b => some (if b then 1 else 0)
  | float x => x.toInt?
  | text s => Text.readInt? s
  | _ => none

/-- The number that a value stands for. A whole number has to have a finite
nearest number. -/
def asFloat? : Value → Option Binary64
  | float x => some x
  | int n => match Binary64.ofInt n with
    | .infinite _ => none
    | x => some x
  | bool b => some (Binary64.ofInt (if b then 1 else 0))
  | text s => Text.readFloat? s
  | _ => none

/-- The texts of a list of texts. -/
def texts? (v : Value) : Option (List String) := v.list?.bind (·.mapM text?)

/-- Null or what `read` reads. -/
def optional? {α : Type u} (read : Value → Option α) : Value → Option (Option α)
  | null => some none
  | v => (read v).map some

/-- The list of what `read` reads from each item of a list. -/
def listOf? {α : Type u} (read : Value → Option α) (v : Value) : Option (List α) :=
  v.list?.bind (·.mapM read)

/-- The fields of an object with what `read` reads from each value. -/
def fieldsOf? {α : Type u} (read : Value → Option α) (v : Value) : Option (Fields α) :=
  v.object?.bind (Fields.mapValues? read)

end Value

namespace Fields

/-- The value of the first of some names that is present. -/
def first? (fields : Fields Value) (names : List String) : Option Value :=
  names.findSome? (get? fields)

/-- A member of a record that has a default. -/
def member? {α : Type u} (fields : Fields Value) (names : List String) (default : α)
    (read : Value → Option α) : Option α :=
  match first? fields names with
  | some v => read v
  | none => some default

/-- A member of a record that has to be there. -/
def required? {α : Type u} (fields : Fields Value) (name : String) (read : Value → Option α) :
    Option α :=
  (get? fields name).bind read

end Fields

end CallChain
