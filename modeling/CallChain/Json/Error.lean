/-
# Errors of JSON texts

What is wrong with a text that is no JSON, and where. Places are counted in
characters from the start of the text, and in lines and columns from one.
-/

import CallChain.Text.Digit

namespace CallChain.Json

/-- What a text that is no JSON does wrong. -/
inductive Problem where
  /-- A value should start here. -/
  | value
  /-- The name of a field should start here. -/
  | name
  /-- A colon should follow the name of a field. -/
  | colon
  /-- A comma or a closing bracket should follow an item. -/
  | comma
  /-- A text that starts here never ends. -/
  | unterminated
  /-- A control character stands inside a text. -/
  | control
  /-- A backslash is followed by no known escape. -/
  | escape
  /-- An escape of a code unit lacks its four digits. -/
  | codeUnit
  /-- Something follows the value. -/
  | extra
  /-- The text starts with a byte order mark. -/
  | byteOrderMark
  deriving DecidableEq, Repr

namespace Problem

/-- The wording of a problem. -/
def message : Problem → String
  | value => "Expecting value"
  | name => "Expecting property name enclosed in double quotes"
  | colon => "Expecting ':' delimiter"
  | comma => "Expecting ',' delimiter"
  | unterminated => "Unterminated string starting at"
  | control => "Invalid control character at"
  | escape => "Invalid \\escape"
  | codeUnit => "Invalid \\uXXXX escape"
  | extra => "Extra data"
  | byteOrderMark => "Unexpected UTF-8 BOM (decode using utf-8-sig)"

end Problem

/-- A problem of a JSON text and its place. -/
structure Error where
  /-- What is wrong. -/
  problem : Problem
  /-- How many lines start at or before the place. -/
  line : Nat
  /-- The place within its line, from one. -/
  column : Nat
  /-- How many characters stand before the place. -/
  offset : Nat
  deriving DecidableEq, Repr

namespace Error

/-- The error of a problem that arises where `left` characters of the text are
still unread. -/
def of (text : List Char) (problem : Problem) (left : Nat) : Error :=
  let read := text.take (text.length - left)
  ⟨problem, read.count '\n' + 1, (read.reverse.takeWhile (· != '\n')).length + 1, read.length⟩

/-- The wording of an error: the problem and its place. -/
def message (e : Error) : String :=
  e.problem.message ++ ": line " ++ Text.natText e.line ++ " column " ++ Text.natText e.column ++
    " (char " ++ Text.natText e.offset ++ ")"

end Error

end CallChain.Json
