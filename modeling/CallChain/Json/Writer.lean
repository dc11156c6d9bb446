/-
# Writing JSON

A value is written in one of three layouts: on one line, over several lines with
two blanks of indentation, and over several lines with characters outside ASCII
left as they are. The first two write ASCII only. Empty lists and objects stay on
one line in every layout.
-/

import CallChain.Number.Shortest
import CallChain.Text.Hex
import CallChain.Value.Basic

namespace CallChain.Json

/-- The escape of a code unit. -/
def unitEscape (unit : Nat) : List Char := '\\' :: 'u' :: Text.toHex 4 unit

/-- The escape of a character that has a short one, or must not stand alone. -/
def shortEscape? (c : Char) : Option (List Char) :=
  if c = '"' then some ['\\', '"']
  else if c = '\\' then some ['\\', '\\']
  else if c = '\n' then some ['\\', 'n']
  else if c = '\r' then some ['\\', 'r']
  else if c = '\t' then some ['\\', 't']
  else if c = '\x08' then some ['\\', 'b']
  else if c = '\x0c' then some ['\\', 'f']
  else none

/-- How a character is written in ASCII; beyond the first 65536 code points as
a pair of code units. -/
def asciiChar (c : Char) : List Char :=
  match shortEscape? c with
  | some escape => escape
  | none =>
    if 0x20 ≤ c.toNat && c.toNat < 0x7f then [c]
    else if c.toNat < 0x10000 then unitEscape c.toNat
    else
      let offset := c.toNat - 0x10000
      unitEscape (0xd800 + offset / 0x400) ++ unitEscape (0xdc00 + offset % 0x400)

/-- How a character is written where only control characters need an escape. -/
def rawChar (c : Char) : List Char :=
  match shortEscape? c with
  | some escape => escape
  | none => if c.toNat < 0x20 then unitEscape c.toNat else [c]

/-- The characters of a text between its quotes, in ASCII. -/
def textBody (s : String) : List Char := s.toList.flatMap asciiChar

/-- A text between quotes, each character written by `char`. -/
def textWith (char : Char → List Char) (s : String) : List Char :=
  '"' :: s.toList.flatMap char ++ ['"']

/-- The text of a value that is neither list nor object. -/
def scalar (char : Char → List Char) : Value → List Char
  | .null => "null".toList
  | .bool true => "true".toList
  | .bool false => "false".toList
  | .int n => (Text.intText n).toList
  | .float x => (jsonFormat.numberText x).toList
  | .text s => textWith char s
  | .list _ => ['[', ']']
  | .object _ => ['\x7b', '\x7d']

mutual
/-- A value on one line. -/
def compactChars : Value → List Char
  | .list items => '[' :: compactItems items ++ [']']
  | .object fields => '\x7b' :: compactFields fields ++ ['\x7d']
  | other => scalar asciiChar other

/-- The items of a list on one line. -/
def compactItems : List Value → List Char
  | [] => []
  | [item] => compactChars item
  | item :: items => compactChars item ++ ',' :: ' ' :: compactItems items

/-- The fields of an object on one line. -/
def compactFields : List (String × Value) → List Char
  | [] => []
  | [(name, item)] => textWith asciiChar name ++ ':' :: ' ' :: compactChars item
  | (name, item) :: fields =>
    textWith asciiChar name ++ ':' :: ' ' :: compactChars item ++ ',' :: ' ' :: compactFields fields
end

/-- The start of a line at a depth: a line feed and two blanks for each level. -/
def lineStart (depth : Nat) : List Char := '\n' :: List.replicate (2 * depth) ' '

mutual
/-- A value over several lines; its own lines after the first stand at `depth`. -/
def indentedChars (char : Char → List Char) (depth : Nat) : Value → List Char
  | .list (item :: items) =>
    '[' :: indentedItems char (depth + 1) (item :: items) ++ lineStart depth ++ [']']
  | .object (field :: fields) =>
    '\x7b' :: indentedFields char (depth + 1) (field :: fields) ++ lineStart depth ++ ['\x7d']
  | other => scalar char other

/-- The items of a list, each on lines of its own. -/
def indentedItems (char : Char → List Char) (depth : Nat) : List Value → List Char
  | [] => []
  | [item] => lineStart depth ++ indentedChars char depth item
  | item :: items =>
    lineStart depth ++ indentedChars char depth item ++ ',' :: indentedItems char depth items

/-- The fields of an object, each on lines of its own. -/
def indentedFields (char : Char → List Char) (depth : Nat) : List (String × Value) → List Char
  | [] => []
  | [(name, item)] =>
    lineStart depth ++ textWith char name ++ ':' :: ' ' :: indentedChars char depth item
  | (name, item) :: fields =>
    lineStart depth ++ textWith char name ++ ':' :: ' ' :: indentedChars char depth item ++
      ',' :: indentedFields char depth fields
end

/-- A value on one line, in ASCII. -/
def compact (v : Value) : String := String.ofList (compactChars v)

/-- A value over several lines, in ASCII. -/
def indented (v : Value) : String := String.ofList (indentedChars asciiChar 0 v)

/-- A value over several lines, with characters outside ASCII left as they are. -/
def indentedRaw (v : Value) : String := String.ofList (indentedChars rawChar 0 v)

end CallChain.Json
