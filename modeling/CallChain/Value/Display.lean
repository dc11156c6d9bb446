/-
# Values as text

A value becomes text in two ways. `display` is the text of a value as such: a
text is its own text, numbers and truth values have their plain forms, and lists
and objects are written with their contents in the quoted form. `stringify` is
the text of a resolved value inside an address or a template: it differs in that
null is empty and truth values are written small.
-/

import CallChain.Number.Shortest
import CallChain.Text.Quoted
import CallChain.Value.Basic

namespace CallChain.Value

mutual
/-- The text of a value inside a list or an object: texts stand between quotes. -/
def inner : Value → String
  | null => "None"
  | bool true => "True"
  | bool false => "False"
  | int n => Text.intText n
  | float x => plainFormat.numberText x
  | text s => Text.quoted s
  | list items => "[" ++ innerItems items ++ "]"
  | object fields => "\x7b" ++ innerFields fields ++ "\x7d"

/-- The texts of the items of a list, separated by commas. -/
def innerItems : List Value → String
  | [] => ""
  | [item] => inner item
  | item :: items => inner item ++ ", " ++ innerItems items

/-- The texts of the fields of an object, separated by commas. -/
def innerFields : List (String × Value) → String
  | [] => ""
  | [(name, item)] => Text.quoted name ++ ": " ++ inner item
  | (name, item) :: fields => Text.quoted name ++ ": " ++ inner item ++ ", " ++ innerFields fields
end

/-- The text of a value; a text is its own text. Of a whole number all digits are
written: a value that was read has none beyond the limit (`Json.writable_of_read`). -/
def display : Value → String
  | text s => s
  | other => inner other

/-- The text of a resolved value inside an address or a template. As for `display`, its
whole numbers have no more digits than are read. -/
def stringify : Value → String
  | null => ""
  | bool true => "true"
  | bool false => "false"
  | other => display other

@[simp] theorem stringify_text (s : String) : stringify (text s) = s := rfl

end CallChain.Value
