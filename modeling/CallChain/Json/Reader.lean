/-
# Reading JSON

`Json.read` reads one value from a text, or says what is wrong and where. Beside
the values of the standard it reads `NaN`, `Infinity` and `-Infinity`; of fields
with equal names the last value counts, at the place of the first. Control
characters may not stand inside a text. A number is taken as far as it goes, so
that what follows it is a problem of its own. Whole numbers have a limit of their
digits, and lists and objects one of their nesting.

Each reader takes the characters that are left and returns what it read with
those still left. A problem is reported with the number of characters that were
left where it arose. The first argument of the readers of values bounds their
calls; every second call takes a character, so twice the length of the text is
enough. The second one says how many more lists and objects may be opened inside
each other.
-/

import CallChain.Json.Error
import CallChain.Number.Limit
import CallChain.Text.Half
import CallChain.Text.Hex
import CallChain.Value.Basic

namespace CallChain.Json

/-- How many lists and objects may be open at a place, for a reader that is called from
nowhere deep: of a thousand calls that may be open, its callers have fifteen. -/
def nestingLimit : Nat := 985

/-- Why a reader stops: a problem goes with the number of characters left at its
place. -/
abbrev Trouble := Refusal (Problem × Nat)

/-- A reader's answer: what was read and the characters left after it, or why it
stops. -/
abbrev Reading (α : Type) := Except Trouble (α × List Char)

/-- Whether a character may stand between the parts of a JSON text. -/
def isSpace (c : Char) : Bool := c = ' ' || c = '\t' || c = '\n' || c = '\r'

/-- The characters from the first one that is not a space. -/
def skipSpace (text : List Char) : List Char := text.dropWhile isSpace

/-- The code unit that the next four digits write. At least one character has to
follow them. -/
def codeUnit? : List Char → Option Nat
  | a :: b :: c :: d :: _ :: _ => Text.ofHex? [a, b, c, d]
  | _ => none

/-- Whether a code unit is the first half of a pair. -/
def isHighHalf (unit : Nat) : Bool := 0xd800 ≤ unit && unit < 0xdc00

/-- Whether a code unit is the second half of a pair. -/
def isLowHalf (unit : Nat) : Bool := 0xdc00 ≤ unit && unit < 0xe000

/-- The character of a code unit that stands alone; half a pair has none of its
own, and another character stands in for it. -/
def unitChar (unit : Nat) : Char :=
  if isHighHalf unit || isLowHalf unit then Text.ofHalf unit else Char.ofNat unit

/-- What stands in for half a pair is taken for one, and no other character of a code
unit is. -/
theorem isHalf_unitChar {unit : Nat} (h : unit < 0x10000) :
    Text.isHalf (unitChar unit) = (isHighHalf unit || isLowHalf unit) := by
  rw [unitChar]
  cases hhalf : isHighHalf unit || isLowHalf unit with
  | true =>
      simp only [isHighHalf, isLowHalf, Bool.or_eq_true, Bool.and_eq_true,
        decide_eq_true_eq] at hhalf
      exact Text.isHalf_ofHalf (by omega) (by omega)
  | false =>
      simp only [isHighHalf, isLowHalf, Bool.or_eq_false_iff, Bool.and_eq_false_iff,
        decide_eq_false_iff_not] at hhalf
      have hvalid : unit.isValidChar := by
        unfold Nat.isValidChar
        omega
      rw [if_neg Bool.false_ne_true, Text.isHalf, Text.toNat_ofCode hvalid, Bool.and_eq_false_iff,
        decide_eq_false_iff_not]
      exact Or.inl (by omega)

/-- The character that an escape writes and the number of characters it takes
after its backslash. -/
def escapeAt (rest : List Char) : Except Trouble (Char × Nat) :=
  match rest with
  | '"' :: _ => .ok ('"', 1)
  | '\\' :: _ => .ok ('\\', 1)
  | '/' :: _ => .ok ('/', 1)
  | 'b' :: _ => .ok ('\x08', 1)
  | 'f' :: _ => .ok ('\x0c', 1)
  | 'n' :: _ => .ok ('\n', 1)
  | 'r' :: _ => .ok ('\r', 1)
  | 't' :: _ => .ok ('\t', 1)
  | 'u' :: digits =>
    match codeUnit? digits with
    | none => .error (.malformed (.codeUnit, rest.length))
    | some unit =>
      if isHighHalf unit then
        match digits.drop 4 with
        | '\\' :: 'u' :: others =>
          match codeUnit? others with
          | some low =>
            if isLowHalf low then
              .ok (Char.ofNat (0x10000 + (unit - 0xd800) * 0x400 + (low - 0xdc00)), 11)
            else .ok (unitChar unit, 5)
          | none => .ok (unitChar unit, 5)
        | _ => .ok (unitChar unit, 5)
      else .ok (unitChar unit, 5)
  | _ => .error (.malformed (.escape, rest.length + 1))

/-- The characters of a text up to its closing quote. `skip` counts the characters
of an escape still to be passed. -/
def readChars : Nat → List Char → Reading (List Char)
  | _, [] => .error (.malformed (.unterminated, 0))
  | skip + 1, _ :: rest => readChars skip rest
  | 0, c :: rest =>
    if c = '"' then .ok ([], rest)
    else if c = '\\' then
      if rest.isEmpty then .error (.malformed (.unterminated, 0))
      else match escapeAt rest with
        | .error problem => .error problem
        | .ok (d, taken) => (readChars taken rest).map fun (cs, left) => (d :: cs, left)
    else if c.toNat < 0x20 then .error (.malformed (.control, rest.length + 1))
    else (readChars 0 rest).map fun (cs, left) => (c :: cs, left)

/-- The text after an opening quote. One that never ends is reported at that
quote. -/
def readText (rest : List Char) : Reading String :=
  match readChars 0 rest with
  | .ok (cs, left) => .ok (String.ofList cs, left)
  | .error (.malformed (.unterminated, _)) =>
    .error (.malformed (.unterminated, rest.length + 1))
  | .error problem => .error problem

/-- The digits `0` to `9` at the start of a text, and what follows them. -/
def spanDigits (text : List Char) : List Char × List Char :=
  (text.takeWhile Char.isDigit, text.dropWhile Char.isDigit)

/-- The digits of a fraction at the start of a text. -/
def spanFraction (text : List Char) : List Char × List Char :=
  match text with
  | '.' :: rest =>
    let (digits, left) := spanDigits rest
    if digits.isEmpty then ([], text) else (digits, left)
  | _ => ([], text)

/-- Whether a minus sign stands at the start of a text, and what follows the sign if there
is one. -/
def spanSign (text : List Char) : Bool × List Char :=
  match text with
  | '+' :: rest => (false, rest)
  | '-' :: rest => (true, rest)
  | _ => (false, text)

/-- The exponent at the start of a text. -/
def spanExponent (text : List Char) : Option Int × List Char :=
  match text with
  | e :: rest =>
    if e = 'e' || e = 'E' then
      let (negative, unsigned) := spanSign rest
      let (digits, left) := spanDigits unsigned
      if digits.isEmpty then (none, text)
      else
        let size : Int := Text.digitsValue digits
        (some (if negative then -size else size), left)
    else (none, text)
  | [] => (none, text)

/-- The whole part of a number at the start of a text: a zero alone, or digits
that do not start with a zero. -/
def spanWhole (text : List Char) : List Char × List Char :=
  match text with
  | '0' :: rest => (['0'], rest)
  | _ => spanDigits text

/-- The number at the start of a text after its sign. It is a whole number if it
has neither fraction nor exponent. -/
def readUnsigned? (negative : Bool) (text : List Char) :
    Option (Except NumberProblem Value × List Char) :=
  let (whole, afterWhole) := spanWhole text
  if whole.isEmpty then none
  else
    let (fraction, afterFraction) := spanFraction afterWhole
    let (exponent, left) := spanExponent afterFraction
    if fraction.isEmpty && exponent.isNone then
      let number := (Text.readNumber whole).map fun (n : Nat) =>
        Value.int (if negative then -(n : Int) else n)
      some (number, left)
    else
      some (.ok (.float (Binary64.ofDecimal negative (Text.digitsValue (whole ++ fraction))
        (exponent.getD 0 - fraction.length))), left)

/-- The values that are written as words. -/
def words : List (List Char × Value) :=
  [("null".toList, .null), ("true".toList, .bool true), ("false".toList, .bool false),
    ("NaN".toList, .float .nan), ("Infinity".toList, .float (.infinite false)),
    ("-Infinity".toList, .float (.infinite true))]

/-- The value of the word at the start of a text. -/
def readWord? (text : List Char) : Option (Value × List Char) :=
  words.findSome? fun (word, v) =>
    if word.isPrefixOf text then some (v, text.drop word.length) else none

/-- The number at the start of a text. -/
def readNumber? (text : List Char) : Option (Except NumberProblem Value × List Char) :=
  if text.head? = some '-' then readUnsigned? true text.tail else readUnsigned? false text

/-- The value at the start of a text that is written as a word or a number. -/
def readScalar? (text : List Char) : Option (Except NumberProblem Value × List Char) :=
  match readWord? text with
  | some (v, left) => some (.ok v, left)
  | none => readNumber? text

mutual
/-- The value at the start of a text. -/
def readValue : Nat → Nat → List Char → Reading Value
  | 0, _, text => .error (.malformed (.value, text.length))
  | depth + 1, levels, text =>
    match text, levels with
    | '"' :: rest, _ => (readText rest).map fun (s, left) => (.text s, left)
    | '[' :: _, 0 | '\x7b' :: _, 0 => .error .tooDeep
    | '[' :: rest, levels + 1 =>
      match skipSpace rest with
      | ']' :: left => .ok (.list [], left)
      | start => (readItems depth levels start).map fun (items, left) => (.list items, left)
    | '\x7b' :: rest, levels + 1 =>
      match skipSpace rest with
      | '\x7d' :: left => .ok (.object [], left)
      | start => (readFields depth levels start).map fun (fields, left) =>
          (.object (Fields.ofEntries fields), left)
    | _, _ => match readScalar? text with
      | some (.ok v, left) => .ok (v, left)
      | some (.error problem, _) => .error (.number problem)
      | none => .error (.malformed (.value, text.length))

/-- The items of a list up to its closing bracket. -/
def readItems : Nat → Nat → List Char → Reading (List Value)
  | 0, _, text => .error (.malformed (.value, text.length))
  | depth + 1, levels, text =>
    match readValue depth levels text with
    | .error problem => .error problem
    | .ok (item, after) =>
      match skipSpace after with
      | ']' :: left => .ok ([item], left)
      | ',' :: more =>
        (readItems depth levels (skipSpace more)).map fun (items, left) => (item :: items, left)
      | other => .error (.malformed (.comma, other.length))

/-- The fields of an object up to its closing brace. -/
def readFields : Nat → Nat → List Char → Reading (List (String × Value))
  | 0, _, text => .error (.malformed (.value, text.length))
  | depth + 1, levels, text =>
    match text with
    | '"' :: quoted =>
      match readText quoted with
      | .error problem => .error problem
      | .ok (name, afterName) =>
        match skipSpace afterName with
        | ':' :: colon =>
          match readValue depth levels (skipSpace colon) with
          | .error problem => .error problem
          | .ok (item, after) =>
            match skipSpace after with
            | '\x7d' :: left => .ok ([(name, item)], left)
            | ',' :: more =>
              (readFields depth levels (skipSpace more)).map fun (fields, left) =>
                ((name, item) :: fields, left)
            | other => .error (.malformed (.comma, other.length))
        | other => .error (.malformed (.colon, other.length))
    | _ => .error (.malformed (.name, text.length))
end

/-- The value that the characters of a JSON text write. -/
def readAll (text : List Char) : Except Trouble Value :=
  if text.head? == some '\ufeff' then .error (.malformed (.byteOrderMark, text.length))
  else match readValue (2 * text.length + 1) nestingLimit (skipSpace text) with
    | .error problem => .error problem
    | .ok (v, after) =>
      match skipSpace after with
      | [] => .ok v
      | other => .error (.malformed (.extra, other.length))

/-- The value that a JSON text writes. -/
def read (text : String) : Except (Refusal Error) Value :=
  (readAll text.toList).mapError fun trouble => trouble.map fun (problem, left) =>
    Error.of text.toList problem left

end CallChain.Json
