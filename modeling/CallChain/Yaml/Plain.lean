/-
# What plain scalars mean

A scalar without quotes is a truth value, a number, a date or null if it is written
like one, and a text otherwise. Truth values are a few words in three spellings
each. A whole number may have a sign, low lines, a base (`0b`, `0x`, or a leading
zero for eight) or groups of sixty between colons. A floating-point number needs a
point, and its exponent a sign; it may have groups of sixty in place of an exponent.
What is written like a number or a date may still have no value, which is a problem
of its own; and an equals sign alone means nothing at all.
-/

import CallChain.Number.Written
import CallChain.Text.Hex
import CallChain.Yaml.Basic

namespace CallChain.Yaml

/-- The truth value that a word means. -/
def wordBool? (word : String) : Option Bool :=
  if ["yes", "Yes", "YES", "true", "True", "TRUE", "on", "On", "ON"].contains word then some true
  else if ["no", "No", "NO", "false", "False", "FALSE", "off", "Off", "OFF"].contains word then
    some false
  else none

/-- Whether a word means null. -/
def isNullWord (word : String) : Bool := ["", "~", "null", "Null", "NULL"].contains word

/-- Whether a character may stand among the digits of a number: a digit or a low
line. -/
def isDigitOrLine (c : Char) : Bool := c.isDigit || c = '_'

/-- The characters of a number without its low lines. -/
def withoutLines (digits : List Char) : List Char := digits.filter (· != '_')

/-- What a text is written like: nothing of a kind, or something of it with its value
or the reason why it has none. -/
abbrev Likeness (α : Type) := Option (Except NumberProblem α)

/-- The number that digits of a base write, low lines being passed over. There have
to be characters, and one of them has to be a digit. -/
def ofBase? (base : Nat) (digits : List Char) : Likeness Nat :=
  let significant := withoutLines digits
  if digits.isEmpty then none
  else if significant.isEmpty then some (.error (.noDigits base))
  else (significant.foldlM (fun value c => match Text.hexValue? c with
    | some d => if d < base then some (base * value + d) else none
    | none => none) 0).map .ok

/-- Whether a group after a colon writes a number below sixty: one digit, or two of
which the first is below six. -/
def isSixtieth : List Char → Bool
  | [c] => c.isDigit
  | [c, d] => '0' ≤ c && c ≤ '5' && d.isDigit
  | _ => false

/-- The number that a first group of digits and groups below sixty write. -/
def ofSixtieths? (first : List Char) (groups : List (List Char)) : Likeness Nat :=
  if groups.all isSixtieth then
    some ((Text.readNumber (withoutLines first)).map fun whole =>
      groups.foldl (fun value group => 60 * value + Text.digitsValue group) whole)
  else none

/-- The size of a whole number, written without a sign. -/
def size? (unsigned : List Char) : Likeness Nat :=
  match unsigned with
  | ['0'] => some (.ok 0)
  | '0' :: 'b' :: digits => ofBase? 2 digits
  | '0' :: 'x' :: digits => ofBase? 16 digits
  | '0' :: digits =>
    if digits.all fun c => isDigitOrLine c && c ≠ '8' && c ≠ '9' then ofBase? 8 ('0' :: digits)
    else none
  | _ =>
    match Text.splitAt ':' unsigned with
    | first :: groups =>
      if first.all isDigitOrLine && first.head?.any Char.isDigit then ofSixtieths? first groups
      else none
    | [] => none

/-- The whole number that a plain scalar writes. -/
def plainInteger? (text : List Char) : Likeness Int :=
  let (negative, unsigned) := splitSign text
  (size? unsigned).map fun size => size.map fun n => if negative then -(n : Int) else n

/-- The exponent at the end of a floating-point number: zero if nothing is left. -/
def signedExponent? : List Char → Option Int
  | [] => some 0
  | e :: sign :: digits =>
    if (e = 'e' || e = 'E') && (sign = '+' || sign = '-') then plainInt? (sign :: digits) else none
  | _ => none

/-- The sum of groups of sixty, of which the last one has a fraction. Sums and
products are rounded one by one, from the last group on. -/
def sumOfSixtieths (groups : List Binary64) : Binary64 :=
  (groups.reverse.foldl (fun (sum, unit) group =>
    (sum.plus (group.times (Binary64.ofInt unit)), 60 * unit)) (Binary64.ofInt 0, (1 : Int))).1

/-- The size of a number of groups of sixty, of which the last one has a fraction. -/
def sixtiethsNumber? (unsigned : List Char) : Option Binary64 :=
  match Text.splitAt ':' unsigned with
  | first :: next :: others =>
    let groups := next :: others
    match Text.cutAt '.' (groups.getLast?.getD []) with
    | (last, some fraction) =>
      if first.head?.any Char.isDigit && first.all isDigitOrLine &&
          (groups.dropLast ++ [last]).all isSixtieth && fraction.all isDigitOrLine then
        let places := withoutLines fraction
        let whole := (withoutLines first :: groups.dropLast).map fun group =>
          Binary64.ofDecimal false (Text.digitsValue group) 0
        some (sumOfSixtieths (whole ++
          [Binary64.ofDecimal false (Text.digitsValue (last ++ places)) (-places.length)]))
      else none
    | _ => none
  | _ => none

/-- The floating-point number that a plain scalar writes. A number that starts with
its point has no sign. -/
def plainNumber? (text : List Char) : Option Binary64 :=
  let (negative, unsigned) := splitSign text
  if [".inf", ".Inf", ".INF"].contains (String.ofList unsigned) then some (.infinite negative)
  else if [".nan", ".NaN", ".NAN"].contains (String.ofList text) then some .nan
  else if unsigned.contains ':' then
    (sixtiethsNumber? unsigned).map fun x => if negative then x.opposite else x
  else
    let whole := unsigned.takeWhile isDigitOrLine
    match unsigned.dropWhile isDigitOrLine with
    | '.' :: rest =>
      let fraction := rest.takeWhile isDigitOrLine
      let starts := if whole.isEmpty then text.head? == some '.' && fraction.head?.any Char.isDigit
        else whole.head?.any Char.isDigit
      if starts then
        let places := withoutLines fraction
        (signedExponent? (rest.dropWhile isDigitOrLine)).map fun exponent =>
          Binary64.ofDecimal negative (Text.digitsValue (withoutLines whole ++ places))
            (exponent - places.length)
      else none
    | _ => none

/-- The moment that a plain scalar writes. -/
def plainMoment? (text : List Char) : Likeness Moment :=
  (Moment.ofText? text).map fun m => match m.problem? with
    | none => .ok m
    | some part => .error (.outOfRange part)

/-- The scalar that a text without quotes means. -/
def Scalar.ofPlain (chars : List Char) : Except (Refusal Unit) Scalar :=
  let word := String.ofList chars
  if isNullWord word then .ok null
  else if word = "=" then .error (.malformed ())
  else match wordBool? word, plainNumber? chars with
    | some b, _ => .ok (bool b)
    | none, some x => .ok (float x)
    | none, none => match plainInteger? chars, plainMoment? chars with
      | some n, _ => (n.map int).mapError .number
      | none, some m => (m.map moment).mapError .number
      | none, none => .ok (text word)

end CallChain.Yaml
