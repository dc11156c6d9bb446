/-
# Numbers written as texts

A setting may give a number as a text. A whole number is a run of digits with an
optional sign; it may end in a point and zeros, and have single low lines between
its digits. Zeros before its first other digit count neither as digits nor, with the
low lines among them, as anything else; after a minus sign there are none. A number
with a fraction may also have an exponent, and the names of the infinite magnitude
and of what is no number are read in either case. White space around a number does
not count, but a number that has low lines and a fraction stands alone.
-/

import CallChain.Number.Binary64
import CallChain.Number.Limit
import CallChain.Text.Blank
import CallChain.Text.Case
import CallChain.Text.Digit

namespace CallChain

/-- A sign at the start of a text, negative or not, and what follows it. -/
def splitSign : List Char → Bool × List Char
  | '-' :: rest => (true, rest)
  | '+' :: rest => (false, rest)
  | rest => (false, rest)

/-- The text without its low lines, where each stands alone between others. -/
def withoutLowLines? (text : List Char) : Option (List Char) :=
  if text.head? == some '_' || text.getLast? == some '_' || !text.contains '_'
      || Text.occursIn ['_', '_'] text then none
  else some (text.filter (· != '_'))

/-- The integer that a sign and digits write. -/
def plainInt? (text : List Char) : Option Int :=
  let (negative, digits) := splitSign text
  if digits.isEmpty || !digits.all Char.isDigit then none
  else
    let size : Int := Text.digitsValue digits
    some (if negative then -size else size)

/-- The integer that digits write after an optional minus sign, if they are not too
many. No zero stands before other digits. -/
def shortInt? (text : List Char) : Option Int :=
  let digits := if text.head? == some '-' then text.drop 1 else text
  if digits.length ≤ digitLimit && (digits.head? != some '0' || digits.length == 1)
      && text.head? != some '+' then plainInt? text
  else none

/-- What follows the zeros and low lines that a text goes on with; of a run that a
point or the end follows, the last character stays. `last` is the character before. -/
def afterZeros? (last : Char) : List Char → Option (List Char)
  | [] => some [last]
  | c :: rest =>
    if c = '0' || c = '_' then afterZeros? c rest
    else if c = '.' then some (last :: c :: rest)
    else if c.isDigit then some (c :: rest)
    else none

/-- The text without the zeros that it starts with. It has to start with a digit or
a minus sign. -/
def withoutZeros? : List Char → Option (List Char)
  | [] => none
  | c :: rest =>
    if c = '0' then afterZeros? c rest
    else if c.isDigit || c = '-' then some (c :: rest)
    else none

/-- The text before a point that is followed by at least one zero and by zeros
only; the text itself if there is no such point. -/
def withoutZeroFraction (text : List Char) : List Char :=
  match Text.cutAt '.' text with
  | (whole, some fraction) =>
    if fraction.isEmpty || fraction.any (· != '0') then text else whole
  | _ => text

/-- A trimmed text as the plain digits that it stands for. -/
def cleanDigits? (text : List Char) : Option (List Char) := do
  let unsigned := if text.head? == some '+' then text.drop 1 else text
  if text.head? == some '+' && unsigned.head? == some '-' then none
  let digits := withoutZeroFraction (← withoutZeros? unsigned)
  return (withoutLowLines? digits).getD digits

/-- The integer that a text writes. -/
def Text.readInt? (text : String) : Option Int :=
  let chars := Text.trimWhite text.toList
  (shortInt? chars).or ((cleanDigits? chars).bind shortInt?)

/-- The exponent that follows a mantissa: zero when there is none. -/
def exponentPart? : List Char → Option Int
  | [] => some 0
  | e :: rest => if e = 'e' || e = 'E' then plainInt? rest else none

/-- The number that a sign, digits with an optional point, and an optional
exponent write. -/
def plainFloat? (text : List Char) : Option Binary64 :=
  let (negative, unsigned) := splitSign text
  let named := Text.small (String.ofList unsigned)
  if named = "inf" || named = "infinity" then some (.infinite negative)
  else if named = "nan" then some .nan
  else
    let whole := unsigned.takeWhile Char.isDigit
    let afterWhole := unsigned.dropWhile Char.isDigit
    let (fraction, rest) := match afterWhole with
      | '.' :: more => (more.takeWhile Char.isDigit, more.dropWhile Char.isDigit)
      | more => ([], more)
    if whole.isEmpty && fraction.isEmpty then none
    else (exponentPart? rest).map fun exponent =>
      Binary64.ofDecimal negative (Text.digitsValue (whole ++ fraction))
        (exponent - fraction.length)

/-- The number that a text writes. -/
def Text.readFloat? (text : String) : Option Binary64 :=
  (plainFloat? (Text.trimWhite text.toList)).or
    ((withoutLowLines? text.toList).bind plainFloat?)

end CallChain
