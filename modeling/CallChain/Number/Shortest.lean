/-
# Shortest decimal text of a number

A finite number is written with the fewest decimal digits that read back as the
same number, and with those nearest to it where several are as short. For each
count of digits from 1 to 17 the two neighbours of the number on that decimal
grid are read back; the first grid with a hit wins. Seventeen digits always
suffice; should none read back, the exact expansion is written, so what is
written reads back by construction.

How the digits become text is a format of its own. `plainFormat` writes exponents
from -4 to 15 positionally, keeps `.0` on whole numbers, and writes other
exponents with a sign and at least two digits.
-/

import CallChain.Number.Binary64
import CallChain.Text.Digit

namespace CallChain

/-- A decimal magnitude `digits * 10 ^ exponent`. -/
structure Decimal where
  /-- The significant digits, as a whole number. -/
  digits : Nat
  /-- The power of ten that they are multiplied by. -/
  exponent : Int
  deriving DecidableEq

namespace Decimal

/-- The same magnitude without trailing zeros; `fuel` bounds their number. -/
def dropZeros : Nat → Decimal → Decimal
  | 0, d => d
  | fuel + 1, d =>
    if d.digits ≠ 0 && d.digits % 10 == 0 then dropZeros fuel ⟨d.digits / 10, d.exponent + 1⟩
    else d

/-- The same magnitude without trailing zeros. -/
def reduced (d : Decimal) : Decimal := dropZeros (Nat.toDigits 10 d.digits).length d

/-- The exponent of ten of the leading digit of a positive quotient. -/
def leading (num den : Nat) : Int :=
  if den ≤ num then ((Nat.toDigits 10 (num / den)).length : Int) - 1
  else
    let above := (den + num - 1) / num
    0 - ((Nat.toDigits 10 (above - 1)).length : Int)

/-- The neighbours of a quotient among the multiples of `10 ^ k`, nearest first;
of two equally near ones the even one comes first. -/
def neighbours (num den : Nat) (k : Int) : List Decimal :=
  let n := num * Nat.pow 10 (-k).toNat
  let d := den * Nat.pow 10 k.toNat
  let below := n / d
  let rest := 2 * (n % d)
  let downFirst := rest < d || (rest == d && below % 2 == 0)
  if downFirst then [⟨below, k⟩, ⟨below + 1, k⟩] else [⟨below + 1, k⟩, ⟨below, k⟩]

/-- The magnitude of a rank, written out exactly. -/
def exact (rank : Nat) : Decimal :=
  let q := Binary64.exponent rank
  if 0 ≤ q then ⟨Binary64.significand rank * Nat.pow 2 q.toNat, 0⟩
  else ⟨Binary64.significand rank * Nat.pow 5 (-q).toNat, q⟩

/-- Whether a decimal reads back as the magnitude of a rank. -/
def readsAs (rank : Fin finiteRanks) (d : Decimal) : Bool :=
  d.digits ≠ 0 && Binary64.ofDecimal false d.digits d.exponent == .finite false rank

/-- The shortest decimal that reads back as the magnitude of a positive rank. -/
def shortest (rank : Fin finiteRanks) : Decimal :=
  let (num, den) := Binary64.quotient rank.val
  let top := leading num den
  let candidates := (List.range 17).flatMap fun (count : Nat) =>
    neighbours num den (top - (count : Int))
  reduced ((candidates.find? (readsAs rank)).getD (exact rank.val))

end Decimal

/-- How the digits of a number become text. -/
structure DecimalFormat where
  /-- The least exponent of ten that is written positionally. -/
  least : Int
  /-- The first exponent of ten that is too great to be written positionally. -/
  beyond : Int
  /-- What a whole number ends in. -/
  wholeEnd : String
  /-- The least number of digits of a written exponent. -/
  exponentDigits : Nat
  /-- The text of what is no number. -/
  nanText : String
  /-- The text of the infinite magnitude. -/
  infiniteText : String

/-- The text of a number in displayed values. -/
def plainFormat : DecimalFormat := ⟨-4, 16, ".0", 2, "nan", "inf"⟩

/-- The text of a number in JSON. -/
def jsonFormat : DecimalFormat := ⟨-4, 16, ".0", 2, "NaN", "Infinity"⟩

namespace DecimalFormat

/-- The text of an exponent: a sign and its digits, filled with zeros. -/
def exponentText (f : DecimalFormat) (exponent : Int) : List Char :=
  let digits := Nat.toDigits 10 exponent.natAbs
  (if exponent < 0 then '-' else '+') ::
    List.replicate (f.exponentDigits - digits.length) '0' ++ digits

/-- The text of a decimal without trailing zeros. -/
def decimalText (f : DecimalFormat) (d : Decimal) : List Char :=
  let digits := Nat.toDigits 10 d.digits
  let top := d.exponent + digits.length - 1
  if top < f.least || f.beyond ≤ top then
    let fraction := digits.drop 1
    digits.take 1 ++ (if fraction.isEmpty then [] else '.' :: fraction) ++
      'e' :: f.exponentText top
  else if top < 0 then
    '0' :: '.' :: List.replicate (-top - 1).toNat '0' ++ digits
  else
    let whole := (top + 1).toNat
    if digits.length ≤ whole then
      digits ++ List.replicate (whole - digits.length) '0' ++ f.wholeEnd.toList
    else digits.take whole ++ '.' :: digits.drop whole

/-- The text of a number. -/
def numberText (f : DecimalFormat) : Binary64 → String
  | .nan => f.nanText
  | .infinite negative => (if negative then "-" else "") ++ f.infiniteText
  | .finite negative rank =>
    let magnitude := if rank.val = 0 then ⟨0, 0⟩ else Decimal.shortest rank
    (if negative then "-" else "") ++ String.ofList (f.decimalText magnitude)

end DecimalFormat

end CallChain
