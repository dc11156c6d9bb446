/-
# Limits of whole numbers in texts

A whole number is read from at most `digitLimit` decimal digits, leading zeros
included, and is written with at most as many. A base other than ten has no such
limit, but a number needs some digit. The numbers of a date have ranges of their
own. `NumberProblem` names what can be wrong; `Text.readNumber` is the reading of
decimal digits within the limit.
-/

import CallChain.Text.Basic
import CallChain.Text.Digit

namespace CallChain

/-- A number of a date or of a time of day that has a range. -/
inductive DatePart where
  /-- The year. -/
  | year (n : Nat)
  /-- The month. -/
  | month
  /-- The day of the month. -/
  | day
  /-- The hour. -/
  | hour
  /-- The minute. -/
  | minute
  /-- The second. -/
  | second
  /-- How many minutes a clock is ahead of universal time. -/
  | ahead (minutes : Int)
  deriving DecidableEq, Repr

namespace DatePart

/-- The text of a length of time of whole minutes: days and what is left of the last
one in seconds, which is not negative. -/
def lengthText (minutes : Int) : String :=
  let days := minutes.fdiv 1440
  let seconds := minutes.fmod 1440 * 60
  let parts := (if days = 0 then [] else ["days=" ++ Text.intText days]) ++
    (if seconds = 0 then [] else ["seconds=" ++ Text.intText seconds])
  "datetime.timedelta(" ++ (if parts.isEmpty then "0" else Text.join ", " parts) ++ ")"

/-- What is said of a part that lies outside its range. -/
def rangeMessage : DatePart → String
  | year n => "year " ++ Text.natText n ++ " is out of range"
  | month => "month must be in 1..12"
  | day => "day is out of range for month"
  | hour => "hour must be in 0..23"
  | minute => "minute must be in 0..59"
  | second => "second must be in 0..59"
  | ahead minutes =>
    "offset must be a timedelta strictly between -timedelta(hours=24) and " ++
      "timedelta(hours=24), not " ++ lengthText minutes

end DatePart

/-- Why a whole number is not read from a text, or not written. -/
inductive NumberProblem where
  /-- The text has too many decimal digits. -/
  | longText (digits : Nat)
  /-- The number has too many decimal digits to be written. -/
  | longNumber
  /-- The text has no digits of its base. -/
  | noDigits (base : Nat)
  /-- The number lies outside the range that it has in a date. -/
  | outOfRange (part : DatePart)
  deriving DecidableEq, Repr

/-- The largest number of decimal digits that a whole number is read from or written
with. -/
def digitLimit : Nat := 4300

namespace NumberProblem

/-- The wording of a conversion beyond the limit. -/
def beyondLimit (detail : String) : String :=
  "Exceeds the limit (" ++ Text.natText digitLimit ++ " digits) for integer string conversion" ++
    detail ++ "; use sys.set_int_max_str_digits() to increase the limit"

/-- The wording of a problem. -/
def message : NumberProblem → String
  | longText digits => beyondLimit (": value has " ++ Text.natText digits ++ " digits")
  | longNumber => beyondLimit ""
  | noDigits base => "invalid literal for int() with base " ++ Text.natText base ++ ": ''"
  | outOfRange part => part.rangeMessage

end NumberProblem

/-- The number that decimal digits write, if they are not too many. -/
def Text.readNumber (digits : List Char) : Except NumberProblem Nat :=
  if digitLimit < digits.length then .error (.longText digits.length)
  else .ok (digitsValue digits)

/-- Whether a whole number can be written in decimal digits. -/
def isWritable (n : Int) : Bool := n.natAbs < Nat.pow 10 digitLimit

@[simp] theorem Text.readNumber_eq_ok_iff {digits : List Char} {n : Nat} :
    Text.readNumber digits = .ok n ↔ digits.length ≤ digitLimit ∧ digitsValue digits = n := by
  unfold Text.readNumber
  split
  · next h => simp; omega
  · next h => simp; omega

/-- Why a text is not read as a value: it is malformed, a number in it is not read,
or its lists and objects are nested too deeply. -/
inductive Refusal (ε : Type) where
  /-- The text is malformed. -/
  | malformed (fault : ε)
  /-- A number of the text is not read. -/
  | number (problem : NumberProblem)
  /-- Lists and objects are nested too deeply. -/
  | tooDeep
  deriving DecidableEq

/-- A refusal with what is wrong with a malformed text said in another way. -/
def Refusal.map {ε δ : Type} (f : ε → δ) : Refusal ε → Refusal δ
  | malformed fault => malformed (f fault)
  | number problem => number problem
  | tooDeep => tooDeep

end CallChain
