/-
# Dates and times of a YAML document

A scalar that is written like a date, or like a date with a time of day, is a
moment and no text. The year has four digits; the month and the day have two, or one
where a time follows. Seconds may have a fraction, of which six digits count. A
clock may say how far it is ahead of universal time; `Z` says that it is not.
-/

import CallChain.Number.Limit

namespace CallChain.Yaml

/-- A time of day. -/
structure Clock where
  /-- The hour, from zero. -/
  hour : Nat
  /-- The minute, from zero. -/
  minute : Nat
  /-- The second, from zero. -/
  second : Nat
  /-- The millionths of a second. -/
  micro : Nat
  /-- How many minutes the clock is ahead of universal time, when it says so. -/
  ahead : Option Int
  deriving DecidableEq

/-- A date, perhaps with a time of day. -/
structure Moment where
  /-- The year. -/
  year : Nat
  /-- The month, from one. -/
  month : Nat
  /-- The day of the month, from one. -/
  day : Nat
  /-- The time of day. -/
  clock : Option Clock
  deriving DecidableEq

namespace Moment

/-- The digits at the start of a text, at least `least` and at most `most` of them,
and what follows them. -/
def digits? (least most : Nat) (text : List Char) : Option (List Char × List Char) :=
  let digits := (text.take most).takeWhile Char.isDigit
  if digits.length < least then none else some (digits, text.drop digits.length)

/-- The number of so many digits at the start of a text, and what follows it. -/
def number? (least most : Nat) (text : List Char) : Option (Nat × List Char) :=
  (digits? least most text).map fun (digits, rest) => (Text.digitsValue digits, rest)

/-- What follows a character that a text starts with. -/
def after? (c : Char) (text : List Char) : Option (List Char) :=
  if text.head? == some c then some (text.drop 1) else none

/-- The millionths that the digits of a fraction write. -/
def microOf (digits : List Char) : Nat :=
  let counted := digits.take 6
  Text.digitsValue (counted ++ List.replicate (6 - counted.length) '0')

/-- How far a clock is ahead, as it is written up to the end of a text. -/
def ahead? (text : List Char) : Option (Option Int) :=
  match text.dropWhile fun c => c = ' ' || c = '\t' with
  | [] => if text.isEmpty then some none else none
  | 'Z' :: rest => if rest.isEmpty then some (some 0) else none
  | sign :: rest =>
    if sign = '+' || sign = '-' then do
      let (hours, rest) ← number? 1 2 rest
      let minutes ← match rest with
        | [] => some 0
        | _ => do
          let (minutes, rest) ← number? 2 2 (← after? ':' rest)
          if rest.isEmpty then some minutes else none
      let size : Int := 60 * hours + minutes
      return some (if sign = '-' then -size else size)
    else none

/-- The time of day that follows a date. -/
def clock? (text : List Char) : Option Clock := do
  let separator := text.takeWhile fun c => c = ' ' || c = '\t'
  let rest ← if separator.isEmpty then
      (if text.head? == some 'T' || text.head? == some 't' then some (text.drop 1) else none)
    else some (text.drop separator.length)
  let (hour, rest) ← number? 1 2 rest
  let (minute, rest) ← number? 2 2 (← after? ':' rest)
  let (second, rest) ← number? 2 2 (← after? ':' rest)
  let fraction := if rest.head? == some '.' then (rest.drop 1).takeWhile Char.isDigit else []
  let rest := if rest.head? == some '.' then rest.drop (fraction.length + 1) else rest
  return { hour, minute, second, micro := microOf fraction, ahead := ← ahead? rest }

/-- The moment that a text is written like, whether or not its numbers are in their
ranges. -/
def ofText? (text : List Char) : Option Moment := do
  let (year, rest) ← number? 4 4 text
  let (months, rest) ← digits? 1 2 (← after? '-' rest)
  let (days, rest) ← digits? 1 2 (← after? '-' rest)
  let month := Text.digitsValue months
  let day := Text.digitsValue days
  if rest.isEmpty then
    if months.length = 2 && days.length = 2 then some { year, month, day, clock := none } else none
  else return { year, month, day, clock := ← clock? rest }

/-- Whether a year has a leap day. -/
def isLeap (year : Nat) : Bool := year % 4 == 0 && (year % 100 != 0 || year % 400 == 0)

/-- How many days a month has. -/
def daysIn (year month : Nat) : Nat :=
  if month = 2 then (if isLeap year then 29 else 28)
  else if [4, 6, 9, 11].contains month then 30 else 31

/-- The first part of a moment that lies outside its range. How far a clock is ahead
counts first, then the date from the year on, then the time of day. -/
def problem? (m : Moment) : Option DatePart :=
  let ahead := m.clock.bind Clock.ahead
  let apart := ahead.filter fun minutes => 1440 ≤ minutes.natAbs
  let clockPart := m.clock.bind fun c =>
    if 24 ≤ c.hour then some DatePart.hour
    else if 60 ≤ c.minute then some .minute
    else if 60 ≤ c.second then some .second
    else none
  match apart with
  | some minutes => some (.ahead minutes)
  | none =>
    if m.year = 0 then some (.year m.year)
    else if m.month = 0 || 12 < m.month then some .month
    else if m.day = 0 || daysIn m.year m.month < m.day then some .day
    else clockPart

/-- A number with at least so many digits. -/
def padded (width n : Nat) : String :=
  let digits := Nat.toDigits 10 n
  String.ofList (List.replicate (width - digits.length) '0' ++ digits)

/-- How far a clock is ahead, after a sign. -/
def aheadText (minutes : Int) : String :=
  (if minutes < 0 then "-" else "+") ++ padded 2 (minutes.natAbs / 60) ++ ":" ++
    padded 2 (minutes.natAbs % 60)

/-- The text of a moment. -/
def display (m : Moment) : String :=
  padded 4 m.year ++ "-" ++ padded 2 m.month ++ "-" ++ padded 2 m.day ++
    match m.clock with
    | none => ""
    | some c =>
      " " ++ padded 2 c.hour ++ ":" ++ padded 2 c.minute ++ ":" ++ padded 2 c.second ++
        (if c.micro = 0 then "" else "." ++ padded 6 c.micro) ++
        ((c.ahead.map aheadText).getD "")

/-- The text of a moment inside a list or a mapping. -/
def inner (m : Moment) : String :=
  let date := [m.year, m.month, m.day].map Text.natText
  match m.clock with
  | none => "datetime.date(" ++ Text.join ", " date ++ ")"
  | some c =>
    let seconds := if c.micro ≠ 0 then [c.second, c.micro]
      else if c.second ≠ 0 then [c.second] else []
    let zone := match c.ahead with
      | none => []
      | some 0 => ["tzinfo=datetime.timezone.utc"]
      | some minutes =>
        ["tzinfo=datetime.timezone(" ++ DatePart.lengthText minutes ++ ")"]
    "datetime.datetime(" ++
      Text.join ", " (date ++ ([c.hour, c.minute] ++ seconds).map Text.natText ++ zone) ++ ")"

end Moment

end CallChain.Yaml
