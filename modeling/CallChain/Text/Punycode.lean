/-
# Punycode

A label of a host name is written with plain characters only. Its plain characters
come first, then a hyphen, then where the others belong: they are inserted from the
smallest to the largest, and the steps between two insertions, counted over all
smaller characters and all places, are numbers in base 36. Each digit has a
threshold, and a digit below it ends the number; thresholds adapt to the numbers
before.
-/

import CallChain.Text.Basic

namespace CallChain.Text.Punycode

/-- Whether a character is plain. -/
def isPlain (c : Char) : Bool := c.toNat < 128

/-- The digit of a value below 36: small letters, then decimal digits. -/
def digit (value : Nat) : Char :=
  if value < 26 then Char.ofNat (97 + value) else Char.ofNat (22 + value)

/-- The value of a digit. -/
def digitValue? (c : Char) : Option Nat :=
  if 'a' ≤ c && c ≤ 'z' then some (c.toNat - 97)
  else if 'A' ≤ c && c ≤ 'Z' then some (c.toNat - 65)
  else if '0' ≤ c && c ≤ '9' then some (c.toNat - 22)
  else none

/-- A digit is read back as its value. -/
theorem digitValue?_digit {value : Nat} (h : value < 36) :
    digitValue? (digit value) = some value := by
  have all : ∀ v ∈ List.range 36, digitValue? (digit v) = some v := by decide
  exact all value (List.mem_range.2 h)

/-- The threshold of a digit: from 1 to 26. The first digit has place 36, the next
ones 36 more each. -/
def threshold (bias place : Nat) : Nat := max 1 (min 26 (place - bias))

theorem threshold_pos (bias place : Nat) : 1 ≤ threshold bias place := by
  unfold threshold; omega

theorem threshold_le (bias place : Nat) : threshold bias place ≤ 26 := by
  unfold threshold; omega

/-- The bias for a damped number: `steps` grows by 36 each time the number is cut. -/
def biasOf (steps number : Nat) : Nat :=
  if number > 455 then biasOf (steps + 36) (number / 35)
  else steps + 36 * number / (number + 38)
termination_by number

/-- The bias after a number, of which the first is damped most; `length` characters
are placed by now. -/
def adapt (number length : Nat) (isFirst : Bool) : Nat :=
  let damped := if isFirst then number / 700 else number / 2
  biasOf 0 (damped + damped / length)

/-- The digits of a number, least significant first. -/
def digits (bias place number : Nat) : List Char :=
  let least := threshold bias place
  if number < least then [digit number]
  else digit (least + (number - least) % (36 - least)) ::
    digits bias (place + 36) ((number - least) / (36 - least))
termination_by number
decreasing_by
  have := threshold_pos bias place
  have : (number - threshold bias place) / (36 - threshold bias place) ≤
    number - threshold bias place := Nat.div_le_self _ _
  omega

/-- The characters of a text that are not plain, each once, the smallest first. -/
def others (text : List Char) : List Nat :=
  ((text.filter (!isPlain ·)).map Char.toNat).mergeSort.eraseDups

/-- The steps before each insertion of one character into a text: `steps` have been
counted since the last one. Gives the steps that are left over at the end as well. -/
def stepsTo (point : Nat) (steps : Nat) : List Char → List Nat × Nat
  | [] => ([], steps)
  | c :: rest =>
    if c.toNat = point then
      let (numbers, left) := stepsTo point 0 rest
      (steps :: numbers, left)
    else stepsTo point (if c.toNat < point then steps + 1 else steps) rest

/-- The steps before each insertion of the characters of a text. Of `last` and all
smaller characters `placed` are in place. -/
def numbersFrom (text : List Char) (last placed steps : Nat) : List Nat → List Nat
  | [] => []
  | point :: points =>
    let (numbers, left) := stepsTo point (steps + (point - last) * (placed + 1)) text
    numbers ++ numbersFrom text (point + 1) (placed + numbers.length) (left + 1) points

/-- The digits of numbers one after the other. -/
def writeNumbers (bias placed : Nat) (isFirst : Bool) : List Nat → List Char
  | [] => []
  | number :: numbers =>
    digits bias 36 number ++
      writeNumbers (adapt number (placed + 1) isFirst) (placed + 1) false numbers

/-- A text in plain characters. -/
def encode (text : List Char) : List Char :=
  let plain := text.filter isPlain
  let numbers := numbersFrom text 128 plain.length 0 (others text)
  plain ++ (if plain.isEmpty then [] else ['-']) ++ writeNumbers 72 plain.length true numbers

/-- What is known while digits are read. -/
structure Insertion where
  /-- The text so far. -/
  text : List Char
  /-- The last character that was inserted, or the first that is not plain. -/
  point : Nat
  /-- The place after the last insertion. -/
  position : Nat
  /-- The bias of the number at hand. -/
  bias : Nat
  /-- Whether no number has been read. -/
  isFirst : Bool
  /-- The digits of the number at hand, added up. -/
  number : Nat
  /-- What the next digit counts. -/
  weight : Nat
  /-- The place of the next digit; 36 for the first one of a number. -/
  place : Nat

/-- The insertion that a finished number asks for; nothing if there is no such
character. -/
def Insertion.finish? (state : Insertion) (number : Nat) : Option Insertion :=
  let size := state.text.length + 1
  let point := state.point + (state.position + number) / size
  let position := (state.position + number) % size
  if point.isValidChar then
    some ⟨state.text.take position ++ Char.ofNat point :: state.text.drop position, point,
      position + 1, adapt number size state.isFirst, false, 0, 1, 36⟩
  else none

/-- The text that digits describe; nothing if a character is no digit, or the last
number does not end. -/
def insertFrom (state : Insertion) : List Char → Option (List Char)
  | [] => if state.place = 36 then some state.text else none
  | c :: rest => do
    let value ← digitValue? c
    let number := state.number + value * state.weight
    let least := threshold state.bias state.place
    if value < least then insertFrom (← state.finish? number) rest
    else
      insertFrom
        { state with
          number
          weight := state.weight * (36 - least)
          place := state.place + 36 }
        rest

/-- The text that was written in plain characters. -/
def decode? (text : List Char) : Option (List Char) :=
  let code := (text.reverse.takeWhile (· != '-')).reverse
  insertFrom ⟨text.take (text.length - code.length - 1), 128, 0, 72, true, 0, 1, 36⟩ code

end CallChain.Text.Punycode
