/-
# Tables of code points

Properties of characters are tables, and a table is kept as text with all numbers
hexadecimal. A set is a list of words: `61` is one code point, `61-7a` a run of
them, and `101-137/2` every second one. A map is a list of entries with semicolons
between: an entry names a code point and says what it and its followers become, one
word after the other. There `61` is one character, `61+300` two, `61-7a` stands for
a run of code points that become a run of characters, `61*3` for three that all
become the same, and `~` for nothing.
-/

import CallChain.Text.Basic
import CallChain.Text.Hex

namespace CallChain.Text

/-- Every `step`th code point from the first to the last. -/
structure CodeRun where
  /-- The first code point. -/
  first : Nat
  /-- The last code point. -/
  last : Nat
  /-- The distance from one to the next. -/
  step : Nat
  deriving DecidableEq, Repr

/-- A set of code points. -/
abbrev CodeSet := List CodeRun

/-- Whether a code point belongs to a run. -/
def CodeRun.has (run : CodeRun) (point : Nat) : Bool :=
  run.first ≤ point && point ≤ run.last && (point - run.first) % run.step == 0

/-- Whether a character belongs to a set. -/
def CodeSet.has (set : CodeSet) (c : Char) : Bool := set.any fun run => run.has c.toNat

/-- The run that a word of a table writes. -/
def CodeRun.ofWord? (word : List Char) : Option CodeRun := do
  let (ends, step) := cutAt '/' word
  let (first, last) := cutAt '-' ends
  let start ← ofHex? first
  return ⟨start, ← ofHex? (last.getD first), ← ofHex? (step.getD ['1'])⟩

/-- The set that the lines of a table write. -/
def CodeSet.ofLines (lines : List String) : CodeSet :=
  lines.flatMap fun line => (splitAt ' ' line.toList).filterMap CodeRun.ofWord?

/-- What consecutive code points become, as one word of a table writes it. -/
def targetsOfWord? (word : List Char) : Option (List (List Char)) := do
  let (target, count) := cutAt '*' word
  match cutAt '-' target with
  | (first, some last) =>
    let start ← ofHex? first
    return (List.range' start ((← ofHex? last) + 1 - start)).map fun point => [Char.ofNat point]
  | (_, none) =>
    let text ← if target = ['~'] then some []
      else (splitAt '+' target).mapM fun point => (ofHex? point).map Char.ofNat
    return List.replicate (← ofHex? (count.getD ['1'])) text

/-- The characters that an entry of a table is about, each with what it becomes. -/
def entriesOf (entry : List Char) : List (Char × List Char) :=
  match cutAt ':' entry with
  | (first, some targets) =>
    let texts := ((splitAt ' ' targets).filterMap targetsOfWord?).flatten
    let start := (ofHex? first).getD 0
    (List.range' start texts.length).map Char.ofNat |>.zip texts
  | (_, none) => []

/-- A map from characters to texts. -/
abbrev CodeMap := List (Char × List Char)

/-- The map that the lines of a table write. -/
def CodeMap.ofLines (lines : List String) : CodeMap :=
  lines.flatMap fun line => (splitAt ';' line.toList).flatMap entriesOf

/-- A run is its members between its ends. -/
theorem CodeRun.has_iff (run : CodeRun) (point : Nat) :
    run.has point = true ↔
      run.first ≤ point ∧ point ≤ run.last ∧ run.step ∣ point - run.first := by
  simp [CodeRun.has, Nat.dvd_iff_mod_eq_zero, and_assoc]

/-- A set has what one of its runs has. -/
theorem CodeSet.has_iff (set : CodeSet) (c : Char) :
    set.has c = true ↔ ∃ run ∈ set, run.has c.toNat = true := by
  simp [CodeSet.has]

end CallChain.Text
