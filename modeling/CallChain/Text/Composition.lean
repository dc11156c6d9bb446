/-
# Composed text

The same text can be written with composites or with letters and separate marks. Its
composed form writes it with composites: every character is taken apart, marks are put
in the order of their classes, and what a composite stands for is put together again
(Normalization Form C of Unicode 14). Taking apart a Hangul syllable and putting it
together is arithmetic.
-/

import CallChain.Text.Composition.Table

namespace CallChain.Text

/-- The class of a mark; zero for a character that stays where it is. -/
def markClass (c : Char) : Nat :=
  ((markClasses.find? fun (_, members) => members.has c).map Prod.fst).getD 0

/-- The two or three letters of a Hangul syllable. -/
def hangulLetters? (c : Char) : Option (List Char) :=
  let index := c.toNat - 0xac00
  if c.toNat < 0xac00 || index ≥ 11172 then none
  else
    let start := Char.ofNat (0x1100 + index / 588)
    let vowel := Char.ofNat (0x1161 + index % 588 / 28)
    if index % 28 = 0 then some [start, vowel]
    else some [start, vowel, Char.ofNat (0x11a7 + index % 28)]

/-- The Hangul syllable of a starting letter and a vowel, or of such a syllable and a
closing letter. -/
def hangulSyllable? (a b : Char) : Option Char :=
  let start := a.toNat - 0x1100
  let vowel := b.toNat - 0x1161
  let index := a.toNat - 0xac00
  let close := b.toNat - 0x11a7
  if 0x1100 ≤ a.toNat && start < 19 && 0x1161 ≤ b.toNat && vowel < 21 then
    some (Char.ofNat (0xac00 + (start * 21 + vowel) * 28))
  else if 0xac00 ≤ a.toNat && index < 11172 && index % 28 = 0 && 0x11a7 < b.toNat && close < 28 then
    some (Char.ofNat (a.toNat + close))
  else none

/-- The parts that a character stands for, taken apart at most `depth` times. No
character of Unicode needs more than four. -/
def partsOf : Nat → Char → List Char
  | 0, c => [c]
  | depth + 1, c =>
    if c.toNat < 0xc0 then [c]
    else match hangulLetters? c with
      | some letters => letters
      | none => match (composites.lookup c).or (replacements.lookup c) with
        | some parts => parts.flatMap (partsOf depth)
        | none => [c]

/-- The text with a character in front, moved behind the marks of smaller classes. -/
def insertMark (c : Char) : List Char → List Char
  | [] => [c]
  | next :: rest =>
    if 0 < markClass next && markClass next < markClass c then next :: insertMark c rest
    else c :: next :: rest

/-- The text taken apart, with its marks in the order of their classes. -/
def decomposed (text : List Char) : List Char := (text.flatMap (partsOf 4)).foldr insertMark []

/-- The character that stands for two others. -/
def composite? (a b : Char) : Option Char :=
  (hangulSyllable? a b).or ((composites.find? fun (_, parts) => parts == [a, b]).map Prod.fst)

/-- Puts a letter together with what follows it. `passed` holds the marks that stay
separate, the last one first; a mark composes with the letter only if the mark before
it has a smaller class. -/
def composeAfter (letter : Char) (passed : List Char) : List Char → List Char
  | [] => letter :: passed.reverse
  | c :: rest =>
    let isFree := passed.head?.all fun last => markClass last < markClass c
    match if isFree then composite? letter c else none with
    | some whole => composeAfter whole passed rest
    | none =>
      if markClass c = 0 then letter :: passed.reverse ++ composeAfter c [] rest
      else composeAfter letter (c :: passed) rest

/-- Puts a decomposed text together; marks without a letter stay. -/
def compose : List Char → List Char
  | [] => []
  | c :: rest => if markClass c = 0 then composeAfter c [] rest else c :: compose rest

/-- The composed form of a text. -/
def composed (text : List Char) : List Char := compose (decomposed text)

/-- Whether a text is its own composed form. -/
def isComposed (text : List Char) : Bool := composed text == text

end CallChain.Text
