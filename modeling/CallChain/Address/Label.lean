/-
# Labels of host names

A host name is a list of labels with points between. A label may use the letters of
any script, but it is sent in plain characters: its Punycode behind `xn--`. Not every
text is a label. It has to be composed; hyphens may stand neither at its ends nor in
both its third and fourth place; it may not start with a mark; all its characters are
permitted, or are permitted where they stand; and letters written from right to left
do not mix with others.
-/

import CallChain.Address.Label.Table
import CallChain.Text.Composition
import CallChain.Text.Digit
import CallChain.Text.Mark
import CallChain.Text.Punycode

namespace CallChain.Address

/-- How a character takes part in the direction of a label. -/
inductive Direction where
  /-- A letter that is written from left to right. -/
  | leftToRight
  /-- A letter that is written from right to left. -/
  | rightToLeft
  /-- A digit that is written from left to right. -/
  | europeanDigit
  /-- A digit that is written with Arabic letters. -/
  | arabicDigit
  /-- A mark, which follows its letter. -/
  | mark
  /-- No direction. -/
  | neutral
  deriving DecidableEq, Repr

/-- The direction of a character that a label may hold. -/
def directionOf (c : Char) : Direction :=
  if europeanDigits.has c then .europeanDigit
  else if arabicDigits.has c then .arabicDigit
  else if undirected.has c then .neutral
  else if Text.isNonspacing c && !directedMarks.has c then .mark
  else if rightToLeft.has c then .rightToLeft
  else .leftToRight

/-- Whether the directions of a label go together. A label with anything that is
written from right to left starts with such a letter, holds none of the other
direction and digits of one kind, and ends with a letter or a digit, marks aside. -/
def directionsAgree (directions : List Direction) : Bool :=
  if !directions.any fun d => d == .rightToLeft || d == .arabicDigit then true
  else
    directions.head? == some .rightToLeft && !directions.contains .leftToRight &&
      !(directions.contains .europeanDigit && directions.contains .arabicDigit) &&
      ((directions.reverse.find? (· != .mark)).all (· != .neutral))

/-- Whether a character does not come between two letters that join. -/
def isTransparent (c : Char) : Bool :=
  (Text.isNonspacing c || c.toNat = 0x1e94b) && c.toNat != 0x1171e

/-- Whether a letter of one of two sets comes first once transparent characters are
passed over. -/
def meetsJoining (one other : Text.CodeSet) (text : List Char) : Bool :=
  (text.dropWhile isTransparent).head?.any fun c => one.has c || other.has c

/-- Whether a character that is permitted only in some places is permitted where it
stands. `before` holds what stands before it, nearest first. -/
def isPermittedBetween (before : List Char) (c : Char) (after : List Char) : Bool :=
  let isAfterVirama := before.head?.any fun b => Text.markClass b == 9
  let label := before.reverseAux (c :: after)
  match c with
  | '\u200c' =>
    isAfterVirama ||
      (meetsJoining joiningAfter joiningBoth before && meetsJoining joiningBefore joiningBoth after)
  | '\u200d' => isAfterVirama
  | '\u00b7' => before.head? == some 'l' && after.head? == some 'l'
  | '\u0375' => after.head?.any greek.has
  | '\u05f3' | '\u05f4' => before.head?.any hebrew.has
  | '\u30fb' => label.any japanese.has
  | _ =>
    if '\u0660' ≤ c && c ≤ '\u0669' then !label.any fun d => '\u06f0' ≤ d && d ≤ '\u06f9'
    else if '\u06f0' ≤ c && c ≤ '\u06f9' then !label.any fun d => '\u0660' ≤ d && d ≤ '\u0669'
    else false

/-- Whether all characters of a label are permitted where they stand. -/
def arePermitted (before : List Char) : List Char → Bool
  | [] => true
  | c :: rest =>
    (permitted.has c || isPermittedBetween before c rest) && arePermitted (c :: before) rest

/-- Whether a text is a label as it is written with the letters of any script. -/
def isLabel (label : List Char) : Bool :=
  !label.isEmpty && label.length ≤ 254 && Text.isComposed label &&
    (label.drop 2).take 2 != ['-', '-'] &&
    label.head? != some '-' && label.getLast? != some '-' &&
    !(label.head?.any Text.isMark) &&
    arePermitted [] label && directionsAgree (label.map directionOf)

/-- Whether a label of plain characters may stand for what it says: after `xn--` it is
the Punycode of a label. -/
def isPlainLabel (label : List Char) : Bool :=
  match label.map Char.toLower with
  | 'x' :: 'n' :: '-' :: '-' :: code =>
    !code.isEmpty && code.getLast? != some '-' && (Text.Punycode.decode? code).any isLabel
  | small => isLabel small

/-- A label in at most 63 plain characters; nothing if it is no label. -/
def plainLabel? (label : List Char) : Option (List Char) :=
  let plain :=
    if label.all Text.Punycode.isPlain then
      if isPlainLabel label then some label else none
    else if isLabel label then some ("xn--".toList ++ Text.Punycode.encode label)
    else none
  plain.filter (·.length ≤ 63)

end CallChain.Address
