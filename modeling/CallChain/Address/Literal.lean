/-
# Literal numbers of hosts

A host can be given as the number of its network card's address: four bytes with
points between, or sixteen bytes as groups of hexadecimal digits with colons between,
where a double colon stands for groups of zeros. The last two groups may be written
as four bytes, and a zone may follow.
-/

import CallChain.Text.Basic
import CallChain.Text.Digit
import CallChain.Text.Hex

namespace CallChain.Address

/-- Whether a text is four groups of one to three digits, separated by points. -/
def isFourByteText (text : List Char) : Bool :=
  let groups := Text.splitAt '.' text
  groups.length == 4 && groups.all fun g => 1 ≤ g.length && g.length ≤ 3 && g.all Char.isDigit

/-- Whether a text is four bytes, separated by points and without leading zeros. -/
def isFourByteNumber (text : List Char) : Bool :=
  isFourByteText text && (Text.splitAt '.' text).all fun g =>
    Text.digitsValue g ≤ 255 && (g.length == 1 || g.head? != some '0')

/-- How many 16-bit groups a run of groups between colons has; nothing if it is
not well formed. Four bytes that pass a test may stand last and count as two. -/
def groupCount? (isFourByte : List Char → Bool) (text : List Char) : Option Nat :=
  if text.isEmpty then some 0
  else
    let groups := Text.splitAt ':' text
    let isGroup := fun (g : List Char) =>
      1 ≤ g.length && g.length ≤ 4 && g.all fun c => (Text.hexValue? c).isSome
    if groups.all isGroup then some groups.length
    else if groups.dropLast.all isGroup && groups.getLast?.any isFourByte then
      some (groups.length + 1)
    else none

/-- The parts before and after the first double colon. -/
def cutDoubleColon : List Char → List Char × Option (List Char)
  | ':' :: ':' :: rest => ([], some rest)
  | c :: rest =>
    let (before, after) := cutDoubleColon rest
    (c :: before, after)
  | [] => ([], none)

/-- Whether a text is sixteen bytes: eight groups, or fewer around one double colon.
Four bytes that pass a test may stand last. -/
def isSixteenByte (isFourByte : List Char → Bool) (text : List Char) : Bool :=
  match cutDoubleColon text with
  | (all, none) => groupCount? isFourByte all == some 8
  | (before, some after) =>
    match groupCount? (fun _ => false) before, groupCount? isFourByte after with
    | some m, some n => m + n ≤ 7
    | _, _ => false

/-- Whether a text is a number of sixteen bytes, with a zone or without one. -/
def isSixteenByteNumber (text : List Char) : Bool :=
  match Text.cutAt '%' text with
  | (number, none) => isSixteenByte isFourByteNumber number
  | (number, some zone) =>
    isSixteenByte isFourByteNumber number && !zone.isEmpty && !zone.contains '%' &&
      !zone.contains '/'

/-- Whether a text is of a form that is left to the future: a version and more. -/
def isFutureForm : List Char → Bool
  | 'v' :: rest => match Text.cutAt '.' rest with
    | (version, some more) =>
      !version.isEmpty && version.all (fun c => (Text.hexValue? c).isSome) && !more.isEmpty
    | _ => false
  | _ => false

end CallChain.Address
