/-
# Escapes in addresses

Each part of an address has its characters; all others are escaped, while escapes
that are already there are kept. At the end the whole address is gone over once more,
and escapes of characters that never need one are undone.
-/

import CallChain.Text.Basic
import CallChain.Text.Digit
import CallChain.Text.Percent
import CallChain.Text.Word

namespace CallChain.Address

/-- Whether a character may stand in the user part of an address. -/
def isUserChar (c : Char) : Bool :=
  Text.isUnreserved c || "!$&'()*+,;=:".toList.contains c

/-- Whether a character may stand in a path. -/
def isPathChar (c : Char) : Bool := isUserChar c || c = '@' || c = '/'

/-- Whether a character may stand in a query or a fragment. -/
def isQueryChar (c : Char) : Bool := isPathChar c || c = '?'

/-- Whether a character may stand in a whole address. -/
def isAddressChar (c : Char) : Bool :=
  Text.isUnreserved c || "!#$&'()*+,/:;=?@[]".toList.contains c

/-- The text with the digits of every escape in capitals, and whether every
percent sign starts an escape. -/
def normalizeEscapes : List Char → List Char × Bool
  | '%' :: a :: b :: rest =>
    if (Text.hexValue? a).isSome && (Text.hexValue? b).isSome then
      let (others, complete) := normalizeEscapes rest
      ('%' :: a.toUpper :: b.toUpper :: others, complete)
    else
      let (others, _) := normalizeEscapes (a :: b :: rest)
      ('%' :: others, false)
  | c :: rest =>
    let (others, complete) := normalizeEscapes rest
    (c :: others, complete && c != '%')
  | [] => ([], true)

/-- The text with every character outside a class escaped; percent signs stay if
each of them starts an escape. -/
def encodeOutside (allowed : Char → Bool) (text : List Char) : List Char :=
  let (normal, complete) := normalizeEscapes text
  normal.flatMap fun c => if allowed c || (complete && c = '%') then [c] else Text.percentChar c

/-- The value of a digit of an escape that is undone. Decimal digits of every script
count. -/
def escapeDigit? (c : Char) : Option Nat := (Text.hexValue? c).or (Text.digitValue? c)

/-- Whether a character is a letter or a numeral. -/
def isLetterOrNumeral (c : Char) : Bool := Text.isWordChar c && c != '_'

/-- The parts of a text between percent signs put together again: an escape of an
unreserved character becomes that character. Nothing if a percent sign is followed
by two letters or numerals that are no digits of an escape. -/
def unescapeUnreserved? : List (List Char) → Option (List Char)
  | [] => some []
  | part :: parts => do
    let others ← unescapeUnreserved? parts
    match part with
    | a :: b :: rest =>
      if !(isLetterOrNumeral a && isLetterOrNumeral b) then return '%' :: part ++ others
      let c := Char.ofNat (16 * (← escapeDigit? a) + (← escapeDigit? b))
      return (if Text.isUnreserved c then [c] else ['%', a, b]) ++ rest ++ others
    | _ => return '%' :: part ++ others

/-- The address with unreserved characters plain and all others that may not stand
in an address escaped. -/
def requote (url : List Char) : List Char :=
  let escapeOthers := fun (keepPercent : Bool) (text : List Char) =>
    text.flatMap fun c =>
      if isAddressChar c || (keepPercent && c = '%') then [c] else Text.percentChar c
  match Text.splitAt '%' url with
  | [] => []
  | front :: parts => match unescapeUnreserved? parts with
    | some others => escapeOthers true (front ++ others)
    | none => escapeOthers false url

end CallChain.Address
