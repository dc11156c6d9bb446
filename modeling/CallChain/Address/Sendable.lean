/-
# Sendable addresses

A request is sent to the host of its finished address, after what the user part says
is put into a header. So brackets have to stand around the host and hold a number,
no character may stand for a delimiter that only shows when it is taken apart, and a
user name with its password has to fit into single bytes.
-/

import CallChain.Address.Literal
import CallChain.Address.Problem
import CallChain.Text.Percent
import CallChain.Text.Punycode

namespace CallChain.Address

/-- Whether a character may stand in a scheme after its first letter. -/
def isSchemeChar (c : Char) : Bool := c.isAlphanum || c = '+' || c = '.' || c = '-'

/-- The scheme at the start of a text, and what follows its colon. -/
def splitScheme (text : List Char) : Option (List Char) × List Char :=
  match Text.cutAt ':' text with
  | (c :: scheme, some rest) =>
    if c.isAlpha && scheme.all isSchemeChar then (some ((c :: scheme).map Char.toLower), rest)
    else (none, text)
  | _ => (none, text)

/-- The authority of a finished address, in which control characters at the start and
line breaks and tabs anywhere do not count. -/
def finishedAuthority (url : List Char) : List Char :=
  let visible := (url.dropWhile (·.toNat ≤ 0x20)).filter fun c =>
    !(c = '\t' || c = '\n' || c = '\r')
  match (splitScheme visible).2 with
  | '/' :: '/' :: rest => rest.takeWhile fun c => !(c = '/' || c = '?' || c = '#')
  | _ => []

/-- The parts before and after the last at sign; all is after it if there is none. -/
def cutUser (authority : List Char) : Option (List Char) × List Char :=
  let after := (authority.reverse.takeWhile (· != '@')).reverse
  if after.length = authority.length then (none, authority)
  else (some (authority.take (authority.length - after.length - 1)), after)

/-- What is wrong with the host of an authority that has brackets. -/
def bracketedProblem? (text : List Char) : Option AddressProblem :=
  if text.head? == some 'v' then if isFutureForm text then none else some .badFutureForm
  else if isFourByteNumber text then some .fourBytesInBrackets
  else if isSixteenByteNumber text then none
  else some (.badNumber (String.ofList text))

/-- What is wrong with the brackets of an authority. -/
def bracketProblem? (authority : List Char) : Option AddressProblem :=
  if !authority.contains '[' && !authority.contains ']' then none
  else if !(authority.contains '[' && authority.contains ']') then some .strayBracket
  else
    let hostText := (cutUser authority).2
    match Text.cutAt '[' hostText with
    | (before, some inside) =>
      let (host, after) := Text.cutAt ']' inside
      let isStray := fun (text : List Char) => !text.isEmpty && text.head? != some ':'
      if !before.isEmpty || after.any isStray then some .strayBracket else bracketedProblem? host
    | (_, none) => bracketedProblem? (Text.cutAt ':' hostText).1

/-- The code points of characters that stand for several, one of them a delimiter. -/
def hidesDelimiter (c : Char) : Bool :=
  Text.inRanges
    [(0x2047, 0x2049), (0x2100, 0x2101), (0x2105, 0x2106), (0x2a74, 0x2a74), (0xfe13, 0xfe13),
     (0xfe16, 0xfe16), (0xfe55, 0xfe56), (0xfe5f, 0xfe5f), (0xfe6b, 0xfe6b), (0xff03, 0xff03),
     (0xff0f, 0xff0f), (0xff1a, 0xff1a), (0xff1f, 0xff20)] c.toNat

/-- Whether a character does not fit into one byte. -/
def isWide (c : Char) : Bool := c.toNat > 0xff

/-- Whether a text has characters that do not fit into one byte once its escapes are
undone. Escapes next to each other are read together, and bytes that are no text
count as such a character. -/
def isWideUnescaped (text : List Char) : Bool :=
  let isPlain := Text.Punycode.isPlain
  text.any isWide ||
    ((text.splitBy fun a b => isPlain a == isPlain b).filter (·.all isPlain)).any fun run =>
      match String.fromUTF8? (ByteArray.mk (Text.unescapedBytes run).toArray) with
      | some plain => plain.toList.any isWide
      | none => true

/-- Whether a user part names a user and a password that cannot be sent. -/
def isBadUser (user : List Char) : Bool :=
  match Text.cutAt ':' user with
  | (name, some password) => isWideUnescaped name || isWideUnescaped password
  | (_, none) => false

/-- Why no request can be sent to a finished address. -/
def sendingProblem? (url : List Char) : Option AddressProblem :=
  let authority := finishedAuthority url
  match bracketProblem? authority with
  | some problem => some problem
  | none =>
    if authority.any hidesDelimiter then some (.hiddenDelimiter (String.ofList authority))
    else if (cutUser authority).1.any isBadUser then some .badUser
    else none

end CallChain.Address
