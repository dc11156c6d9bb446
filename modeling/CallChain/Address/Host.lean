/-
# Hosts of addresses

The part of an address between the slashes and its path names a host, after an
optional user part and before an optional colon with a service number. A host is
a name or a literal number in brackets. Names are compared in small letters, and a
name with letters of other scripts is sent in plain characters.
-/

import CallChain.Address.Escaped
import CallChain.Address.Label
import CallChain.Address.Label.Mapping
import CallChain.Address.Literal
import CallChain.Address.Problem
import CallChain.Text.Case
import CallChain.Text.Hex

namespace CallChain.Address

/-- What a text says of the service number. -/
inductive Service where
  /-- Nothing: it has no digits, or they are zeros. -/
  | unset
  /-- It is a number of a service. -/
  | number (n : Nat)
  /-- It is larger than all numbers of services. -/
  | tooLarge
  deriving DecidableEq, Repr

/-- The service number that follows a colon, written with at most five digits beside
leading zeros. -/
def Service.ofDigits? (digits : List Char) : Option Service :=
  if !digits.all Char.isDigit || (digits.dropWhile (· == '0')).length > 5 then none
  else
    let n := Text.digitsValue digits
    some (if n = 0 then .unset else if n > 65535 then .tooLarge else .number n)

/-- The host and the service number of an authority, with its user part. -/
structure Authority where
  /-- What stands before the last at sign. -/
  user : Option (List Char)
  /-- The host. -/
  host : List Char
  /-- The number after the colon. -/
  service : Service

/-- Whether every escape of a registered name is complete, and no delimiter
occurs in it. -/
def isRegisteredName : List Char → Bool
  | [] => true
  | '%' :: a :: b :: rest =>
    (Text.hexValue? a).isSome && (Text.hexValue? b).isSome && isRegisteredName rest
  | c :: rest => !(['[', ']', '%', ':', '/', '?', '#'].contains c) && isRegisteredName rest

/-- Whether a text is a zone after a number: a percent sign and unreserved
characters or escapes. -/
def isZone : List Char → Bool
  | '%' :: rest =>
    let name := if ['2', '5'].isPrefixOf rest && rest.length > 2 then rest.drop 2 else rest
    !name.isEmpty && isRegisteredName name && name.all fun c => Text.isUnreserved c || c = '%'
  | _ => false

/-- Whether a text is a number in brackets, with an optional zone. -/
def isBracketed : List Char → Bool
  | '[' :: rest =>
    rest.getLast? == some ']' &&
      (let body := rest.dropLast
       let number := body.takeWhile (· != '%')
       let zone := body.dropWhile (· != '%')
       isSixteenByte isFourByteText number && (zone.isEmpty || isZone zone))
  | _ => false

/-- The host and service number of a text without user part. -/
def hostAndService? (text : List Char) : Option (List Char × Service) :=
  if isRegisteredName text || isBracketed text then some (text, .unset)
  else
    let digits := (text.reverse.takeWhile (· != ':')).reverse
    let host := text.take (text.length - digits.length - 1)
    if digits.length < text.length && (isRegisteredName host || isBracketed host) then
      (Service.ofDigits? digits).map fun service => (host, service)
    else none

/-- The first escape of a control character. -/
def controlEscape? : List Char → Option (List Char)
  | [] => none
  | '%' :: a :: b :: rest =>
    if (Text.ofHex? [a, b]).any fun n => n < 0x20 || n = 0x7f then some ['%', a, b]
    else controlEscape? (a :: b :: rest)
  | _ :: rest => controlEscape? rest

/-- What a host holds that no host may hold. -/
def hostProblem? (host : List Char) : Option AddressProblem :=
  match host.find? fun c => c.toNat ≤ 0x20 || c.toNat = 0x7f, controlEscape? host with
  | some c, _ => some (.badHostChar (String.ofList host) c)
  | none, some escape => some (.badHostEscape (String.ofList host) (String.ofList escape))
  | none, none => none

/-- The parts of the authority of an address. -/
def Authority.ofText (url text : List Char) : Except AddressProblem Authority := do
  let hostText := (text.reverse.takeWhile (· != '@')).reverse
  let user := text.take (text.length - hostText.length - 1)
  match hostAndService? hostText with
  | none => throw (.badHost (String.ofList hostText))
  | some (_, .tooLarge) => throw (.badService (String.ofList url))
  | some (host, service) =>
    match hostProblem? host with
    | some problem => throw problem
    | none => return ⟨if user.isEmpty then none else some user, host, service⟩

/-- A zone as it is sent: the percent sign before it may be escaped, and is not
afterwards. -/
def preparedZone : List Char → List Char
  | '%' :: '2' :: '5' :: c :: name => '%' :: encodeOutside Text.isUnreserved (c :: name)
  | '%' :: name => '%' :: encodeOutside Text.isUnreserved name
  | _ => []

/-- A number in brackets as it is sent. -/
def preparedNumber (host : List Char) : List Char :=
  let body := (host.drop 1).dropLast
  '[' :: (body.takeWhile (· != '%')).map Char.toLower ++
    preparedZone (body.dropWhile (· != '%')) ++ [']']

/-- Whether a text is a number: decimal digits, or hexadecimal ones after `0x`. -/
def isNumeral : List Char → Bool
  | '0' :: x :: digit :: digits =>
    if x = 'x' || x = 'X' then (digit :: digits).all fun c => (Text.hexValue? c).isSome
    else ('0' :: x :: digit :: digits).all Char.isDigit
  | digits => !digits.isEmpty && digits.all Char.isDigit

/-- Whether a host is one to four numbers with points between. It is sent as it is
written. -/
def isNumeric (host : List Char) : Bool :=
  let groups := Text.splitAt '.' host
  groups.length ≤ 4 && groups.all isNumeral

/-- A label of a host name as it is sent. -/
def preparedLabel (label : List Char) : Except AddressProblem (List Char) :=
  if label.all Text.Punycode.isPlain then .ok (label.map Char.toLower)
  else match plainLabel? (Text.smallFrom [] label) with
    | some plain => .ok plain
    | none => .error (.badLabel (String.ofList label))

/-- A host of the web as it is sent. -/
def preparedHost (host : List Char) : Except AddressProblem (List Char) := do
  if isBracketed host then return preparedNumber host
  if isNumeric host then return host
  let labels ← (Text.splitAt '.' host).mapM preparedLabel
  return (normalizeEscapes (Text.joinWith ['.'] labels)).1

/-- The points that separate labels in the scripts of the world. -/
def isPoint (c : Char) : Bool := ['.', '\u3002', '\uff0e', '\uff61'].contains c

/-- The labels of a host name with all kinds of points. -/
def labelsOf (name : List Char) : List (List Char) :=
  Text.splitAt '.' (name.map fun c => if isPoint c then '.' else c)

/-- A host name in plain characters, of which there are at most 253 and a point at the
end; nothing if it is no host name. -/
def plainName? (name : List Char) : Option (List Char) := do
  let mapped := mappedName name
  if name.length > 1024 || mapped.length > 254 then none
  let labels := labelsOf mapped
  let isOpen := labels.getLast? != some []
  let plain ← (if isOpen then labels else labels.dropLast).mapM plainLabel?
  let result := Text.joinWith ['.'] plain
  if plain.isEmpty || result.length > 253 then none
  return if isOpen then result else result ++ ['.']

/-- A host in plain characters: one that has others becomes a host name, and one that
has none starts with neither a star nor a point. -/
def sentHost (host : List Char) : Except AddressProblem (List Char) :=
  if host.all Text.Punycode.isPlain then
    if host.head? == some '*' || host.head? == some '.' then .error .badName else .ok host
  else match plainName? host with
    | some plain => .ok plain
    | none => .error .badName

end CallChain.Address
