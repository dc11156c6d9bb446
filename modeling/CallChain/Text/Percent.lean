/-
# Percent-encoding

A value that goes into the path or the query of an address is written in UTF-8,
and every byte outside the unreserved characters becomes `%XX`. The encoding
leaves no delimiter of an address in the text, and `percentDecode?` reads it
back.
-/

import CallChain.Text.Hex

namespace CallChain.Text

/-- The characters that stand for themselves everywhere in an address: letters,
digits and `_ . - ~`. -/
def isUnreserved (c : Char) : Bool :=
  c.isAlphanum || c = '_' || c = '.' || c = '-' || c = '~'

/-- The escape of one byte. -/
def percentByte (byte : UInt8) : List Char :=
  ['%', capitalHexDigit (byte.toNat / 16), capitalHexDigit (byte.toNat % 16)]

/-- The escapes of all bytes of a character. -/
def percentChar (c : Char) : List Char := (String.utf8EncodeChar c).flatMap percentByte

/-- A text with every character but the unreserved ones escaped. -/
def percentEncode (text : String) : String :=
  String.ofList (text.toList.flatMap fun c => if isUnreserved c then [c] else percentChar c)

/-- A text as it stands in a query: percent-encoded, with `+` for the space. -/
def queryEncode (text : String) : String :=
  String.ofList (text.toList.flatMap fun c =>
    if isUnreserved c then [c] else if c = ' ' then ['+'] else percentChar c)

/-- The bytes that a text of plain characters and escapes writes; nothing for an
escape without two hexadecimal digits. -/
def percentBytes? : List Char → Option (List UInt8)
  | [] => some []
  | '%' :: high :: low :: rest => do
    let h ← hexValue? high
    let l ← hexValue? low
    let bytes ← percentBytes? rest
    return UInt8.ofNat (16 * h + l) :: bytes
  | c :: rest => do
    if c = '%' then none
    let bytes ← percentBytes? rest
    return String.utf8EncodeChar c ++ bytes

/-- The bytes of a text once its escapes are undone. A percent sign that starts no
escape stands for itself. -/
def unescapedBytes : List Char → List UInt8
  | [] => []
  | '%' :: high :: low :: rest =>
    match ofHex? [high, low] with
    | some byte => UInt8.ofNat byte :: unescapedBytes rest
    | none => String.utf8EncodeChar '%' ++ unescapedBytes (high :: low :: rest)
  | c :: rest => String.utf8EncodeChar c ++ unescapedBytes rest

/-- The text whose percent-encoding is given; nothing if an escape is cut off or
the bytes are no UTF-8. -/
def percentDecode? (text : String) : Option String := do
  let bytes ← percentBytes? text.toList
  String.fromUTF8? (ByteArray.mk bytes.toArray)

end CallChain.Text
