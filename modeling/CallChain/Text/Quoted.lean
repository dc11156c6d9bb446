/-
# Quoted text

Inside a displayed list or object a text stands between quotes, so that its ends
and its hidden characters can be seen. The quote is the single one unless the
text holds single quotes and no double ones.
-/

import CallChain.Text.Hex
import CallChain.Text.Visible

namespace CallChain.Text

/-- The quote around a text: single, unless only single ones occur inside. -/
def quoteFor (text : List Char) : Char :=
  if text.contains '\'' && !text.contains '"' then '"' else '\''

/-- How a character is written between the given quotes. -/
def quoteChar (quote : Char) (c : Char) : List Char :=
  if c = quote || c = '\\' then ['\\', c]
  else if c = '\n' then ['\\', 'n']
  else if c = '\r' then ['\\', 'r']
  else if c = '\t' then ['\\', 't']
  else if isVisible c then [c]
  else if c.toNat < 0x100 then '\\' :: 'x' :: toHex 2 c.toNat
  else if c.toNat < 0x10000 then '\\' :: 'u' :: toHex 4 c.toNat
  else '\\' :: 'U' :: toHex 8 c.toNat

/-- A text between quotes, with the quote, the backslash and hidden characters
escaped. -/
def quoted (text : String) : String :=
  let quote := quoteFor text.toList
  String.ofList (quote :: text.toList.flatMap (quoteChar quote) ++ [quote])

end CallChain.Text
