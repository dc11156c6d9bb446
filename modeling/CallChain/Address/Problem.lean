/-
# Problems with addresses

An address may not be one that a request can be sent to. Some of that shows while it
is prepared: these problems are failures of the transport to a step that is running.
The others show in the finished address, and no run puts up with them.
-/

import CallChain.Text.Quoted

namespace CallChain

/-- Why no request can be sent to an address. -/
inductive AddressProblem where
  /-- It has no scheme. -/
  | missingScheme (url : String)
  /-- It has no host. -/
  | missingHost (url : String)
  /-- What stands between the user part and the path is neither a host nor a host with
  a service number. -/
  | badHost (text : String)
  /-- A character may not stand in a host. -/
  | badHostChar (host : String) (c : Char)
  /-- A character may not stand in a host even when it is escaped. -/
  | badHostEscape (host escape : String)
  /-- The service number is too large. -/
  | badService (url : String)
  /-- A part of the host name is no label. -/
  | badLabel (label : String)
  /-- The host name of an address that is not of the web is no name. -/
  | badName
  /-- There are brackets in the authority other than around the host. -/
  | strayBracket
  /-- The host in brackets says that it is of a future form, which it is not. -/
  | badFutureForm
  /-- The host in brackets is a number of four bytes. -/
  | fourBytesInBrackets
  /-- The host in brackets is no number. -/
  | badNumber (text : String)
  /-- A character of the authority stands for several, one of them a delimiter. -/
  | hiddenDelimiter (authority : String)
  /-- The user part cannot be sent. -/
  | badUser
  /-- A text of the query cannot be written in UTF-8. -/
  | badQuery
  deriving DecidableEq, Repr

namespace AddressProblem

/-- The wording of a problem. -/
def message : AddressProblem → String
  | missingScheme url =>
    "Invalid URL " ++ Text.quoted url ++ ": No scheme supplied. Perhaps you meant https://" ++
      url ++ "?"
  | missingHost url => "Invalid URL " ++ Text.quoted url ++ ": No host supplied"
  | badHost text => "Failed to parse: " ++ Text.quoted text ++ " is not a valid host or port"
  | badHostChar host c =>
    "Failed to parse: Host " ++ Text.quoted host ++ " contains invalid character " ++
      Text.quoted (String.singleton c)
  | badHostEscape host escape =>
    "Failed to parse: Host " ++ Text.quoted host ++
      " contains invalid percent-encoded control character " ++ Text.quoted escape
  | badService url => "Failed to parse: " ++ url
  | badLabel label => "Failed to parse: Name '" ++ label ++ "' is not a valid IDNA label"
  | badName => "URL has an invalid label."
  | strayBracket => "Invalid IPv6 URL"
  | badFutureForm => "IPvFuture address is invalid"
  | fourBytesInBrackets => "An IPv4 address cannot be in brackets"
  | badNumber text => Text.quoted text ++ " does not appear to be an IPv4 or IPv6 address"
  | hiddenDelimiter authority =>
    "netloc '" ++ authority ++ "' contains invalid characters under NFKC normalization"
  | badUser => "The user part cannot be sent"
  | badQuery => "The query cannot be encoded"

/-- Whether a problem shows while the address is prepared, and is one of addresses
as such. -/
def showsInPreparation : AddressProblem → Bool
  | strayBracket | badFutureForm | fourBytesInBrackets | badNumber _ | hiddenDelimiter _
  | badUser | badQuery => false
  | _ => true

end AddressProblem

end CallChain
