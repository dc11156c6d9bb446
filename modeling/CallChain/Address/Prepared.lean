/-
# Prepared addresses

Before a request is sent its address is prepared: the scheme and the host are
written as they are sent, dot segments of the path are resolved, the query parameters
are appended, and every character that may not stand in an address is escaped, while
escapes that are already there are kept. An address without a scheme or without a
usable host cannot be prepared. An address of a scheme other than the web's is
left as it is.
-/

import CallChain.Address.Escaped
import CallChain.Address.Host
import CallChain.Address.Problem
import CallChain.Address.Sendable
import CallChain.Fields
import CallChain.Text.Blank
import CallChain.Text.Case
import CallChain.Text.Half

namespace CallChain.Address

/-- The segments of a path without dot segments: a single dot is dropped, a double
one takes the segment before it along. `kept` holds the segments kept so far, last
one first. -/
def resolveDots (kept : List (List Char)) : List (List Char) → List (List Char)
  | [] => kept.reverse
  | ['.'] :: rest => resolveDots kept rest
  | ['.', '.'] :: rest => resolveDots (kept.drop 1) rest
  | segment :: rest => resolveDots (segment :: kept) rest

/-- A path without dot segments. -/
def withoutDots (path : List Char) : List Char :=
  let segments := Text.splitAt '/' path
  let kept := resolveDots [] segments
  let fromRoot := path.head? == some '/' && (kept.head?.map (!·.isEmpty)).getD true
  let toFolder := segments.length > 1 &&
    (segments.getLast? == some ['.'] || segments.getLast? == some ['.', '.'])
  Text.joinWith ['/'] ((if fromRoot then [[]] else []) ++ kept ++ (if toFolder then [[]] else []))

/-- The parts of an address as they are written. -/
structure Parts where
  /-- What stands before the first colon, in small letters. -/
  scheme : Option (List Char)
  /-- What stands between two slashes and the path. -/
  authority : Option (List Char)
  /-- The path. -/
  path : List Char
  /-- What follows the first question mark. -/
  query : Option (List Char)
  /-- What follows the number sign. -/
  fragment : Option (List Char)

/-- The parts of an address. A text that starts with neither a scheme nor a slash
is taken to start with its host. -/
def Parts.ofText (url : List Char) : Parts :=
  let startsWithScheme := match Text.cutAt ':' url with
    | (c :: scheme, some _) => c.isAlpha && scheme.all fun d => isSchemeChar d && d != '.'
    | _ => false
  let text := if startsWithScheme || url.head? == some '/' then url else '/' :: '/' :: url
  let (scheme, rest) := splitScheme text
  let (authority, rest) := match rest with
    | '/' :: '/' :: after =>
      let inside := fun c => !(['\\', '/', '?', '#'].contains c)
      (some (after.takeWhile inside), after.dropWhile inside)
    | _ => (none, rest)
  let (front, fragment) := Text.cutAt '#' rest
  let (path, query) := Text.cutAt '?' front
  ⟨scheme, authority, path, query, fragment⟩

/-- Whether addresses of a scheme have their parts normalized. -/
def isWebScheme (scheme : Option (List Char)) : Bool :=
  scheme == none || scheme == some "http".toList || scheme == some "https".toList

/-- Query parameters as they stand in an address. -/
def queryText (query : Fields String) : List Char :=
  Text.joinWith ['&'] (query.map fun (name, value) =>
    (Text.queryEncode name).toList ++ '=' :: (Text.queryEncode value).toList)

/-- The authority of an address as it is sent. An address has to name a host. -/
def preparedAuthority (url : List Char) (parts : Parts) : Except AddressProblem (List Char) := do
  let web := isWebScheme parts.scheme
  let authority ← match parts.authority with
    | none | some [] => pure ⟨none, [], .unset⟩
    | some text => Authority.ofText url text
  let host ← if web then preparedHost authority.host else pure authority.host
  if parts.scheme.isNone then throw (.missingScheme (String.ofList url))
  if host.isEmpty then throw (.missingHost (String.ofList url))
  let name ← sentHost host
  let user := (authority.user.map fun u =>
    (if web then encodeOutside isUserChar u else u) ++ ['@']).getD []
  let service := match authority.service with
    | .number n => ':' :: (Text.natText n).toList
    | .unset | .tooLarge => []
  return user ++ name ++ service

/-- The address of a request with its parts as they are sent. The texts of the query
have to be ones that can be written in UTF-8. -/
def assembled (url : List Char) (query : Fields String) (half : Char → Bool) :
    Except AddressProblem (List Char) := do
  let parts := Parts.ofText url
  let authority ← preparedAuthority url parts
  if query.any (fun (name, value) => !(Text.isEncodable half name && Text.isEncodable half value))
    then throw .badQuery
  let web := isWebScheme parts.scheme
  let encoded := fun (allowed : Char → Bool) (text : List Char) =>
    if web then encodeOutside allowed text else text
  let clean := if web then encodeOutside isPathChar (withoutDots parts.path) else parts.path
  let path := if clean.head? == some '/' then clean else '/' :: clean
  let written := (parts.query.map (encoded isQueryChar)).getD []
  let added := queryText query
  let whole := if added.isEmpty then written
    else if written.isEmpty then added else written ++ '&' :: added
  let fragment := (parts.fragment.map (encoded isQueryChar)).getD []
  return requote (parts.scheme.getD [] ++ "://".toList ++ authority ++ path ++
    (if whole.isEmpty then [] else '?' :: whole) ++
    (if fragment.isEmpty then [] else '#' :: fragment))

/-- The prepared address of a request, to which it can be sent, given which characters
are taken for halves of pairs. -/
def prepare (url : String) (query : Fields String) (half : Char → Bool := Text.isHalf) :
    Except AddressProblem String := do
  let chars := Text.trimStart url.toList
  let trimmed := String.ofList chars
  if chars.isEmpty then throw (.missingScheme trimmed)
  let isForeign := chars.contains ':' && !("http".toList.isPrefixOf (Text.small trimmed).toList)
  let prepared ← if isForeign then pure chars else assembled chars query half
  match sendingProblem? prepared with
  | some problem => throw problem
  | none => return String.ofList prepared

end CallChain.Address
