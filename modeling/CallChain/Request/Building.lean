/-
# Building the request of a step

Every parameter goes through one rule: a binding counts before the value that was
entered, and placeholders inside an entered text are filled in. Parameters of the
path have to have a text and are percent-encoded; parameters of the query without
a value are left out, a page size is added where none is given, and a body is
sent only with the methods that accept one.
-/

import CallChain.Request.Basic
import CallChain.Step.Basic
import CallChain.Text.Half
import CallChain.Text.Percent

namespace CallChain

/-- What all requests of a session share. -/
structure Builder where
  /-- What every address starts with. -/
  baseUrl : String
  /-- The page size that is asked for when a step asks for none. -/
  defaultLimit : Int := 10
  /-- Which characters are taken for halves of pairs. -/
  isHalf : Char → Bool := Text.isHalf

namespace Builder

/-- The name of the query parameter for the page size. -/
def limitName : String := "limit"

/-- The name of the query parameter for readable replies. -/
def prettyName : String := "opt_pretty"

/-- The value of a parameter: of its binding if it has one, else of the entered
value with placeholders filled in. -/
def parameterValue (s : Step) (r : Resolver) (scope : Fields Value) (name : String)
    (entered : Value) : Except Fault Value :=
  match (s.mappings.get? name).filter (· ≠ "") with
  | some expression => r.resolve scope expression
  | none => match entered with
    | .text text => if Template.hasHole text then r.interpolate scope text else .ok (.text text)
    | other => .ok other

/-- A path template with every occurrence of a parameter replaced by its encoded
text. -/
def fillParameter (path : String) (name text : String) : String :=
  String.ofList (Text.replaceAll ('\x7b' :: name.toList ++ ['\x7d'])
    (Text.percentEncode text).toList path.toList)

/-- A path template with the given parameters filled in, one after another. A text
that cannot be written in UTF-8 is not encoded. -/
def fillPath (b : Builder) (s : Step) (r : Resolver) (scope : Fields Value) :
    List String → String → Except Fault String
  | [], path => .ok path
  | name :: names, path => do
    let v ← parameterValue s r scope name ((s.inputs.path.get? name).getD (.text ""))
    let text := Text.trim v.stringify
    if text = "" then throw (.step (.missingParameter name))
    if !Text.isEncodable b.isHalf text then throw .notEncoded
    fillPath b s r scope names (fillParameter path name text)

/-- The names of the query: the entered parameters, and the bindings of others that
are not parameters of the path. -/
def queryNames (s : Step) : List String :=
  s.inputs.query.keys ++ s.mappings.keys.filter fun name =>
    !s.inputs.query.has name && !s.endpoint.parameterNames.contains name

/-- Whether a parameter has an expression to be resolved. -/
def isBound (s : Step) (name : String) : Bool :=
  ((s.mappings.get? name).filter (· ≠ "")).isSome

/-- The text with which a value is sent in the query; nothing for null, a flag that
is not set, and the empty text. -/
def queryText? : Value → Option String
  | .null => none
  | .bool b => if b then some "true" else none
  | .text s => if s = "" then none else some s
  | other => some other.stringify

/-- The value of a parameter of the query. A flag that is not bound is its own
value. -/
def queryValue (s : Step) (r : Resolver) (scope : Fields Value) (name : String) :
    Except Fault Value :=
  parameterValue s r scope name ((s.inputs.query.get? name).getD (.text ""))

/-- The query parameters that names contribute, in order. -/
def queryEntries (s : Step) (r : Resolver) (scope : Fields Value) :
    List String → Except Fault (Fields String)
  | [] => .ok []
  | name :: names => do
    let v ← queryValue s r scope name
    let others ← queryEntries s r scope names
    return match queryText? v with
      | some text => (name, text) :: others
      | none => others

/-- The query of a step's request. -/
def query (b : Builder) (s : Step) (r : Resolver) (scope : Fields Value) :
    Except Fault (Fields String) := do
  let entries ← queryEntries s r scope (queryNames s)
  let limited := if entries.has limitName then entries
    else entries ++ [(limitName, Text.intText b.defaultLimit)]
  return limited.set prettyName "true"

/-- The body of a step's request: none for methods without one and for a blank
template. -/
def body (s : Step) (r : Resolver) (scope : Fields Value) : Except Fault (Option String) :=
  if s.endpoint.method.acceptsBody && s.inputs.body.isTruthy then
    match s.inputs.body with
    | .text template =>
      if Text.isBlankText template then .ok none
      else (Body.ofTemplate r scope (Text.trim template)).map some
    | _ => .error .bodyNotText
  else .ok none

/-- The request of a step. -/
def build (b : Builder) (s : Step) (r : Resolver) (scope : Fields Value) :
    Except Fault Request := do
  let path ← b.fillPath s r scope s.endpoint.parameterNames s.endpoint.path
  let query ← b.query s r scope
  let body ← body s r scope
  return {
    method := s.endpoint.method.name
    url := Text.dropTrailing '/' b.baseUrl ++ path
    query
    body }

end Builder

end CallChain
