/-
# Selecting endpoints

A selection narrows a catalog by method, tag, search term and path patterns. A
part that is not given, or is empty, selects everything; an endpoint is selected
when all parts accept it. The order of the catalog stays.
-/

import CallChain.Endpoint
import CallChain.Text.Blank
import CallChain.Text.Glob

namespace CallChain.Catalog

/-- What to select from a catalog. -/
structure Selection where
  /-- Patterns, one of which has to match; all endpoints match when there are none. -/
  patterns : List String := []
  /-- The name of a method, in capital or small letters. -/
  method : Option String := none
  /-- A piece of text to look for. -/
  search : Option String := none
  /-- The name of a group. -/
  tag : Option String := none

/-- Whether a part of a selection accepts, given or not. -/
def acceptsPart (part : Option String) (accepts : String → Bool) : Bool :=
  match part with
  | none => true
  | some s => s.isEmpty || accepts s

/-- Whether an endpoint has a method of this name. -/
def hasMethod (e : Endpoint) (name : String) : Bool := e.method.name = Text.capital name

/-- Whether an endpoint belongs to a group, capital and small letters being alike. -/
def hasTag (e : Endpoint) (tag : String) : Bool :=
  (e.tags.map Text.small).contains (Text.small tag)

/-- Whether a piece of text occurs in what the catalog says about an endpoint,
capital and small letters being alike. -/
def mentions (e : Endpoint) (term : String) : Bool :=
  ([e.path, e.summary, e.description, e.operationId] ++ e.tags).any fun s =>
    Text.occursIn (Text.small term).toList (Text.small s).toList

/-- Whether a pattern matches an endpoint: a glob for its path, or a method and a
glob. A blank pattern matches none. -/
def matchesPattern (e : Endpoint) (pattern : String) : Bool :=
  match Text.firstWord pattern with
  | none => false
  | some (glob, none) => Text.Glob.matches glob e.path
  | some (method, some glob) => hasMethod e method && Text.Glob.matches glob e.path

namespace Selection

/-- Whether all parts of a selection accept an endpoint. -/
def accepts (s : Selection) (e : Endpoint) : Bool :=
  acceptsPart s.method (hasMethod e) && acceptsPart s.tag (hasTag e) &&
    acceptsPart s.search (mentions e) &&
    (s.patterns.isEmpty || s.patterns.any (matchesPattern e))

/-- The endpoints that a selection accepts. -/
def select (s : Selection) (catalog : List Endpoint) : List Endpoint :=
  catalog.filter s.accepts

end Selection

end CallChain.Catalog
