/-
# Requests

A request is a method, an address, query parameters and an optional JSON body. The
body of a step's template may hold placeholders; `bodyText` fills them in so that
what is sent is JSON again.
-/

import CallChain.Fault
import CallChain.Json.Reader
import CallChain.Json.Writer
import CallChain.Reference.Resolver

namespace CallChain

/-- A request that is ready to be sent. -/
structure Request where
  /-- The method. -/
  method : String
  /-- The address, without the query parameters. -/
  url : String
  /-- The query parameters. -/
  query : Fields String := []
  /-- The JSON text of the body. -/
  body : Option String := none
  deriving DecidableEq

namespace Request

/-- Whether the body of a request can be written in UTF-8, given which characters are
taken for halves of pairs. -/
def hasEncodableBody (r : Request) (half : Char → Bool) : Bool :=
  r.body.all (Text.isEncodable half)

/-- The prepared address of a request, whose body is encoded first. -/
def prepare (r : Request) (half : Char → Bool) : Except Fault String :=
  if r.hasEncodableBody half then (Address.prepare r.url r.query half).mapError .badAddress
  else .error .notEncoded

end Request

namespace Body

/-- A text that has to be JSON. -/
def checked (text : String) : Except Fault String :=
  match Json.read text with
  | .ok _ => .ok text
  | .error e => .error (.ofRefusal (fun error => .step (.invalidBody error)) e)

mutual
/-- A value with the placeholders in its texts filled in; a text that is one
placeholder becomes the value of its expression. Names of fields stay. -/
def fill (r : Resolver) (scope : Fields Value) : Value → Except Fault Value
  | .list items => (fillItems r scope items).map .list
  | .object fields => (fillFields r scope fields).map .object
  | .text s => if Template.hasHole s then r.interpolate scope s else .ok (.text s)
  | other => .ok other

/-- The items of a list with their placeholders filled in. -/
def fillItems (r : Resolver) (scope : Fields Value) : List Value → Except Fault (List Value)
  | [] => .ok []
  | item :: items => do
    let filled ← fill r scope item
    let others ← fillItems r scope items
    return filled :: others

/-- The fields of an object with the placeholders of their values filled in. -/
def fillFields (r : Resolver) (scope : Fields Value) :
    List (String × Value) → Except Fault (List (String × Value))
  | [] => .ok []
  | (name, item) :: fields => do
    let filled ← fill r scope item
    let others ← fillFields r scope fields
    return (name, filled) :: others
end

/-- How many lists and objects may be nested in a template whose placeholders are
filled in, for a step that is run from nowhere deep: each takes two of a thousand calls
that may be open, of which the callers have thirty. -/
def fillLimit : Nat := 485

mutual
/-- Whether a value can be written with at most `levels` lists and objects inside each
other, or the first thing that cannot. -/
def checkWritable : Nat → Value → Except Fault Unit
  | _, .int n => if isWritable n then .ok () else .error (.badNumber .longNumber)
  | 0, .list _ | 0, .object _ => .error .nestedTooDeep
  | levels + 1, .list items => checkWritableItems levels items
  | levels + 1, .object fields => checkWritableFields levels fields
  | _, _ => .ok ()

/-- Whether all values of a list can be written. -/
def checkWritableItems (levels : Nat) : List Value → Except Fault Unit
  | [] => .ok ()
  | item :: items => do
    checkWritable levels item
    checkWritableItems levels items

/-- Whether the values of all fields can be written. -/
def checkWritableFields (levels : Nat) : List (String × Value) → Except Fault Unit
  | [] => .ok ()
  | (_, item) :: fields => do
    checkWritable levels item
    checkWritableFields levels fields
end

/-- A value as the text of a body. -/
def written (v : Value) : Except Fault String := do
  checkWritable Json.nestingLimit v
  return Json.compact v

/-- Whether a place of a JSON text is inside a text literal, and whether the
character there is escaped. -/
structure Place where
  /-- Inside a text literal. -/
  inText : Bool
  /-- After a backslash inside a text literal. -/
  escaped : Bool
  deriving DecidableEq

/-- The place after one more character. -/
def Place.after (p : Place) (c : Char) : Place :=
  if p.escaped then { p with escaped := false }
  else if p.inText && c = '\\' then { p with escaped := true }
  else if c = '"' then { p with inText := !p.inText }
  else p

/-- How a value is written at a place: as characters of the literal inside one, and
as JSON elsewhere. -/
def writeAt (p : Place) (v : Value) : List Char :=
  if p.inText then Json.textBody v.stringify else Json.compactChars v

/-- The characters that pieces of a JSON template make, from a place on. The
characters of a placeholder, and those put in its place, leave the place as it
is. -/
def fillPieces (r : Resolver) (scope : Fields Value) (p : Place) :
    List Piece → Except Fault (List Char)
  | [] => .ok []
  | .literal text :: pieces =>
    (fillPieces r scope (text.foldl Place.after p) pieces).map (text ++ ·)
  | .hole inner :: pieces => do
    let v ← r.resolve scope (String.ofList inner)
    let others ← fillPieces r scope p pieces
    return writeAt p v ++ others

/-- The body that a template makes. Without placeholders it is the template itself.
A template that is JSON is filled in as a value; any other is filled in as a text.
In each case the result has to be JSON. -/
def ofTemplate (r : Resolver) (scope : Fields Value) (template : String) :
    Except Fault String :=
  if Template.hasHole template then
    match Json.read template with
    | .ok v =>
      if fillLimit < v.nesting then .error .nestedTooDeep
      else (fill r scope v).bind written
    | .error (.number problem) => .error (.badNumber problem)
    | .error .tooDeep => .error .nestedTooDeep
    | .error (.malformed _) => do
      let chars ← fillPieces r scope ⟨false, false⟩ (Template.pieces template.toList)
      checked (String.ofList chars)
  else checked template

end Body

end CallChain
