/-
# Endpoints of an API document

An API document lists operations by path and method. An operation that can be read
is an endpoint of the catalog: its method is known, its path is a text, and what
is said about it has the right shape or is absent. Operations that cannot be read
are passed over. An operation without security schemes of its own has those of
the document.

What reads the document is a parameter. Names of security schemes and descriptions may
be values of any kind, of which the texts are taken; one without a text stops the
reading of the document.
-/

import CallChain.Endpoint
import CallChain.Files.Basic
import CallChain.Text.Blank
import CallChain.Yaml.Loader

namespace CallChain.Catalog

/-- Why a text is no API document. -/
inductive DocumentProblem where
  /-- It is not written correctly. -/
  | unreadable
  /-- It is no mapping. -/
  | notMapping
  /-- Its paths are present and no mapping. -/
  | pathsNotMapping
  /-- The name of its file cannot be used at all. -/
  | badFile (problem : FileProblem)
  /-- A number in it is not read or not written. -/
  | badNumber (problem : NumberProblem)
  /-- Its lists and mappings are nested too deeply. -/
  | tooDeep
  /-- What reads it fails in a way that nobody expects, of which the kind is known. -/
  | raised (kind : String)
  deriving DecidableEq

namespace DocumentProblem

/-- The wording of a problem. -/
def message : DocumentProblem → String
  | unreadable => "Cannot parse API document"
  | notMapping => "API document is not a mapping"
  | pathsNotMapping => "The paths of the API document are not a mapping"
  | badFile problem => problem.message
  | badNumber problem => problem.message
  | tooDeep => "The API document is nested too deeply"
  | raised kind => kind

/-- The problem of a text that is not read as a document. -/
def ofLoad : Yaml.LoadProblem → DocumentProblem
  | .malformed => unreadable
  | .number problem => badNumber problem
  | .tooDeep => tooDeep
  | .raised kind => raised kind

/-- The problem of a document that holds a value whose text cannot be written. -/
def ofText : Yaml.TextProblem → DocumentProblem
  | .longNumber => badNumber .longNumber
  | .tooDeep => tooDeep

end DocumentProblem

namespace ApiDocument

open Yaml (Loader Node Scalar TextProblem nodeAt?)

/-- An answer that rests on texts, unless there is a problem with one of them. -/
def ifWritten {α : Type} (problem : Option TextProblem) (answer : α) : Except DocumentProblem α :=
  match problem with
  | none => .ok answer
  | some problem => .error (.ofText problem)

/-- An optional member of an operation: a default when it is absent or empty. -/
def optional {α : Type} (entries : List (Scalar × Node)) (name : String) (default : α)
    (read : Node → Option α) : Option α :=
  match (nodeAt? entries name).filter Node.isTruthy with
  | some node => read node
  | none => some default

/-- The names of the security schemes that a list of requirements asks for. -/
def schemes (requirements : Option Node) : List String :=
  ((requirements.bind Node.list?).getD []).flatMap fun requirement =>
    (requirement.mapping?.getD []).map fun entry => entry.1.display

/-- Why the names of the security schemes that a list of requirements asks for cannot be
written, where a name counts as open. -/
def schemesProblem? (levels : Nat) (requirements : Option Node) : Option TextProblem :=
  ((requirements.bind Node.list?).getD []).findSome? fun requirement =>
    (requirement.mapping?.getD []).findSome? fun entry => entry.1.textProblem? (levels + 1)

/-- Why the texts that are made of the description and the security schemes of an
operation cannot be written. -/
def textProblem? (levels : Nat) (entries : List (Scalar × Node)) : Option TextProblem :=
  (((nodeAt? entries "description").filter Node.isTruthy).bind
    (Node.textProblem? (levels + 1))).or (schemesProblem? levels (nodeAt? entries "security"))

/-- The endpoint of an operation of a known method; nothing if it cannot be read. -/
def endpoint? (shared : List String) (path : Scalar) (method : Method)
    (entries : List (Scalar × Node)) : Option Endpoint := do
  let path ← path.text?
  let summary ← optional entries "summary" "" Node.text?
  let description ← optional entries "description" "" fun node =>
    some (Text.oneLine node.display)
  let tags ← optional entries "tags" [] Node.texts?
  let operationId ← optional entries "operationId" "" Node.text?
  let own := schemes (nodeAt? entries "security")
  return { method, path, summary, description, tags, operationId,
           security := if own.isEmpty then shared else own }

/-- The endpoints that an entry of a path gives: one if it is an operation of a known
method that can be read, and none otherwise. -/
def operationEndpoints (levels : Nat) (shared : List String) (path : Scalar)
    (entry : Scalar × Node) : Except DocumentProblem (List Endpoint) :=
  let method := match entry.1 with
    | .text name => Method.ofName? name
    | _ => none
  match method, entry.2.mapping? with
  | some method, some entries =>
    ifWritten (textProblem? levels entries) (endpoint? shared path method entries).toList
  | _, _ => .ok []

/-- The endpoints of the operations of one path. -/
def pathEndpoints (levels : Nat) (shared : List String) (path : Scalar) (methods : Node) :
    Except DocumentProblem (List Endpoint) :=
  ((methods.mapping?.getD []).mapM (operationEndpoints levels shared path)).map List.flatten

/-- The endpoints of a document, in its order. -/
def endpoints (levels : Nat) (document : Node) : Except DocumentProblem (List Endpoint) :=
  match document.mapping? with
  | none => .error .notMapping
  | some entries =>
    let paths := (nodeAt? entries "paths").filter Node.isTruthy
    let security := nodeAt? entries "security"
    match schemesProblem? levels security with
    | some problem => .error (.ofText problem)
    | none => match paths with
      | none => .ok []
      | some paths => match paths.mapping? with
        | none => .error .pathsNotMapping
        | some paths =>
          (paths.mapM fun entry => pathEndpoints levels (schemes security) entry.1 entry.2).map
            List.flatten

/-- The endpoints of the document that a text writes. -/
def ofText (text : String) (yaml : Loader := .plain) : Except DocumentProblem (List Endpoint) :=
  match yaml.load text with
  | .error problem => .error (.ofLoad problem)
  | .ok document => endpoints yaml.levels document

end ApiDocument

end CallChain.Catalog
