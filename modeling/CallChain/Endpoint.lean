/-
# Endpoints

An endpoint is a method and a path template, with what a catalog says about it.
The parameters of a path are the names between single braces in its template.
-/

import CallChain.Text.Case
import CallChain.Value.Reading

namespace CallChain

/-- A request method. -/
inductive Method where
  | get | post | put | patch | delete | head | options
  deriving DecidableEq, Repr

namespace Method

/-- All methods. -/
def all : List Method := [get, post, put, patch, delete, head, options]

/-- The name of a method. -/
def name : Method → String
  | get => "GET"
  | post => "POST"
  | put => "PUT"
  | patch => "PATCH"
  | delete => "DELETE"
  | head => "HEAD"
  | options => "OPTIONS"

/-- The method of a name, in capital or small letters. -/
def ofName? (text : String) : Option Method :=
  all.find? fun m => m.name = Text.capital text

/-- Whether requests of a method carry a body. -/
def acceptsBody : Method → Bool
  | post | put | patch => true
  | _ => false

@[simp] theorem ofName?_name (m : Method) : ofName? m.name = some m := by
  cases m <;> decide

theorem name_injective {m n : Method} (h : m.name = n.name) : m = n := by
  have hm := ofName?_name m
  rw [h, ofName?_name] at hm
  exact (Option.some.inj hm).symm

end Method

/-- An endpoint of the service. -/
structure Endpoint where
  /-- The method of its requests. -/
  method : Method
  /-- The template of its path; parameters stand between braces. -/
  path : String
  /-- One line on what it does. -/
  summary : String := ""
  /-- What it does. -/
  description : String := ""
  /-- The groups that it belongs to. -/
  tags : List String := []
  /-- Its name in the catalog. -/
  operationId : String := ""
  /-- The security schemes that it asks for. -/
  security : List String := []
  deriving DecidableEq

namespace Endpoint

/-- The name that a path template holds at its start: at least one character
between an opening brace and the next closing one. -/
def parameterAt? : List Char → Option (List Char)
  | '\x7b' :: rest =>
    let name := rest.takeWhile (· != '\x7d')
    if name.isEmpty || name.length = rest.length then none else some name
  | _ => none

/-- The parameter names of a path template, from the left and without overlaps.
`skip` counts the characters of a parameter still to be passed. -/
def parametersFrom : Nat → List Char → List (List Char)
  | _, [] => []
  | skip + 1, _ :: rest => parametersFrom skip rest
  | 0, c :: rest =>
    match parameterAt? (c :: rest) with
    | some name => name :: parametersFrom (name.length + 1) rest
    | none => parametersFrom 0 rest

/-- The parameter names of an endpoint, in the order of its path; a name that
occurs twice is listed twice. -/
def parameterNames (e : Endpoint) : List String :=
  (parametersFrom 0 e.path.toList).map String.ofList

/-- The method and the path template. -/
def label (e : Endpoint) : String := e.method.name ++ " " ++ e.path

/-- What tells endpoints of a catalog apart. -/
def key (e : Endpoint) : Method × String := (e.method, e.path)

/-- The endpoint that an object describes. -/
def ofValue? (v : Value) : Option Endpoint := do
  let fields ← v.object?
  let method ← Fields.required? fields "method" fun m => m.text?.bind Method.ofName?
  let path ← Fields.required? fields "path" Value.text?
  let summary ← Fields.member? fields ["summary"] "" Value.text?
  let description ← Fields.member? fields ["description"] "" Value.text?
  let tags ← Fields.member? fields ["tags"] [] Value.texts?
  let operationId ← Fields.member? fields ["operation_id"] "" Value.text?
  let security ← Fields.member? fields ["security"] [] Value.texts?
  return { method, path, summary, description, tags, operationId, security }

end Endpoint

end CallChain
