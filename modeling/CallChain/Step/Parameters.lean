/-
# Parameters of a step

The parameters of a step go into the path, the query and the body of its request.
`Parameters` are checked ones, as documents hold them: texts, and flags in the
query. `Inputs` are what a caller has entered into a session, where single values
may be replaced by values of any shape; `Inputs.parameters?` checks them.
-/

import CallChain.Value.Reading

namespace CallChain

/-- A checked value of a query parameter. -/
inductive QueryValue where
  /-- A text that is sent as it is, placeholders aside. -/
  | text (s : String)
  /-- A flag that is sent when it is set. -/
  | flag (b : Bool)
  deriving DecidableEq

/-- Checked parameters. -/
structure Parameters where
  /-- Texts for the parameters of the path. -/
  path : Fields String := []
  /-- Texts and flags for the query. -/
  query : Fields QueryValue := []
  /-- The text of the body. -/
  body : Option String := none
  deriving DecidableEq

/-- Parameters as a caller has entered them. -/
structure Inputs where
  /-- Values for the parameters of the path. -/
  path : Fields Value := []
  /-- Values for the query. -/
  query : Fields Value := []
  /-- The value for the body; null for none. -/
  body : Value := .null
  deriving DecidableEq

namespace QueryValue

/-- A checked value as an entered one. -/
def toValue : QueryValue → Value
  | text s => .text s
  | flag b => .bool b

/-- The checked value that a value stands for: a flag, a text, or a number as it
is displayed. -/
def ofValue? : Value → Option QueryValue
  | .bool b => some (flag b)
  | v => v.asText?.map text

/-- The value with its text replaced by its image. -/
def mapText (f : String → String) : QueryValue → QueryValue
  | text s => text (f s)
  | flag b => flag b

@[simp] theorem ofValue?_toValue (q : QueryValue) : ofValue? q.toValue = some q := by
  cases q <;> rfl

end QueryValue

namespace Inputs

/-- Checked parameters as entered ones. -/
def ofParameters (p : Parameters) : Inputs :=
  ⟨p.path.mapValues .text, p.query.mapValues QueryValue.toValue,
    (p.body.map Value.text).getD .null⟩

/-- The checked parameters that entered ones stand for; nothing if some value is
neither a text nor a number, nor a flag of the query, nor null for the body. -/
def parameters? (i : Inputs) : Option Parameters := do
  let path ← i.path.mapValues? Value.asText?
  let query ← i.query.mapValues? QueryValue.ofValue?
  let body ← Value.optional? Value.asText? i.body
  return ⟨path, query, body⟩

end Inputs

namespace Parameters

/-- The checked parameters that an object describes. -/
def ofValue? (v : Value) : Option Parameters := do
  let fields ← v.object?
  let path ← Fields.member? fields ["path"] [] (Value.fieldsOf? Value.asText?)
  let query ← Fields.member? fields ["query"] [] (Value.fieldsOf? QueryValue.ofValue?)
  let body ← Fields.member? fields ["body"] none (Value.optional? Value.asText?)
  return ⟨path, query, body⟩

/-- The parameters with every text replaced by its image. -/
def mapText (f : String → String) (p : Parameters) : Parameters :=
  ⟨p.path.mapValues f, p.query.mapValues (QueryValue.mapText f), p.body.map f⟩

/-- The texts of the parameters, in order. -/
def texts (p : Parameters) : List String :=
  p.path.map Prod.snd ++
    p.query.filterMap (fun entry => match entry.2 with
      | .text s => some s
      | .flag _ => none) ++ p.body.toList

end Parameters

end CallChain
