/-
# Documents of sequences

A sequence is shared as a JSON document: a list of entries, one for each step, and
the transformations of its records. References to other steps are written as
places, so that a document means the same in every session.
-/

import CallChain.Report.Transformation
import CallChain.Json.Writer
import CallChain.Step.Basic

namespace CallChain

/-- The entry of a step. -/
structure Entry where
  /-- The name of the method, as it was written. -/
  method : String
  /-- The path template. -/
  path : String
  /-- One line on the endpoint. -/
  summary : String := ""
  /-- What the endpoint does. -/
  description : String := ""
  /-- The groups of the endpoint. -/
  tags : List String := []
  /-- The parameters. -/
  parameters : Parameters := {}
  /-- The expressions that parameters are bound to. -/
  mappings : Fields String := []
  /-- The settings of the iteration, when it is enabled. -/
  iteration : Option Iteration := none
  deriving DecidableEq

/-- The document of a sequence. -/
structure SequenceDocument where
  /-- The version of the format. -/
  version : String
  /-- The name of the sequence. -/
  name : String
  /-- What the sequence does. -/
  description : String
  /-- The entries, in the order of the steps. -/
  sequence : List Entry
  /-- The transformations. -/
  transformations : Transformations
  /-- When the document was made. -/
  timestamp : String
  /-- The base address of the session that it was made in. -/
  baseUrl : String
  deriving DecidableEq

/-- The version of the format. -/
def formatVersion : String := "1.0"

/-- Fields of texts as an object. -/
def textObject (fields : Fields String) : Value := .object (fields.mapValues .text)

/-- A list of texts as a value. -/
def textList (texts : List String) : Value := .list (texts.map .text)

namespace Parameters

/-- Parameters as an object. -/
def toValue (p : Parameters) : Value :=
  .object [("path", textObject p.path), ("query", .object (p.query.mapValues QueryValue.toValue)),
    ("body", (p.body.map Value.text).getD .null)]

end Parameters

namespace Iteration

/-- Settings of an iteration as an object. -/
def toValue (i : Iteration) : Value :=
  .object [("enabled", .bool i.enabled), ("sourceExpression", .text i.source),
    ("loopVariable", .text i.loopVariable), ("unifyResults", .bool i.unifyResults)]

end Iteration

namespace Transformations

/-- Transformations as an object; a column also lists the fields that it names. -/
def toValue (t : Transformations) : Value :=
  .object [
    ("fieldMappings", .list (t.mappings.map fun m =>
      .object [("sourceField", .text m.source), ("targetField", .text m.target)])),
    ("unifiedColumns", .list (t.columns.map fun c =>
      .object [("name", .text c.name), ("formatTemplate", .text c.template),
        ("sourceFields", textList c.sourceFields)]))]

end Transformations

namespace Entry

/-- An entry as an object. -/
def toValue (e : Entry) : Value :=
  .object [("method", .text e.method), ("path", .text e.path), ("summary", .text e.summary),
    ("description", .text e.description), ("tags", textList e.tags),
    ("parameters", e.parameters.toValue), ("variableMappings", textObject e.mappings),
    ("iteration", (e.iteration.map Iteration.toValue).getD .null)]

/-- The entry that an object describes. -/
def ofValue? (v : Value) : Option Entry := do
  let fields ← v.object?
  let method ← Fields.required? fields "method" Value.text?
  let path ← Fields.required? fields "path" Value.text?
  let summary ← Fields.member? fields ["summary"] "" Value.text?
  let description ← Fields.member? fields ["description"] "" Value.text?
  let tags ← Fields.member? fields ["tags"] [] Value.texts?
  let parameters ← Fields.member? fields ["parameters"] {} Parameters.ofValue?
  let mappings ← Fields.member? fields ["variableMappings", "variable_mappings"] []
    (Value.fieldsOf? Value.text?)
  let iteration ← Fields.member? fields ["iteration"] none (Value.optional? Iteration.ofValue?)
  return { method, path, summary, description, tags, parameters, mappings, iteration }

end Entry

namespace SequenceDocument

/-- A document as an object. -/
def toValue (d : SequenceDocument) : Value :=
  .object [("version", .text d.version), ("name", .text d.name),
    ("description", .text d.description), ("sequence", .list (d.sequence.map Entry.toValue)),
    ("dataTransformations", d.transformations.toValue), ("timestamp", .text d.timestamp),
    ("baseUrl", .text d.baseUrl)]

/-- The text of a document. -/
def text (d : SequenceDocument) : String := Json.indentedRaw d.toValue

/-- A sequence of two steps that shows the format: the workspaces, and the projects
of the first one. -/
def sample (timestamp : String) : Value :=
  let entry := fun (path summary description tag : String) (query : Fields String) =>
    Value.object [("method", .text "GET"), ("path", .text path), ("summary", .text summary),
      ("description", .text description), ("tags", textList [tag]),
      ("parameters", .object [("path", .object []), ("query", textObject query),
        ("body", .null)]),
      ("variableMappings", .object [])]
  .object [("version", .text formatVersion), ("name", .text "Sample Workspace -> Projects Flow"),
    ("description", .text "Demonstrates workspace to projects API workflow pattern"),
    ("sequence", .list [
      entry "/workspaces" "Get available workspaces"
        "Retrieves all workspaces accessible to the authenticated user" "workspaces"
        [("limit", "10"), ("opt_fields", "gid,name,is_organization")],
      entry "/projects" "Get projects in workspace"
        "Retrieves projects from the first workspace" "projects"
        [("limit", "5"), ("opt_fields", "gid,name,completed,archived"),
          ("workspace", "\x7b\x7bstep0.data[0].gid\x7d\x7d")]]),
    ("dataTransformations", .object [("fieldMappings", .list []), ("unifiedColumns", .list [])]),
    ("timestamp", .text timestamp), ("baseUrl", .text "https://app.asana.com/api/1.0")]

end SequenceDocument

end CallChain
