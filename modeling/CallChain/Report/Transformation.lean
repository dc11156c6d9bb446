/-
# Transformations of records

The records of a final result are turned into rows by field mappings and unified
columns. A mapping copies a flat field under another name; a column fills the
fields that its template names between braces into a text. Filling in is done
once: braces in the values of fields are not read again.
-/

import CallChain.Report.Record
import CallChain.Value.Display

namespace CallChain

/-- A copy of a field under another name. -/
structure FieldMapping where
  /-- The flat field that is copied. -/
  source : String := ""
  /-- The name of the copy. -/
  target : String := ""
  deriving DecidableEq

/-- A column made from several fields. -/
structure UnifiedColumn where
  /-- The name of the column. -/
  name : String := ""
  /-- A text that names fields between braces. -/
  template : String := ""
  deriving DecidableEq

/-- How records become rows. -/
structure Transformations where
  /-- The fields that are copied. -/
  mappings : List FieldMapping := []
  /-- The columns that are made. -/
  columns : List UnifiedColumn := []
  deriving DecidableEq

/-- A stretch of the template of a column. -/
inductive ColumnPiece where
  /-- A character that stands for itself. -/
  | char (c : Char)
  /-- The value of a field. -/
  | field (name : List Char)
  deriving DecidableEq

namespace ColumnPiece

/-- The field that a text starts with: at least one character other than braces
between an opening and a closing brace. -/
def fieldAt? : List Char → Option (List Char)
  | '\x7b' :: rest =>
    let isInner := fun c => c != '\x7b' && c != '\x7d'
    let name := rest.takeWhile isInner
    if !name.isEmpty && (rest.dropWhile isInner).head? == some '\x7d' then some name else none
  | _ => none

/-- The pieces of a template. `skip` counts the characters of a field still to be
passed. -/
def ofTextFrom : Nat → List Char → List ColumnPiece
  | _, [] => []
  | skip + 1, _ :: rest => ofTextFrom skip rest
  | 0, c :: rest =>
    match fieldAt? (c :: rest) with
    | some name => field name :: ofTextFrom (name.length + 1) rest
    | none => char c :: ofTextFrom 0 rest

/-- The pieces of a template. -/
def ofText (template : String) : List ColumnPiece := ofTextFrom 0 template.toList

/-- The field that a piece names. -/
def name? : ColumnPiece → Option String
  | field name => some (String.ofList name)
  | char _ => none

/-- The text of a piece, for a record. -/
def fill (record : Fields Value) : ColumnPiece → List Char
  | char c => [c]
  | field name =>
    ((record.get? (String.ofList name)).getD .null).stringify.toList

end ColumnPiece

namespace UnifiedColumn

/-- The fields that the template of a column names, in order. -/
def sourceFields (c : UnifiedColumn) : List String :=
  (ColumnPiece.ofText c.template).filterMap ColumnPiece.name?

/-- A template with its fields filled in. -/
def render (template : String) (record : Fields Value) : String :=
  String.ofList ((ColumnPiece.ofText template).flatMap (ColumnPiece.fill record))

/-- The column that an object describes. -/
def ofValue? (v : Value) : Option UnifiedColumn := do
  let fields ← v.object?
  let name ← Fields.member? fields ["name"] "" Value.text?
  let template ← Fields.member? fields ["formatTemplate", "format_template"] "" Value.text?
  return ⟨name, template⟩

end UnifiedColumn

namespace FieldMapping

/-- The mapping that an object describes. -/
def ofValue? (v : Value) : Option FieldMapping := do
  let fields ← v.object?
  let source ← Fields.member? fields ["sourceField", "source_field"] "" Value.text?
  let target ← Fields.member? fields ["targetField", "target_field"] "" Value.text?
  return ⟨source, target⟩

end FieldMapping

namespace Transformations

/-- How many mappings and columns there are. -/
def count (t : Transformations) : Nat := t.mappings.length + t.columns.length

/-- The transformations that an object describes. -/
def ofValue? (v : Value) : Option Transformations := do
  let fields ← v.object?
  let mappings ← Fields.member? fields ["fieldMappings", "field_mappings"] []
    (Value.listOf? FieldMapping.ofValue?)
  let columns ← Fields.member? fields ["unifiedColumns", "unified_columns"] []
    (Value.listOf? UnifiedColumn.ofValue?)
  return ⟨mappings, columns⟩

/-- A row with a mapping applied. A mapping without a source or a target is passed
over; a field without a value is copied as the empty text. -/
def applyMapping (flat row : Fields Value) (m : FieldMapping) : Fields Value :=
  if m.source = "" || m.target = "" then row
  else
    let value := match flat.get? m.source with
      | none | some .null => .text ""
      | some v => v
    row.set m.target value

/-- A row with a column added. A column without a name or a template is passed
over. -/
def applyColumn (flat row : Fields Value) (c : UnifiedColumn) : Fields Value :=
  if c.name = "" || c.template = "" then row
  else row.set c.name (.text (UnifiedColumn.render c.template flat))

/-- The row of a flat record. -/
def row (t : Transformations) (flat : Fields Value) : Fields Value :=
  t.columns.foldl (applyColumn flat) (t.mappings.foldl (applyMapping flat) [])

/-- One row for each record, in order. -/
def apply (t : Transformations) (records : List Value) : List (Fields Value) :=
  records.map fun record => t.row (Record.flatten record)

end Transformations

namespace Record

/-- The flat fields of the first record. -/
def sampleFields (records : List Value) : List String :=
  match records with
  | [] => []
  | record :: _ => (flatten record).keys

/-- The flat fields of the first record, in the order of their code points. -/
def availableFields (records : List Value) : List String :=
  (sampleFields records).mergeSort fun a b => decide (a ≤ b)

/-- A mapping of each field of the first record to itself. -/
def identityMappings (records : List Value) : List FieldMapping :=
  (sampleFields records).map fun name => ⟨name, name⟩

end Record

end CallChain
