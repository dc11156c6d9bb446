/-
# Tables in CSV

Rows become lines of fields separated by commas under a header with every name
that occurs in any row. A field that holds a comma, a quote or a line feed stands
between quotes, with each of its quotes doubled; so does the only field of a row
when it is empty. Writers do not agree on a field with a carriage return: whether it
stands between quotes is a parameter. `readRows` is the reader of this dialect.
-/

import CallChain.Json.Writer
import CallChain.Text.Basic
import CallChain.Value.Display

namespace CallChain.Table

/-- The text of a value in a cell. Of an object its name counts, else its gid,
else its JSON text. As for `Value.display`, whole numbers have no more digits than are
read. -/
def cell : Value → String
  | .null => ""
  | .bool true => "true"
  | .bool false => "false"
  | .list items => Json.compact (.list items)
  | .object fields =>
    match Value.firstTruthy (Fields.get? fields "name") (Fields.get? fields "gid") with
    | some v => v.display
    | none => Json.compact (.object fields)
  | other => other.display

/-- Whether a field has to stand between quotes. -/
def needsQuotes (quotesReturn : Bool) (field : List Char) : Bool :=
  field.any fun c => c = ',' || c = '"' || c = '\n' || (quotesReturn && c = '\r')

/-- A field between quotes, each of its quotes doubled. -/
def quoteField (field : List Char) : List Char :=
  '"' :: field.flatMap (fun c => if c = '"' then ['"', '"'] else [c]) ++ ['"']

/-- A field as it is written. -/
def writeField (quotesReturn : Bool) (field : List Char) : List Char :=
  if needsQuotes quotesReturn field then quoteField field else field

/-- The line of a row without its end. -/
def writeRow (quotesReturn : Bool) : List (List Char) → List Char
  | [[]] => ['"', '"']
  | fields => Text.joinWith [','] (fields.map (writeField quotesReturn))

/-- The lines of rows, each with its end. -/
def writeRows (quotesReturn : Bool) (rows : List (List (List Char))) : List Char :=
  rows.flatMap fun row => writeRow quotesReturn row ++ ['\n']

/-- The names that occur in any row, in the order in which they are first seen. -/
def headers (rows : List (Fields Value)) : List String :=
  rows.foldl (fun names row => row.keys.foldl
    (fun seen name => if seen.contains name then seen else seen ++ [name]) names) []

/-- The cells of a row under some headers; empty where the row has no value. -/
def cells (names : List String) (row : Fields Value) : List String :=
  names.map fun name => cell ((row.get? name).getD .null)

/-- The table of some rows: nothing without rows, else the header and one line for
each row. -/
def ofRows (rows : List (Fields Value)) (quotesReturn : Bool := false) : String :=
  if rows.isEmpty then ""
  else
    let names := headers rows
    String.ofList (writeRows quotesReturn
      ((names :: rows.map (cells names)).map (·.map String.toList)))

/-- Where a reader of CSV stands in a field. -/
inductive Quoting where
  /-- Outside quotes. -/
  | outside
  /-- Inside quotes. -/
  | inside
  /-- After a quote that closes the field unless another one follows it. -/
  | afterQuote
  deriving DecidableEq

/-- What a reader of CSV has read of the current row. Fields and characters are
held last one first. -/
structure RowSoFar where
  /-- The fields that have ended. -/
  fields : List (List Char) := []
  /-- The characters of the current field. -/
  field : List Char := []
  /-- Where the reader stands in the current field. -/
  quoting : Quoting := .outside
  /-- Whether anything of the row has been read. -/
  started : Bool := false

/-- The fields of a row that has ended; a row of which nothing was read has
none. -/
def RowSoFar.finish (r : RowSoFar) : List (List Char) :=
  if r.started then (r.field.reverse :: r.fields).reverse else []

/-- The rows of a CSV text, after what has been read of the current row. -/
def readFrom (r : RowSoFar) : List Char → List (List (List Char))
  | [] => if r.started then [r.finish] else []
  | c :: rest =>
    if r.quoting = .inside then
      if c = '"' then readFrom { r with quoting := .afterQuote } rest
      else readFrom { r with field := c :: r.field } rest
    else if c = '"' then
      readFrom { r with
        field := if r.quoting = .afterQuote then '"' :: r.field else r.field
        quoting := .inside, started := true } rest
    else if c = '\n' then r.finish :: readFrom {} rest
    else if c = ',' then
      readFrom { fields := r.field.reverse :: r.fields, started := true } rest
    else readFrom { r with field := c :: r.field, quoting := .outside, started := true } rest

/-- The rows of a CSV text. -/
def readRows (text : String) : List (List String) :=
  (readFrom {} text.toList).map (·.map String.ofList)

end CallChain.Table
