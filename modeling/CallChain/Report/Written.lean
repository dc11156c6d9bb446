/-
# Reports of a run in plain text

A report shows what the steps of a sequence received: `ofStep` in full for one
step, `ofSteps` with a short preview for all steps that have been run, `line` in
one line.
-/

import CallChain.Json.Writer
import CallChain.Report.Record
import CallChain.Text.Basic
import CallChain.Value.Display

namespace CallChain.Report

/-- The line between the steps of a report. -/
def separator : String := String.ofList (List.replicate 47 '=')

/-- How many records a preview shows. -/
def previewItems : Nat := 3

/-- A failure as an object. -/
def failureValue (f : Failure) : Value :=
  .object [("status", .text "failure"), ("http_status", (f.httpStatus.map Value.int).getD .null),
    ("message", .text f.message), ("kind", .text f.kind)]

/-- The JSON text of what a step received, or of its failure. -/
def rawJson (s : Step) : String :=
  match s.result with
  | none => "null"
  | some (.failed f) => Json.indented (failureValue f)
  | some result => Json.indented (result.payload?.getD .null)

/-- The text of a field of a record; a substitute when it does not count as
present. -/
def fieldOr (substitute : String) (fields : Fields Value) (name : String) : String :=
  match (fields.get? name).filter Value.isTruthy with
  | some v => v.display
  | none => substitute

/-- The lines on one record. -/
def itemLines : Value → List String
  | .object fields =>
    let due := match (Fields.get? fields "due_date").filter Value.isTruthy with
      | some v => ["  Due Date: " ++ v.display]
      | none => []
    let completed := match Fields.get? fields "completed" with
      | some v => ["  Completed: " ++ v.display]
      | none => []
    let assignee := match Fields.get? fields "assignee" with
      | some (.object person) => match (Fields.get? person "name").filter Value.isTruthy with
        | some v => ["  Assignee: " ++ v.display]
        | none => []
      | _ => []
    ["  GID: " ++ fieldOr "N/A" fields "gid", "  Name: " ++ fieldOr "N/A" fields "name"] ++
      completed ++ due ++ assignee
  | other => ["  Value: " ++ other.display]

/-- The text of a field in the list of all fields of a record. -/
def fieldText : Value → String
  | .list items => Json.compact (.list items)
  | .object fields => Json.compact (.object fields)
  | other => other.display

/-- The lines on all records of a list. -/
def listLines (records : List Value) : List String :=
  ["Results: " ++ Text.natText records.length ++ " items", ""] ++
    records.zipIdx.flatMap fun (record, i) =>
      ("Item " ++ Text.natText (i + 1) ++ ":") :: itemLines record ++ [""]

/-- The lines on a single record. -/
def objectLines (fields : Fields Value) : List String :=
  let others := fields.filter fun (name, v) => name ≠ "gid" && name ≠ "name" && !v.isNull
  "Result:" :: itemLines (.object fields) ++
    others.map (fun (name, v) => "  " ++ name ++ ": " ++ fieldText v) ++ [""]

/-- The lines on how a step ended. -/
def resultLines : Option StepResult → List String
  | none => []
  | some (.failed f) => ["Error: " ++ f.message, ""]
  | some (.iterated _ summary _) => listLines summary.unified
  | some (.received r) => match r.data with
    | .list items => listLines items
    | .object fields => objectLines fields
    | _ => []

/-- The label of a step after its number. -/
def title (place : Nat) (s : Step) : String :=
  "Step " ++ Text.natText (place + 1) ++ ": " ++ s.endpoint.label

/-- The full report on one step. -/
def ofStep (now : String) (place : Nat) (s : Step) : String :=
  Text.joinLines ([title place s, "Summary: " ++ s.endpoint.summary, "Timestamp: " ++ now,
    "Status: " ++ (if s.hasFailed then "Error" else "Success"), ""] ++ resultLines s.result ++
    ["--- Raw JSON ---", rawJson s])

/-- The name under which a record is shown. -/
def displayName (substitute : String) : Value → String
  | .object fields =>
    match Value.firstTruthy (Fields.get? fields "name") (Fields.get? fields "gid") with
    | some v => v.display
    | none => substitute
  | other => other.display

/-- The lines of a preview of records. -/
def listPreview (records : List Value) : List String :=
  ("Results: " ++ Text.natText records.length ++ " items") ::
    (records.take previewItems).zipIdx.map (fun (record, i) =>
      "  " ++ Text.natText (i + 1) ++ ". " ++ displayName "Unnamed" record) ++
    if records.length > previewItems then
      ["  ... and " ++ Text.natText (records.length - previewItems) ++ " more items"]
    else []

/-- The lines of a preview of what a step received. -/
def preview : Option StepResult → List String
  | some (.iterated _ summary _) => listPreview summary.unified
  | some (.received r) => match r.data with
    | .list items => listPreview items
    | .null => []
    | data => ["Result: " ++ displayName "Single item" data]
  | _ => []

/-- The lines of the report on one of several steps. -/
def stepLines (place : Nat) (s : Step) : List String :=
  [title place s, "Summary: " ++ s.endpoint.summary,
    "Status: " ++ (if s.hasFailed then "ERROR" else "SUCCESS"), ""] ++
  (match s.result with
    | some (.failed f) => ["Error: " ++ f.message, ""]
    | result => preview result ++ [""]) ++
  ["--- Raw JSON ---", rawJson s, "", separator, ""]

/-- Whether a report on all steps that have been run can be made: each of them has a
result. -/
def isComplete (steps : List Step) : Bool := steps.all fun s => !s.hasRun || s.result.isSome

/-- The report on all steps that have been run. -/
def ofSteps (now : String) (steps : List Step) : String :=
  let executed := steps.zipIdx.filter fun (s, _) => s.hasRun
  Text.joinLines (["API Sequence Results", "Generated: " ++ now,
    "Total Steps: " ++ Text.natText steps.length,
    "Executed Steps: " ++ Text.natText executed.length, "", separator, ""] ++
    executed.flatMap fun (s, place) => stepLines place s)

/-- One line on how a step ended. -/
def line (place : Nat) (s : Step) : String :=
  match s.result with
  | none => "[SKIPPED] " ++ title place s
  | some (.failed f) => "[FAILED] " ++ title place s ++ " - " ++ f.message
  | some (.received r) =>
    "[OK] " ++ title place s ++ " (" ++ Text.natText (contribution true r.data).length ++
      " records)"
  | some (.iterated _ summary _) =>
    "[OK] " ++ title place s ++ " (" ++ Text.natText summary.unified.length ++ " records) - " ++
      Text.intText summary.succeeded ++ "/" ++ Text.intText summary.total ++ " iterations succeeded"

end CallChain.Report
