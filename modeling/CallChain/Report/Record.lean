/-
# Records of a run

What a run received is shown as flat records. A record is flattened to one field
for each path of at most three names; what lies deeper, and every list, is shown
as a mark. The final result of a run is what its last step with any records
received.
-/

import CallChain.Step.Basic

namespace CallChain

namespace Record

/-- How many names a path of a flat record may have. -/
def depthLimit : Int := 3

/-- What stands for an object below the limit. -/
def objectMark : Value := .text "[Object]"

/-- What stands for a list. -/
def listMark (items : List Value) : Value :=
  .text ("[Array(" ++ Text.natText items.length ++ ")]")

/-- The name of a field below a path. -/
def under (path name : String) : String := if path = "" then name else path ++ "." ++ name

mutual
/-- The flat fields of an object below a path, `room` names above the limit. -/
def flattenObject (path : String) (room : Int) (fields : List (String × Value)) : Fields Value :=
  if room ≤ 0 then [(path, objectMark)] else flattenFields path room fields []

/-- The flat fields so far, with those of more fields set after one another. -/
def flattenFields (path : String) (room : Int) :
    List (String × Value) → Fields Value → Fields Value
  | [], flat => flat
  | (name, .object inner) :: fields, flat =>
    flattenFields path room fields
      (Fields.merge flat (flattenObject (under path name) (room - 1) inner))
  | (name, .list items) :: fields, flat =>
    flattenFields path room fields (Fields.set flat (under path name) (listMark items))
  | (name, v) :: fields, flat =>
    flattenFields path room fields (Fields.set flat (under path name) v)
end

/-- The flat fields of a value below a path. A value that is no object is one
field. -/
def flattenFrom (path : String) (room : Int) (v : Value) : Fields Value :=
  match v with
  | .object fields => flattenObject path room fields
  | other => [(if path = "" then "value" else path, other)]

/-- The flat fields of a record. -/
def flatten (v : Value) : Fields Value := flattenFrom "" depthLimit v

theorem distinct_flattenFields {flat : Fields Value} (h : flat.Distinct) (path : String)
    (room : Int) (fields : List (String × Value)) :
    (flattenFields path room fields flat).Distinct := by
  induction fields generalizing flat with
  | nil => simpa only [flattenFields] using h
  | cons field fields ih =>
    obtain ⟨name, v⟩ := field
    cases v with
    | object inner =>
      rw [flattenFields]
      exact ih (h.merge _)
    | _ =>
      simp only [flattenFields]
      exact ih (h.set _ _)

/-- A flat record has no name twice. -/
theorem distinct_flatten (v : Value) : (flatten v).Distinct := by
  cases v with
  | object fields =>
    rw [flatten, flattenFrom, flattenObject]
    split
    · simp [Fields.Distinct, Fields.keys]
    · exact distinct_flattenFields (by simp [Fields.Distinct, Fields.keys]) _ _ _
  | _ => simp [flatten, flattenFrom, Fields.Distinct, Fields.keys]

end Record

namespace Step

/-- The last step that has been run and has records. -/
def final? (steps : List Step) : Option Step :=
  steps.reverse.find? fun s => s.hasRun && !s.records.isEmpty

/-- The records of the last step that has any. -/
def finalRecords (steps : List Step) : List Value := ((final? steps).map Step.records).getD []

/-- The rows of one step: for each record what step it comes from, how many
records the step has, which one it is, and its flat fields. -/
def gridRows (place : Nat) (s : Step) : List (Fields Value) :=
  let records := if s.hasRun then s.records else []
  records.zipIdx.map fun (record, row) =>
    Fields.merge
      [("Step", .int (place + 1)), ("Endpoint", .text s.endpoint.label),
       ("Status", .text "Success"), ("Records", .int records.length), ("Row", .int (row + 1))]
      (Record.flatten record)

/-- One row for each record of each step that has been run. -/
def grid (steps : List Step) : List (Fields Value) :=
  steps.zipIdx.flatMap fun (s, place) => gridRows place s

end Step

/-- An expression that later steps may find useful. -/
structure Suggestion where
  /-- The expression. -/
  path : String
  /-- What it names. -/
  description : String
  /-- Its value. -/
  example? : Value

namespace Suggestion

/-- The fields that are suggested. -/
def fieldNames : List String := ["gid", "name"]

/-- The suggestions of a step that has received a body. -/
def ofStep (place : Nat) (s : Step) : List Suggestion :=
  let number := Text.natText (place + 1)
  match s.payload?.bind (·.field? "data") with
  | some (.list items) =>
    fieldNames.map fun name =>
      ⟨s.id ++ ".data[0]." ++ name, "First item " ++ name ++ " from step " ++ number,
        ((items.head?.bind (·.field? name))).getD .null⟩
  | some (.object fields) =>
    fieldNames.map fun name =>
      ⟨s.id ++ ".data." ++ name, name ++ " from step " ++ number,
        (Fields.get? fields name).getD .null⟩
  | _ => []

/-- The steps before a place. A negative place counts from the end. -/
def stepsBefore (steps : List Step) (before : Int) : List Step :=
  if 0 ≤ before then steps.take before.toNat
  else steps.take (steps.length - (-before).toNat)

/-- The suggestions of all steps before a place. -/
def before (steps : List Step) (place : Int) : List Suggestion :=
  (stepsBefore steps place).zipIdx.flatMap fun (s, i) => ofStep i s

/-- A suggestion as fields. -/
def toFields (s : Suggestion) : Fields Value :=
  [("path", .text s.path), ("description", .text s.description), ("example", s.example?)]

end Suggestion

end CallChain
