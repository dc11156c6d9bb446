/-
# Exporting and importing sequences

`Session.document?` writes the steps of a session as a document, with references
to earlier steps by place. `Session.import` replaces the steps of a session by
those of a document: an entry whose endpoint the catalog does not know becomes a
placeholder, and an entry that is malformed is skipped. Either the document has
no list of entries and nothing changes, or every entry is accounted for, up to one
that refers to a place of too many digits: an import stops there, with the step of
that entry made and its references not yet read.
-/

import CallChain.Document.Sequence
import CallChain.Json.Reader
import CallChain.Reference.Renaming
import CallChain.Session.Basic

namespace CallChain

namespace Session

/-- The entry of a step at a place; nothing if its inputs are malformed. -/
def entryAt? (s : Session) (place : Nat) (x : Step) : Option Entry := do
  let parameters ← x.inputs.parameters?
  let toPlace := Renaming.toPlace s.stepIds place
  return {
    method := x.endpoint.method.name
    path := x.endpoint.path
    summary := x.endpoint.summary
    description := x.endpoint.description
    tags := x.endpoint.tags
    parameters := parameters.mapText (Renaming.text toPlace)
    mappings := Renaming.mappings toPlace x.mappings
    iteration := if x.iteration.enabled then
        some { x.iteration with source := Renaming.expression toPlace x.iteration.source }
      else none }

/-- The document of a session; nothing if the inputs of some step are malformed. A
document without a name of its own is named after the day. -/
def document? (s : Session) (now today : String) (name : Option String) :
    Option SequenceDocument := do
  let entries ← s.steps.zipIdx.mapM fun (x, place) => s.entryAt? place x
  return {
    version := formatVersion
    name := (name.filter (· ≠ "")).getD ("API Sequence - " ++ today)
    description := "API sequence with " ++ Text.natText s.steps.length ++ " endpoints"
    sequence := entries
    transformations := s.transformations
    timestamp := now
    baseUrl := s.baseUrl }

end Session

/-- What became of the entries of a document. -/
structure ImportReport where
  /-- How many became steps. -/
  loaded : Nat := 0
  /-- How many were skipped. -/
  skipped : Nat := 0
  /-- How many of the steps are placeholders. -/
  placeholders : Nat := 0
  /-- How many transformations were taken over. -/
  transformations : Nat := 0
  deriving DecidableEq

namespace ImportReport

/-- One line on an import. -/
def summary (r : ImportReport) : String :=
  let entries := if r.skipped ≠ 0 then
      "Loaded " ++ Text.natText r.loaded ++ " endpoints (" ++ Text.natText r.skipped ++
        " skipped due to errors)"
    else "Successfully loaded " ++ Text.natText r.loaded ++ " endpoints"
  if r.transformations = 0 then entries
  else entries ++ " and " ++ Text.natText r.transformations ++ " transformation setting" ++
    (if r.transformations = 1 then "" else "s")

end ImportReport

namespace Entry

/-- The last endpoint of a catalog that has the method and path of an entry. -/
def known? (e : Entry) (catalog : List Endpoint) : Option Endpoint := do
  let method ← Method.ofName? e.method
  catalog.reverse.find? fun known => known.method = method && known.path = e.path

/-- The endpoint that stands in for one that the catalog does not know; nothing if
the method is unknown. -/
def placeholder? (e : Entry) (index : Nat) : Option Endpoint := do
  let method ← Method.ofName? e.method
  return {
    method
    path := e.path
    summary := if e.summary = "" then "Imported endpoint" else e.summary
    description := if e.description = "" then
        "This endpoint was imported but not found in the current catalog"
      else e.description
    tags := if e.tags.isEmpty then ["imported"] else e.tags
    operationId := "imported_" ++ Text.natText index
    security := ["oauth2"] }

/-- The endpoint of an entry, and whether it is a placeholder. -/
def endpoint? (e : Entry) (catalog : List Endpoint) (index : Nat) : Option (Endpoint × Bool) :=
  match e.known? catalog with
  | some known => some (known, false)
  | none => (e.placeholder? index).map (·, true)

/-- The step of an entry that follows the steps of the given ids. -/
def toStep (e : Entry) (endpoint : Endpoint) (isPlaceholder : Bool) (earlier : List String)
    (id : String) : Step :=
  let toId := Renaming.toId (earlier ++ [id]) earlier.length
  { id, endpoint, isPlaceholder
    inputs := Inputs.ofParameters (e.parameters.mapText (Renaming.text toId))
    mappings := Renaming.mappings toId e.mappings
    iteration := match e.iteration with
      | some i => { i with source := Renaming.expression toId i.source }
      | none => {} }

/-- The step of an entry as far as the references of the entry can be read, and the
first problem of one. Parameters come first, then bindings, then the source of the
iteration. -/
def stepSoFar (e : Entry) (x : Step) : Step × Option NumberProblem :=
  match e.parameters.texts.findSome? Renaming.textProblem?, Renaming.mappingsProblem? e.mappings,
      e.iteration.bind (fun i => Renaming.expressionProblem? i.source) with
  | some problem, _, _ => ({ x with inputs := {}, mappings := [], iteration := {} }, some problem)
  | none, some problem, _ => ({ x with mappings := [], iteration := {} }, some problem)
  | none, none, some problem => ({ x with iteration := {} }, some problem)
  | none, none, none => (x, none)

end Entry

/-- How far an import has come. -/
structure ImportState where
  /-- The steps that have been made. -/
  steps : List Step := []
  /-- How many ids have been given out. -/
  created : Nat
  /-- What became of the entries so far. -/
  report : ImportReport := {}
  /-- Why the import has stopped, if it has. -/
  stopped : Option NumberProblem := none

namespace ImportState

/-- The state after one more entry. -/
def add (catalog : List Endpoint) (stepId : Nat → String) (st : ImportState) (index : Nat)
    (raw : Value) : ImportState :=
  match (Entry.ofValue? raw).bind fun e => (e.endpoint? catalog index).map (e, ·) with
  | none => { st with report := { st.report with skipped := st.report.skipped + 1 } }
  | some (e, endpoint, isPlaceholder) =>
    let whole := e.toStep endpoint isPlaceholder (Step.ids st.steps) (stepId st.created)
    let (x, stopped) := e.stepSoFar whole
    { steps := st.steps ++ [x]
      created := st.created + 1
      stopped
      report := { st.report with
        loaded := st.report.loaded + 1
        placeholders := st.report.placeholders + if isPlaceholder then 1 else 0 } }

/-- The state after the entries from a place on, up to one that stops the import. -/
def addAll (catalog : List Endpoint) (stepId : Nat → String) (st : ImportState) (index : Nat) :
    List Value → ImportState
  | [] => st
  | raw :: others =>
    let next := st.add catalog stepId index raw
    if next.stopped.isSome then next else addAll catalog stepId next (index + 1) others

end ImportState

/-- The transformations of a document; those that are malformed do not count. -/
def documentTransformations (fields : Fields Value) : Option Transformations :=
  (Value.firstTruthy (fields.get? "dataTransformations")
    (fields.get? "data_transformations")).bind Transformations.ofValue?

namespace Session

/-- The session after an import, and what became of the entries of the document;
in place of the latter, the problem that stopped the import. Ids are given out from
number `created` on; their new count is returned too. -/
def importDocument (s : Session) (catalog : List Endpoint) (stepId : Nat → String) (created : Nat)
    (document : Value) :
    Except SequenceProblem (Except NumberProblem ImportReport × Session × Nat) :=
  match document.object?, (document.field? "sequence").bind Value.list? with
  | some fields, some entries =>
    let st := ImportState.addAll catalog stepId { created } 0 entries
    match st.stopped with
    | some problem => .ok (.error problem, { s.clear with steps := st.steps }, st.created)
    | none =>
      let transformations := documentTransformations fields
      .ok (.ok { st.report with transformations := (transformations.map (·.count)).getD 0 },
        { s.clear with steps := st.steps, transformations := transformations.getD {} },
        st.created)
  | _, _ => .error .noEntries

end Session

/-- The text of a document as it is saved, which has to be one that can be written in
UTF-8. -/
def SequenceDocument.dump (d : SequenceDocument) (half : Char → Bool) : Except Fault String :=
  if (Json.indentedChars Json.rawChar 0 d.toValue).any half then .error .notDumped
  else .ok d.text

theorem SequenceDocument.dump_eq (d : SequenceDocument) (half : Char → Bool) :
    d.dump half = if Text.isEncodable half d.text then .ok d.text else .error .notDumped := by
  have htext : Text.isEncodable half d.text =
      !(Json.indentedChars Json.rawChar 0 d.toValue).any half := by
    rw [Text.isEncodable, text, Json.indentedRaw, String.toList_ofList]
  rw [dump, htext]
  cases (Json.indentedChars Json.rawChar 0 d.toValue).any half <;> rfl

theorem SequenceDocument.dump_eq_ok_iff {d : SequenceDocument} {half : Char → Bool}
    {text : String} :
    d.dump half = .ok text ↔ Text.isEncodable half d.text = true ∧ d.text = text := by
  rw [dump_eq]
  split <;> simp [*]

theorem SequenceDocument.dump_eq_error_iff {d : SequenceDocument} {half : Char → Bool}
    {fault : Fault} :
    d.dump half = .error fault ↔ Text.isEncodable half d.text = false ∧ fault = .notDumped := by
  rw [dump_eq]
  split <;> simp [*, eq_comm]

/-- A document is saved as its text, unless that cannot be written in UTF-8. -/
theorem SequenceDocument.dump_cases (d : SequenceDocument) (half : Char → Bool) :
    (d.dump half = .error .notDumped ∧ Text.isEncodable half d.text = false) ∨
      d.dump half = .ok d.text := by
  cases hhalf : Text.isEncodable half d.text with
  | false => exact Or.inl ⟨dump_eq_error_iff.mpr ⟨hhalf, rfl⟩, rfl⟩
  | true => exact Or.inr (dump_eq_ok_iff.mpr ⟨hhalf, rfl⟩)

/-- The value of the text of a sequence file. -/
def readSequence (text : String) : Except Fault Value :=
  (Json.read text).mapError (.ofRefusal fun error => .badSequence (.notJson error))

end CallChain
