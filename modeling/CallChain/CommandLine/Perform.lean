/-
# Carrying commands out

Each command is a task. A run of a sequence file imports the file, runs all steps,
prints one line for each, and then writes what was asked for: the records, a
report, and the sequence itself. It stops with a status only after all of that, so
a failed step does not keep its output from being written.
-/

import CallChain.CommandLine.Task
import CallChain.Report.Table

namespace CallChain.CommandLine

variable {σ : Type}

/-- A listing of endpoints: one line for each, and their number. -/
def endpointLines (matched catalog : List Endpoint) : List String :=
  matched.map (fun e => Text.padRight 7 e.method.name ++ " " ++ e.path ++ "  " ++ e.summary) ++
    [Text.natText matched.length ++ " of " ++ Text.natText catalog.length ++ " endpoints."]

/-- The first endpoint of a catalog with a method and a path, or a bare one. -/
def endpointFor (catalog : List Endpoint) (method : Method) (path : String) : Endpoint :=
  (catalog.find? fun e => e.method = method && e.path = path).getD { method, path }

/-- A token with all but its last four characters masked. -/
def masked (token : String) : String :=
  let chars := token.toList
  String.ofList (List.replicate (chars.length - 4) '*' ++ chars.drop (chars.length - 4))

/-- A line on a suggested expression. -/
def suggestionLine (s : Suggestion) : String :=
  "  " ++ s.path ++ "  (" ++ s.description ++ ": " ++ s.example?.display ++ ")"

/-- The name of the caller in what the service says about them. -/
def callerName (data : Value) : String :=
  ((data.field? "name").map Value.display).getD "unknown user"

/-- What the commands of this program are. -/
def helpLines : List String :=
  "Commands:" :: commandNames.map ("  " ++ ·)

namespace Host

variable (host : Host σ) (settings : Settings)

/-- The listing of endpoints. -/
def listEndpoints (source : Option String) (selection : Catalog.Selection) : Task σ Unit := do
  let catalog ← host.catalog settings source
  Task.printAll (endpointLines (selection.select catalog) catalog)

/-- The query parameters of a call: those of a preset with those that are given. -/
def callQuery (request : CallRequest) (given : Fields String) : Fields String :=
  match request.preset with
  | some preset => (preset.parameters request.path).merge given
  | none => given

/-- The call of one endpoint. -/
def callEndpoint (request : CallRequest) : Task σ Unit := do
  let catalog ← host.catalog settings none
  let endpoint := endpointFor catalog request.method request.path
  let path ← Task.ofPairs (pairs request.pathPairs)
  let given ← Task.ofPairs (pairs request.queryPairs)
  let parameters : Parameters := {
    path, query := (callQuery request given).mapValues .text, body := request.body }
  let token ← activeToken settings
  let env := host.environmentOf settings token catalog
  let (result, _) ← Task.ofRun { baseUrl := settings.baseUrl, token }
    (Run.runEndpoint env (Run.performOperation env) endpoint parameters)
  if request.report then
    let c ← get
    set { c with created := c.created + 1 }
    let x : Step := {
      id := host.stepId c.created, endpoint, inputs := Inputs.ofParameters parameters,
      state := .ran, result := some result }
    Task.print (Report.ofStep host.now 0 x)
  match result with
  | .failed f => throw (.refused f.message)
  | .received r => if !request.report then Task.print (Json.indented r.data)
  | .iterated _ _ _ => pure ()

/-- The session with the steps of a sequence file. -/
def importFile (request : RunRequest) (catalog : List Endpoint) (session : Session) :
    Task σ (ImportReport × Session) := do
  let c ← get
  let text := (c.files.read request.file).mapError Fault.ofUnreadable
  let imported := do
    let document ← readSequence (← text)
    (session.importDocument catalog host.stepId c.created document).mapError .badSequence
  match imported with
  | .error (.badSequence problem) => throw (.refused problem.message)
  | .error fault => throw (.fault fault)
  | .ok (report, session, created) =>
    set { c with created }
    match report with
    | .ok report => return (report, session)
    | .error problem => throw (.fault (.badNumber problem))

/-- The session with a preset applied to every step. -/
def withPreset (request : RunRequest) (session : Session) : Except Fault Session :=
  match request.preset with
  | some preset => session.stepIds.foldlM (fun s id => s.applyPreset id preset) session
  | none => .ok session

/-- The transformations that the records of a run are written with. -/
def outputTransformations (request : RunRequest) (session : Session) (records : List Value) :
    Transformations :=
  if request.autoMap && session.transformations.mappings.isEmpty then
    { session.transformations with mappings := Record.identityMappings records }
  else session.transformations

/-- The rows that a run writes. -/
def outputRows (request : RunRequest) (session : Session) (records : List Value) :
    List (Fields Value) :=
  if request.allSteps then Step.grid session.steps
  else if session.transformations.count ≠ 0 then session.transformations.apply records
  else records.map Record.flatten

/-- The text of rows in the form that a run asks for. -/
def rowsText (quotesReturn : Bool) (request : RunRequest) (rows : List (Fields Value)) :
    String :=
  if request.asTable then Table.ofRows rows quotesReturn
  else Json.indented (.list (rows.map .object))

/-- The listing of the fields and the suggested expressions of a run. -/
def showFields (session : Session) (records : List Value) : Task σ Unit := do
  Task.print "Fields of the final result:"
  Task.printAll ((Record.availableFields records).map ("  " ++ ·))
  Task.print "Variables:"
  Task.printAll ((Suggestion.before session.steps session.steps.length).map suggestionLine)

/-- The writing of rows to a file. A table that cannot be written in UTF-8 leaves the
file empty; the other form is in ASCII. -/
def writeRows (request : RunRequest) (output : Location) (rows : List (Fields Value)) :
    Task σ Unit :=
  let text := rowsText host.quotesReturn request rows
  if request.asTable && !Text.isEncodable host.isHalf text then do
    Task.writeFile output ""
    throw (.fault .notEncoded)
  else Task.writeFile output text

/-- The writing of the records of a run. The session keeps the mappings that were
made for it. -/
def writeOutput (request : RunRequest) (session : Session) (records : List Value) :
    Task σ Session := do
  match request.output with
  | none => return session
  | some output =>
    let session := { session with
      transformations := outputTransformations request session records }
    let rows := outputRows request session records
    writeRows host request output rows
    Task.print ("Wrote " ++ Text.natText rows.length ++ " records to " ++ output.text)
    return session

/-- The writing of the sequence of a run. -/
def saveSequence (request : RunRequest) (session : Session) : Task σ Unit := do
  match request.saveTo with
  | none => pure ()
  | some target =>
    match session.document? host.now host.today (some request.file.stem) with
    | none => Task.refuseFile target .malformedRecord
    | some document =>
      match document.dump host.isHalf with
      | .error fault => Task.refuseFile target fault
      | .ok text =>
        Task.writeFile target text
        Task.print ("Sequence saved to " ++ target.text)

/-- The listing of what the steps of a run have received. -/
def showRun (request : RunRequest) (session : Session) : Task σ Unit := do
  Task.printAll (session.steps.zipIdx.map fun (x, place) => Report.line place x)
  if request.showFields then showFields session (Step.finalRecords session.steps)

/-- The writing of the records of a run, of its report and of its sequence. -/
def writeRun (request : RunRequest) (session : Session) : Task σ Unit := do
  let written ← host.writeOutput request session (Step.finalRecords session.steps)
  if request.report then Task.print (Report.ofSteps host.now session.steps)
  saveSequence host request written

/-- Everything that a run shows and writes after its steps have been run. -/
def afterRun (request : RunRequest) (session : Session) : Task σ Unit := do
  showRun request session
  writeRun host request session

/-- The session with the steps of a sequence file, and what its operations read. -/
def importSequence (request : RunRequest) : Task σ (Environment σ × Session) := do
  if request.file.text.toList.contains '\x00' then throw (.file (.nullName request.file))
  let token ← activeToken settings
  let catalog ← host.catalog settings request.source
  let (report, session) ←
    importFile host request catalog { baseUrl := settings.baseUrl, token }
  Task.print report.summary
  return (host.environmentOf settings token catalog, session)

/-- The run of a sequence file. -/
def runFile (request : RunRequest) : Task σ Unit := do
  let (env, session) ← host.importSequence settings request
  if session.steps.isEmpty then throw (.refused "The sequence has no steps to run.")
  match withPreset request session with
  | .error f => throw (.fault f)
  | .ok session =>
    let (results, session) ← Task.ofRun session (Run.runAll env (Run.performOperation env))
    afterRun host request session
    if results.any (!·.isOk) then throw .stepFailed

/-- The writing of the example sequence. -/
def writeSample (output : Location) : Task σ Unit := do
  Task.writeFile output (Json.indented (SequenceDocument.sample host.now))
  Task.print ("Sample sequence saved to " ++ output.text)

/-- The storing of the token. -/
def setToken (token : String) : Task σ Unit := do
  let c ← get
  let (done, files) := (tokenStore settings).set c.files (Text.trim token)
  set { c with files }
  match done with
  | .ok true => Task.print "Token saved."
  | .ok false => throw (.refused ("Could not write " ++ settings.tokenFile.text))
  | .error fault => throw (.fault fault)

/-- The showing of the active token. -/
def showToken : Task σ Unit := do
  let token ← activeToken settings
  Task.print (if token = "" then "No token configured." else masked token)

/-- The removal of the stored token. -/
def clearToken : Task σ Unit := do
  let c ← get
  let (done, files) := (tokenStore settings).remove c.files
  set { c with files }
  match done with
  | .ok _ => Task.print "Token cleared."
  | .error fault => throw (.fault fault)

/-- The question to the service who the caller is. -/
def testConnection : Task σ Unit := do
  let token ← activeToken settings
  if token = "" then
    throw (.refused "No token configured. Use 'api-sequencer token set' or API_TOKEN.")
  let env := host.environmentOf settings token []
  let (result, _) ← Task.ofRun { baseUrl := settings.baseUrl, token }
    (Run.testConnection env (Run.performOperation env))
  match result with
  | .failed f => throw (.refused ("Connection failed: " ++ f.message))
  | .received r => Task.print ("Connected as " ++ callerName r.data ++ ".")
  | .iterated _ _ _ => pure ()

/-- Carries a command out. -/
def perform : Command → Task σ Unit
  | .endpoints source selection => host.listEndpoints settings source selection
  | .call request => host.callEndpoint settings request
  | .run request => host.runFile settings request
  | .sample output => host.writeSample output
  | .bodyTemplate method path => Task.print (Endpoint.sampleBody { method, path })
  | .setToken token => setToken settings token
  | .showToken => showToken settings
  | .clearToken => clearToken settings
  | .testConnection => host.testConnection settings
  | .help => Task.printAll helpLines

/-- Carries a command out whose arguments have not been read, with the settings
that the command line asks for. -/
def performNamed (invocation : Invocation) (name : String) : Task σ Unit := do
  let c ← get
  match Settings.load c.files host.home host.environment invocation.settingsFile host.yaml with
  | .error problem =>
    throw (if problem.isTold then .refused problem.message else .settings problem)
  | .ok settings =>
    match command? c.files name invocation.arguments with
    | none => throw .usage
    | some command => host.perform settings command

end Host

/-- How a command line ended. -/
structure Ending where
  /-- Why it stopped, if it did before its end. -/
  stop : Option Stop
  /-- The logging that it asked for, if it came that far. -/
  logging : Option (Nat × Bool)

/-- The exit status of a command line. -/
def Ending.status (e : Ending) : Nat := (e.stop.map Stop.status).getD 0

/-- What is left of a task that is over: why it stopped, and the console. -/
def finish : EStateM.Result Stop (Console σ) Unit → Option Stop × Console σ
  | .ok _ c => (none, c)
  | .error stop c => (some stop, c)

/-- How a command line ends, and the console after it. -/
def Host.run (host : Host σ) (line : List String) (c : Console σ) : Ending × Console σ :=
  match Invocation.read? line with
  | none => (⟨some .usage, none⟩, c)
  | some invocation =>
    match invocation.name with
    | none =>
      let (stop, after) := finish ((Task.printAll helpLines).run c)
      (⟨stop, none⟩, after)
    | some name =>
      let (stop, after) := finish ((host.performNamed invocation name).run c)
      (⟨stop, some (invocation.verbosity, invocation.quiet)⟩, after)

end CallChain.CommandLine
