/-
# Tasks of the command line

A task reads a `Host` and changes a `Console`: the files, what the client remembers,
and what has been printed and sent. A task may stop before its end; what it has
done until then stays done. Each way to stop has an exit status: 2 when the command
line is wrong, and 1 otherwise.
-/

import CallChain.Catalog.Loading
import CallChain.CommandLine.Command
import CallChain.CommandLine.Logging
import CallChain.CommandLine.Pairs
import CallChain.CommandLine.Printed
import CallChain.Session.Perform
import CallChain.Settings
import CallChain.TokenStore

namespace CallChain.CommandLine

/-- What tasks read and never change. -/
structure Host (σ : Type) where
  /-- What answers calls. -/
  client : Client σ
  /-- The home directory. -/
  home : Location
  /-- The environment variables. -/
  environment : Fields String := []
  /-- The id that is given out under a number. -/
  stepId : Nat → String
  /-- The time, for reports and documents. -/
  now : String
  /-- The day, for documents without a name. -/
  today : String
  /-- What reads settings files and API documents. -/
  yaml : Yaml.Loader := .plain
  /-- Whether fields with a carriage return stand between quotes in tables. -/
  quotesReturn : Bool := false
  /-- Which characters are taken for halves of pairs. -/
  isHalf : Char → Bool := Text.isHalf

/-- What tasks change. -/
structure Console (σ : Type) where
  /-- The files. -/
  files : Files
  /-- What the client remembers. -/
  peer : σ
  /-- How many ids have been given out. -/
  created : Nat := 0
  /-- The lines that have been printed, latest first. -/
  lines : List String := []
  /-- The calls and pauses that have been made, latest first. -/
  events : List Event := []

/-- Why a task stops before its end. -/
inductive Stop where
  /-- The command line is wrong. -/
  | usage
  /-- The task says why. -/
  | refused (message : String)
  /-- Some step has failed, and the task has said so. -/
  | stepFailed
  /-- The settings cannot be used at all. -/
  | settings (problem : SettingsProblem)
  /-- The API document cannot be used at all. -/
  | document (problem : Catalog.DocumentProblem)
  /-- A file cannot be written or read. -/
  | file (problem : FileProblem)
  /-- An operation of the session ended in a fault. -/
  | fault (fault : Fault)
  deriving DecidableEq

/-- The exit status of a task that stops. -/
def Stop.status : Stop → Nat
  | usage => 2
  | _ => 1

/-- What a task that stops prints about it. -/
def Stop.words? : Stop → Option String
  | refused message => some (printed ["Error: " ++ message])
  | _ => none

/-- What tasks have printed. -/
def Console.output {σ : Type} (c : Console σ) : String := printed c.lines.reverse

/-- A task, which may stop before its end. -/
abbrev Task (σ : Type) := EStateM Stop (Console σ)

namespace Task

variable {σ α : Type}

/-- Prints a text and ends the line. -/
def print (line : String) : Task σ Unit := modify fun c => { c with lines := line :: c.lines }

/-- Prints several lines. -/
def printAll : List String → Task σ Unit
  | [] => pure ()
  | line :: lines => do
    print line
    printAll lines

/-- The task of a pair that has to be one. -/
def ofPairs : Except PairProblem α → Task σ α
  | .ok a => pure a
  | .error _ => throw .usage

/-- The task of a change of the files that may not come to its end. -/
def ofChange : Files × Option FileProblem → Task σ Unit
  | (files, problem) => do
    modify fun c => { c with files }
    match problem with
    | none => pure ()
    | some problem => throw (.file problem)

/-- Writes a text to a file. -/
def writeFile (l : Location) (text : String) : Task σ Unit := do
  let c ← get
  ofChange (c.files.write l text)

/-- Makes the directory of a file and then ends in a fault. -/
def refuseFile (l : Location) (fault : Fault) : Task σ α := do
  let c ← get
  ofChange (c.files.makeFolder l.parent)
  throw (.fault fault)

/-- Runs an operation of a session; the session after it comes with the answer. -/
def ofRun (session : Session) (run : Run σ α) : Task σ (α × Session) := fun c =>
  let after (w : World σ) : Console σ :=
    { c with peer := w.peer, created := w.created, events := w.events ++ c.events }
  match run { session, peer := c.peer, created := c.created } with
  | .ok a w => .ok (a, w.session) (after w)
  | .error f w => .error (.fault f) (after w)

end Task

/-- The store of the token. -/
def tokenStore (settings : Settings) : TokenStore := { location := settings.tokenFile }

/-- The token of the settings, or the one that is stored; the empty text for none. -/
def activeToken {σ : Type} (settings : Settings) : Task σ String := do
  if settings.token ≠ "" then return settings.token
  else match (tokenStore settings).get? (← get).files with
    | .ok token => return token.getD ""
    | .error fault => throw (.fault fault)

namespace Host

variable {σ : Type} (host : Host σ)

/-- The catalog of a source, or of the settings when no source is given. -/
def catalog (settings : Settings) (source : Option String) : Task σ (List Endpoint) := do
  let c ← get
  let source := (source.filter (· ≠ "")).or settings.catalogSource
  let (catalog, peer, calls) :=
    Catalog.load host.client c.peer c.files (.float settings.timeout) source host.yaml
  set { c with peer, events := (calls.map Event.sent).reverse ++ c.events }
  match catalog with
  | .ok endpoints => pure endpoints
  | .error problem => throw (.document problem)

/-- What the operations of a session read. -/
def environmentOf (settings : Settings) (token : String) (catalog : List Endpoint) :
    Environment σ :=
  { client := host.client
    connection := { baseUrl := settings.baseUrl, token, timeout := .float settings.timeout }
    builder := ⟨settings.baseUrl, settings.defaultLimit, host.isHalf⟩
    catalog, stepId := host.stepId, now := host.now, today := host.today }

end Host

end CallChain.CommandLine
