/-
# The program

The outer layer of the command line. It reads the files that the command line and
the settings name, carries the command out, writes the files that have changed,
and prints. Calls are answered from recorded replies: the variable `API_REPLIES`
names a JSON file with a list of replies, each an object with a status, a text and
perhaps a reason, or with a detail of why no reply came. The time is taken from the
variable `API_NOW`.
-/

import CallChain.CommandLine.Perform

namespace CallChain.CommandLine.Program

/-- The reply that an object of a recording describes. -/
def readReply (v : Value) : Reply :=
  match (v.field? "detail").bind Value.text?, v.field? "status" with
  | none, some (.int status) => .answered status (((v.field? "text").bind Value.text?).getD "")
      ((v.field? "reason").bind Value.text?)
  | detail, _ => .failed (detail.getD "The recorded reply has no status")

/-- The replies of a recording. -/
def readReplies (text : String) : List Reply :=
  match Json.read text with
  | .ok (.list replies) => replies.map readReply
  | _ => []

/-- The client that answers calls with the replies of a recording, in order. -/
def recorded : Client (List Reply) where
  answer replies _ := match replies with
    | [] => ({ reply := .failed "No reply is recorded" }, [])
    | reply :: others => ({ reply }, others)

/-- The id that is given out under a number. -/
def stepId (millis : Nat) (n : Nat) : String :=
  let digits := Text.natText n
  "seq_" ++ Text.natText millis ++ "_" ++
    String.ofList (List.replicate (9 - digits.length) '0') ++ digits

/-- The environment variables that are set among some names. -/
def readVariables (names : List String) : IO (Fields String) := do
  let mut found : Fields String := []
  for name in names do
    match ← IO.getEnv name with
    | some value => found := found.set name value
    | none => pure ()
  return found

/-- Some files with the one of a name, if it can be read. -/
def withFile (fs : Files) (name : String) : IO Files := do
  try
    let bytes ← IO.FS.readBinFile name
    return fs.bind (Location.ofText name) { text := String.fromUTF8? bytes }
  catch _ => return fs

/-- Some files with those of several names, as far as they can be read. -/
def withFiles (fs : Files) : List String → IO Files
  | [] => return fs
  | name :: names => do withFiles (← withFile fs name) names

/-- The names that arguments may give to files. -/
def fileNames (line : List String) : List String :=
  line.flatMap fun argument =>
    match Text.cutAt '=' argument.toList with
    | (_, some value) => [argument, String.ofList value]
    | (_, none) => [argument]

/-- The names of the files that the settings give. -/
def settingsFiles (settings : Settings) : List String :=
  settings.tokenFile.text :: settings.catalogSource.toList

/-- Writes the files that were not there before, or were different. -/
def writeChanges (before after : Files) : IO Unit :=
  after.entries.forM fun (l, file) => do
    if before.find? l ≠ some file then
      IO.FS.createDirAll l.parent.text
      IO.FS.writeFile l.text (file.text.getD "")
      if file.access = .ownerOnly then
        IO.setAccessRights l.text { user := { read := true, write := true } }

/-- What is printed about a task that has stopped. -/
def lastWords : Stop → Option String
  | .usage => some "The command line cannot be read; --help names the commands"
  | .refused message => some ("Error: " ++ message)
  | .stepFailed => none
  | .settings problem => some ("Error: " ++ problem.message)
  | .document problem => some ("Error: " ++ problem.message)
  | .file problem => some ("Error: " ++ problem.message)
  | .fault fault => some ("Error: " ++ fault.message)

/-- Carries a command line out. -/
def main (line : List String) : IO UInt32 := do
  let environment ← readVariables
    (["HOME", "API_NOW", "API_REPLIES"] ++ Settings.variableMembers.map Prod.fst)
  let home := Location.ofText ((environment.get? "HOME").getD "")
  let now := (environment.get? "API_NOW").getD "1970-01-01T00:00:00+00:00"
  let replies ← try IO.FS.readFile ((environment.get? "API_REPLIES").getD "") catch _ => pure ""
  let millis ← IO.monoMsNow
  let named ← withFiles {} (fileNames line ++ [(Settings.usualFile home).text])
  let asked := (Invocation.read? line).bind Invocation.settingsFile
  let files ← match Settings.load named home environment asked with
    | .ok settings => withFiles named (settingsFiles settings)
    | .error _ => pure named
  let host : Host (List Reply) := {
    client := recorded, home, environment, stepId := stepId millis, now
    today := String.ofList (now.toList.take 10) }
  let (ending, after) := host.run line { files, peer := readReplies replies }
  writeChanges files after.files
  IO.print after.output
  match ending.stop.bind lastWords with
  | some message => IO.eprintln message
  | none => pure ()
  return UInt32.ofNat ending.status

end CallChain.CommandLine.Program

/-- Runs the program. -/
def main (line : List String) : IO UInt32 := CallChain.CommandLine.Program.main line
