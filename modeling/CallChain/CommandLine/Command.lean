/-
# Commands

A command line is a list of general options, the name of a command, and the
arguments of the command. The arguments are read only after the settings, so that
wrong settings are noticed first. Everything that is chosen from a list is checked
here, and so is that the sequence file of a run exists.
-/

import CallChain.Catalog.Selection
import CallChain.CommandLine.Arguments
import CallChain.Files.Basic
import CallChain.Request.Preset

namespace CallChain.CommandLine

/-- One call of an endpoint. -/
structure CallRequest where
  /-- The method. -/
  method : Method
  /-- The path template. -/
  path : String
  /-- The parameters of the path, as pairs. -/
  pathPairs : List String
  /-- The query parameters, as pairs. -/
  queryPairs : List String
  /-- The body. -/
  body : Option String
  /-- The preset to start from. -/
  preset : Option Preset
  /-- Whether to print a report and not the data. -/
  report : Bool

/-- The run of a sequence file. -/
structure RunRequest where
  /-- The sequence file. -/
  file : Location
  /-- Where the catalog comes from. -/
  source : Option String
  /-- Where to write the sequence again. -/
  saveTo : Option Location
  /-- Where to write the records. -/
  output : Option Location
  /-- Whether to write the records as a table. -/
  asTable : Bool
  /-- Whether to take over every field when no mappings are set. -/
  autoMap : Bool
  /-- Whether to write the records of all steps. -/
  allSteps : Bool
  /-- Whether to list the fields and the suggested expressions. -/
  showFields : Bool
  /-- The preset for every step. -/
  preset : Option String
  /-- Whether to print a report. -/
  report : Bool

/-- What a command line asks for. -/
inductive Command where
  /-- List endpoints. -/
  | endpoints (source : Option String) (selection : Catalog.Selection)
  /-- Call one endpoint. -/
  | call (request : CallRequest)
  /-- Run a sequence file. -/
  | run (request : RunRequest)
  /-- Write the example sequence. -/
  | sample (output : Location)
  /-- Print a starting body for an endpoint. -/
  | bodyTemplate (method : Method) (path : String)
  /-- Store the token. -/
  | setToken (token : String)
  /-- Show the token, masked. -/
  | showToken
  /-- Remove the stored token. -/
  | clearToken
  /-- Ask the service who the caller is. -/
  | testConnection
  /-- Say which commands there are. -/
  | help

/-- The option that asks for help; every command has it. -/
def helpRule : OptionRule := { long := "--help" }

/-- An option that takes a value. -/
def valued (long : String) (short : Option Char := none) : OptionRule :=
  { long, short, takesValue := true }

/-- An option that takes no value. -/
def flag (long : String) (short : Option Char := none) : OptionRule := { long, short }

/-- A text as a method: a letter counts as its small form, which a dotless i is not. -/
def methodChoice? (text : String) : Option Method :=
  if text.contains 'ı' then none else Method.ofName? text

/-- The command that arguments give, unless they ask for help or cannot be read. -/
def withRules (options : List OptionRule) (arguments : List String)
    (read : Arguments → Option Command) : Option Command :=
  match Rules.read? { options := helpRule :: options } arguments with
  | none => none
  | some a => if a.has "--help" then some .help else read a

/-- A command without arguments. -/
def plain (arguments : List String) (command : Command) : Option Command :=
  withRules [] arguments fun a => if a.others.isEmpty then some command else none

/-- The listing of endpoints that arguments ask for. -/
def endpointsCommand? (arguments : List String) : Option Command :=
  withRules [valued "--spec", valued "--method", valued "--search", valued "--tag",
    valued "--endpoint"] arguments fun a =>
    if a.others.isEmpty then
      some (.endpoints (a.value? "--spec")
        { patterns := a.values "--endpoint", method := a.value? "--method",
          search := a.value? "--search", tag := a.value? "--tag" })
    else none

/-- The call that arguments ask for. -/
def callCommand? (arguments : List String) : Option Command :=
  withRules [valued "--path", valued "--query", valued "--body", valued "--preset",
    flag "--report"] arguments fun a =>
    match a.others with
    | [method, path] => do
      let method ← methodChoice? method
      let preset ← a.choice? "--preset" Preset.ofName?
      return .call { method, path, preset, pathPairs := a.values "--path",
                     queryPairs := a.values "--query", body := a.value? "--body",
                     report := a.has "--report" }
    | _ => none

/-- The run that arguments ask for. -/
def runCommand? (fs : Files) (arguments : List String) : Option Command :=
  withRules [valued "--spec", valued "--save", valued "--output" (some 'o'), valued "--format",
    flag "--auto-map", flag "--all-steps", flag "--fields", valued "--preset", flag "--report"]
    arguments fun a =>
    match a.others with
    | [file] => do
      let file ← if fs.hasText file || file.toList.contains '\x00' then some (Location.ofText file)
        else none
      let asTable ← a.choice? "--format" fun format =>
        if format = "csv" then some true else if format = "json" then some false else none
      let preset ← a.choice? "--preset" fun name => (Preset.ofName? name).map fun _ => name
      return .run { file, preset, source := a.value? "--spec"
                    saveTo := (a.value? "--save").map Location.ofText
                    output := (a.value? "--output").map Location.ofText
                    asTable := asTable.getD false
                    autoMap := a.has "--auto-map", allSteps := a.has "--all-steps"
                    showFields := a.has "--fields", report := a.has "--report" }
    | _ => none

/-- The writing of the example that arguments ask for. -/
def sampleCommand? (arguments : List String) : Option Command :=
  withRules [valued "--output" (some 'o')] arguments fun a =>
    if a.others.isEmpty then
      (a.value? "--output").map fun output => .sample (Location.ofText output)
    else none

/-- The starting body that arguments ask for. -/
def bodyTemplateCommand? (arguments : List String) : Option Command :=
  withRules [] arguments fun a =>
    match a.others with
    | [method, path] => (methodChoice? method).map fun method => .bodyTemplate method path
    | _ => none

/-- The command about the token that arguments ask for. -/
def tokenCommand? (arguments : List String) : Option Command :=
  match Rules.read? { options := [helpRule], mixed := false } arguments with
  | none => none
  | some a =>
    if a.has "--help" then some .help
    else match a.others with
      | "set" :: rest => withRules [] rest fun a => match a.others with
        | [token] => some (.setToken token)
        | _ => none
      | "show" :: rest => plain rest .showToken
      | "clear" :: rest => plain rest .clearToken
      | _ => none

/-- The names of all commands. -/
def commandNames : List String :=
  ["endpoints", "call", "run", "sample", "body-template", "token", "test-connection"]

/-- The command of a name with its arguments; nothing if they cannot be read. -/
def command? (fs : Files) (name : String) (arguments : List String) : Option Command :=
  match name with
  | "endpoints" => endpointsCommand? arguments
  | "call" => callCommand? arguments
  | "run" => runCommand? fs arguments
  | "sample" => sampleCommand? arguments
  | "body-template" => bodyTemplateCommand? arguments
  | "token" => tokenCommand? arguments
  | "test-connection" => plain arguments .testConnection
  | _ => none

/-- A command line with the arguments of its command not yet read. -/
structure Invocation where
  /-- The settings file that is asked for. -/
  settingsFile : Option Location
  /-- How often more messages are asked for. -/
  verbosity : Nat
  /-- Whether fewer messages are asked for. -/
  quiet : Bool
  /-- The name of the command; none if help is asked for. -/
  name : Option String
  /-- The arguments of the command. -/
  arguments : List String

/-- The parts of a command line; nothing if its general options cannot be read or
its command is unknown. -/
def Invocation.read? (line : List String) : Option Invocation :=
  let rules : Rules := {
    options := [helpRule, valued "--config", flag "--verbose" (some 'v'),
      flag "--quiet" (some 'q')]
    mixed := false }
  match rules.read? line with
  | none => none
  | some a =>
    let part (name : Option String) (arguments : List String) : Invocation :=
      { settingsFile := (a.value? "--config").map Location.ofText
        verbosity := a.count "--verbose", quiet := a.has "--quiet", name, arguments }
    if a.has "--help" then some (part none [])
    else match a.others with
      | [] => none
      | name :: arguments =>
        if commandNames.contains name then some (part (some name) arguments) else none

end CallChain.CommandLine
