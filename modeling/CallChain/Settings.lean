/-
# Settings

Settings come in three layers: defaults, a YAML file, and environment variables. A
variable that is set and not empty wins over the file, and the file over the
default. A file that was asked for has to exist; the usual one may be missing. What
is set has to have the right shape, the timeout has to be positive, and the limit
lies between 1 and 100.
-/

import CallChain.Files.Basic
import CallChain.Session.Basic
import CallChain.Yaml.Loader

namespace CallChain

/-- The settings of a command. -/
structure Settings where
  /-- What every address starts with. -/
  baseUrl : String := defaultBaseUrl
  /-- The token; the empty text for none. -/
  token : String := ""
  /-- How many seconds to wait for a reply. -/
  timeout : Binary64 := Binary64.ofInt 30
  /-- How many records to ask for. -/
  defaultLimit : Int := 10
  /-- Where the catalog comes from. -/
  catalogSource : Option String := none
  /-- Where the token is kept. -/
  tokenFile : Location

/-- Why there are no settings. -/
inductive SettingsProblem where
  /-- The file that was asked for does not exist. -/
  | missing (file : Location)
  /-- The file cannot be read, or is not written correctly. -/
  | unreadable (file : Location)
  /-- The file holds no mapping. -/
  | notMapping (file : Location)
  /-- Some key of the file is no text. -/
  | keyNotText
  /-- The way to the file cannot be followed, or it is not written in UTF-8. -/
  | badFile (problem : FileProblem)
  /-- A number in the file is not read. -/
  | badNumber (problem : NumberProblem)
  /-- The lists and mappings of the file are nested too deeply. -/
  | tooDeep
  /-- What reads the file fails in a way that nobody expects, of which the kind is known. -/
  | raised (kind : String)
  /-- Some setting does not have the right shape or size. -/
  | invalid
  deriving DecidableEq

namespace SettingsProblem

/-- The wording of a problem. -/
def message : SettingsProblem → String
  | missing file => "Config file not found: " ++ file.text
  | unreadable file => "Cannot read config file " ++ file.text
  | notMapping file => "Config file " ++ file.text ++ " must contain a mapping"
  | keyNotText => "The keys of the config file are not all texts"
  | badFile problem => problem.message
  | badNumber problem => problem.message
  | tooDeep => "The config file is nested too deeply"
  | raised kind => kind
  | invalid => "Invalid configuration"

/-- Whether a problem is told to the caller in words. All others are faults of the
file that nothing is said about. -/
def isTold : SettingsProblem → Bool
  | keyNotText | badFile _ | badNumber _ | tooDeep | raised _ => false
  | _ => true

/-- The problem of a file of which the text is not read as a document. -/
def ofLoad (file : Location) : Yaml.LoadProblem → SettingsProblem
  | .malformed => unreadable file
  | .number problem => badNumber problem
  | .tooDeep => tooDeep
  | .raised kind => raised kind

end SettingsProblem

namespace Settings

open Yaml (Node Scalar)

/-- The environment variables that settings are read from, with the member that
each sets. -/
def variableMembers : List (String × String) :=
  [("API_BASE_URL", "base_url"), ("API_TOKEN", "token"), ("API_TIMEOUT", "timeout")]

/-- The directory of the program's own files below a home directory. -/
def folder (home : Location) : Location := home.below [".config", "api-sequencer"]

/-- The usual settings file. -/
def usualFile (home : Location) : Location := (folder home).below ["config.yaml"]

/-- The usual file for the token. -/
def usualTokenFile (home : Location) : Location := (folder home).below ["storage.json"]

/-- The members of a mapping, whose keys have to be texts. -/
def members? (entries : List (Scalar × Node)) : Option (Fields Node) :=
  entries.mapM fun entry => match entry.1 with
    | .text name => some (name, entry.2)
    | _ => none

/-- The members that a document sets; one that counts as absent sets none. -/
def ofDocument (file : Location) (document : Node) : Except SettingsProblem (Fields Node) :=
  if document.isTruthy then
    match document.mapping? with
    | none => .error (.notMapping file)
    | some entries => match members? entries with
      | none => .error .keyNotText
      | some fields => .ok fields
  else .ok []

/-- The members that the settings file sets. -/
def fileMembers (fs : Files) (home : Location) (asked : Option Location) (yaml : Yaml.Loader) :
    Except SettingsProblem (Fields Node) :=
  let file := asked.getD (usualFile home)
  match fs.has file with
  | .error problem => .error (.badFile problem)
  | .ok true => match fs.read file with
    | .error (.notText l) => .error (.badFile (.notText l))
    | .error _ => .error (.unreadable file)
    | .ok text => match yaml.load text with
      | .error problem => .error (.ofLoad file problem)
      | .ok document => ofDocument file document
  | .ok false => if asked.isSome then .error (.missing file) else .ok []

/-- The members with those that environment variables set. -/
def withVariables (environment : Fields String) (fields : Fields Node) : Fields Node :=
  variableMembers.foldl (fun fields entry =>
    match (environment.get? entry.1).filter (· ≠ "") with
    | some value => fields.set entry.2 (.scalar (.text value))
    | none => fields) fields

/-- A member of the settings: its default if it is not set. -/
def member? {α : Type} (fields : Fields Node) (name : String) (default : α)
    (read : Value → Option α) : Option α :=
  match fields.get? name with
  | none => some default
  | some (.scalar s) => s.value?.bind read
  | some _ => none

/-- The settings that members set; nothing if one does not have the right shape or
size. -/
def ofMembers? (home : Location) (fields : Fields Node) : Option Settings := do
  let defaults : Settings := { tokenFile := usualTokenFile home }
  let baseUrl ← member? fields "base_url" defaults.baseUrl Value.text?
  let token ← member? fields "token" defaults.token Value.text?
  let timeout ← member? fields "timeout" defaults.timeout fun v =>
    v.asFloat?.filter Binary64.isPositive
  let defaultLimit ← member? fields "default_limit" defaults.defaultLimit fun v =>
    v.asInt?.filter fun n => 1 ≤ n && n ≤ 100
  let catalogSource ← member? fields "catalog_source" defaults.catalogSource
    (Value.optional? Value.text?)
  let tokenFile ← member? fields "token_store_path" defaults.tokenFile fun v =>
    v.text?.map Location.ofText
  return { baseUrl, token, timeout, defaultLimit, catalogSource, tokenFile }

/-- The settings of a command that may ask for a settings file. -/
def load (fs : Files) (home : Location) (environment : Fields String) (asked : Option Location)
    (yaml : Yaml.Loader := .plain) : Except SettingsProblem Settings := do
  let fields ← fileMembers fs home asked yaml
  match ofMembers? home (withVariables environment fields) with
  | some settings => return settings
  | none => throw .invalid

end Settings

end CallChain
