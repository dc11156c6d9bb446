/-
# Loading a catalog

A catalog is read from an API document, which is a file or is downloaded. A source
that cannot be read, or holds no API document, gives the built-in catalog; a
document with few endpoints is completed by the built-in endpoints that it does
not have.
-/

import CallChain.Catalog.ApiDocument
import CallChain.Catalog.Builtin
import CallChain.Files.Basic
import CallChain.Session.Operation

namespace CallChain.Catalog

/-- Why the text of a source cannot be had. -/
inductive SourceProblem where
  /-- The file cannot be read. -/
  | unreadable (source : String) (problem : FileProblem)
  /-- The download failed. -/
  | notDownloaded (source detail : String)
  deriving DecidableEq

namespace SourceProblem

/-- The wording of a problem. -/
def message : SourceProblem → String
  | unreadable source problem => "Cannot read " ++ source ++ ": " ++ problem.message
  | notDownloaded source detail => "Cannot download " ++ source ++ ": " ++ detail

end SourceProblem

/-- Whether a source is an address, and not a file. -/
def isAddress (source : String) : Bool :=
  "http://".toList.isPrefixOf source.toList || "https://".toList.isPrefixOf source.toList

/-- The call that downloads a document. -/
def downloadCall (address : String) (timeout : Value) : Call :=
  { request := { method := "get", url := address }, headers := [("Accept", "*/*")], timeout }

/-- The document that a reply brings; a reply that says that the request failed
brings none. -/
def downloaded (address : String) : Reply → Except String String
  | .failed detail => .error detail
  | .answered status content reason =>
    let refused (party : String) : Except String String :=
      .error (Text.intText status ++ " " ++ party ++ " Error: " ++ reason.getD "None" ++
        " for url: " ++ address)
    if 400 ≤ status && status < 500 then refused "Client"
    else if 500 ≤ status && status < 600 then refused "Server"
    else .ok content

/-- The text of a source, with what the client remembers afterwards and the calls
that were sent. -/
def sourceText {σ : Type} (client : Client σ) (peer : σ) (fs : Files) (timeout : Value)
    (source : String) : Except SourceProblem String × σ × List Call :=
  if isAddress source then
    let call := downloadCall source timeout
    let (exchange, after) := client.answer peer call
    ((downloaded source exchange.reply).mapError (.notDownloaded source), after, [call])
  else ((fs.read (Location.ofText source)).mapError (.unreadable source), peer, [])

/-- How many endpoints a document has to have so that nothing is added to it. -/
def fullSize : Nat := 50

/-- The endpoints of a document, completed by the built-in ones when there are
few. -/
def complete (endpoints : List Endpoint) : List Endpoint :=
  if endpoints.length < fullSize then
    endpoints ++ builtin.filter fun e => !(endpoints.map Endpoint.key).contains e.key
  else endpoints

/-- The catalog that the text of a source gives. -/
def ofSource (yaml : Yaml.Loader) :
    Except SourceProblem String → Except DocumentProblem (List Endpoint)
  | .error (.unreadable _ problem) =>
    if problem.isReported then .ok builtin else .error (.badFile problem)
  | .error (.notDownloaded _ _) => .ok builtin
  | .ok text => match ApiDocument.ofText text yaml with
    | .ok endpoints => .ok (complete endpoints)
    | .error .unreadable | .error .notMapping => .ok builtin
    | .error problem => .error problem

/-- The catalog of a source, the built-in one if there is no source. -/
def load {σ : Type} (client : Client σ) (peer : σ) (fs : Files) (timeout : Value)
    (source : Option String) (yaml : Yaml.Loader := .plain) :
    Except DocumentProblem (List Endpoint) × σ × List Call :=
  match source.filter (· ≠ "") with
  | none => (.ok builtin, peer, [])
  | some source =>
    let (text, after, calls) := sourceText client peer fs timeout source
    (ofSource yaml text, after, calls)

end CallChain.Catalog
