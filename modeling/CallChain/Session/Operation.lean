/-
# Operations of a session

What a caller may ask of a session, and what it answers. Operations may be asked
for at any time, also while a request of another operation is waiting for its
reply: an `Exchange` lists what happens in the meantime before the reply itself.
A client answers calls one after another and may remember the earlier ones.
-/

import CallChain.Document.Transfer
import CallChain.Report.Written
import CallChain.Request.Building
import CallChain.Request.Response

namespace CallChain

/-- How an operation names a step. -/
inductive StepName where
  /-- By its id. -/
  | named (id : String)
  /-- By its place, from zero. -/
  | place (n : Int)
  deriving DecidableEq

/-- What a caller may ask of a session. Records are checked when the operation is
carried out. -/
inductive Operation where
  /-- Add a step at the end. -/
  | add (endpoint : Value) (parameters : Option Value) (mappings : Value)
      (iteration : Option Value)
  /-- Look a step up. -/
  | find (step : StepName)
  /-- Look up the place of a step. -/
  | place (step : StepName)
  /-- Take a step out. -/
  | remove (step : StepName)
  /-- Take all steps out. -/
  | clear
  /-- Replace one input of a step. -/
  | update (step : StepName) (kind name : String) (value : Value)
  /-- Set the query parameters of a preset. -/
  | preset (step : StepName) (name : String)
  /-- Bind a parameter of a step to an expression. -/
  | bindTo (step : StepName) (name expression : String)
  /-- List the steps that have been run. -/
  | executed
  /-- Resolve an expression. -/
  | resolve (expression : String)
  /-- Run one step. -/
  | runStep (step : StepName)
  /-- Run all steps in order. -/
  | runAll
  /-- Call an endpoint outside the sequence. -/
  | runEndpoint (endpoint : Value) (parameters : Option Value)
  /-- Ask the service who the caller is. -/
  | testConnection
  /-- Replace the transformations. -/
  | setTransformations (value : Value)
  /-- Turn the final result into rows. -/
  | transform
  /-- List all records of all steps. -/
  | grid
  /-- Suggest expressions for a step at a place. -/
  | suggest (before : Int)
  /-- Report on all steps that have been run. -/
  | report
  /-- Write the sequence as a document. -/
  | exportText (name : Option String)
  /-- Take the steps of a document. -/
  | importValue (document : Value)
  /-- Take the steps of the example document. -/
  | importSample
  /-- Take the steps of a sequence file, of which the text is given, or why it cannot
  be read. -/
  | load (content : Except FileProblem String)
  /-- Write the sequence as a document and take its steps again. -/
  | roundTrip (name : Option String)

/-- What a session answers. -/
inductive Answer where
  /-- The operation is done. -/
  | done
  /-- The id of a step. -/
  | id (id : String)
  /-- The ids of steps. -/
  | ids (ids : List String)
  /-- The place of a step. -/
  | place (n : Nat)
  /-- A step. -/
  | step (s : Step)
  /-- The inputs of a step. -/
  | inputs (i : Inputs)
  /-- The query parameters of a step. -/
  | query (q : Fields Value)
  /-- The bindings of a step. -/
  | mappings (m : Fields String)
  /-- The transformations. -/
  | transformations (t : Transformations)
  /-- A resolved value. -/
  | value (v : Value)
  /-- How a run ended. -/
  | result (r : StepResult)
  /-- How the runs of several steps ended. -/
  | results (rs : List StepResult)
  /-- Rows of records. -/
  | rows (rows : List (Fields Value))
  /-- Suggested expressions. -/
  | suggestions (l : List Suggestion)
  /-- A text. -/
  | text (s : String)
  /-- What became of the entries of a document, with the new steps and
  transformations. -/
  | imported (r : ImportReport) (steps : List Step) (t : Transformations)

/-- How requests are sent. -/
structure Connection where
  /-- What the addresses of the service start with. -/
  baseUrl : String
  /-- The token; the empty text for none. -/
  token : String := ""
  /-- How many seconds to wait for a reply, as it was configured. -/
  timeout : Value := .float (Binary64.ofInt 30)

/-- A request as it goes out. -/
structure Call where
  /-- The request. -/
  request : Request
  /-- The headers, in the order of their names. -/
  headers : Fields String
  /-- How many seconds to wait for a reply. -/
  timeout : Value
  deriving DecidableEq

/-- The call of a request over a connection. -/
def Connection.call (c : Connection) (r : Request) : Call :=
  { request := r
    headers := [("Accept", "application/json")] ++
      (if c.token = "" then [] else [("Authorization", "Bearer " ++ c.token)]) ++
      (if r.body.isSome then [("Content-Type", "application/json")] else [])
    timeout := c.timeout }

/-- What follows a call: operations that are asked for before the reply, and the
reply. -/
structure Exchange where
  /-- What is asked for in the meantime, in order. -/
  meantime : List Operation := []
  /-- The reply. -/
  reply : Reply

/-- What answers calls. -/
structure Client (σ : Type) where
  /-- The exchange for a call, and what is remembered of it. -/
  answer : σ → Call → Exchange × σ

/-- What is seen from outside of the operations of a session. -/
inductive Event where
  /-- A call was sent. -/
  | sent (call : Call)
  /-- The result of a step was stored. -/
  | settled (id : String) (result : StepResult)
  /-- A pause was made between two steps. -/
  | paused
  /-- An operation was carried out while a request was waiting for its reply;
  `busy` says whether some run was in progress. -/
  | nested (answer : Answer) (busy : Bool)

end CallChain
