/-
# Replies and responses

A reply is what comes back for a request: a status with content, or nothing at
all. A response is a reply whose content has been read. Content of a successful
reply has to be JSON; content of any other reply is looked at for a message only.
-/

import CallChain.Fault
import CallChain.Json.Reader
import CallChain.Request.Basic
import CallChain.Value.Display

namespace CallChain

/-- What comes back for a request. -/
inductive Reply where
  /-- A status and content, and what the service calls the status. -/
  | answered (status : Int) (content : String) (reason : Option String := none)
  /-- No reply, for the reason given. -/
  | failed (detail : String)
  deriving DecidableEq

/-- A reply whose content has been read; the body of an empty one is null. -/
structure Response where
  /-- The status. -/
  status : Int
  /-- The body. -/
  body : Value
  deriving DecidableEq

namespace Response

/-- Whether a status says that a request succeeded. -/
def isSuccess (status : Int) : Bool := 200 ≤ status && status < 300

/-- Whether a response says that a request succeeded. -/
def isOk (r : Response) : Bool := isSuccess r.status

/-- The response that a status and content make. Content of a reply that is no
success counts as absent when it is not read, unless its nesting is too deep. -/
def ofContent (status : Int) (content : String) : Except Fault Response :=
  if content = "" then .ok ⟨status, .null⟩
  else match Json.read content with
    | .ok body => .ok ⟨status, body⟩
    | .error .tooDeep => .error .nestedTooDeep
    | .error (.malformed e) =>
      if isSuccess status then .error (.step (.undecodable e)) else .ok ⟨status, .null⟩
    | .error (.number problem) =>
      if isSuccess status then .error (.step (.unreadableNumber problem)) else .ok ⟨status, .null⟩

/-- The response that a reply makes. -/
def ofReply : Reply → Except Fault Response
  | .answered status content _ => ofContent status content
  | .failed detail => .error (.step (.transport detail))

/-- The message of the first error that a body lists, or a general one. -/
def errorMessage (r : Response) : String :=
  match r.body.field? "errors" with
  | some (.list (first :: _)) =>
    match (first.field? "message").filter Value.isTruthy with
    | some message => message.display
    | none => "API call failed"
  | _ => "API call failed"

/-- What the envelope of a body holds, or the body itself when it has none. -/
def unwrap (body : Value) : Value := (body.field? "data").getD body

/-- What a response received, unless it says that the request failed. -/
def received (r : Response) : Except StepError Received :=
  if r.isOk then .ok ⟨some r.status, unwrap r.body, r.body⟩
  else .error (.refused r.status r.errorMessage)

end Response

end CallChain
