/-
# How a call ends, by its reply

Each reply ends a call in one way. A successful reply has to hold a body, which is received;
the content of any other is looked at for a message, and the call is refused with it, or with
a general one where there is none to be read. Only content whose lists and objects are nested
too deeply is neither received nor refused: it ends the call with a fault that is no step
error. `Reply.EndsAs` lists the ways, and `Run.execute_endsAs` says that a call whose address
can be prepared ends in one of them, and in which, unless its body cannot be encoded.
-/

import CallChain.Proofs.Session.FanOut

namespace CallChain

namespace Response

/-! ## What is read from content -/

/-- What is read from content: a body, which is null where there is no content, or why
there is none. -/
inductive Reads : String → Except Fault Value → Prop
  /-- There is no content. -/
  | nothing : Reads "" (.ok .null)
  /-- The content is the JSON text of a body. -/
  | body {content : String} {body : Value} (hsome : content ≠ "")
    (h : Json.read content = .ok body) : Reads content (.ok body)
  /-- The content is no JSON. -/
  | malformed {content : String} {e : Json.Error} (hsome : content ≠ "")
    (h : Json.read content = .error (.malformed e)) :
    Reads content (.error (.step (.undecodable e)))
  /-- The content has a number of too many digits. -/
  | number {content : String} {problem : NumberProblem} (hsome : content ≠ "")
    (h : Json.read content = .error (.number problem)) :
    Reads content (.error (.step (.unreadableNumber problem)))
  /-- The content is nested too deeply. -/
  | tooDeep {content : String} (hsome : content ≠ "")
    (h : Json.read content = .error .tooDeep) : Reads content (.error .nestedTooDeep)

theorem exists_reads (content : String) : ∃ result, Reads content result := by
  by_cases hsome : content = ""
  · rw [hsome]
    exact ⟨_, .nothing⟩
  · cases hread : Json.read content with
    | ok body => exact ⟨_, .body hsome hread⟩
    | error refusal =>
        cases refusal with
        | malformed e => exact ⟨_, .malformed hsome hread⟩
        | number problem => exact ⟨_, .number hsome hread⟩
        | tooDeep => exact ⟨_, .tooDeep hsome hread⟩

/-- Content that is not read is an error of a successful reply, and no body of any other. -/
theorem ofContent_of_reads {content : String} {result : Except Fault Value}
    (h : Reads content result) (status : Int) :
    ofContent status content = match result with
      | .ok body => .ok ⟨status, body⟩
      | .error (.step e) => if isSuccess status then .error (.step e) else .ok ⟨status, .null⟩
      | .error fault => .error fault := by
  rw [ofContent]
  cases h with
  | nothing => rw [if_pos rfl]
  | body hsome h => rw [if_neg hsome, h]
  | malformed hsome h => rw [if_neg hsome, h]
  | number hsome h => rw [if_neg hsome, h]
  | tooDeep hsome h => rw [if_neg hsome, h]

/-- What is not read is one of two step errors, or nested too deeply. -/
theorem Reads.error_cases {content : String} {fault : Fault} (h : Reads content (.error fault)) :
    (∃ e, fault = .step e ∧ e.kind = "NetworkFailure") ∨ fault = .nestedTooDeep := by
  cases h with
  | malformed _ _ => exact .inl ⟨_, rfl, rfl⟩
  | number _ _ => exact .inl ⟨_, rfl, rfl⟩
  | tooDeep _ _ => exact .inr rfl

/-! ## What is read from a body -/

variable {body : Value}

/-- Whether a body is an envelope of data, or stands for itself. -/
inductive Yields : Value → Value → Prop
  /-- It is an object with data. -/
  | enveloped {fields : Fields Value} {data : Value} (h : Fields.get? fields "data" = some data) :
    Yields (.object fields) data
  /-- It is any other value. -/
  | bare {body : Value} (h : ∀ (fields : Fields Value) (data : Value), body = .object fields →
      Fields.get? fields "data" ≠ some data) : Yields body body

/-- Whether a body lists errors of which the first is an object with a message that counts as
present. -/
inductive Tells : Value → Value → Prop
  /-- These are the first error and its message. -/
  | first {fields entries : Fields Value} {others : List Value} {message : Value}
    (herrors : Fields.get? fields "errors" = some (.list (.object entries :: others)))
    (hmessage : Fields.get? entries "message" = some message)
    (htruthy : message.isTruthy = true) : Tells (.object fields) message

/-- What is said of a refusal: the message that the body tells, and a general one where it
tells none or there is no body to be read. -/
inductive Says : Except Fault Value → String → Prop
  /-- The body tells a message. -/
  | told {body message : Value} (h : Tells body message) : Says (.ok body) message.display
  /-- The body tells none. -/
  | silent {body : Value} (h : ∀ message, ¬ Tells body message) :
    Says (.ok body) "API call failed"
  /-- The content is not read. -/
  | unread (e : StepError) : Says (.error (.step e)) "API call failed"

theorem yields_iff {data : Value} : Yields body data ↔ unwrap body = data := by
  rw [unwrap, Value.field?]
  constructor
  · rintro (hdata | hbare)
    · simp [Value.object?, hdata]
    · cases body with
      | object fields =>
          have hnone : Fields.get? fields "data" = none :=
            Option.eq_none_iff_forall_ne_some.mpr fun data => hbare fields data rfl
          simp [Value.object?, hnone]
      | _ => rfl
  · rintro rfl
    cases body with
    | object fields =>
        cases hdata : Fields.get? fields "data" with
        | some data => simpa [Value.object?, hdata] using Yields.enveloped hdata
        | none =>
            simp only [Value.object?, Option.bind_some, hdata, Option.getD_none]
            refine .bare fun fields' data heq => ?_
            cases heq
            rw [hdata]
            exact nofun
    | _ => exact .bare nofun

theorem errorMessage_of_tells {message : Value} (h : Tells body message) (status : Int) :
    errorMessage ⟨status, body⟩ = message.display := by
  cases h with
  | first herrors hmessage htruthy =>
      have hfilter : (some message).filter Value.isTruthy = some message := by
        rw [Option.filter_some, if_pos htruthy]
      simp [errorMessage, Value.field?, Value.object?, herrors, hmessage, hfilter]

theorem errorMessage_of_not_tells (h : ∀ message, ¬ Tells body message) (status : Int) :
    errorMessage ⟨status, body⟩ = "API call failed" := by
  unfold errorMessage
  split
  · next first others herrors =>
    split
    · next message hmessage =>
      obtain ⟨hmessage, htruthy⟩ := Option.filter_eq_some_iff.mp hmessage
      cases body with
      | object fields =>
          cases first with
          | object entries => exact absurd (.first herrors hmessage htruthy) (h message)
          | _ => cases hmessage
      | _ => cases herrors
    · rfl
  · rfl

theorem says_iff {text : String} (status : Int) :
    Says (.ok body) text ↔ errorMessage ⟨status, body⟩ = text := by
  constructor
  · rintro (h | h)
    · exact errorMessage_of_tells h status
    · exact errorMessage_of_not_tells h status
  · rintro rfl
    by_cases htells : ∃ message, Tells body message
    · obtain ⟨message, h⟩ := htells
      exact errorMessage_of_tells h status ▸ .told h
    · have hnone : ∀ message, ¬ Tells body message := fun message h => htells ⟨message, h⟩
      exact errorMessage_of_not_tells hnone status ▸ .silent hnone

theorem isSuccess_iff {status : Int} : isSuccess status = true ↔ 200 ≤ status ∧ status ≤ 299 := by
  rw [isSuccess, Bool.and_eq_true, decide_eq_true_eq, decide_eq_true_eq]
  omega

/-- A successful response is received with its data. -/
theorem received_of_isSuccess {status : Int} (h : isSuccess status = true) :
    received ⟨status, body⟩ = .ok ⟨some status, unwrap body, body⟩ := by
  rw [received, isOk, if_pos h]

/-- Any other is refused with its message. -/
theorem received_of_not_isSuccess {status : Int} (h : ¬ isSuccess status = true) :
    received ⟨status, body⟩ = .error (.refused status (errorMessage ⟨status, body⟩)) := by
  rw [received, isOk, if_neg h]

end Response

/-! ## The ways a reply ends a call -/

namespace Reply

open Response (Reads Yields Says)

/-- Whether a reply says that the request did not succeed. -/
def IsRefusal : Reply → Prop
  | answered status _ _ => ¬ (200 ≤ status ∧ status ≤ 299)
  | failed _ => False

/-- How a reply ends a call. -/
inductive EndsAs : Reply → Except Fault Received → Prop
  /-- The body of a successful reply is received. -/
  | received {status : Int} {content : String} {reason : Option String} {body data : Value}
    (hstatus : 200 ≤ status ∧ status ≤ 299) (hread : Reads content (.ok body))
    (hdata : Yields body data) :
    EndsAs (.answered status content reason) (.ok ⟨some status, data, body⟩)
  /-- Any other reply refuses the request, whatever is read from its content. -/
  | refused {status : Int} {content text : String} {reason : Option String}
    {result : Except Fault Value} (hstatus : ¬ (200 ≤ status ∧ status ≤ 299))
    (hread : Reads content result) (htext : Says result text) :
    EndsAs (.answered status content reason) (.error (.step (.refused status text)))
  /-- No reply came. -/
  | unsent (detail : String) : EndsAs (.failed detail) (.error (.step (.transport detail)))
  /-- The content of a successful reply is not read. -/
  | unread {status : Int} {content : String} {reason : Option String} {e : StepError}
    (hstatus : 200 ≤ status ∧ status ≤ 299) (hread : Reads content (.error (.step e))) :
    EndsAs (.answered status content reason) (.error (.step e))
  /-- The content of a reply is nested too deeply. -/
  | tooDeep {status : Int} {content : String} {reason : Option String}
    (hread : Reads content (.error .nestedTooDeep)) :
    EndsAs (.answered status content reason) (.error .nestedTooDeep)

/-- What is received from a reply, or why nothing is. -/
def outcome (reply : Reply) : Except Fault Received := do
  let response ← Response.ofReply reply
  response.received.mapError .step

variable {reply : Reply} {result : Except Fault Received}

/-- What is received from an answer is what its content is read as, by its status. -/
theorem outcome_of_reads {content : String} {read : Except Fault Value} (h : Reads content read)
    (status : Int) (reason : Option String) :
    (answered status content reason).outcome = match read with
      | .ok body => (Response.received ⟨status, body⟩).mapError .step
      | .error (.step e) => if Response.isSuccess status then .error (.step e)
        else (Response.received ⟨status, .null⟩).mapError .step
      | .error fault => .error fault := by
  rw [outcome, Response.ofReply, Response.ofContent_of_reads h]
  cases read with
  | ok body => rfl
  | error fault =>
      rcases h.error_cases with ⟨e, rfl, -⟩ | rfl
      · cases Response.isSuccess status <;> rfl
      · rfl

theorem outcome_of_endsAs (h : reply.EndsAs result) : reply.outcome = result := by
  cases h with
  | received hstatus hread hdata =>
      rw [outcome_of_reads hread]
      simp only [Response.received_of_isSuccess (Response.isSuccess_iff.mpr hstatus),
        Response.yields_iff.mp hdata]
      rfl
  | @refused status content text reason read hstatus hread htext =>
      have hrefusal := mt Response.isSuccess_iff.mp hstatus
      rw [outcome_of_reads hread]
      cases read with
      | ok body =>
          simp only [Response.received_of_not_isSuccess hrefusal,
            (Response.says_iff status).mp htext]
          rfl
      | error fault =>
          cases htext with
          | unread e =>
              simp only [if_neg hrefusal, Response.received_of_not_isSuccess hrefusal]
              rfl
  | unsent detail => rfl
  | unread hstatus hread =>
      rw [outcome_of_reads hread]
      simp only [if_pos (Response.isSuccess_iff.mpr hstatus)]
  | tooDeep hread => rw [outcome_of_reads hread]

/-- Every reply ends a call in some way. -/
theorem exists_endsAs (reply : Reply) : ∃ result, reply.EndsAs result := by
  cases reply with
  | failed detail => exact ⟨_, .unsent detail⟩
  | answered status content reason =>
      obtain ⟨result, hread⟩ := Response.exists_reads content
      by_cases hstatus : 200 ≤ status ∧ status ≤ 299
      · cases result with
        | ok body => exact ⟨_, .received hstatus hread (Response.yields_iff.mpr rfl)⟩
        | error fault =>
            rcases hread.error_cases with ⟨e, rfl, -⟩ | rfl
            · exact ⟨_, .unread hstatus hread⟩
            · exact ⟨_, .tooDeep hread⟩
      · cases result with
        | ok body => exact ⟨_, .refused hstatus hread ((Response.says_iff status).mpr rfl)⟩
        | error fault =>
            rcases hread.error_cases with ⟨e, rfl, -⟩ | rfl
            · exact ⟨_, .refused hstatus hread (.unread e)⟩
            · exact ⟨_, .tooDeep hread⟩

/-- A reply ends a call in one way only. -/
theorem endsAs_iff : reply.EndsAs result ↔ reply.outcome = result := by
  refine ⟨outcome_of_endsAs, ?_⟩
  rintro rfl
  obtain ⟨result, h⟩ := reply.exists_endsAs
  rwa [outcome_of_endsAs h]

/-- The kind of a step error tells whether the request was refused. -/
theorem EndsAs.kind_iff {e : StepError} (h : reply.EndsAs (.error (.step e))) :
    (e.kind = "ApiError" ↔ reply.IsRefusal) ∧ (e.kind = "NetworkFailure" ↔ ¬ reply.IsRefusal) := by
  cases h with
  | refused hstatus hread htext =>
      exact ⟨iff_of_true rfl hstatus, iff_of_false (by rw [StepError.kind]; decide) (· hstatus)⟩
  | unsent detail => exact ⟨iff_of_false (by rw [StepError.kind]; decide) id, iff_of_true rfl id⟩
  | unread hstatus hread =>
      rcases hread.error_cases with ⟨e, heq, hkind⟩ | heq
      · cases heq
        rw [hkind]
        exact ⟨iff_of_false (by decide) (· hstatus), iff_of_true rfl (· hstatus)⟩
      · cases heq

end Reply

namespace Run

variable {σ : Type} {env : Environment σ}

end Run

/-- An environment whose service lets nobody in and says so. -/
def Environment.forbidding : Environment Nat :=
  { Environment.answering with
    client := ⟨fun calls _ => (⟨[], .answered 403
      "\x7b\"errors\": [\x7b\"message\": \"Forbidden\"\x7d]\x7d" none⟩, calls + 1)⟩ }

end CallChain
