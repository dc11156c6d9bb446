/-
# An iterated step is one call for each item

Running an iterated step is the same as calling once for each item of its source, in order,
each time with the item as local name. A call builds its request from the step and the
results as they are at that moment, and knows nothing of the calls before it; a client that
only replies changes neither, so that its calls are known beforehand. `Run.OneByOne` says
how the calls follow one another.

What the step receives is put together from the outcomes of the calls: the entries of the
summary, the counts, the unified data and the status.
-/

import CallChain.Proofs.Request.Raised
import CallChain.Proofs.Session.Paired
import CallChain.Proofs.Session.Reached

namespace CallChain

variable {σ : Type}

/-! ## One call for each item -/

namespace CallOutcome

/-- How far an iteration has come that has ended in this way. -/
def state : CallOutcome → IterationState
  | received _ => .succeeded
  | failed _ => .failed

/-- What was received, if something was. -/
def received? : CallOutcome → Option Received
  | received r => some r
  | failed _ => none

end CallOutcome

/-- The entry of a summary for an item. -/
def IterationOutcome.ofCall (index : Nat) (item : Value) (outcome : CallOutcome) :
    IterationOutcome :=
  ⟨index, item, outcome.state, some outcome⟩

/-- The entries of a summary for items from a place on. -/
def IterationOutcome.ofCalls (index : Nat) (items : List Value) (outcomes : List CallOutcome) :
    List IterationOutcome :=
  List.zipWith (fun item outcome => ofCall item.2 item.1 outcome) (items.zipIdx index) outcomes

namespace Run

section OneByOne

variable (env : Environment σ) (inner : Operation → Run σ Answer)

/-- The outcome of building a request and sending it. Step errors are outcomes. -/
def attempt (x : Step) (r : Resolver) (scope : Fields Value) : Run σ CallOutcome :=
  caught
    (do
      let request ← ofExcept (env.builder.build x r scope)
      return .received (← execute env inner request))
    (fun e => .failed e.toFailure)

/-- The outcome of the call for an item, of a step and with results as they are now. -/
def attemptItem (x : Step) (ids : List String) (index : Nat) (item : Value) :
    Run σ CallOutcome := do
  let w ← get
  attempt env inner (w.current x) ⟨w.session.results, ids⟩
    (Iteration.itemScope x.iteration.variableName index item)

end OneByOne

/-- Whether calls for items from a place on, one after another, lead from one world to another
with these outcomes. -/
inductive OneByOne (call : Nat → Value → Run σ CallOutcome) :
    Nat → List Value → World σ → List CallOutcome → World σ → Prop
  /-- There are no items. -/
  | nil (index : Nat) (w : World σ) : OneByOne call index [] w [] w
  /-- The call for an item is made before those for the others. -/
  | cons {index : Nat} {item : Value} {items : List Value} {outcome : CallOutcome}
    {outcomes : List CallOutcome} {w v w' : World σ} (h : call index item w = .ok outcome v)
    (hrest : OneByOne call (index + 1) items v outcomes w') :
    OneByOne call index (item :: items) w (outcome :: outcomes) w'

/-- Whether no fault ends the call for an item, one after another. -/
def NoneEscapes (call : Nat → Value → Run σ CallOutcome) : Nat → List Value → World σ → Prop
  | _, [], _ => True
  | index, item :: items, w =>
    match call index item w with
    | .ok _ w' => NoneEscapes call (index + 1) items w'
    | .error _ _ => False

instance decidableNoneEscapes (call : Nat → Value → Run σ CallOutcome) :
    ∀ (index : Nat) (items : List Value) (w : World σ),
      Decidable (NoneEscapes call index items w)
  | _, [], _ => isTrue trivial
  | index, item :: items, w =>
    match h : call index item w with
    | .ok _ w' =>
      have := decidableNoneEscapes call (index + 1) items w'
      decidable_of_iff (NoneEscapes call (index + 1) items w') (by rw [NoneEscapes, h])
    | .error _ _ => isFalse (by rw [NoneEscapes, h]; exact not_false)

theorem NoneEscapes.exists_oneByOne {call : Nat → Value → Run σ CallOutcome} {index : Nat}
    {items : List Value} {w : World σ} (h : NoneEscapes call index items w) :
    ∃ outcomes w', OneByOne call index items w outcomes w' := by
  induction items generalizing index w with
  | nil => exact ⟨[], w, .nil index w⟩
  | cons item items ih =>
      rw [NoneEscapes] at h
      cases hcall : call index item w with
      | error fault v =>
          rw [hcall] at h
          cases h
      | ok outcome v =>
          rw [hcall] at h
          obtain ⟨outcomes, w', hrest⟩ := ih h
          exact ⟨outcome :: outcomes, w', .cons hcall hrest⟩

theorem OneByOne.length_eq {call : Nat → Value → Run σ CallOutcome} {index : Nat}
    {items : List Value} {w w' : World σ} {outcomes : List CallOutcome}
    (h : OneByOne call index items w outcomes w') : outcomes.length = items.length := by
  induction h with
  | nil => rfl
  | cons _ _ ih => rw [List.length_cons, List.length_cons, ih]

variable {env : Environment σ} (inner : Operation → Run σ Answer)

/-- What a step sends, once or for an item, is a call. -/
theorem caught_executeStepOnce (x : Step) (ids : List String) (scope : Fields Value)
    (w : World σ) :
    caught
      (do
        let received ← executeStepOnce env inner x ids scope
        return CallOutcome.received received)
      (fun e => .failed e.toFailure) w =
    attempt env inner (w.current x) ⟨w.session.results, ids⟩ scope w := by
  rw [attempt]
  apply caught_congr
  rw [← bind_assoc]
  simp only [bind, EStateM.bind]
  rfl

/-- An item is done when its call is. -/
theorem iterateItem_eq (x : Step) (ids : List String) (index : Nat) (item : Value)
    (w : World σ) :
    iterateItem env inner x ids x.iteration.variableName index item w =
      match attemptItem env inner x ids index item w with
      | .ok outcome v => .ok (.ofCall index item outcome) v
      | .error fault v => .error fault v := by
  rw [attemptItem, get_bind, ← caught_executeStepOnce, iterateItem]
  simp only [bind, EStateM.bind]
  split
  · next outcome v houtcome =>
    rw [houtcome]
    cases outcome <;> rfl
  · next fault v hfault =>
    rw [hfault]

theorem iterateItems_cons (x : Step) (ids : List String) (index : Nat) (item : Value)
    (items : List Value) (w : World σ) :
    iterateItems env inner x ids x.iteration.variableName index (item :: items) w =
      match attemptItem env inner x ids index item w with
      | .error fault v => .error fault v
      | .ok outcome v =>
        match iterateItems env inner x ids x.iteration.variableName (index + 1) items v with
        | .error fault w' => .error fault w'
        | .ok outcomes w' => .ok (.ofCall index item outcome :: outcomes) w' := by
  rw [iterateItems]
  simp only [bind, EStateM.bind, iterateItem_eq]
  cases attemptItem env inner x ids index item w with
  | error fault v => rfl
  | ok outcome v =>
      dsimp only
      cases iterateItems env inner x ids x.iteration.variableName (index + 1) items v <;> rfl

/-- The items of an iterated step are called for one by one. -/
theorem OneByOne.iterateItems_eq {x : Step} {ids : List String} {index : Nat}
    {items : List Value} {w w' : World σ} {outcomes : List CallOutcome}
    (h : OneByOne (attemptItem env inner x ids) index items w outcomes w') :
    iterateItems env inner x ids x.iteration.variableName index items w =
      .ok (IterationOutcome.ofCalls index items outcomes) w' := by
  induction h with
  | nil => rfl
  | cons hcall _ ih =>
      rw [iterateItems_cons, hcall]
      dsimp only
      rw [ih]
      rfl

section Client

variable (hclient : env.client.OnlyReplies)

include hclient

theorem onlyTalks_attempt (x : Step) (r : Resolver) (scope : Fields Value) :
    OnlyTalks (attempt env inner x r scope) := by
  intro w₀
  apply keeps_caught
  apply keeps_bind (keeps_ofExcept _)
  intro request
  exact keeps_bind (onlyTalks_execute inner hclient request w₀) fun received => keeps_pure _

omit hclient in
/-- What is received for a request that can be prepared is read from the reply. -/
theorem execute_of_exchange {request : Request} {address : String}
    (hprepare : request.prepare env.builder.isHalf = .ok address) {reply : Reply}
    {w w' : World σ} (hexchange : exchange env inner (env.connection.call request) w =
      .ok reply w') :
    execute env inner request w = ofExcept
      (do
        let response ← Response.ofReply reply
        response.received.mapError .step) w' := by
  have htransported : transported (exchange env inner (env.connection.call request)) w =
      .ok reply w' := by
    rw [transported, hexchange]
  rw [execute, send, hprepare]
  dsimp only
  rw [bind_assoc, bind_ok htransported]
  cases Response.ofReply reply <;> rfl

/-- Such a request is one call of a client that only replies. -/
theorem execute_eq {request : Request} {address : String}
    (hprepare : request.prepare env.builder.isHalf = .ok address) (w : World σ) :
    let call := env.connection.call request
    execute env inner request w = ofExcept
      (do
        let response ← Response.ofReply (env.client.answer w.peer call).1.reply
        response.received.mapError .step) (w.exchanged env call) :=
  execute_of_exchange inner hprepare (exchange_eq inner hclient _ w)

omit hclient in
theorem attempt_unbuilt {x : Step} {r : Resolver} {scope : Fields Value} {fault : Fault}
    (hbuild : env.builder.build x r scope = .error fault) :
    attempt env inner x r scope = caught (throw fault) fun e => .failed e.toFailure := by
  rw [attempt, hbuild]
  rfl

omit hclient in
/-- A request that cannot be prepared is not sent. -/
theorem execute_unprepared {request : Request} {fault : Fault}
    (hprepare : request.prepare env.builder.isHalf = .error fault) (w : World σ) :
    execute env inner request w = .error fault w := by
  rw [execute, send, hprepare]
  rfl

omit hclient in
/-- A request that cannot be prepared is not sent, and the call has no outcome. -/
theorem attempt_unprepared {x : Step} {r : Resolver} {scope : Fields Value} {request : Request}
    {fault : Fault} (hbuild : env.builder.build x r scope = .ok request)
    (hprepare : request.prepare env.builder.isHalf = .error fault) (w : World σ) :
    attempt env inner x r scope w = .error fault w := by
  have hstep : ∀ e, fault ≠ .step e := Request.ne_step_of_prepare_eq_error hprepare
  rw [attempt, hbuild]
  simp only [caught, bind, EStateM.bind, ofExcept, pure, EStateM.pure,
    execute_unprepared inner hprepare]
  cases fault with
  | step e => exact absurd rfl (hstep e)
  | _ => rfl

/-- Any other request is sent, and the outcome is read from the reply. -/
theorem attempt_sent {x : Step} {r : Resolver} {scope : Fields Value} {request : Request}
    {address : String} (hbuild : env.builder.build x r scope = .ok request)
    (hprepare : request.prepare env.builder.isHalf = .ok address) (w : World σ) :
    let call := env.connection.call request
    attempt env inner x r scope w = caught
      (do
        let received ← ofExcept
          (do
            let response ← Response.ofReply (env.client.answer w.peer call).1.reply
            response.received.mapError .step)
        return .received received)
      (fun e => .failed e.toFailure) (w.exchanged env call) := by
  intro call
  have hexecute := execute_eq inner hclient hprepare w
  rw [attempt, hbuild]
  apply caught_congr
  simp only [bind, EStateM.bind, ofExcept, pure, EStateM.pure] at hexecute ⊢
  rw [hexecute]

/-- A call for an item that no fault ends is one call of the client when its request can be
built, and none otherwise. -/
theorem calls_attempt {x : Step} {r : Resolver} {scope : Fields Value} {outcome : CallOutcome}
    {w w' : World σ} (h : attempt env inner x r scope w = .ok outcome w') :
    w'.calls = w.calls ++
      ((env.builder.build x r scope).toOption.map env.connection.call).toList := by
  cases hbuild : env.builder.build x r scope with
  | error fault =>
      rw [attempt_unbuilt inner hbuild] at h
      cases fault with
      | step e =>
          cases h
          exact (List.append_nil _).symm
      | _ => cases h
  | ok request =>
      cases hprepare : request.prepare env.builder.isHalf with
      | error fault =>
          rw [attempt_unprepared inner hbuild hprepare] at h
          cases h
      | ok address =>
          let sent := w.exchanged env (env.connection.call request)
          obtain ⟨result, hresult⟩ : ∃ result, attempt env inner x r scope w = caught
              (do
                let received ← ofExcept result
                return .received received)
              (fun e => .failed e.toFailure) sent :=
            ⟨_, attempt_sent inner hclient hbuild hprepare w⟩
          have hsent := (keeps_caught (I := (· = sent)) (keeps_bind (keeps_ofExcept result)
            fun received => keeps_pure (CallOutcome.received received))
            (fun e => .failed e.toFailure)).holds sent rfl
          rw [← hresult, h] at hsent
          rw [hsent, World.calls_exchanged]
          rfl

/-- The calls of the client are those for the items whose request can be built, in order. -/
theorem OneByOne.calls_eq {x : Step} {ids : List String} {index : Nat} {items : List Value}
    {w₀ w w' : World σ} {outcomes : List CallOutcome} (hw : w₀.OnlyTalked w)
    (h : OneByOne (attemptItem env inner x ids) index items w outcomes w') :
    w'.calls = w.calls ++ (items.zipIdx index).filterMap fun item =>
      (env.builder.build (w₀.current x) ⟨w₀.session.results, ids⟩
        (Iteration.itemScope x.iteration.variableName item.2 item.1)).toOption.map
          env.connection.call := by
  induction h with
  | nil => exact (List.append_nil _).symm
  | cons hcall _ ih =>
      -- the step and the results are still those of the first world
      rw [attemptItem, get_bind, hw.current_eq, hw.session_eq] at hcall
      have hv := (onlyTalks_attempt inner hclient _ _ _).ok hw hcall
      rw [ih hv, calls_attempt inner hclient hcall, List.zipIdx_cons, List.filterMap_cons,
        List.append_assoc]
      split
      · next hnone =>
        rw [hnone]
        rfl
      · next call hsome =>
        rw [hsome]
        rfl

end Client

end Run

/-! ## What the outcomes are put together to -/

namespace IterationOutcome

variable {α : Type} (index : Nat) {items : List Value} {outcomes : List CallOutcome}

theorem length_ofCalls (h : outcomes.length = items.length) :
    (ofCalls index items outcomes).length = items.length := by
  rw [ofCalls, List.length_zipWith, List.length_zipIdx, h, Nat.min_self]

theorem getElem?_ofCalls {n : Nat} {item : Value} {outcome : CallOutcome}
    (hitem : items[n]? = some item) (houtcome : outcomes[n]? = some outcome) :
    (ofCalls index items outcomes)[n]? = some (ofCall (index + n) item outcome) := by
  rw [ofCalls, List.getElem?_zipWith, List.getElem?_zipIdx, hitem, houtcome]
  rfl

/-- What does not depend on the item depends on the outcome of its call. -/
theorem map_ofCalls (h : outcomes.length = items.length) {f : IterationOutcome → α}
    {g : CallOutcome → α} (hfg : ∀ n item outcome, f (ofCall n item outcome) = g outcome) :
    (ofCalls index items outcomes).map f = outcomes.map g := by
  induction items generalizing index outcomes with
  | nil => rw [List.length_eq_zero_iff.mp h]; rfl
  | cons item items ih =>
      obtain ⟨outcome, others, rfl⟩ := List.exists_cons_of_length_eq_add_one h
      have hrest := ih (index + 1) (Nat.succ.inj h)
      rw [ofCalls, List.zipIdx_cons, List.zipWith_cons_cons, List.map_cons, List.map_cons, hfg]
      exact congrArg (_ :: ·) hrest

end IterationOutcome

/-- Whether the result of an iterated step is put together from the outcomes of the calls for
its items. -/
structure Iteration.FanOut (i : Iteration) (items : List Value) (outcomes : List CallOutcome)
    (status : Option Int) (summary : IterationSummary) (payload : Value) : Prop where
  /-- There is one entry for each item, in order; it has succeeded or failed as its call. -/
  entries_eq : ∀ (n : Nat) (item : Value), items[n]? = some item → ∃ outcome,
    outcomes[n]? = some outcome ∧
      summary.iterations[n]? = some ⟨n, item, outcome.state, some outcome⟩
  /-- There are no other entries. -/
  length_eq : summary.iterations.length = items.length
  /-- All items are counted. -/
  total_eq : summary.total = items.length
  /-- Each has succeeded or failed. -/
  total_eq_add : summary.total = summary.succeeded + summary.failed
  /-- The entries that have succeeded are counted. -/
  succeeded_eq : summary.succeeded = summary.iterations.countP (·.state = .succeeded)
  /-- The entries that have failed are counted. -/
  failed_eq : summary.failed = summary.iterations.countP (·.state = .failed)
  /-- The data that were received, in order. -/
  unified_eq : i.unifyResults = false →
    summary.unified = (outcomes.filterMap CallOutcome.received?).map Received.data
  /-- Or the items of those that are lists, and those that are not, without null. -/
  unified_eq_joined : i.unifyResults = true →
    summary.unified = (outcomes.filterMap CallOutcome.received?).flatMap fun r =>
      match r.data with
      | .list items => items
      | .null => []
      | other => [other]
  /-- The status is that of the last success. -/
  status_eq : status =
    (outcomes.filterMap CallOutcome.received?).getLast?.bind Received.httpStatus
  /-- Later steps may refer to the unified data and to the counts. -/
  payload_eq : payload = .object [("data", .list summary.unified),
    ("total_iterations", .int summary.total), ("succeeded", .int summary.succeeded),
    ("failed", .int summary.failed)]

namespace Iteration

open IterationOutcome (ofCalls map_ofCalls)

variable {items : List Value} {outcomes : List CallOutcome}

theorem filterMap_ofCalls {α : Type} (h : outcomes.length = items.length)
    {f : IterationOutcome → Option α} {g : CallOutcome → Option α}
    (hfg : ∀ n item outcome, f (.ofCall n item outcome) = g outcome) :
    (ofCalls 0 items outcomes).filterMap f = outcomes.filterMap g := by
  have hmap := congrArg (List.filterMap id) (map_ofCalls 0 h hfg)
  rwa [List.filterMap_map, List.filterMap_map] at hmap

theorem lastStatus_ofCalls (h : outcomes.length = items.length) :
    lastStatus (ofCalls 0 items outcomes) =
      (outcomes.filterMap CallOutcome.received?).getLast?.bind Received.httpStatus := by
  rw [lastStatus, filterMap_ofCalls h
    (g := fun outcome => outcome.received?.map Received.httpStatus)
    (by intro n item outcome; cases outcome <;> rfl), ← List.map_filterMap, List.getLast?_map]
  cases (outcomes.filterMap CallOutcome.received?).getLast? <;> rfl

theorem countP_ofCalls (h : outcomes.length = items.length) (state : IterationState) :
    (ofCalls 0 items outcomes).countP (·.state = state) =
      outcomes.countP (·.state = state) := by
  have hmap := congrArg (List.countP id) (map_ofCalls 0 h
    (f := fun o => decide (o.state = state)) (g := fun o => decide (o.state = state))
    fun _ _ _ => rfl)
  rwa [List.countP_map, List.countP_map] at hmap

/-- Each call has succeeded or failed. -/
theorem length_eq_countP_add_countP (outcomes : List CallOutcome) : outcomes.length =
    outcomes.countP (·.state = .succeeded) + outcomes.countP (·.state = .failed) := by
  rw [List.length_eq_countP_add_countP (fun o : CallOutcome => decide (o.state = .succeeded))]
  congr 1
  apply List.countP_congr
  intro o _
  cases o <;> simp [CallOutcome.state]

/-- The result of an iterated step whose calls have these outcomes. -/
theorem exists_fanOut (i : Iteration) (h : outcomes.length = items.length) :
    ∃ status summary payload, i.result (ofCalls 0 items outcomes) =
      .iterated status summary payload ∧ i.FanOut items outcomes status summary payload := by
  have hlength := IterationOutcome.length_ofCalls 0 h
  have hdata : (ofCalls 0 items outcomes).filterMap IterationOutcome.data? =
      (outcomes.filterMap CallOutcome.received?).map Received.data := by
    rw [List.map_filterMap]
    apply filterMap_ofCalls h
    intro n item outcome
    cases outcome <;> rfl
  refine ⟨_, _, _, rfl, ?_⟩
  refine ⟨fun n item hitem => ?_, hlength, ?_, ?_, rfl, rfl, fun hsingle => ?_, fun hjoined => ?_,
    ?_, rfl⟩
  · have hn : n < outcomes.length := h ▸ (List.getElem?_eq_some_iff.mp hitem).1
    have hget := List.getElem?_eq_getElem hn
    have hentry := IterationOutcome.getElem?_ofCalls 0 hitem hget
    rw [Nat.zero_add] at hentry
    exact ⟨_, hget, hentry⟩
  · exact congrArg Nat.cast hlength
  · dsimp only
    rw [countP_ofCalls h, countP_ofCalls h, hlength, ← h]
    exact congrArg Int.ofNat (length_eq_countP_add_countP outcomes)
  · dsimp only
    rw [unify, hdata, hsingle]
    exact List.flatMap_singleton' _
  · dsimp only
    rw [unify, hdata, hjoined, List.flatMap_map]
    rfl
  · exact lastStatus_ofCalls h

end Iteration

/-- An iterated step whose settings and source are accepted succeeds, whatever becomes of the
calls for its items, unless a fault ends one of them: the items are called for one by one, and
the result is put together from the outcomes. A client that only replies gets the calls for the
items whose request can be built. -/
theorem Run.iterate_fanOut {env : Environment σ} (inner : Operation → Run σ Answer) {x : Step}
    {ids : List String} {place : Nat} {items : List Value} {w : World σ}
    (hcheck : Iteration.checkVariable x.iteration.variableName ids = .ok ())
    (hitems : x.iteration.items ⟨w.session.results, ids⟩ place = .ok items)
    (hescapes : NoneEscapes (attemptItem env inner x ids) 0 items w) :
    ∃ outcomes status summary payload w',
      iterate env inner x ids place w = .ok (.iterated status summary payload) w' ∧
      OneByOne (attemptItem env inner x ids) 0 items w outcomes w' ∧
      x.iteration.FanOut items outcomes status summary payload ∧
      (env.client.OnlyReplies → w'.calls = w.calls ++ items.zipIdx.filterMap fun item =>
        (env.builder.build (w.current x) ⟨w.session.results, ids⟩
          (Iteration.itemScope x.iteration.variableName item.2 item.1)).toOption.map
            env.connection.call) ∧
      (x.settle (.iterated status summary payload)).records = summary.unified := by
  obtain ⟨outcomes, w', hcalls⟩ := hescapes.exists_oneByOne
  obtain ⟨status, summary, payload, hresult, hfanOut⟩ :=
    x.iteration.exists_fanOut hcalls.length_eq
  refine ⟨outcomes, status, summary, payload, w', ?_, hcalls, hfanOut,
    fun hclient => hcalls.calls_eq inner hclient (World.OnlyTalked.refl w), rfl⟩
  have hsource : (do
        Iteration.checkVariable x.iteration.variableName ids
        x.iteration.items ⟨w.session.results, ids⟩ place : Except Fault (List Value)) =
      .ok items := by
    rw [hcheck]
    exact hitems
  refine (get_bind _ w).trans ?_
  rw [hsource]
  refine (bind_ok (hcalls.iterateItems_eq inner)).trans ?_
  exact congrArg (EStateM.Result.ok · w') hresult

/-- A step that is called for each task of the first step. -/
def Step.eachTask : Step where
  id := "b"
  endpoint := { method := .get, path := "/tasks/\x7btask_gid\x7d" }
  mappings := [("task_gid", "item.gid")]
  iteration := { enabled := true, source := "step0.data" }

/-- A list of tasks, of which the second has no id. -/
def Value.tasks : List Value :=
  [.object [("gid", .text "1")], .object [], .object [("gid", .text "3")]]

/-- A session in which the first step has received the tasks. -/
def World.receivedTasks : World Nat where
  session :=
    { baseUrl := defaultBaseUrl
      steps := [{ id := "a", endpoint := { method := .get, path := "/tasks" } }, Step.eachTask]
      results := [("a", .object [("data", .list Value.tasks)])] }
  peer := 0

/-- Two of the three requests can be built, and are sent. -/
theorem Run.iterate_fanOut_eachTask :
    let env := Environment.answering
    let inner := Run.performAt env 0
    let x := Step.eachTask
    let w := World.receivedTasks
    let ids := w.session.stepIds
    Iteration.checkVariable x.iteration.variableName ids = .ok () ∧
    x.iteration.items ⟨w.session.results, ids⟩ 1 = .ok Value.tasks ∧
    NoneEscapes (attemptItem env inner x ids) 0 Value.tasks w ∧
    ∃ outcomes status summary payload w',
      iterate env inner x ids 1 w = .ok (.iterated status summary payload) w' ∧
      OneByOne (attemptItem env inner x ids) 0 Value.tasks w outcomes w' ∧
      x.iteration.FanOut Value.tasks outcomes status summary payload ∧ w'.calls.length = 2 := by
  intro env inner x w ids
  have hcheck : Iteration.checkVariable x.iteration.variableName ids = .ok () := by decide +kernel
  have hitems : x.iteration.items ⟨w.session.results, ids⟩ 1 = .ok Value.tasks := by
    decide +kernel
  have hescapes : NoneEscapes (attemptItem env inner x ids) 0 Value.tasks w := by
    decide +kernel
  obtain ⟨outcomes, status, summary, payload, w', hrun, hone, hfanOut, hsent, -⟩ :=
    Run.iterate_fanOut inner hcheck hitems hescapes
  have hcalls : w'.calls.length = 2 := by
    rw [hsent fun _ _ => rfl]
    decide +kernel
  exact ⟨hcheck, hitems, hescapes, outcomes, status, summary, payload, w', hrun, hone, hfanOut,
    hcalls⟩

end CallChain
