/-
# Refused runs

A run is refused while what it is to run is in progress, and the refusal itself changes nothing
and sends nothing. But it may reach a caller who asked for something else: the run of the
sequence looks at the sequence alone before it begins, and comes to a step that is in progress
only after the steps before it; and an operation that is asked for while a request waits hands
its fault on to the operation that waits.

So the module follows a refusal back to the call that was refused. `Comes` says how an operation
comes to another: it is that operation itself, or a turn of the sequence, or what a client asks
for before it answers. Behind the refused call only the marks of what is in progress are taken
back, on the way out.
-/

import CallChain.Proofs.Session.HandedOn
import CallChain.Proofs.Session.InProgress
import CallChain.Proofs.Session.Reported

namespace CallChain

variable {σ : Type}

namespace World

/-- Whether an operation asks to run what is in progress, and with which fault it is refused. -/
inductive Refuses (w : World σ) : Operation → Fault → Prop
  /-- The step is in progress. -/
  | step {name : StepName} (h : name.resolve w.session ∈ w.running) :
    Refuses w (.runStep name) (.stepInProgress (name.resolve w.session))
  /-- The sequence is in progress. -/
  | sequence (h : w.sequenceRunning = true) : Refuses w .runAll .sequenceInProgress

/-- Whether a world differs from an earlier one at most in what counts as in progress: the
session, what the client remembers and what has been seen from outside are the same. -/
def OnlyMarked (w w' : World σ) : Prop :=
  w' = { w with
    running := w'.running, sequenceRunning := w'.sequenceRunning, withdrawn := w'.withdrawn }

namespace OnlyMarked

variable {w w' : World σ}

theorem refl (w : World σ) : OnlyMarked w w := rfl

theorem session_eq (h : OnlyMarked w w') : w'.session = w.session := by
  rw [h]

theorem calls_eq (h : OnlyMarked w w') : w'.calls = w.calls := by
  rw [h]
  rfl

theorem trans {w'' : World σ} (h : OnlyMarked w w') (h' : OnlyMarked w' w'') :
    OnlyMarked w w'' := by
  rw [OnlyMarked] at h h'
  rw [h', h]
  rfl

theorem ended (h : OnlyMarked w w') (id : String) : OnlyMarked w (w'.ended id) := by
  rw [OnlyMarked] at h
  rw [h]
  rfl

theorem left (h : OnlyMarked w w') : OnlyMarked w { w' with sequenceRunning := false } := by
  rw [OnlyMarked] at h
  rw [h]
  rfl

end OnlyMarked

end World

namespace Run

variable {α β : Type}

/-! ## How a call comes about -/

section Definitions

variable (env : Environment σ)

/-- Whether a call is that of a request of a step that is in progress since a world. -/
def SendsFor (x : Step) (w v : World σ) (call : Call) : Prop :=
  ∃ place scope request, w.session.place x.id = .ok place ∧
    x.RunsWith w.session.resolver place scope ∧
    env.builder.build (v.current x) ⟨v.session.results, w.session.stepIds⟩ scope = .ok request ∧
    call = env.connection.call request

/-- Whether a call is that of a request that could be built. -/
def SendsOnce (built : Except Fault Request) (call : Call) : Prop :=
  ∃ request, built = .ok request ∧ call = env.connection.call request

/-- What an operation that talks to the client has in progress meanwhile, the world in which it
begins to, and the calls that it sends. -/
inductive Opens (stack : List Progress) (w : World σ) :
    Operation → List Progress → World σ → (World σ → Call → Prop) → Prop
  /-- The run of a step sends the requests of the step. -/
  | step {name : StepName} {id : String} {x : Step} (hname : name.resolve w.session = id)
    (hidle : id ∉ w.running) (hx : w.session.step id = .ok x) :
    Opens stack w (.runStep name) (.step id :: stack) (w.begun id)
      (SendsFor env x (w.begun id))
  /-- The call of an endpoint sends one request, that of a step outside the sequence. -/
  | endpoint {value : Value} {values : Option Value} {endpoint : Endpoint}
    {parameters : Parameters} (hendpoint : Endpoint.ofValue? value = some endpoint)
    (hparameters : values.elim (some {}) Parameters.ofValue? = some parameters) :
    Opens stack w (.runEndpoint value values) stack { w with created := w.created + 1 }
      fun _ => SendsOnce env (env.builder.build
        { id := env.stepId w.created, endpoint := endpoint
          inputs := Inputs.ofParameters parameters } w.session.resolver [])
  /-- The test of the connection sends one request. -/
  | connection : Opens stack w .testConnection stack w fun _ => SendsOnce env (.ok
      { method := "GET", url := Text.dropTrailing '/' env.connection.baseUrl ++ "/users/me" })

/-- Where an operation that talks to the client may have got to, and what is still to be carried
out before the reply that it waits for. -/
inductive Underway (inner : Operation → Run σ Answer) (sends : World σ → Call → Prop)
    (w : World σ) : List Operation → World σ → Prop
  /-- It begins. -/
  | begun : Underway inner sends w [] w
  /-- A call is sent, before whose reply the client asks for operations. -/
  | sent {v : World σ} {call : Call} (h : Underway inner sends w [] v) (hcall : sends v call) :
    Underway inner sends w (env.client.answer v.peer call).1.meantime (v.exchanged env call)
  /-- The first of these is answered. -/
  | answered {op : Operation} {ops : List Operation} {v v' : World σ} {answer : Answer}
    (h : Underway inner sends w (op :: ops) v) (hinner : inner op v = .ok answer v') :
    Underway inner sends w ops (v'.record (.nested answer v'.isBusy))
  /-- The first of these is ended by a fault; the others are not carried out. -/
  | failed {op : Operation} {ops : List Operation} {v v' : World σ} {fault : Fault}
    (h : Underway inner sends w (op :: ops) v) (hinner : inner op v = .error fault v') :
    Underway inner sends w [] v'

/-- The runs of steps one after another, each of which succeeds, with a pause after each: which
steps are left, and the world in which the next is run. -/
inductive Passed (inner : List Progress → Operation → Run σ Answer) (stack : List Progress) :
    List String → World σ → List String → World σ → Prop
  /-- None is run. -/
  | none {ids : List String} {w : World σ} : Passed inner stack ids w ids w
  /-- The first is run, and others after it. -/
  | next {id : String} {ids left : List String} {w v w' : World σ} {result : StepResult}
    (hrun : runStep env (inner (.step id :: stack)) id w = .ok result v)
    (hok : result.isOk = true) (hids : ids ≠ [])
    (h : Passed inner stack ids (v.record .paused) left w') :
    Passed inner stack (id :: ids) w left w'

/-- Operations that are asked for while a request waits, to a depth, where whoever asks may
excuse a fault. -/
def askedFor (excuse : Fault → Option Answer) (depth : Nat) (stack : List Progress)
    (op : Operation) : Run σ Answer :=
  excused excuse (performNested env excuse depth stack op)

/-- Whether an operation that is carried out in a world comes to the call of an operation in
another. -/
inductive Comes (excuse : Fault → Option Answer) :
    Nat → List Progress → Operation → World σ → Operation → World σ → Prop
  /-- It is the call itself. -/
  | here {depth : Nat} {stack : List Progress} {op : Operation} {w : World σ} :
    Comes excuse depth stack op w op w
  /-- The run of the sequence comes to the run of a step once those before it have succeeded. -/
  | turn {depth : Nat} {stack : List Progress} {w v u : World σ} {id : String}
    {ids : List String} {op : Operation} (hfree : w.sequenceRunning = false)
    (hpassed : Passed env (askedFor env excuse depth) (.sequence :: stack) w.session.stepIds
      { w with sequenceRunning := true } (id :: ids) v)
    (h : Comes excuse (depth + 1) (.sequence :: stack) (.runStep (.named id)) v op u) :
    Comes excuse (depth + 1) stack .runAll w op u
  /-- An operation that waits for a reply comes to what the client asks for before it. -/
  | asked {depth : Nat} {stack stack' : List Progress} {w w' v u : World σ}
    {op asked op' : Operation} {ops : List Operation} {sends : World σ → Call → Prop}
    (hopens : Opens env stack w op stack' w' sends)
    (hunderway : Underway env (askedFor env excuse depth stack') sends w' (asked :: ops) v)
    (h : Comes excuse depth stack' asked v op' u) : Comes excuse (depth + 1) stack op w op' u

end Definitions

/-! ## Back to the refused call -/

section Refusals

variable {env : Environment σ}

/-- Whether a fault is a refusal only if it has come from an operation that was asked for, and
where that has left the world. -/
def Asked (env : Environment σ) (inner : Operation → Run σ Answer)
    (sends : World σ → Call → Prop) (w : World σ) (fault : Fault) (v : World σ) : Prop :=
  Underway env inner sends w [] v ∧ (fault.IsRefusal → ∃ op ops u,
    Underway env inner sends w (op :: ops) u ∧ inner op u = .error fault v)

section Exchange

variable (inner : Operation → Run σ Answer) (sends : World σ → Call → Prop) (w : World σ)

theorem handsOn_asked :
    HandsOn (Underway env inner sends w []) (Asked env inner sends w) where
  own hfault hv := ⟨hv, fun h => absurd h hfault⟩
  recorded h := h.1

theorem endsIn_performMeantime (ops : List Operation) :
    EndsIn (Underway env inner sends w ops) (performMeantime inner ops)
      (Underway env inner sends w []) (Asked env inner sends w) := by
  induction ops with
  | nil => exact endsIn_pure fun _ hv => hv
  | cons op ops ih =>
      constructor
      intro v hv
      rw [performMeantime]
      cases hinner : inner op v with
      | ok answer v' =>
          rw [bind_ok hinner]
          exact ih.holds _ (hv.answered hinner)
      | error fault v' =>
          simp only [bind, EStateM.bind, hinner]
          exact ⟨hv.failed hinner, fun _ => ⟨op, ops, v, hv, hinner⟩⟩

theorem endsIn_exchange (call : Call) :
    EndsIn (fun v => Underway env inner sends w [] v ∧ sends v call) (exchange env inner call)
      (Underway env inner sends w []) (Asked env inner sends w) := by
  constructor
  rintro v ⟨hv, hcall⟩
  have hexchange : exchange env inner call v =
      (performMeantime inner (env.client.answer v.peer call).1.meantime >>= fun _ =>
        pure (env.client.answer v.peer call).1.reply) (v.exchanged env call) := rfl
  rw [hexchange]
  exact (endsIn_bind (endsIn_performMeantime inner sends w _)
    fun _ => endsIn_pure fun _ hv' => hv').holds _ (hv.sent hcall)

end Exchange

theorem performWithin_runStep (inner : List Progress → Operation → Run σ Answer)
    (stack : List Progress) (name : StepName) (w : World σ) :
    performWithin env inner stack (.runStep name) w =
      match runStep env (inner (.step (name.resolve w.session) :: stack))
        (name.resolve w.session) w with
      | .ok result v => .ok (.result result) v
      | .error fault v => .error fault v := by
  have hname : (stepNamed name : Run σ String) w = .ok (name.resolve w.session) w := rfl
  rw [performWithin, bind_ok hname]
  simp only [bind, EStateM.bind]
  cases runStep env (inner (.step (name.resolve w.session) :: stack))
    (name.resolve w.session) w <;> rfl

variable {inner : List Progress → Operation → Run σ Answer} {stack : List Progress}
  {w w' : World σ} {fault : Fault}

/-- The run of a step that is refused is in progress, or something that was asked for is. -/
theorem runStep_refused {name : StepName} (hfault : fault.IsRefusal)
    (hrun : performWithin env inner stack (.runStep name) w = .error fault w') :
    (w.Refuses (.runStep name) fault ∧ w' = w) ∨
      ∃ stack' v sends u, Opens env stack w (.runStep name) stack' v sends ∧
        Asked env (inner stack') sends v fault u ∧ u.OnlyMarked w' := by
  generalize hid : name.resolve w.session = id at *
  rw [performWithin_runStep, hid] at hrun
  by_cases hbusy : id ∈ w.running
  · rw [runStep_busy _ hbusy] at hrun
    cases hrun
    subst hid
    exact Or.inl ⟨.step hbusy, rfl⟩
  · cases hx : w.session.step id with
    | error raised =>
        rw [runStep_unknown _ hbusy hx] at hrun
        cases hrun
        exact absurd hfault (w.session.raises_step id _ hx)
    | ok x =>
        have hends := (endsIn_stepResult (handsOn_asked _ _ _) (endsIn_exchange
          (inner (.step id :: stack)) (SendsFor env x (w.begun id)) (w.begun id)) .begun
          fun v place scope request hv hplace hscope hbuild =>
            ⟨place, scope, request, hplace, hscope, hbuild, rfl⟩)
        rw [runStep_eq _ hbusy hx] at hrun
        cases hresult : stepResult env (inner (.step id :: stack)) x (w.begun id) with
        | ok result v =>
            rw [hresult] at hrun
            cases hrun
        | error raised u =>
            rw [hresult] at hrun
            cases hrun
            exact Or.inr ⟨_, _, _, u, .step hid hbusy hx, hends.of_error rfl hresult,
              (World.OnlyMarked.refl u).ended id⟩

theorem asked_of_runEndpoint {value : Value} {values : Option Value} (hfault : fault.IsRefusal)
    (hrun : performWithin env inner stack (.runEndpoint value values) w = .error fault w') :
    ∃ v sends, Opens env stack w (.runEndpoint value values) stack v sends ∧
      Asked env (inner stack) sends v fault w' := by
  change perform env (inner stack) (.runEndpoint value values) w = .error fault w' at hrun
  rw [perform] at hrun
  cases hendpoint : Endpoint.ofValue? value with
  | none =>
      rw [hendpoint] at hrun
      cases hrun
      exact hfault.elim
  | some endpoint =>
      have hread : (optionalRecord {} Parameters.ofValue? values : Run σ Parameters) =
          checked (values.elim (some {}) Parameters.ofValue?) := by
        cases values <;> rfl
      rw [hendpoint, hread] at hrun
      cases hparameters : values.elim (some {}) Parameters.ofValue? with
      | none =>
          rw [hparameters] at hrun
          cases hrun
          exact hfault.elim
      | some parameters =>
          rw [hparameters] at hrun
          have hends := endsIn_bind (endsIn_runEndpoint (handsOn_asked (inner stack) (fun _ =>
              SendsOnce env (env.builder.build
                { id := env.stepId w.created, endpoint := endpoint
                  inputs := Inputs.ofParameters parameters } w.session.resolver [])) _)
            (endsIn_exchange _ _ _) .begun fun request hbuild => ⟨request, hbuild, rfl⟩)
            fun result => endsIn_pure (a := Answer.result result) fun _ hv => hv
          exact ⟨_, _, .endpoint hendpoint hparameters, hends.of_error rfl hrun⟩

theorem asked_of_testConnection
    (hrun : performWithin env inner stack .testConnection w = .error fault w') :
    ∃ v sends, Opens env stack w .testConnection stack v sends ∧
      Asked env (inner stack) sends v fault w' := by
  have hends := endsIn_bind (endsIn_testConnection (handsOn_asked (inner stack) (fun _ =>
      SendsOnce env (.ok
        { method := "GET", url := Text.dropTrailing '/' env.connection.baseUrl ++ "/users/me" })) w)
    (endsIn_exchange _ _ _) .begun ⟨_, rfl, rfl⟩)
    fun result => endsIn_pure (a := Answer.result result) fun _ hv => hv
  simp only [performWithin, perform] at hrun
  exact ⟨_, _, .connection, hends.of_error rfl hrun⟩

/-- Steps that are run one after another are ended by a fault in the turn of one of them. -/
theorem exists_passed_of_runStepsWithin {ids : List String}
    (hrun : runStepsWithin env inner stack ids w = .error fault w') :
    ∃ id left v, Passed env inner stack ids w (id :: left) v ∧
      runStep env (inner (.step id :: stack)) id v = .error fault w' := by
  induction ids generalizing w with
  | nil => cases hrun
  | cons id ids ih =>
      rw [runStepsWithin] at hrun
      cases hresult : runStep env (inner (.step id :: stack)) id w with
      | error raised v =>
          simp only [bind, EStateM.bind, hresult] at hrun
          cases hrun
          exact ⟨id, ids, w, .none, hresult⟩
      | ok result v =>
          rw [bind_ok hresult] at hrun
          cases hok : result.isOk with
          | false =>
              rw [hok] at hrun
              cases hrun
          | true =>
              rw [hok] at hrun
              cases ids with
              | nil => cases hrun
              | cons next others =>
                  have hpaused : (modify (·.record .paused) : Run σ PUnit) v =
                      .ok ⟨⟩ (v.record .paused) := rfl
                  simp only [Bool.not_true, Bool.false_eq_true, if_false, List.isEmpty_cons] at hrun
                  rw [bind_ok hpaused] at hrun
                  simp only [bind, EStateM.bind] at hrun
                  cases hothers : runStepsWithin env inner stack (next :: others)
                      (v.record .paused) with
                  | ok results u =>
                      rw [hothers] at hrun
                      cases hrun
                  | error raised u =>
                      rw [hothers] at hrun
                      cases hrun
                      obtain ⟨other, left, u, hpassed, hfailed⟩ := ih hothers
                      exact ⟨other, left, u,
                        .next hresult hok (List.cons_ne_nil next others) hpassed, hfailed⟩

theorem runAllWithin_busy (inner : List Progress → Operation → Run σ Answer)
    (stack : List Progress) (hbusy : w.sequenceRunning = true) :
    runAllWithin env inner stack w = .error .sequenceInProgress w := by
  rw [runAllWithin, get_bind, hbusy]
  rfl

/-- The run of the sequence is refused if the sequence is in progress, and is ended by a fault in
the turn of a step otherwise. -/
theorem exists_passed_of_runAll
    (hrun : performWithin env inner stack .runAll w = .error fault w') :
    (w.Refuses .runAll fault ∧ w' = w) ∨ w.sequenceRunning = false ∧ ∃ id left v u,
      Passed env inner (.sequence :: stack) w.session.stepIds { w with sequenceRunning := true }
        (id :: left) v ∧
      performWithin env inner (.sequence :: stack) (.runStep (.named id)) v = .error fault u ∧
      u.OnlyMarked w' := by
  cases hfree : w.sequenceRunning with
  | true =>
      rw [performWithin] at hrun
      simp only [bind, EStateM.bind, runAllWithin_busy inner stack hfree] at hrun
      cases hrun
      exact Or.inl ⟨.sequence hfree, rfl⟩
  | false =>
      have hsteps : runAllWithin env inner stack w = between
          (fun w => { w with sequenceRunning := true })
          (fun w => { w with sequenceRunning := false })
          (runStepsWithin env inner (.sequence :: stack) w.session.stepIds) w := by
        rw [runAllWithin, get_bind, hfree]
        rfl
      rw [performWithin] at hrun
      simp only [bind, EStateM.bind, hsteps, between] at hrun
      cases hruns : runStepsWithin env inner (.sequence :: stack) w.session.stepIds
          { w with sequenceRunning := true } with
      | ok results v =>
          rw [hruns] at hrun
          cases hrun
      | error raised u =>
          rw [hruns] at hrun
          cases hrun
          obtain ⟨id, left, v, hpassed, hfailed⟩ := exists_passed_of_runStepsWithin hruns
          refine Or.inr ⟨rfl, id, left, v, u, hpassed, ?_, (World.OnlyMarked.refl u).left⟩
          rw [performWithin_runStep]
          change (match runStep env (inner (.step id :: .sequence :: stack)) id v with
            | .ok result v => .ok (.result result) v
            | .error fault v => .error fault v : EStateM.Result Fault (World σ) Answer) = _
          rw [hfailed]

end Refusals

section Nested

variable {env : Environment σ} {excuse : Fault → Option Answer} {depth : Nat}
  {stack : List Progress} {op : Operation} {w w' : World σ} {fault : Fault}

theorem performNested_succ (env : Environment σ) (excuse : Fault → Option Answer) (depth : Nat)
    (stack : List Progress) (op : Operation) (w : World σ) :
    performNested env excuse (depth + 1) stack op w =
      performWithin env (askedFor env excuse depth) stack op w := by
  change between (fun w => w) (fun w => w)
    (performWithin env (askedFor env excuse depth) stack op) w = _
  rw [between]
  cases performWithin env (askedFor env excuse depth) stack op w <;> rfl

/-- A fault of what was asked for is one that was not excused. -/
theorem eq_error_of_askedFor (h : askedFor env excuse depth stack op w = .error fault w') :
    performNested env excuse depth stack op w = .error fault w' := by
  unfold askedFor excused at h
  split at h
  · next raised v hrun =>
    split at h
    · cases h
    · rw [hrun]
      exact h
  · next hrun => rw [h]

/-- An operation that is refused changes nothing and sends nothing, whatever is in progress. -/
theorem performNested_of_refuses (h : w.Refuses op fault) :
    performNested env excuse (depth + 1) stack op w = .error fault w := by
  rw [performNested_succ]
  cases h with
  | step hbusy => rw [performWithin_runStep, runStep_busy _ hbusy]
  | sequence hbusy =>
      rw [performWithin]
      simp only [bind, EStateM.bind, runAllWithin_busy (askedFor env excuse depth) stack hbusy]

/-- What sends nothing is carried out as ever, whatever is in progress. -/
theorem performWithin_of_sends_false (inner : List Progress → Operation → Run σ Answer)
    (hop : op.sends = false) :
    performWithin env inner stack op = perform env (inner stack) op := by
  cases op with
  | runStep name => cases hop
  | runAll => cases hop
  | _ => rfl

/-- A refusal that an operation hands on is that of a call it has come to, and leaves the world
as it was when that call was made, but for the marks that are taken back on the way. -/
theorem exists_comes (hfault : fault.IsRefusal)
    (hrun : performNested env excuse depth stack op w = .error fault w') :
    ∃ op' u, Comes env excuse depth stack op w op' u ∧ u.Refuses op' fault ∧
      u.OnlyMarked w' := by
  induction depth generalizing stack op w w' with
  | zero =>
      cases hrun
      exact hfault.elim
  | succ depth ih =>
      -- What an operation that waits for a reply was asked for is one level deeper.
      have hasked : ∀ {stack stack' : List Progress} {op : Operation} {w v u : World σ}
          {sends : World σ → Call → Prop}, Opens env stack w op stack' v sends →
          Asked env (askedFor env excuse depth stack') sends v fault u →
          ∃ op' u', Comes env excuse (depth + 1) stack op w op' u' ∧ u'.Refuses op' fault ∧
            u'.OnlyMarked u := by
        intro stack stack' op w v u sends hopens hu
        obtain ⟨asked, ops, v', hunderway, hfailed⟩ := hu.2 hfault
        obtain ⟨op', u', hcomes, hrefuses, hmarked⟩ := ih (eq_error_of_askedFor hfailed)
        exact ⟨op', u', .asked hopens hunderway hcomes, hrefuses, hmarked⟩
      have hstep : ∀ {stack : List Progress} {name : StepName} {w w' : World σ},
          performWithin env (askedFor env excuse depth) stack (.runStep name) w =
            .error fault w' →
          ∃ op' u, Comes env excuse (depth + 1) stack (.runStep name) w op' u ∧
            u.Refuses op' fault ∧ u.OnlyMarked w' := by
        intro stack name w w' hrun
        obtain ⟨hrefuses, rfl⟩ | ⟨stack', v, sends, u, hopens, hu, hmarked⟩ :=
          runStep_refused hfault hrun
        · exact ⟨_, _, .here, hrefuses, .refl _⟩
        · obtain ⟨op', u', hcomes, hrefuses, hbefore⟩ := hasked hopens hu
          exact ⟨op', u', hcomes, hrefuses, hbefore.trans hmarked⟩
      rw [performNested_succ] at hrun
      cases hsends : op.sends with
      | false =>
          rw [performWithin_of_sends_false _ hsends] at hrun
          have hnever := neverRefused_perform env (askedFor env excuse depth stack) hsends
          exact absurd hfault (hnever.of_error trivial hrun)
      | true =>
          cases op with
          | runStep name => exact hstep hrun
          | runAll =>
              obtain ⟨hrefuses, rfl⟩ | ⟨hfree, id, left, v, u, hpassed, hfailed, hmarked⟩ :=
                exists_passed_of_runAll hrun
              · exact ⟨_, _, .here, hrefuses, .refl _⟩
              · obtain ⟨op', u', hcomes, hrefuses, hbefore⟩ := hstep hfailed
                exact ⟨op', u', .turn hfree hpassed hcomes, hrefuses, hbefore.trans hmarked⟩
          | runEndpoint value values =>
              obtain ⟨v, sends, hopens, hu⟩ := asked_of_runEndpoint hfault hrun
              exact hasked hopens hu
          | testConnection =>
              obtain ⟨v, sends, hopens, hu⟩ := asked_of_testConnection hrun
              exact hasked hopens hu
          | _ => cases hsends

/-- A refused run changes nothing and sends nothing. An operation that asks to run what is in
progress leaves the world as it is. Any other operation that is ended by a refusal hands it on
from an operation that it has come to: then the steps with their states and results, what is
stored and the calls that have been sent are as they were when that operation was asked for. -/
theorem performNested_refused (env : Environment σ) (excuse : Fault → Option Answer)
    (depth : Nat) (stack : List Progress) (op : Operation) (w : World σ) :
    (∀ fault, w.Refuses op fault →
      performNested env excuse (depth + 1) stack op w = .error fault w) ∧
    ∀ fault w', performNested env excuse depth stack op w = .error fault w' →
      fault.IsRefusal → ∃ op' u, Comes env excuse depth stack op w op' u ∧
        u.Refuses op' fault ∧ w'.session = u.session ∧ w'.calls = u.calls ∧ u.OnlyMarked w' := by
  constructor
  · intro fault h
    exact performNested_of_refuses h
  · intro fault w' hrun hfault
    obtain ⟨op', u, hcomes, hrefuses, hmarked⟩ := exists_comes hfault hrun
    exact ⟨op', u, hcomes, hrefuses, hmarked.session_eq, hmarked.calls_eq, hmarked⟩

end Nested

/-- Whether an operation is ended by the refusal of a step. -/
def endsRefused (id : String) : EStateM.Result Fault (World Nat) Answer → Bool
  | .error fault _ => fault = .stepInProgress id
  | .ok _ _ => false

theorem exists_of_endsRefused {id : String} {ended : EStateM.Result Fault (World Nat) Answer}
    (h : endsRefused id ended = true) : ∃ w, ended = .error (.stepInProgress id) w := by
  cases ended with
  | ok answer w => cases h
  | error fault w =>
      obtain rfl := of_decide_eq_true h
      exact ⟨w, rfl⟩

/-- The client asks for the step whose request waits; the run of the sequence hands the refusal
on. -/
theorem performNested_refused_asking :
    World.Refuses { World.oneStep with sequenceRunning := true } .runAll .sequenceInProgress ∧
    performNested Environment.asking (fun _ => none) 1 [] .runAll
        { World.oneStep with sequenceRunning := true } =
      .error .sequenceInProgress { World.oneStep with sequenceRunning := true } ∧
    ∃ w' op u, performNested Environment.asking (fun _ => none) 3 [] .runAll World.oneStep =
        .error (.stepInProgress "a") w' ∧
      Comes Environment.asking (fun _ => none) 3 [] .runAll World.oneStep op u ∧
      u.Refuses op (.stepInProgress "a") ∧ w'.session = u.session ∧ w'.calls = u.calls := by
  have hbusy : World.Refuses { World.oneStep with sequenceRunning := true } .runAll
      .sequenceInProgress := .sequence rfl
  obtain ⟨w', hrun⟩ : ∃ w', performNested Environment.asking (fun _ => none) 3 [] .runAll
      World.oneStep = .error (.stepInProgress "a") w' :=
    exists_of_endsRefused (by decide +kernel)
  have hrefused := performNested_refused Environment.asking fun _ => none
  obtain ⟨op, u, hcomes, hrefuses, hsession, hcalls, -⟩ :=
    (hrefused 3 [] .runAll World.oneStep).2 _ w' hrun trivial
  exact ⟨hbusy, (hrefused 0 [] .runAll _).1 _ hbusy, w', op, u, hrun, hcomes, hrefuses, hsession,
    hcalls⟩

end Run

/-- An environment whose client asks for the sequence before it answers the first call. -/
def Environment.overtaking : Environment Nat :=
  { Environment.wearing with
    client := ⟨fun calls _ =>
      (if calls = 0 then ⟨[.runAll], .answered 200 "\x7b\x7d" none⟩
        else ⟨[], .answered 200 "\x7b\x7d" none⟩, calls + 1)⟩ }

/-- A session of two steps that have not been run. -/
def World.unrun : World Nat where
  session :=
    { baseUrl := "http://a"
      steps := [{ id := "a", endpoint := { method := .get, path := "/users" } },
        { id := "b", endpoint := { method := .get, path := "/tags" } }] }
  peer := 0

/-- The same session when the request of the second step waits for its reply. -/
def World.waiting : World Nat :=
  (World.unrun.begun "b").exchanged Environment.overtaking
    (Environment.overtaking.connection.call
      { method := "GET", url := "http://a/tags"
        query := [("limit", "10"), ("opt_pretty", "true")] })

/-- Whether the run of the sequence is ended by the refusal of a step after it has stored
results and sent calls. -/
def Run.endsLate (id : String) : EStateM.Result Fault (World Nat) Answer → Bool
  | .error fault w =>
      fault = .stepInProgress id ∧ w.session.results.map Prod.fst = ["a"] ∧ w.calls.length = 2
  | .ok _ _ => false

/-- The run of the sequence may be refused at a step after others have been run: a run of the
second step is asked for first, and the run of the sequence while its request waits. -/
theorem Run.not_refusedUnchanged :
    Comes Environment.overtaking (fun _ => none) 2 [] (.runStep (.place 1)) World.unrun
      .runAll World.waiting ∧
    ∃ w', performNested Environment.overtaking (fun _ => none) 1 [.step "b"] .runAll
        World.waiting = .error (.stepInProgress "b") w' ∧
      w'.session ≠ World.waiting.session ∧ w'.calls ≠ World.waiting.calls := by
  have hcomes : Comes Environment.overtaking (fun _ => none) 2 [] (.runStep (.place 1))
      World.unrun .runAll World.waiting := by
    let x : Step := { id := "b", endpoint := { method := .get, path := "/tags" } }
    have hopens : Opens Environment.overtaking [] World.unrun (.runStep (.place 1))
        [.step "b"] (World.unrun.begun "b")
        (SendsFor Environment.overtaking x (World.unrun.begun "b")) :=
      .step rfl (by decide) rfl
    have hunderway : Underway Environment.overtaking
        (askedFor Environment.overtaking (fun _ => none) 1 [.step "b"])
        (SendsFor Environment.overtaking x (World.unrun.begun "b")) (World.unrun.begun "b")
        [.runAll] World.waiting :=
      .sent .begun ⟨1, [], _, rfl, .single rfl, by decide +kernel, rfl⟩
    exact .asked hopens hunderway .here
  refine ⟨hcomes, ?_⟩
  have hends : endsLate "b" (performNested Environment.overtaking (fun _ => none) 1 [.step "b"]
      .runAll World.waiting) = true := by
    decide +kernel
  generalize performNested Environment.overtaking (fun _ => none) 1 [.step "b"] .runAll
    World.waiting = ended at hends
  cases ended with
  | ok answer w => cases hends
  | error fault w =>
      obtain ⟨rfl, hresults, hcalls⟩ := of_decide_eq_true hends
      refine ⟨w, rfl, fun heq => ?_, fun heq => ?_⟩
      · rw [heq] at hresults
        cases hresults
      · rw [heq] at hcalls
        cases hcalls

end CallChain
