/-
# What a run records, and what escapes it

The run of a step records how it has ended: with what was received, or with a step error. Some
faults are no step errors, and end the run without a record: an address that cannot be prepared,
a text that cannot be encoded, a number with more digits than are read, a body that is no text, a
text whose nesting is too deep. `StepEscape` says exactly when a run is ended by one.
-/

import CallChain.Proofs.Request.Raised
import CallChain.Proofs.Session.FailFast
import CallChain.Proofs.Session.FanOut

namespace CallChain

variable {σ : Type} {env : Environment σ}

/-- Whether a fault ends the run of a step and is not recorded in it. -/
def Fault.Escaping : Fault → Prop
  | badAddress _ | badNumber _ | bodyNotText | notEncoded | nestedTooDeep => True
  | _ => False

theorem Fault.OfBuilding.escaping {fault : Fault} (h : fault.OfBuilding)
    (hstep : ∀ e, fault ≠ .step e) : fault.Escaping := by
  cases fault with
  | step e => exact absurd rfl (hstep e)
  | badNumber problem => trivial
  | bodyNotText => trivial
  | notEncoded => trivial
  | nestedTooDeep => trivial
  | _ => cases h

namespace Response

/-- A reply that is no response is a step error, or is nested too deeply. -/
theorem ofReply_eq_error {reply : Reply} {fault : Fault} (h : ofReply reply = .error fault) :
    (∃ e, fault = .step e) ∨ fault = .nestedTooDeep := by
  cases reply with
  | failed detail =>
      cases h
      exact Or.inl ⟨_, rfl⟩
  | answered status content reason =>
      rw [ofReply, ofContent] at h
      split at h
      · cases h
      · split at h
        · cases h
        · cases h
          exact Or.inr rfl
        · split at h
          · cases h
            exact Or.inl ⟨_, rfl⟩
          · cases h
        · split at h
          · cases h
            exact Or.inl ⟨_, rfl⟩
          · cases h

end Response

/-- The check of a name raises step errors only. -/
theorem Iteration.checkVariable_eq_error {name : String} {ids : List String} {fault : Fault}
    (h : checkVariable name ids = .error fault) : ∃ e, fault = .step e := by
  unfold checkVariable at h
  split at h
  · cases h
    exact ⟨_, rfl⟩
  · split at h
    · cases h
      exact ⟨_, rfl⟩
    · cases h

/-! ## Calls -/

namespace Run

/-- What is caught are step errors. -/
theorem caught_eq_error_iff {α : Type} {run : Run σ α} {onError : StepError → α} {w : World σ}
    {fault : Fault} : (∃ w', caught run onError w = .error fault w') ↔
      (∃ w', run w = .error fault w') ∧ ∀ e, fault ≠ .step e := by
  unfold caught
  cases run w with
  | ok a v => simp
  | error raised v => cases raised <;> simp +contextual [eq_comm]

/-- The fault that ends a call, where one does. -/
inductive CallEscape (env : Environment σ) (x : Step) (r : Resolver) (scope : Fields Value)
    (peer : σ) : Fault → Prop
  /-- The request cannot be built, for a reason that is no step error. -/
  | building {fault : Fault} (hbuild : env.builder.build x r scope = .error fault)
    (hstep : ∀ e, fault ≠ .step e) : CallEscape env x r scope peer fault
  /-- The body of the request cannot be encoded. -/
  | body {request : Request} (hbuild : env.builder.build x r scope = .ok request)
    (hbody : request.hasEncodableBody env.builder.isHalf = false) :
    CallEscape env x r scope peer .notEncoded
  /-- The address of the request cannot be prepared. -/
  | address {request : Request} {problem : AddressProblem}
    (hbuild : env.builder.build x r scope = .ok request)
    (hbody : request.hasEncodableBody env.builder.isHalf = true)
    (haddress : Address.prepare request.url request.query env.builder.isHalf =
      .error problem) : CallEscape env x r scope peer (.badAddress problem)
  /-- The reply is nested too deeply. -/
  | reply {request : Request} {address : String}
    (hbuild : env.builder.build x r scope = .ok request)
    (hprepare : request.prepare env.builder.isHalf = .ok address)
    (hreply : Response.ofReply (env.client.answer peer (env.connection.call request)).1.reply =
      .error .nestedTooDeep) : CallEscape env x r scope peer .nestedTooDeep

theorem CallEscape.escaping {x : Step} {r : Resolver} {scope : Fields Value} {peer : σ}
    {fault : Fault} (h : CallEscape env x r scope peer fault) : fault.Escaping := by
  cases h with
  | building hbuild hstep =>
      exact (Builder.raises_build x r scope env.builder fault hbuild).ofBuilding.escaping hstep
  | body hbuild hbody => trivial
  | address hbuild hbody haddress => trivial
  | reply hbuild hprepare hreply => trivial

section Calls

variable (inner : Operation → Run σ Answer) (hclient : env.client.OnlyReplies) {x : Step}
  {r : Resolver} {scope : Fields Value} {request : Request} {address : String} {w : World σ}

include hclient

/-- A request that fails on its way has an outcome. -/
theorem attempt_failed {detail : String} (hbuild : env.builder.build x r scope = .ok request)
    (hprepare : request.prepare env.builder.isHalf = .ok address)
    (hreply : (env.client.answer w.peer (env.connection.call request)).1.reply = .failed detail) :
    attempt env inner x r scope w =
      .ok (.failed ⟨none, "Network Error: " ++ detail, "NetworkFailure"⟩)
        (w.exchanged env (env.connection.call request)) := by
  rw [attempt_sent inner hclient hbuild hprepare, hreply]
  rfl

theorem callEscape_of_attempt {fault : Fault} {v : World σ}
    (hrun : attempt env inner x r scope w = .error fault v) :
    CallEscape env x r scope w.peer fault := by
  cases hbuild : env.builder.build x r scope with
  | error raised =>
      rw [attempt_unbuilt inner hbuild] at hrun
      cases raised with
      | step e => cases hrun
      | _ =>
          cases hrun
          exact .building hbuild nofun
  | ok request =>
      cases hprepare : request.prepare env.builder.isHalf with
      | error raised =>
          rw [attempt_unprepared inner hbuild hprepare] at hrun
          cases hrun
          rcases Request.prepare_eq_error_iff.mp hprepare with
            ⟨hbody, rfl⟩ | ⟨hbody, problem, haddress, rfl⟩
          · exact .body hbuild hbody
          · exact .address hbuild hbody haddress
      | ok address =>
          rw [attempt_sent inner hclient hbuild hprepare] at hrun
          cases hreply : Response.ofReply
              (env.client.answer w.peer (env.connection.call request)).1.reply with
          | ok response =>
              rw [hreply] at hrun
              cases hreceived : response.received with
              | ok received =>
                  simp only [bind, Except.bind, hreceived] at hrun
                  cases hrun
              | error e =>
                  simp only [bind, Except.bind, hreceived] at hrun
                  cases hrun
          | error raised =>
              rw [hreply] at hrun
              rcases Response.ofReply_eq_error hreply with ⟨e, rfl⟩ | rfl
              · cases hrun
              · cases hrun
                exact .reply hbuild hprepare hreply

theorem CallEscape.attempt_eq {fault : Fault} (h : CallEscape env x r scope w.peer fault) :
    ∃ v, attempt env inner x r scope w = .error fault v := by
  cases h with
  | building hbuild hstep =>
      refine ⟨w, ?_⟩
      rw [attempt_unbuilt inner hbuild]
      cases fault with
      | step e => exact absurd rfl (hstep e)
      | _ => rfl
  | body hbuild hbody =>
      exact ⟨w, attempt_unprepared inner hbuild
        (Request.prepare_eq_error_iff.mpr (Or.inl ⟨hbody, rfl⟩)) w⟩
  | address hbuild hbody haddress =>
      exact ⟨w, attempt_unprepared inner hbuild
        (Request.prepare_eq_error_iff.mpr (Or.inr ⟨hbody, _, haddress, rfl⟩)) w⟩
  | @reply request _ hbuild hprepare hreply =>
      refine ⟨w.exchanged env (env.connection.call request), ?_⟩
      rw [attempt_sent inner hclient hbuild hprepare, hreply]
      rfl

/-- A call is ended by a fault just where one escapes it. -/
theorem callEscape_iff {fault : Fault} :
    (∃ v, attempt env inner x r scope w = .error fault v) ↔
      CallEscape env x r scope w.peer fault :=
  ⟨fun ⟨_, hrun⟩ => callEscape_of_attempt inner hclient hrun,
    fun h => h.attempt_eq inner hclient⟩

end Calls

/-! ## Steps -/

/-- The fault that ends the calls for items from a place on, where one does. -/
inductive ItemsEscape (env : Environment σ) (inner : Operation → Run σ Answer) (x : Step)
    (ids : List String) : Nat → List Value → World σ → Fault → Prop
  /-- It escapes the call for the first. -/
  | first {index : Nat} {item : Value} {items : List Value} {w : World σ} {fault : Fault}
    (h : CallEscape env (w.current x) ⟨w.session.results, ids⟩
      (Iteration.itemScope x.iteration.variableName index item) w.peer fault) :
    ItemsEscape env inner x ids index (item :: items) w fault
  /-- It escapes the call for another, made after that for the first. -/
  | later {index : Nat} {item : Value} {items : List Value} {outcome : CallOutcome}
    {w v : World σ} {fault : Fault}
    (hcall : attemptItem env inner x ids index item w = .ok outcome v)
    (hrest : ItemsEscape env inner x ids (index + 1) items v fault) :
    ItemsEscape env inner x ids index (item :: items) w fault

/-- The fault that ends the run of a step at a place, once it has begun, where one does. -/
inductive StepEscape (env : Environment σ) (inner : Operation → Run σ Answer) (x : Step)
    (place : Nat) (w : World σ) : Fault → Prop
  /-- It escapes the one call. -/
  | call {fault : Fault} (hsingle : x.iteration.enabled = false)
    (h : CallEscape env (w.current x) w.session.resolver [] w.peer fault) :
    StepEscape env inner x place w fault
  /-- The source of the iteration cannot be read, for a reason that is no step error. -/
  | source {fault : Fault} (hiterated : x.iteration.enabled = true)
    (hcheck : Iteration.checkVariable x.iteration.variableName w.session.stepIds = .ok ())
    (hitems : x.iteration.items w.session.resolver place = .error fault)
    (hstep : ∀ e, fault ≠ .step e) : StepEscape env inner x place w fault
  /-- It escapes the calls for the items. -/
  | items {fault : Fault} {items : List Value} (hiterated : x.iteration.enabled = true)
    (hcheck : Iteration.checkVariable x.iteration.variableName w.session.stepIds = .ok ())
    (hitems : x.iteration.items w.session.resolver place = .ok items)
    (h : ItemsEscape env inner x w.session.stepIds 0 items w fault) :
    StepEscape env inner x place w fault

section Escaping

variable {inner : Operation → Run σ Answer} {x : Step} {w : World σ} {fault : Fault}

theorem ItemsEscape.escaping {ids : List String} {index : Nat} {items : List Value}
    (h : ItemsEscape env inner x ids index items w fault) : fault.Escaping := by
  induction h with
  | first h => exact h.escaping
  | later hcall hrest ih => exact ih

theorem StepEscape.escaping {place : Nat} (h : StepEscape env inner x place w fault) :
    fault.Escaping := by
  cases h with
  | call hsingle h => exact h.escaping
  | source hiterated hcheck hitems hstep =>
      exact (Iteration.raises_items _ _ _ fault hitems).ofBuilding.escaping hstep
  | items hiterated hcheck hitems h => exact h.escaping

end Escaping

section Steps

variable (inner : Operation → Run σ Answer) (hclient : env.client.OnlyReplies) {x : Step}
  {w : World σ} {fault : Fault}

include hclient

theorem itemsEscape_iff {ids : List String} {index : Nat} {items : List Value} :
    (∃ w', iterateItems env inner x ids x.iteration.variableName index items w =
      .error fault w') ↔ ItemsEscape env inner x ids index items w fault := by
  induction items generalizing index w with
  | nil =>
      constructor
      · rintro ⟨w', hrun⟩
        cases hrun
      · rintro ⟨⟩
  | cons item items ih =>
      have hfirst : (∃ v, attemptItem env inner x ids index item w = .error fault v) ↔
          CallEscape env (w.current x) ⟨w.session.results, ids⟩
            (Iteration.itemScope x.iteration.variableName index item) w.peer fault :=
        callEscape_iff inner hclient
      rw [iterateItems_cons]
      cases hcall : attemptItem env inner x ids index item w with
      | error raised u =>
          constructor
          · rintro ⟨w', hrun⟩
            cases hrun
            exact .first (hfirst.mp ⟨u, hcall⟩)
          · rintro (h | ⟨hother, -⟩)
            · obtain ⟨v, hrun⟩ := hfirst.mpr h
              cases hrun.symm.trans hcall
              exact ⟨u, rfl⟩
            · cases hcall.symm.trans hother
      | ok outcome u =>
          dsimp only
          constructor
          · rintro ⟨w', hrun⟩
            refine .later hcall (ih.mp ⟨w', ?_⟩)
            split at hrun
            · next hrest =>
              cases hrun
              exact hrest
            · cases hrun
          · rintro (h | ⟨hother, hrest⟩)
            · obtain ⟨v, hrun⟩ := hfirst.mpr h
              cases hrun.symm.trans hcall
            · cases hcall.symm.trans hother
              obtain ⟨w', hrun⟩ := ih.mpr hrest
              rw [hrun]
              exact ⟨w', rfl⟩

omit hclient in
/-- A step that is not iterated is one call. -/
theorem stepResult_single (hsingle : x.iteration.enabled = false) {place : Nat}
    (hplace : w.session.place x.id = .ok place) :
    stepResult env inner x w =
      match attempt env inner (w.current x) w.session.resolver [] w with
      | .ok outcome v => .ok (.ofCall outcome) v
      | .error fault v => .error fault v := by
  have hfound : (ofExcept (.ok place) : Run σ Nat) w = .ok place w := rfl
  rw [stepResult, get_bind, hplace, bind_ok hfound, hsingle, if_neg Bool.false_ne_true,
    Session.resolver, ← caught_executeStepOnce]
  simp only [caught, bind, EStateM.bind]
  cases executeStepOnce env inner x w.session.stepIds [] w with
  | ok received v => rfl
  | error fault v => cases fault <;> rfl

omit hclient in
theorem iterate_eq (ids : List String) (place : Nat) :
    iterate env inner x ids place w =
      match (do
        Iteration.checkVariable x.iteration.variableName ids
        x.iteration.items ⟨w.session.results, ids⟩ place : Except Fault (List Value)) with
      | .error (.step e) => .ok (.failed e.toFailure) w
      | .error fault => .error fault w
      | .ok items =>
        match iterateItems env inner x ids x.iteration.variableName 0 items w with
        | .ok outcomes v => .ok (x.iteration.result outcomes) v
        | .error fault v => .error fault v := by
  refine (get_bind _ w).trans ?_
  generalize (do
    Iteration.checkVariable x.iteration.variableName ids
    x.iteration.items ⟨w.session.results, ids⟩ place : Except Fault (List Value)) = source
  cases source with
  | error fault => cases fault <;> rfl
  | ok items =>
      simp only [bind, EStateM.bind]
      cases iterateItems env inner x ids x.iteration.variableName 0 items w <;> rfl

omit hclient in
/-- An iterated step is done when the items are. -/
theorem stepResult_iterated (hiterated : x.iteration.enabled = true) {place : Nat}
    (hplace : w.session.place x.id = .ok place) :
    stepResult env inner x w =
      caught (iterate env inner x w.session.stepIds place) (fun e => .failed e.toFailure) w := by
  have hfound : (ofExcept (.ok place) : Run σ Nat) w = .ok place w := rfl
  rw [stepResult, get_bind, hplace, bind_ok hfound, hiterated, if_pos rfl]

/-- An iteration is ended by a fault just where one escapes its source or its items. -/
theorem iterate_eq_error_iff {ids : List String} {place : Nat} :
    (∃ w', iterate env inner x ids place w = .error fault w') ↔
      Iteration.checkVariable x.iteration.variableName ids = .ok () ∧
        ((x.iteration.items ⟨w.session.results, ids⟩ place = .error fault ∧
            ∀ e, fault ≠ .step e) ∨
          ∃ items, x.iteration.items ⟨w.session.results, ids⟩ place = .ok items ∧
            ItemsEscape env inner x ids 0 items w fault) := by
  rw [iterate_eq]
  cases hcheck : Iteration.checkVariable x.iteration.variableName ids with
  | error raised =>
      obtain ⟨e, rfl⟩ := Iteration.checkVariable_eq_error hcheck
      constructor
      · rintro ⟨w', hrun⟩
        cases hrun
      · rintro ⟨hok, -⟩
        cases hok
  | ok u =>
      simp only [bind, Except.bind, true_and]
      cases hitems : x.iteration.items ⟨w.session.results, ids⟩ place with
      | error raised =>
          constructor
          · rintro ⟨w', hrun⟩
            cases raised with
            | step e => cases hrun
            | _ =>
                cases hrun
                exact Or.inl ⟨rfl, nofun⟩
          · rintro (⟨heq, hstep⟩ | ⟨items, hok, -⟩)
            · cases heq
              cases fault with
              | step e => exact absurd rfl (hstep e)
              | _ => exact ⟨w, rfl⟩
            · cases hok
      | ok items =>
          constructor
          · rintro ⟨w', hrun⟩
            refine Or.inr ⟨items, rfl, (itemsEscape_iff inner hclient).mp ⟨w', ?_⟩⟩
            dsimp only at hrun
            split at hrun
            · cases hrun
            · next hend =>
              cases hrun
              exact hend
          · rintro (⟨heq, -⟩ | ⟨items', hok, h⟩)
            · cases heq
            · cases hok
              obtain ⟨w', hrun⟩ := (itemsEscape_iff inner hclient).mpr h
              refine ⟨w', ?_⟩
              dsimp only
              rw [hrun]

/-- The run of a step that has begun is ended by a fault just where one escapes it. -/
theorem stepEscape_iff {place : Nat} (hplace : w.session.place x.id = .ok place) :
    (∃ w', stepResult env inner x w = .error fault w') ↔ StepEscape env inner x place w fault := by
  cases henabled : x.iteration.enabled with
  | false =>
      have hcall : (∃ v, attempt env inner (w.current x) w.session.resolver [] w =
          .error fault v) ↔ CallEscape env (w.current x) w.session.resolver [] w.peer fault :=
        callEscape_iff inner hclient
      rw [stepResult_single inner henabled hplace]
      constructor
      · rintro ⟨w', hrun⟩
        refine .call henabled (hcall.mp ⟨w', ?_⟩)
        split at hrun
        · cases hrun
        · next hend =>
          cases hrun
          exact hend
      · rintro (⟨-, h⟩ | ⟨hiterated, -⟩ | ⟨hiterated, -⟩)
        · obtain ⟨v, hrun⟩ := hcall.mpr h
          rw [hrun]
          exact ⟨v, rfl⟩
        · cases henabled.symm.trans hiterated
        · cases henabled.symm.trans hiterated
  | true =>
      have hiterate : (∃ w', iterate env inner x w.session.stepIds place w = .error fault w') ↔
          _ := iterate_eq_error_iff inner hclient
      rw [stepResult_iterated inner henabled hplace, caught_eq_error_iff, hiterate]
      constructor
      · rintro ⟨⟨hcheck, ⟨hitems, hstep⟩ | ⟨items, hitems, h⟩⟩, -⟩
        · exact .source henabled hcheck hitems hstep
        · exact .items henabled hcheck hitems h
      · intro h
        refine ⟨?_, fun e he => ?_⟩
        · rcases h with ⟨hsingle, -⟩ | ⟨-, hcheck, hitems, hstep⟩ | ⟨-, hcheck, hitems, h⟩
          · cases henabled.symm.trans hsingle
          · exact ⟨hcheck, Or.inl ⟨hitems, hstep⟩⟩
          · exact ⟨hcheck, Or.inr ⟨_, hitems, h⟩⟩
        · have hescaping := h.escaping
          rw [he] at hescaping
          exact hescaping

end Steps

end Run

/-! ## Runs -/

theorem Session.exists_step {s : Session} {id : String} (h : id ∈ s.stepIds) :
    ∃ x, x.id = id ∧ s.step id = .ok x := by
  cases hfound : s.find? id with
  | some x => exact ⟨x, by simpa using List.find?_some hfound, by rw [Session.step, hfound]⟩
  | none =>
      obtain ⟨x, hx, hid⟩ := List.mem_map.mp h
      have hnone := List.find?_eq_none.mp hfound x hx
      simp [hid] at hnone

theorem Session.exists_place {s : Session} {id : String} (h : id ∈ s.stepIds) :
    ∃ place, s.place id = .ok place := by
  cases hplace : s.steps.findIdx? (·.id = id) with
  | some place => exact ⟨place, by rw [Session.place, hplace]⟩
  | none =>
      obtain ⟨x, hx, hid⟩ := List.mem_map.mp h
      have hnone := List.findIdx?_eq_none_iff.mp hplace x hx
      simp [hid] at hnone

/-- Whether the result of a run is recorded in its step, and what it received is stored. -/
structure World.Records (w : World σ) (id : String) (result : StepResult) : Prop where
  /-- The step is in the sequence. -/
  mem : id ∈ w.session.stepIds
  /-- It has been run, with this result. -/
  step : ∀ x ∈ w.session.steps, x.id = id → x.state = .ran ∧ x.result = some result
  /-- What it has received is stored, and nothing if it has failed. -/
  stored : w.session.results.get? id = result.payload?

namespace Run

/-- Whether a fault ends the run of a step, if it begins. -/
structure RunEscape (env : Environment σ) (inner : Operation → Run σ Answer) (x : Step)
    (w : World σ) (fault : Fault) : Prop where
  /-- The step is in the sequence. -/
  step_eq : w.session.step x.id = .ok x
  /-- The fault escapes it. -/
  escapes : ∃ place, (w.begun x.id).session.place x.id = .ok place ∧
    StepEscape env inner x place (w.begun x.id) fault

variable (inner : Operation → Run σ Answer) (hclient : env.client.OnlyReplies) {id : String}
  {x : Step} {w v : World σ}

theorem RunEscape.escaping {inner : Operation → Run σ Answer} {fault : Fault}
    (h : RunEscape env inner x w fault) : fault.Escaping := by
  obtain ⟨-, place, -, hescapes⟩ := h
  exact hescapes.escaping

include hclient

theorem records_of_runStep {result : StepResult}
    (hrun : runStep env inner id w = .ok result v) : v.Records id result := by
  have hends := (ensures_runStep inner hclient id w).holds w rfl
  rw [hrun] at hends
  obtain ⟨hmem, hsession, -⟩ := hends
  constructor
  · rw [hsession, Session.stepIds_store, Session.stepIds_forget]
    exact hmem
  · intro y hy hid
    rw [hsession, Session.steps_store_forget] at hy
    rcases Session.mem_steps_modify hy with ⟨-, hne⟩ | ⟨z, -, -, rfl⟩
    · exact absurd hid hne
    · exact ⟨rfl, rfl⟩
  · rw [hsession, Session.get?_results_store_forget]

theorem running_of_runStep {result : StepResult} (hrun : runStep env inner id w = .ok result v) :
    v.running = w.running := by
  obtain ⟨hidle, x, u, -, hresult, rfl⟩ := exists_of_runStep_eq_ok inner hrun
  have htalks := (keeps_stepResult inner
    (fun call => onlyTalks_exchange inner hclient call (w.begun id)) x).holds _
    (World.OnlyTalked.refl _)
  rw [hresult] at htalks
  exact World.running_ended hidle htalks.running_eq

/-- The run of a step that is not in progress is ended by a fault just where one escapes it. -/
theorem runEscape_iff (hidle : id ∉ w.running) (hx : w.session.step id = .ok x) {fault : Fault} :
    (∃ v, runStep env inner id w = .error fault v) ↔ RunEscape env inner x w fault := by
  obtain ⟨hmem, rfl⟩ := Session.mem_steps_of_step hx
  have hid : x.id ∈ (w.begun x.id).session.stepIds := by
    rw [World.begun, Session.stepIds_forget]
    exact List.mem_map.mpr ⟨x, hmem, rfl⟩
  obtain ⟨place, hplace⟩ := Session.exists_place hid
  have hstep : (∃ v, stepResult env inner x (w.begun x.id) = .error fault v) ↔
      StepEscape env inner x place (w.begun x.id) fault :=
    stepEscape_iff inner hclient hplace
  rw [runStep_eq inner hidle hx]
  constructor
  · rintro ⟨v, hrun⟩
    refine ⟨hx, place, hplace, hstep.mp ?_⟩
    split at hrun
    · cases hrun
    · next u hend =>
      cases hrun
      exact ⟨u, hend⟩
  · rintro ⟨-, other, hother, h⟩
    cases hplace.symm.trans hother
    obtain ⟨u, hend⟩ := hstep.mpr h
    rw [hend]
    exact ⟨_, rfl⟩

/-- Where a fault ends the run of several steps, the first have had their turns, and it escapes
the next one. -/
theorem exists_runEscape {ids : List String} {fault : Fault}
    (hids : ∀ id ∈ ids, id ∈ w.session.stepIds ∧ id ∉ w.running)
    (hrun : runSteps env inner ids w = .error fault v) :
    ∃ turns x u, turns.map Turn.id ++ [x.id] <+: ids ∧ u.session = w.session.settleAll turns ∧
      RunEscape env inner x u fault := by
  induction ids generalizing w with
  | nil => cases hrun
  | cons id ids ih =>
      obtain ⟨hmem, hidle⟩ := hids id List.mem_cons_self
      cases hfirst : runStep env inner id w with
      | error raised u =>
          rw [runSteps] at hrun
          simp only [bind, EStateM.bind, hfirst] at hrun
          cases hrun
          obtain ⟨x, rfl, hx⟩ := Session.exists_step hmem
          exact ⟨[], x, w, List.prefix_append [x.id] ids, rfl,
            (runEscape_iff inner hclient hidle hx).mp ⟨v, hfirst⟩⟩
      | ok result u =>
          obtain ⟨t, rfl, rfl, hleads⟩ := exists_leads inner hclient hfirst
          have hgo : t.result.isOk = true ∧ ids ≠ [] := by
            by_contra hstop
            rw [runSteps_stop inner hfirst fun hok => by
              by_contra hids
              exact hstop ⟨hok, hids⟩] at hrun
            cases hrun
          have hsettled : (u.record .paused).session =
              (w.session.forget t.id).store t.id t.result := hleads.session_eq
          have hrunning := running_of_runStep inner hclient hfirst
          have hothers : ∀ id ∈ ids, id ∈ (u.record .paused).session.stepIds ∧
              id ∉ u.running := by
            intro id hid
            rw [hsettled, hrunning, Session.stepIds_store, Session.stepIds_forget]
            exact hids id (List.mem_cons_of_mem _ hid)
          rw [runSteps_go inner hfirst hgo.1 hgo.2] at hrun
          split at hrun
          · cases hrun
          · next hrest =>
            cases hrun
            obtain ⟨turns, x, u', hprefix, hsession, hescape⟩ := ih hothers hrest
            refine ⟨t :: turns, x, u', (List.prefix_cons_inj _).mpr hprefix, ?_, hescape⟩
            rw [hsession, hsettled]
            rfl

end Run

/-- An environment whose addresses have no scheme. -/
def Environment.schemeless : Environment Nat :=
  { Environment.answering with builder := { baseUrl := "api.example.com" } }

example :
    (match Run.runStep Environment.schemeless (Run.performAt Environment.schemeless 0) "a"
        World.missingParameter with
      | .ok _ _ => none
      | .error fault _ => some fault) =
      some (.badAddress (.missingScheme "api.example.com/users/me")) := by
  decide +kernel

end CallChain
