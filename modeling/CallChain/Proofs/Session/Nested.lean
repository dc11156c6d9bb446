/-
# Operations inside each other

While a request waits for its reply, other operations may be asked for, whose requests wait in
turn, to any depth. What is in progress at a moment is a stack of runs, the innermost first.
`performWatched` carries an operation out with that stack in hand, for clients that may excuse
what goes wrong in an operation they asked for, and lets an onlooker see every operation begin
and end.

An onlooker may even meddle with what it sees. A property holds at all of these moments if
nobody who leaves the worlds that have it alone can make a difference: `Always`. A property that
one run hands to the runs inside it, as `Invariant` lists it, is known at all of them by
induction on the depth.
-/

import CallChain.Proofs.Session.Edits
import CallChain.Proofs.Session.Paired

namespace CallChain

variable {σ : Type}

/-- What is in progress while a request waits. -/
inductive Progress where
  /-- The run of a step. -/
  | step (id : String)
  /-- The run of the whole sequence. -/
  | sequence
  deriving DecidableEq

/-- The step that is in progress, if it is one. -/
def Progress.step? : Progress → Option String
  | step id => some id
  | sequence => none

/-- Whether a client asks only for operations of a kind before it answers a call. -/
def Client.Asks (client : Client σ) (p : Operation → Prop) : Prop :=
  ∀ peer call, ∀ op ∈ (client.answer peer call).1.meantime, p op

theorem Client.asks_true (client : Client σ) : client.Asks fun _ => True :=
  fun _ _ _ _ => trivial

/-- Whether two worlds are one world, of which something holds. -/
def World.Same (I : World σ → Prop) (w w' : World σ) : Prop := w' = w ∧ I w

namespace Run

variable {α β : Type}

/-! ## With the stack in hand -/

section Definitions

variable (env : Environment σ) (inner : List Progress → Operation → Run σ Answer)

/-- The runs of steps one after another, inside of what is in progress. -/
def runStepsWithin (stack : List Progress) : List String → Run σ (List StepResult)
  | [] => return []
  | id :: ids => do
    let result ← runStep env (inner (.step id :: stack)) id
    if !result.isOk then return [result]
    if ids.isEmpty then return [result]
    modify (·.record .paused)
    let others ← runStepsWithin stack ids
    return result :: others

/-- The run of the whole sequence, inside of what is in progress. -/
def runAllWithin (stack : List Progress) : Run σ (List StepResult) := do
  let w ← get
  if w.sequenceRunning then throw .sequenceInProgress
  between (fun w => { w with sequenceRunning := true })
    (fun w => { w with sequenceRunning := false })
    (runStepsWithin env inner (.sequence :: stack) w.session.stepIds)

/-- Carries an operation out, inside of what is in progress. -/
def performWithin (stack : List Progress) : Operation → Run σ Answer
  | .runStep name => do
    let id ← stepNamed name
    return .result (← runStep env (inner (.step id :: stack)) id)
  | .runAll => return .results (← runAllWithin env inner stack)
  | op => perform env (inner stack) op

/-- A run whose faults may be excused: whoever asked for it takes an answer instead. -/
def excused (excuse : Fault → Option Answer) (run : Run σ Answer) : Run σ Answer := fun w =>
  match run w with
  | .error fault w' =>
    match excuse fault with
    | some answer => .ok answer w'
    | none => .error fault w'
  | other => other

/-- Carries an operation out, with operations inside its exchanges to a depth. An onlooker
sees each of them begin and end, however it ends, and what is in progress then. -/
def performWatched (excuse : Fault → Option Answer) (watch : List Progress → World σ → World σ) :
    Nat → List Progress → Operation → Run σ Answer
  | 0, _, _ => throw .nestedTooDeep
  | depth + 1, stack, op =>
    between (watch stack) (watch stack)
      (performWithin env
        (fun stack op => excused excuse (performWatched excuse watch depth stack op)) stack op)

/-- The same without an onlooker. -/
def performNested (excuse : Fault → Option Answer) : Nat → List Progress → Operation →
    Run σ Answer :=
  performWatched env excuse fun _ w => w

/-- Whether a property holds whenever an operation begins or ends: an onlooker makes no
difference who leaves alone whatever has the property. -/
def Always (excuse : Fault → Option Answer) (depth : Nat) (op : Operation) (w : World σ)
    (P : List Progress → World σ → Prop) : Prop :=
  ∀ watch : List Progress → World σ → World σ, (∀ stack v, P stack v → watch stack v = v) →
    performWatched env excuse watch depth [] op w = performNested env excuse depth [] op w

end Definitions

section Erasure

variable (env : Environment σ) (inner : Operation → Run σ Answer) (stack : List Progress)

theorem runStepsWithin_eq (ids : List String) :
    runStepsWithin env (fun _ => inner) stack ids = runSteps env inner ids := by
  induction ids with
  | nil => rfl
  | cons id ids ih => rw [runStepsWithin, runSteps, ih]

theorem performWithin_eq (op : Operation) :
    performWithin env (fun _ => inner) stack op = perform env inner op := by
  cases op with
  | runAll =>
      rw [performWithin, perform, runAllWithin, runAll]
      simp only [runStepsWithin_eq]
  | _ => rfl

/-- Without an onlooker, and where nothing is excused, operations are carried out as ever. -/
theorem performNested_eq (depth : Nat) (op : Operation) :
    performNested env (fun _ => none) depth stack op = performAt env depth op := by
  induction depth generalizing stack op with
  | zero => rfl
  | succ depth ih =>
      have hinner : (fun stack op => excused (fun _ => none)
          (performNested env (fun _ => none) depth stack op)) =
          fun _ => performAt env depth := by
        funext stack op w
        rw [ih, excused]
        cases performAt env depth op w <;> rfl
      have hsucc : performNested env (fun _ => none) (depth + 1) stack op =
          between (fun w => w) (fun w => w) (performWithin env (fun stack op =>
            excused (fun _ => none) (performNested env (fun _ => none) depth stack op))
            stack op) := rfl
      rw [hsucc, hinner, performWithin_eq, performAt]
      funext w
      rw [between]
      cases perform env (performAt env depth) op w <;> rfl

end Erasure

/-! ## Two onlookers -/

section Rules

variable {I J : World σ → Prop}

/-- The results of one and the same run. -/
theorem endsAlike_same {ended : EStateM.Result Fault (World σ) α}
    (h : match ended with
      | .ok _ w => J w
      | .error _ w => J w) :
    EndsAlike (fun a a' w w' => a' = a ∧ World.Same J w w') (World.Same J) ended ended := by
  cases ended with
  | ok a w => exact .answered ⟨rfl, rfl, h⟩
  | error fault w => exact .failed ⟨rfl, h⟩

theorem Keeps.lockstep {run : Run σ α} (h : Keeps I run) : Lockstep (World.Same I) run run := by
  rintro _ w ⟨rfl, hw⟩
  exact endsAlike_same (h.holds _ hw)

/-- Two runs in lockstep are one run that keeps the property. -/
theorem Lockstep.eq {run run' : Run σ α} (h : Lockstep (World.Same I) run run') {w : World σ}
    (hw : I w) : run w = run' w ∧ I (run.after w) := by
  have hends := h w w ⟨rfl, hw⟩
  unfold Run.after
  generalize run w = ended at hends
  generalize run' w = ended' at hends
  cases hends with
  | answered h =>
      obtain ⟨rfl, rfl, hv⟩ := h
      exact ⟨rfl, hv⟩
  | failed h =>
      obtain ⟨rfl, hv⟩ := h
      exact ⟨rfl, hv⟩

theorem together_between_same {K : World σ → Prop} {enter enter' leave leave' : World σ → World σ}
    {run run' : Run σ α} {J' : World σ → Prop}
    (h : Together (World.Same I) run run' (fun a a' w w' => a' = a ∧ World.Same J w w')
      (World.Same J))
    (henter : ∀ w, K w → enter' w = enter w ∧ I (enter w))
    (hleave : ∀ w, J w → leave' w = leave w ∧ J' (leave w)) :
    Together (World.Same K) (between enter leave run) (between enter' leave' run')
      (fun a a' w w' => a' = a ∧ World.Same J' w w') (World.Same J') := by
  rintro _ w ⟨rfl, hw⟩
  obtain ⟨heq, hentered⟩ := henter _ hw
  have hends := h _ _ ⟨heq, hentered⟩
  unfold between
  generalize run (enter _) = ended at hends
  generalize run' (enter' _) = ended' at hends
  cases hends with
  | answered h =>
      obtain ⟨rfl, rfl, hv⟩ := h
      exact .answered ⟨rfl, hleave _ hv⟩
  | failed h =>
      obtain ⟨rfl, hv⟩ := h
      exact .failed (hleave _ hv)

theorem lockstep_excused {run run' : Run σ Answer} (h : Lockstep (World.Same I) run run')
    (excuse : Fault → Option Answer) :
    Lockstep (World.Same I) (excused excuse run) (excused excuse run') := by
  intro w w' hw
  have hends := h w w' hw
  unfold excused
  generalize run w = ended at hends
  generalize run' w' = ended' at hends
  cases hends with
  | answered h => exact .answered h
  | @failed fault _ _ h =>
      dsimp only
      cases excuse fault with
      | some answer => exact .answered ⟨rfl, h⟩
      | none => exact .failed h

end Rules

section Exchanges

variable {env : Environment σ} {I : World σ → Prop} {inner inner' : Operation → Run σ Answer}

/-- Whatever the operations inside an exchange keep, and the talk, the exchange keeps. -/
theorem lockstep_exchange_within {p : Operation → Prop} (hasks : env.client.Asks p)
    (hinner : ∀ op, p op → Lockstep (World.Same I) (inner op) (inner' op))
    (htalked : ∀ {w w' : World σ}, I w → w.OnlyTalked w' → I w') (call : Call) :
    Lockstep (World.Same I) (exchange env inner call) (exchange env inner' call) := by
  have hrecorded : ∀ e, Lockstep (World.Same I) (modify fun w => w.record e : Run σ PUnit)
      (modify fun w => w.record e) := by
    intro e
    apply together_modify
    rintro _ w ⟨rfl, hw⟩
    exact ⟨rfl, rfl, htalked hw rfl⟩
  have hmeantime : ∀ ops : List Operation, (∀ op ∈ ops, p op) →
      Lockstep (World.Same I) (performMeantime inner ops) (performMeantime inner' ops) := by
    intro ops hops
    induction ops with
    | nil => exact lockstep_pure _
    | cons op ops ih =>
        apply (hinner op (hops op List.mem_cons_self)).bind
        intro answer
        refine Lockstep.bind (together_modify ?_) fun _ =>
          ih fun op hop => hops op (List.mem_cons_of_mem _ hop)
        rintro _ w ⟨rfl, hw⟩
        exact ⟨rfl, rfl, htalked hw rfl⟩
  apply (hrecorded _).bind
  intro _
  apply together_get_bind
  rintro _ w ⟨rfl, hw⟩
  exact ((hmeantime _ (hasks _ _)).bind fun _ => lockstep_pure _) _ _ ⟨rfl, htalked hw rfl⟩

variable (hexchange : ∀ call,
  Lockstep (World.Same I) (exchange env inner call) (exchange env inner' call))

include hexchange

/-- What is done while a step is in progress keeps whatever each exchange keeps. -/
theorem lockstep_stepResult (x : Step) :
    Lockstep (World.Same I) (stepResult env inner x) (stepResult env inner' x) := by
  apply together_stepResult_of (E := Eq) hexchange
  · exact fun _ => rfl
  · rintro e _ rfl
    rfl
  · rintro _ w ⟨rfl, -⟩
    rfl
  · rintro _ w ⟨rfl, -⟩ place - _ u ⟨rfl, -⟩ _ v ⟨rfl, -⟩
    exact .refl _ _ _ _

theorem lockstep_testConnection :
    Lockstep (World.Same I) (testConnection env inner) (testConnection env inner') := by
  apply together_caught
  · exact (lockstep_execute hexchange _).bind fun received => lockstep_pure _
  · exact fun e w w' hw => ⟨rfl, hw⟩

theorem lockstep_runEndpoint (hnumbered : ∀ {w : World σ}, I w →
    I { w with created := w.created + 1 }) (endpoint : Endpoint) (parameters : Parameters) :
    Lockstep (World.Same I) (runEndpoint env inner endpoint parameters)
      (runEndpoint env inner' endpoint parameters) := by
  have hnewId : Keeps I (newId env) := ⟨fun _ hw => hnumbered hw⟩
  apply hnewId.lockstep.bind
  intro id
  apply together_caught
  · apply together_get_bind
    rintro _ w ⟨rfl, hw⟩
    refine ((lockstep_ofExcept _).bind fun request => ?_) _ _ ⟨rfl, hw⟩
    exact (lockstep_execute hexchange request).bind fun received => lockstep_pure _
  · exact fun e w w' hw => ⟨rfl, hw⟩

end Exchanges

/-! ## What every run hands to the runs inside it -/

/-- What a run has to do for a property of the world, and of what is in progress, to hold
whenever an operation of a kind begins. Where the session has been edited, a weaker property may
be all that is left of it. -/
structure Invariant (env : Environment σ) (p : Operation → Prop)
    (I J : List Progress → World σ → Prop) : Prop where
  /-- Talking to the client keeps it. -/
  talked : ∀ {stack : List Progress} {w w' : World σ}, I stack w → w.OnlyTalked w' → I stack w'
  /-- So does using an id up. -/
  numbered : ∀ {stack : List Progress} {w : World σ}, I stack w →
    I stack { w with created := w.created + 1 }
  /-- It holds once the run of a step has begun. -/
  begun : ∀ {stack : List Progress} {w : World σ} {id : String} {x : Step}, I stack w →
    id ∉ w.running → w.session.step id = .ok x → I (.step id :: stack) (w.begun id)
  /-- It holds again once the result of the step is stored. -/
  settled : ∀ {stack : List Progress} {w : World σ} {id : String} (result : StepResult),
    I (.step id :: stack) w → I stack ((w.settled id result).ended id)
  /-- It holds again when the run of the step is ended by a fault. -/
  ended : ∀ {stack : List Progress} {w : World σ} {id : String},
    I (.step id :: stack) w → I stack (w.ended id)
  /-- It holds once the run of the sequence has begun. -/
  entered : ∀ {stack : List Progress} {w : World σ}, I stack w → w.sequenceRunning = false →
    I (.sequence :: stack) { w with sequenceRunning := true }
  /-- It holds again when the run of the sequence ends. -/
  left : ∀ {stack : List Progress} {w : World σ}, I (.sequence :: stack) w →
    I stack { w with sequenceRunning := false }
  /-- The weaker property follows from it. -/
  weaken : ∀ {stack : List Progress} {w : World σ}, I stack w → J stack w
  /-- What sends nothing leaves the weaker property. -/
  edited : ∀ {stack : List Progress} {w w' : World σ} {op : Operation}, p op → I stack w →
    World.Edit env op.withdraws w w' → J stack w'

section Invariant

variable {env : Environment σ} {p : Operation → Prop} {I J : List Progress → World σ → Prop}
  (hI : Invariant env p I J) {inner inner' : List Progress → Operation → Run σ Answer}
  (hexchange : ∀ stack call, Lockstep (World.Same (I stack)) (exchange env (inner stack) call)
    (exchange env (inner' stack) call)) (stack : List Progress)

include hI hexchange

theorem lockstep_runStep (id : String) :
    Lockstep (World.Same (I stack)) (runStep env (inner (.step id :: stack)) id)
      (runStep env (inner' (.step id :: stack)) id) := by
  rintro _ w ⟨rfl, hw⟩
  by_cases hbusy : id ∈ w.running
  · rw [runStep_busy _ hbusy, runStep_busy _ hbusy]
    exact .failed ⟨rfl, hw⟩
  · cases hx : w.session.step id with
    | error fault =>
        rw [runStep_unknown _ hbusy hx, runStep_unknown _ hbusy hx]
        exact .failed ⟨rfl, hw⟩
    | ok x =>
        have hresult : Lockstep (World.Same (I (.step id :: stack)))
            (stepResult env (inner (.step id :: stack)) x)
            (stepResult env (inner' (.step id :: stack)) x) :=
          lockstep_stepResult (hexchange _) x
        have hends := hresult _ _ ⟨rfl, hI.begun hw hbusy hx⟩
        rw [runStep_eq _ hbusy hx, runStep_eq _ hbusy hx]
        generalize stepResult env (inner (.step id :: stack)) x (w.begun id) = ended at hends
        generalize stepResult env (inner' (.step id :: stack)) x (w.begun id) = ended' at hends
        cases hends with
        | answered h =>
            obtain ⟨rfl, rfl, hv⟩ := h
            exact .answered ⟨rfl, rfl, hI.settled _ hv⟩
        | failed h =>
            obtain ⟨rfl, hv⟩ := h
            exact .failed ⟨rfl, hI.ended hv⟩

theorem lockstep_runStepsWithin (ids : List String) :
    Lockstep (World.Same (I stack)) (runStepsWithin env inner stack ids)
      (runStepsWithin env inner' stack ids) := by
  induction ids with
  | nil => exact lockstep_pure _
  | cons id ids ih =>
      apply (lockstep_runStep hI hexchange stack id).bind
      intro result
      split
      · exact lockstep_pure _
      · split
        · exact lockstep_pure _
        · refine Lockstep.bind (together_modify ?_) fun _ => ih.bind fun others => lockstep_pure _
          rintro _ w ⟨rfl, hw⟩
          exact ⟨rfl, rfl, hI.talked hw rfl⟩

theorem lockstep_runAllWithin :
    Lockstep (World.Same (I stack)) (runAllWithin env inner stack)
      (runAllWithin env inner' stack) := by
  apply together_get_bind
  rintro _ w ⟨rfl, hw⟩
  cases hbusy : w.sequenceRunning with
  | true => exact .failed ⟨rfl, hw⟩
  | false =>
      exact together_between_same (K := fun v => I stack v ∧ v.sequenceRunning = false)
        (lockstep_runStepsWithin hI hexchange _ _) (fun v hv => ⟨rfl, hI.entered hv.1 hv.2⟩)
        (fun v hv => ⟨rfl, hI.left hv⟩) _ _ ⟨rfl, hw, hbusy⟩

/-- An operation keeps what the operations inside it keep; an edit may leave less. -/
theorem together_performWithin {op : Operation} (hp : p op) :
    Together (World.Same (I stack)) (performWithin env inner stack op)
      (performWithin env inner' stack op)
      (fun a a' w w' => a' = a ∧ World.Same (J stack) w w') (World.Same (J stack)) := by
  have hweaken : ∀ {run run' : Run σ Answer}, Lockstep (World.Same (I stack)) run run' →
      Together (World.Same (I stack)) run run'
        (fun a a' w w' => a' = a ∧ World.Same (J stack) w w') (World.Same (J stack)) := by
    intro run run' h
    have hkept : ∀ w w', World.Same (I stack) w w' → World.Same (J stack) w w' :=
      fun w w' hw => ⟨hw.1, hI.weaken hw.2⟩
    exact h.mono (fun _ _ hw => hw) (fun a a' w w' hw => ⟨hw.1, hkept w w' hw.2⟩) hkept
  cases hop : op.sends with
  | false =>
      have hsame : perform env (inner' stack) op = perform env (inner stack) op :=
        perform_congr hop
      have hplain : ∀ inner, performWithin env inner stack op = perform env (inner stack) op := by
        intro inner
        cases op with
        | runStep name => cases hop
        | runAll => cases hop
        | _ => rfl
      rintro _ w ⟨rfl, hw⟩
      have hends := (ensures_perform_edit env (inner stack) hop).mono (fun _ hv => hv)
        (fun _ _ => hI.edited hp hw) fun _ => hI.edited hp hw
      rw [hplain, hplain, hsame]
      exact endsAlike_same (hends.holds w rfl)
  | true =>
      apply hweaken
      cases op with
      | runStep name =>
          apply Lockstep.bind (keeps_get_bind fun w => keeps_pure _).lockstep
          intro id
          exact (lockstep_runStep hI hexchange stack id).bind fun result => lockstep_pure _
      | runAll =>
          exact (lockstep_runAllWithin hI hexchange stack).bind fun results => lockstep_pure _
      | runEndpoint endpoint parameters =>
          apply (keeps_checked _).lockstep.bind
          intro endpoint
          apply (keeps_optionalRecord _ _ _).lockstep.bind
          intro parameters
          exact (lockstep_runEndpoint (hexchange stack) hI.numbered endpoint parameters).bind
            fun result => lockstep_pure _
      | testConnection =>
          exact (lockstep_testConnection (hexchange stack)).bind fun result => lockstep_pure _
      | _ => cases hop

end Invariant

/-- Two onlookers who do the same wherever the weaker property holds, and make the stronger one
hold again, see the same run. -/
theorem lockstep_performWatched {env : Environment σ} {p : Operation → Prop}
    {I J : List Progress → World σ → Prop} (hI : Invariant env p I J)
    (hasks : env.client.Asks p) (excuse : Fault → Option Answer)
    {watch watch' : List Progress → World σ → World σ}
    (hwatch : ∀ stack w, J stack w → watch' stack w = watch stack w ∧ I stack (watch stack w))
    (depth : Nat) (stack : List Progress) {op : Operation} (hp : p op) :
    Lockstep (World.Same (I stack)) (performWatched env excuse watch depth stack op)
      (performWatched env excuse watch' depth stack op) := by
  induction depth generalizing stack op with
  | zero => exact together_throw fun _ _ hw => hw
  | succ depth ih =>
      apply together_between_same
      · exact together_performWithin hI (fun stack => lockstep_exchange_within hasks
          (fun op hp => lockstep_excused (ih stack hp) excuse) hI.talked) stack hp
      · exact fun w hw => hwatch stack w (hI.weaken hw)
      · exact hwatch stack

section Corollaries

variable {env : Environment σ} {p : Operation → Prop} {I : List Progress → World σ → Prop}
  (hI : Invariant env p I I) (hasks : env.client.Asks p) (excuse : Fault → Option Answer)
  (depth : Nat) {op : Operation} (hp : p op) {w : World σ} (hw : I [] w)

include hI hasks hp hw

/-- What every run hands to the runs inside it holds whenever an operation begins or ends. -/
theorem Invariant.always : Always env excuse depth op w I := by
  intro watch hwatch
  have hsame : ∀ stack v, I stack v → v = watch stack v ∧ I stack (watch stack v) := by
    intro stack v hv
    rw [hwatch stack v hv]
    exact ⟨rfl, hv⟩
  exact ((lockstep_performWatched hI hasks excuse hsame depth [] hp).eq hw).1

/-- It holds once the outermost operation has ended. -/
theorem Invariant.after : I [] ((performNested env excuse depth [] op).after w) :=
  ((lockstep_performWatched hI hasks excuse (fun _ _ hv => ⟨rfl, hv⟩) depth [] hp).eq hw).2

end Corollaries

end Run

end CallChain
