/-
# What a run leaves behind

A run ends with an answer or with a fault, and leaves a world either way. `Ensures`
says what holds of that world: one thing of it and the answer, another after a fault.
The rules for it follow the combinators that runs are made of.

A client that only replies asks nothing of the session while a request waits. With
such a client everything between the start and the end of a step's run does nothing
but talk: it changes what the client remembers and what has been seen from outside.
-/

import CallChain.Session.Perform

namespace CallChain

/-- Whether a client answers every call at once, and asks for no other operation before. -/
def Client.OnlyReplies {σ : Type} (client : Client σ) : Prop :=
  ∀ peer call, (client.answer peer call).1.meantime = []

/-- Whether a world differs from an earlier one at most in what the client remembers and
in what has been seen from outside. -/
def World.OnlyTalked {σ : Type} (w w' : World σ) : Prop :=
  w' = { w with peer := w'.peer, events := w'.events }

namespace World.OnlyTalked

variable {σ : Type} {w w' : World σ}

theorem session_eq (h : OnlyTalked w w') : w'.session = w.session := by
  rw [h]

theorem running_eq (h : OnlyTalked w w') : w'.running = w.running := by
  rw [h]

theorem created_eq (h : OnlyTalked w w') : w'.created = w.created := by
  rw [h]

theorem refl (w : World σ) : OnlyTalked w w := rfl

/-- More talk is still only talk. -/
theorem talk (h : OnlyTalked w w') (peer : σ) (events : List Event) :
    OnlyTalked w { w' with peer, events } := by
  rw [OnlyTalked] at h ⊢
  rw [h]

end World.OnlyTalked

namespace World

variable {σ : Type}

/-- The world in which the run of a step has begun: its last run is forgotten. -/
def begun (w : World σ) (id : String) : World σ :=
  { w with running := id :: w.running, session := w.session.forget id }

/-- The world in which a client that only replies has answered a call. -/
def exchanged (env : Environment σ) (w : World σ) (call : Call) : World σ :=
  { w.record (.sent call) with peer := (env.client.answer w.peer call).2 }

/-- The world in which the result of a step has been stored. -/
def settled (w : World σ) (id : String) (result : StepResult) : World σ :=
  { w with session := w.session.store id result }.record (.settled id result)

/-- The world in which a step is no longer in progress. -/
def ended (w : World σ) (id : String) : World σ :=
  { w with
    running := w.running.filter (· ≠ id)
    withdrawn := w.withdrawn.filter (·.id ≠ id) }

/-- Once the run of a step has ended, the same steps are in progress as before it. -/
theorem running_ended {w v : World σ} {id : String} (hidle : id ∉ w.running)
    (hv : v.running = (w.begun id).running) : (v.ended id).running = w.running := by
  have hbegun : (w.begun id).running = id :: w.running := rfl
  rw [ended, hv, hbegun, List.filter_cons_of_neg (by simp), List.filter_eq_self]
  intro other hother
  simpa using fun heq : other = id => hidle (heq ▸ hother)

end World

namespace Run

variable {σ α β : Type} {P : World σ → Prop} {E I : World σ → Prop}

/-- The world that a run leaves, however it ends. -/
def after (run : Run σ α) (w : World σ) : World σ :=
  match run w with
  | .ok _ w' => w'
  | .error _ w' => w'

/-- Whether a run that starts where `P` holds ends with an answer where `Q` holds, or with
a fault where `E` holds. -/
structure Ensures (P : World σ → Prop) (run : Run σ α) (Q : α → World σ → Prop)
    (E : World σ → Prop) : Prop where
  /-- What holds where the run ends. -/
  holds : ∀ w, P w → match run w with
    | .ok a w' => Q a w'
    | .error _ w' => E w'

/-- Whether a property of the world outlives a run. -/
def Keeps (I : World σ → Prop) (run : Run σ α) : Prop := Ensures I run (fun _ => I) I

/-- Whether a run changes nothing but what the client remembers and what has been seen. -/
def OnlyTalks (run : Run σ α) : Prop := ∀ w, Keeps (World.OnlyTalked w) run

/-! ## One rule for each combinator -/

/-- A run goes on with the answer of its first part. -/
theorem bind_ok {run : Run σ α} {next : α → Run σ β} {a : α} {w w' : World σ}
    (h : run w = .ok a w') : (run >>= next) w = next a w' := by
  simp only [bind, EStateM.bind, h]

theorem get_bind (next : World σ → Run σ β) (w : World σ) :
    ((get : Run σ (World σ)) >>= next) w = next w w := rfl

theorem caught_congr {run run' : Run σ α} {w w' : World σ} (h : run w = run' w')
    (onError : StepError → α) : caught run onError w = caught run' onError w' := by
  rw [caught, caught, h]

section Rules

variable {Q : α → World σ → Prop} {R : β → World σ → Prop}

theorem Keeps.after {run : Run σ α} (h : Keeps I run) {w : World σ} (hw : I w) :
    I (run.after w) := by
  have hrun := h.holds w hw
  unfold Run.after
  split
  · next heq => rw [heq] at hrun; exact hrun
  · next heq => rw [heq] at hrun; exact hrun

theorem OnlyTalks.ok {run : Run σ α} (h : OnlyTalks run) {a : α} {w v v' : World σ}
    (hw : w.OnlyTalked v) (hrun : run v = .ok a v') : w.OnlyTalked v' := by
  have hends := (h w).holds v hw
  rwa [hrun] at hends

theorem Ensures.mono {run : Run σ α} {P' : World σ → Prop} {Q' : α → World σ → Prop}
    {E' : World σ → Prop} (h : Ensures P run Q E) (hP : ∀ w, P' w → P w)
    (hQ : ∀ a w, Q a w → Q' a w) (hE : ∀ w, E w → E' w) : Ensures P' run Q' E' := by
  constructor
  intro w hw
  have hrun := h.holds w (hP w hw)
  split at hrun
  · exact hQ _ _ hrun
  · exact hE _ hrun

theorem ensures_pure {a : α} (h : ∀ w, P w → Q a w) : Ensures P (pure a) Q E :=
  ⟨h⟩

theorem ensures_throw {fault : Fault} (h : ∀ w, P w → E w) :
    Ensures P (throw fault : Run σ α) Q E :=
  ⟨h⟩

theorem ensures_bind {run : Run σ α} {next : α → Run σ β} (h : Ensures P run Q E)
    (hnext : ∀ a, Ensures (Q a) (next a) R E) : Ensures P (run >>= next) R E := by
  constructor
  intro w hw
  have hrun := h.holds w hw
  simp only [bind, EStateM.bind]
  cases hresult : run w with
  | ok a w' =>
      rw [hresult] at hrun
      exact (hnext a).holds w' hrun
  | error fault w' =>
      rw [hresult] at hrun
      exact hrun

/-- What a run reads of the world is the world that it runs in. -/
theorem ensures_get_bind {next : World σ → Run σ β} (h : ∀ w, Ensures (fun w' => w' = w ∧ P w)
    (next w) R E) : Ensures P (get >>= next) R E := by
  constructor
  intro w hw
  exact (h w).holds w ⟨rfl, hw⟩

theorem ensures_modify {f : World σ → World σ} {Q : PUnit → World σ → Prop}
    (h : ∀ w, P w → Q ⟨⟩ (f w)) : Ensures P (modify f) Q E :=
  ⟨h⟩

theorem ensures_set {w' : World σ} {Q : PUnit → World σ → Prop} (h : ∀ w, P w → Q ⟨⟩ w') :
    Ensures P (set w') Q E :=
  ⟨h⟩

theorem ensures_ofExcept {result : Except Fault α} (hok : ∀ a, result = .ok a → ∀ w, P w → Q a w)
    (herror : ∀ w, P w → E w) : Ensures P (ofExcept result) Q E := by
  cases result with
  | ok a => exact ensures_pure (hok a rfl)
  | error fault => exact ensures_throw herror

theorem ensures_checked {a? : Option α} (hok : ∀ a, ∀ w, P w → Q a w)
    (herror : ∀ w, P w → E w) : Ensures P (checked a?) Q E := by
  cases a? with
  | some a => exact ensures_pure (hok a)
  | none => exact ensures_throw herror

theorem ensures_between (enter leave : World σ → World σ) {run : Run σ α} {P' : World σ → Prop}
    {Q' : α → World σ → Prop} {E' : World σ → Prop} (h : Ensures P' run Q' E')
    (henter : ∀ w, P w → P' (enter w)) (hleave : ∀ a w, Q' a w → Q a (leave w))
    (hfault : ∀ w, E' w → E (leave w)) : Ensures P (between enter leave run) Q E := by
  constructor
  intro w hw
  have hrun := h.holds (enter w) (henter w hw)
  simp only [between]
  cases hresult : run (enter w) with
  | ok a w' =>
      rw [hresult] at hrun
      exact hleave a w' hrun
  | error fault w' =>
      rw [hresult] at hrun
      exact hfault w' hrun

end Rules

/-! ## Properties that outlive a run -/

section Keeps

theorem keeps_pure (a : α) : Keeps I (pure a) := ensures_pure fun _ hw => hw

theorem keeps_throw (fault : Fault) : Keeps I (throw fault : Run σ α) :=
  ensures_throw fun _ hw => hw

theorem keeps_bind {run : Run σ α} {next : α → Run σ β} (h : Keeps I run)
    (hnext : ∀ a, Keeps I (next a)) : Keeps I (run >>= next) :=
  ensures_bind h hnext

theorem keeps_get_bind {next : World σ → Run σ β} (h : ∀ w, Keeps I (next w)) :
    Keeps I (get >>= next) := by
  constructor
  intro w hw
  exact (h w).holds w hw

theorem keeps_ofExcept (result : Except Fault α) : Keeps I (ofExcept result) :=
  ensures_ofExcept (fun _ _ _ hw => hw) fun _ hw => hw

theorem keeps_checked (a? : Option α) : Keeps I (checked a?) :=
  ensures_checked (fun _ _ hw => hw) fun _ hw => hw

theorem keeps_optionalRecord (default : α) (read : Value → Option α) (v? : Option Value) :
    Keeps I (optionalRecord default read v?) := by
  cases v? with
  | none => exact keeps_pure default
  | some v => exact keeps_checked (read v)

theorem keeps_caught {run : Run σ α} (h : Keeps I run) (onError : StepError → α) :
    Keeps I (caught run onError) := by
  constructor
  intro w hw
  have hrun := h.holds w hw
  simp only [caught]
  cases hresult : run w with
  | ok a w' =>
      rw [hresult] at hrun
      exact hrun
  | error fault w' =>
      rw [hresult] at hrun
      cases fault <;> exact hrun

theorem keeps_transported {run : Run σ α} (h : Keeps I run) : Keeps I (transported run) := by
  constructor
  intro w hw
  have hrun := h.holds w hw
  simp only [transported]
  cases hresult : run w with
  | ok a w' =>
      rw [hresult] at hrun
      exact hrun
  | error fault w' =>
      rw [hresult] at hrun
      cases fault <;> exact hrun

end Keeps

/-! ## The run of a step, and of the sequence -/

section Equations

variable {env : Environment σ} (inner : Operation → Run σ Answer) {id : String} {w : World σ}

/-- A step that is in progress is not run again. -/
theorem runStep_busy (hbusy : id ∈ w.running) :
    runStep env inner id w = .error (.stepInProgress id) w := by
  rw [runStep, get_bind, if_pos (List.contains_iff_mem.mpr hbusy)]
  rfl

/-- A step that the sequence does not have is not run. -/
theorem runStep_unknown (hidle : id ∉ w.running) {fault : Fault}
    (hx : w.session.step id = .error fault) : runStep env inner id w = .error fault w := by
  rw [runStep, get_bind, if_neg (by simpa using hidle), hx]
  rfl

/-- Any other step is run: its last run is forgotten, and the result that it ends with is
stored. -/
theorem runStep_eq (hidle : id ∉ w.running) {x : Step}
    (hx : w.session.step id = .ok x) :
    runStep env inner id w = match stepResult env inner x (w.begun id) with
      | .ok result v => .ok result ((v.settled id result).ended id)
      | .error fault v => .error fault (v.ended id) := by
  have hfound : (ofExcept (.ok x) : Run σ Step) w = .ok x w := rfl
  have hbegin : (modify fun w => { w with session := w.session.forget id } : Run σ PUnit)
      { w with running := id :: w.running } = .ok ⟨⟩ (w.begun id) := rfl
  rw [runStep, get_bind, if_neg (by simpa using hidle), hx]
  refine (bind_ok hfound).trans ?_
  rw [between, bind_ok hbegin]
  cases hresult : stepResult env inner x (w.begun id) with
  | ok result v =>
      rw [bind_ok hresult]
      rfl
  | error fault v =>
      simp only [bind, EStateM.bind, hresult]
      rfl

/-- What ends with a result is the run of a step of the sequence that was not in progress. -/
theorem exists_of_runStep_eq_ok {result : StepResult} {w' : World σ}
    (hrun : runStep env inner id w = .ok result w') :
    id ∉ w.running ∧ ∃ x v, w.session.step id = .ok x ∧
      stepResult env inner x (w.begun id) = .ok result v ∧
      w' = (v.settled id result).ended id := by
  by_cases hbusy : id ∈ w.running
  · rw [runStep_busy inner hbusy] at hrun
    cases hrun
  · cases hx : w.session.step id with
    | error fault =>
        rw [runStep_unknown inner hbusy hx] at hrun
        cases hrun
    | ok x =>
        rw [runStep_eq inner hbusy hx] at hrun
        cases hresult : stepResult env inner x (w.begun id) with
        | error fault v =>
            rw [hresult] at hrun
            cases hrun
        | ok a v =>
            rw [hresult] at hrun
            cases hrun
            exact ⟨hbusy, x, v, rfl, hresult, rfl⟩

theorem runAll_busy (hbusy : w.sequenceRunning = true) :
    runAll env inner w = .error .sequenceInProgress w := by
  rw [runAll, get_bind, hbusy]
  rfl

/-- A sequence that is not in progress is run from its first step on. -/
theorem runAll_eq (hfree : w.sequenceRunning = false) :
    runAll env inner w =
      match runSteps env inner w.session.stepIds { w with sequenceRunning := true } with
      | .ok results v => .ok results { v with sequenceRunning := false }
      | .error fault v => .error fault { v with sequenceRunning := false } := by
  rw [runAll, get_bind, hfree]
  dsimp only
  rw [if_neg Bool.false_ne_true, between]
  cases runSteps env inner w.session.stepIds { w with sequenceRunning := true } <;> rfl

end Equations

/-! ## A step that is in progress only talks -/

section Exchanges

variable {env : Environment σ} (inner : Operation → Run σ Answer)
  (hexchange : ∀ call, Keeps I (exchange env inner call))

include hexchange

theorem keeps_send (request : Request) : Keeps I (send env inner request) := by
  unfold send
  split
  · exact keeps_throw _
  · exact keeps_bind (keeps_transported (hexchange _)) fun reply => keeps_ofExcept _

theorem keeps_execute (request : Request) : Keeps I (execute env inner request) :=
  keeps_bind (keeps_send inner hexchange request) fun _ => keeps_ofExcept _

theorem keeps_executeStepOnce (x : Step) (stepIds : List String) (scope : Fields Value) :
    Keeps I (executeStepOnce env inner x stepIds scope) := by
  apply keeps_get_bind
  intro w
  exact keeps_bind (keeps_ofExcept _) fun request => keeps_execute inner hexchange request

theorem keeps_iterateItem (x : Step) (stepIds : List String) (name : String) (index : Nat)
    (item : Value) : Keeps I (iterateItem env inner x stepIds name index item) := by
  apply keeps_bind
  · apply keeps_caught
    exact keeps_bind (keeps_executeStepOnce inner hexchange x stepIds _)
      fun received => keeps_pure _
  · intro outcome
    cases outcome <;> exact keeps_pure _

theorem keeps_iterateItems (x : Step) (stepIds : List String) (name : String) (index : Nat)
    (items : List Value) : Keeps I (iterateItems env inner x stepIds name index items) := by
  induction items generalizing index with
  | nil => exact keeps_pure _
  | cons item items ih =>
      apply keeps_bind
      · exact keeps_iterateItem inner hexchange x stepIds name index item
      · intro outcome
        exact keeps_bind (ih (index + 1)) fun others => keeps_pure _

theorem keeps_iterate (x : Step) (stepIds : List String) (place : Nat) :
    Keeps I (iterate env inner x stepIds place) := by
  apply keeps_get_bind
  intro w
  dsimp only
  split
  · exact keeps_pure _
  · exact keeps_throw _
  · exact keeps_bind (keeps_iterateItems inner hexchange x stepIds _ 0 _)
      fun outcomes => keeps_pure _

/-- Whatever outlives each exchange outlives all that is done while a step is in progress. -/
theorem keeps_stepResult (x : Step) : Keeps I (stepResult env inner x) := by
  apply keeps_get_bind
  intro w
  apply keeps_bind (keeps_ofExcept _)
  intro place
  apply keeps_caught
  split
  · exact keeps_iterate inner hexchange x _ place
  · exact keeps_bind (keeps_executeStepOnce inner hexchange x _ [])
      fun received => keeps_pure _

/-- The run of a step: whatever outlives each exchange holds from its beginning until its
result is stored, or until it is ended by a fault. -/
theorem ensures_runStep_of {id : String} {Q : StepResult → World σ → Prop}
    (hrefused : ∀ w, P w → E w)
    (hbegun : ∀ w x, P w → w.session.step id = .ok x → I (w.begun id))
    (hsettled : ∀ result w, I w → Q result ((w.settled id result).ended id))
    (hended : ∀ w, I w → E (w.ended id)) : Ensures P (runStep env inner id) Q E := by
  constructor
  intro w hw
  by_cases hbusy : id ∈ w.running
  · rw [runStep_busy inner hbusy]
    exact hrefused w hw
  · cases hx : w.session.step id with
    | error fault =>
        rw [runStep_unknown inner hbusy hx]
        exact hrefused w hw
    | ok x =>
        have hrun := (keeps_stepResult inner hexchange x).holds _ (hbegun w x hw hx)
        rw [runStep_eq inner hbusy hx]
        cases hresult : stepResult env inner x (w.begun id) with
        | ok result v =>
            rw [hresult] at hrun
            exact hsettled result v hrun
        | error fault v =>
            rw [hresult] at hrun
            exact hended v hrun

end Exchanges

section Talks

variable {env : Environment σ} (inner : Operation → Run σ Answer)
  (hclient : env.client.OnlyReplies)

/-- An exchange in which nothing is asked for before the reply. -/
theorem exchange_of_meantime {call : Call} {w : World σ}
    (hmeantime : (env.client.answer w.peer call).1.meantime = []) :
    exchange env inner call w =
      .ok (env.client.answer w.peer call).1.reply (w.exchanged env call) := by
  have hanswered : exchange env inner call w =
      (performMeantime inner (env.client.answer w.peer call).1.meantime >>= fun _ =>
        pure (env.client.answer w.peer call).1.reply) (w.exchanged env call) := rfl
  rw [hanswered, hmeantime]
  rfl

include hclient

/-- An exchange with a client that only replies. -/
theorem exchange_eq (call : Call) (w : World σ) :
    exchange env inner call w =
      .ok (env.client.answer w.peer call).1.reply (w.exchanged env call) :=
  exchange_of_meantime inner (hclient w.peer call)

theorem onlyTalks_exchange (call : Call) : OnlyTalks (exchange env inner call) := by
  intro w₀
  constructor
  intro w hw
  rw [exchange_eq inner hclient]
  exact hw.talk _ _

theorem onlyTalks_execute (request : Request) : OnlyTalks (execute env inner request) :=
  fun w₀ => keeps_execute inner (fun call => onlyTalks_exchange inner hclient call w₀) request

end Talks

end Run

end CallChain
