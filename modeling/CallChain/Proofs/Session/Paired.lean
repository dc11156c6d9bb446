/-
# Two runs side by side

Two runs end alike when both end with an answer or both with the same fault, in worlds that
are related as well. The rules for it follow the combinators that runs are made of, as those
for one run do.

Two steps that build the same requests send the same calls to the same peer and receive the
same, item by item when they are iterated. At most the wording of a failure differs.
-/

import CallChain.Proofs.Session.Effects
import CallChain.Proofs.Session.Sources

namespace CallChain

/-- The call that was sent, if one was. -/
def Event.call? : Event → Option Call
  | .sent call => some call
  | _ => none

/-- The calls that have been sent, in order. -/
def World.calls {σ : Type} (w : World σ) : List Call :=
  (w.events.filterMap Event.call?).reverse

theorem World.calls_exchanged {σ : Type} (env : Environment σ) (w : World σ) (call : Call) :
    (w.exchanged env call).calls = w.calls ++ [call] :=
  List.reverse_cons

/-- How a step ended, but for the wording of a failure. -/
def StepResult.withoutMessage : StepResult → StepResult
  | failed f => failed { f with message := "" }
  | other => other

theorem StepResult.isOk_withoutMessage (r : StepResult) : r.withoutMessage.isOk = r.isOk := by
  cases r <;> rfl

theorem StepResult.payload?_withoutMessage (r : StepResult) :
    r.withoutMessage.payload? = r.payload? := by
  cases r <;> rfl

/-- Whether two worlds differ from earlier ones in the same talk only. -/
structure World.Abreast {σ : Type} (w₀ w₀' w w' : World σ) : Prop where
  /-- The one has only talked. -/
  talked : w₀.OnlyTalked w
  /-- So has the other. -/
  talked' : w₀'.OnlyTalked w'
  /-- The client remembers the same. -/
  peer_eq : w'.peer = w.peer
  /-- The same calls have been sent. -/
  calls_eq : w'.calls = w.calls

theorem World.OnlyTalked.current_eq {σ : Type} {w w' : World σ} (h : w.OnlyTalked w') (x : Step) :
    w'.current x = w.current x := by
  rw [h]
  rfl

/-- Whether a step at a place is run with these local names: none, or those of one of the items
of its iteration. -/
inductive Step.RunsWith (x : Step) (r : Resolver) (place : Nat) : Fields Value → Prop
  /-- A step that is not iterated is run once. -/
  | single (hsingle : x.iteration.enabled = false) : RunsWith x r place []
  /-- An iterated one is run for every item. -/
  | item {items : List Value} {index : Nat} {item : Value}
    (hiterated : x.iteration.enabled = true)
    (hcheck : Iteration.checkVariable x.iteration.variableName r.stepIds = .ok ())
    (hitems : x.iteration.items r place = .ok items) (hitem : items[index]? = some item) :
    RunsWith x r place (Iteration.itemScope x.iteration.variableName index item)

namespace Run

variable {σ α β : Type}

/-- Whether two runs have ended alike: both with an answer, or both with one fault. -/
inductive EndsAlike (Q : α → α → World σ → World σ → Prop) (E : World σ → World σ → Prop) :
    EStateM.Result Fault (World σ) α → EStateM.Result Fault (World σ) α → Prop
  /-- Both have ended with an answer. -/
  | answered {a a' : α} {w w' : World σ} (h : Q a a' w w') : EndsAlike Q E (.ok a w) (.ok a' w')
  /-- Both have ended with a fault. -/
  | failed {fault : Fault} {w w' : World σ} (h : E w w') :
    EndsAlike Q E (.error fault w) (.error fault w')

/-- However two runs have ended alike, their worlds are related. -/
theorem EndsAlike.after {R : α → α → Prop} {E : World σ → World σ → Prop} {run run' : Run σ α}
    {w w' : World σ}
    (h : EndsAlike (fun a a' v v' => R a a' ∧ E v v') E (run w) (run' w')) :
    E (run.after w) (run'.after w') := by
  unfold Run.after
  generalize run w = ended at h
  generalize run' w' = ended' at h
  cases h with
  | answered h => exact h.2
  | failed h => exact h

/-- Whether two runs end alike wherever `P` holds of their worlds. -/
def Together (P : World σ → World σ → Prop) (run run' : Run σ α)
    (Q : α → α → World σ → World σ → Prop) (E : World σ → World σ → Prop) : Prop :=
  ∀ w w', P w w' → EndsAlike Q E (run w) (run' w')

/-- Whether two runs keep worlds related, and give the same answer. -/
def Lockstep (P : World σ → World σ → Prop) (run run' : Run σ α) : Prop :=
  Together P run run' (fun a a' w w' => a' = a ∧ P w w') P

/-! ## One rule for each combinator -/

section Rules

variable {P E : World σ → World σ → Prop} {Q : α → α → World σ → World σ → Prop}
  {R : β → β → World σ → World σ → Prop}

theorem EndsAlike.mono {Q' : α → α → World σ → World σ → Prop} {E' : World σ → World σ → Prop}
    {ended ended' : EStateM.Result Fault (World σ) α} (h : EndsAlike Q E ended ended')
    (hQ : ∀ a a' w w', Q a a' w w' → Q' a a' w w') (hE : ∀ w w', E w w' → E' w w') :
    EndsAlike Q' E' ended ended' := by
  cases h with
  | answered hq => exact .answered (hQ _ _ _ _ hq)
  | failed he => exact .failed (hE _ _ he)

theorem Together.mono {run run' : Run σ α} {P' E' : World σ → World σ → Prop}
    {Q' : α → α → World σ → World σ → Prop} (h : Together P run run' Q E)
    (hP : ∀ w w', P' w w' → P w w') (hQ : ∀ a a' w w', Q a a' w w' → Q' a a' w w')
    (hE : ∀ w w', E w w' → E' w w') : Together P' run run' Q' E' :=
  fun w w' hw => (h w w' (hP w w' hw)).mono hQ hE

theorem together_pure {a a' : α} (h : ∀ w w', P w w' → Q a a' w w') :
    Together P (pure a) (pure a') Q E :=
  fun w w' hw => .answered (h w w' hw)

theorem together_throw {fault : Fault} (h : ∀ w w', P w w' → E w w') :
    Together P (throw fault : Run σ α) (throw fault) Q E :=
  fun w w' hw => .failed (h w w' hw)

theorem together_bind {run run' : Run σ α} {next next' : α → Run σ β}
    (h : Together P run run' Q E) (hnext : ∀ a a', Together (Q a a') (next a) (next' a') R E) :
    Together P (run >>= next) (run' >>= next') R E := by
  intro w w' hw
  have hrun := h w w' hw
  simp only [Bind.bind, EStateM.bind]
  generalize run w = ended at hrun
  generalize run' w' = ended' at hrun
  cases hrun with
  | answered hq => exact hnext _ _ _ _ hq
  | failed he => exact .failed he

/-- Runs that go on with the same answer. -/
theorem Lockstep.bind {run run' : Run σ α} {next next' : α → Run σ β} (h : Lockstep P run run')
    (hnext : ∀ a, Together P (next a) (next' a) R P) :
    Together P (run >>= next) (run' >>= next') R P := by
  apply together_bind h
  intro a a' w w' hw
  obtain ⟨rfl, hw⟩ := hw
  exact hnext _ w w' hw

theorem together_get_bind {next next' : World σ → Run σ β}
    (h : ∀ w w', P w w' → EndsAlike R E (next w w) (next' w' w')) :
    Together P (get >>= next) (get >>= next') R E :=
  fun w w' hw => h w w' hw

theorem together_modify {f f' : World σ → World σ} {Q : PUnit → PUnit → World σ → World σ → Prop}
    (h : ∀ w w', P w w' → Q ⟨⟩ ⟨⟩ (f w) (f' w')) : Together P (modify f) (modify f') Q E :=
  fun w w' hw => .answered (h w w' hw)

theorem lockstep_pure (a : α) : Lockstep P (pure a) (pure a) :=
  together_pure fun _ _ hw => ⟨rfl, hw⟩

theorem lockstep_ofExcept (result : Except Fault α) :
    Lockstep P (ofExcept result) (ofExcept result) := by
  cases result with
  | ok a => exact lockstep_pure a
  | error fault => exact together_throw fun _ _ hw => hw

theorem together_caught {run run' : Run σ α} {onError : StepError → α}
    (h : Together P run run' Q E) (herror : ∀ e w w', E w w' → Q (onError e) (onError e) w w') :
    Together P (caught run onError) (caught run' onError) Q E := by
  intro w w' hw
  have hrun := h w w' hw
  unfold caught
  generalize run w = ended at hrun
  generalize run' w' = ended' at hrun
  cases hrun with
  | answered hq => exact .answered hq
  | @failed fault _ _ he =>
      cases fault with
      | step e => exact .answered (herror e _ _ he)
      | _ => exact .failed he

theorem together_transported {run run' : Run σ α} (h : Together P run run' Q E) :
    Together P (transported run) (transported run') Q E := by
  intro w w' hw
  have hrun := h w w' hw
  unfold transported
  generalize run w = ended at hrun
  generalize run' w' = ended' at hrun
  cases hrun with
  | answered hq => exact .answered hq
  | @failed fault _ _ he => cases fault <;> exact .failed he

end Rules

/-! ## Two steps that build the same requests -/

/-- Whether two steps build the same requests at a place, with all local names that the one is
run with, and what they read of an iteration agrees, up to related step errors. -/
structure SendsAlike (E : StepError → StepError → Prop) (place : Nat) (r r' : Resolver)
    (x x' : Step) (build build' : Fields Value → Except Fault Request) : Prop where
  /-- Both are iterated, or neither is. -/
  enabled : x'.iteration.enabled = x.iteration.enabled
  /-- The items of an iterated step have the same name. -/
  name : x.iteration.enabled = true → x'.iteration.variableName = x.iteration.variableName
  /-- Their data are joined in the same way. -/
  unify : x.iteration.enabled = true → x'.iteration.unifyResults = x.iteration.unifyResults
  /-- The name is checked alike. -/
  check : x.iteration.enabled = true →
    Iteration.checkVariable x.iteration.variableName r'.stepIds =
      Iteration.checkVariable x.iteration.variableName r.stepIds
  /-- The items agree. -/
  items : x.iteration.enabled = true →
    Except.Agree E (x.iteration.items r place) (x'.iteration.items r' place)
  /-- The same request is built, once or for each item. -/
  builds : ∀ scope, x.RunsWith r place scope → build' scope = build scope

/-- A step builds the same requests as itself. -/
theorem SendsAlike.refl {E : StepError → StepError → Prop} (place : Nat) (r : Resolver)
    (x : Step) (build : Fields Value → Except Fault Request) :
    SendsAlike E place r r x x build build where
  enabled := rfl
  name _ := rfl
  unify _ := rfl
  check _ := rfl
  items _ := .same _
  builds _ _ := rfl

section Exchanges

variable {env : Environment σ} {inner inner' : Operation → Run σ Answer}
  {P : World σ → World σ → Prop} {x x' : Step} {ids ids' : List String}
  (hexchange : ∀ call, Lockstep P (exchange env inner call) (exchange env inner' call))

include hexchange

theorem lockstep_execute (request : Request) :
    Lockstep P (execute env inner request) (execute env inner' request) := by
  have hsend : Lockstep P (send env inner request) (send env inner' request) := by
    unfold send
    split
    · exact together_throw fun _ _ hw => hw
    · exact Lockstep.bind (together_transported (hexchange _)) fun reply => lockstep_ofExcept _
  exact hsend.bind fun response => lockstep_ofExcept _

/-- Steps that build the same request receive the same. -/
theorem lockstep_executeStepOnce {scope : Fields Value}
    (hbuild : ∀ w w', P w w' →
      env.builder.build (w'.current x') ⟨w'.session.results, ids'⟩ scope =
        env.builder.build (w.current x) ⟨w.session.results, ids⟩ scope) :
    Lockstep P (executeStepOnce env inner x ids scope)
      (executeStepOnce env inner' x' ids' scope) := by
  apply together_get_bind
  intro w w' hw
  rw [hbuild w w' hw]
  exact (lockstep_ofExcept _).bind (fun request => lockstep_execute hexchange request) w w' hw

theorem lockstep_iterateItem {name : String} {index : Nat} {item : Value}
    (hbuild : ∀ w w', P w w' →
      env.builder.build (w'.current x') ⟨w'.session.results, ids'⟩
          (Iteration.itemScope name index item) =
        env.builder.build (w.current x) ⟨w.session.results, ids⟩
          (Iteration.itemScope name index item)) :
    Lockstep P (iterateItem env inner x ids name index item)
      (iterateItem env inner' x' ids' name index item) := by
  apply Lockstep.bind
  · apply together_caught
    · exact (lockstep_executeStepOnce hexchange hbuild).bind fun received => lockstep_pure _
    · exact fun e w w' hw => ⟨rfl, hw⟩
  · intro outcome
    cases outcome <;> exact lockstep_pure _

theorem lockstep_iterateItems {name : String} {index : Nat} {items : List Value}
    (hbuild : ∀ k item, items[k]? = some item → ∀ w w', P w w' →
      env.builder.build (w'.current x') ⟨w'.session.results, ids'⟩
          (Iteration.itemScope name (index + k) item) =
        env.builder.build (w.current x) ⟨w.session.results, ids⟩
          (Iteration.itemScope name (index + k) item)) :
    Lockstep P (iterateItems env inner x ids name index items)
      (iterateItems env inner' x' ids' name index items) := by
  induction items generalizing index with
  | nil => exact lockstep_pure _
  | cons item items ih =>
      apply (lockstep_iterateItem hexchange (hbuild 0 item rfl)).bind
      intro outcome
      have hrest : Lockstep P (iterateItems env inner x ids name (index + 1) items)
          (iterateItems env inner' x' ids' name (index + 1) items) := by
        apply ih
        intro k next hnext
        rw [Nat.add_right_comm, Nat.add_assoc]
        exact hbuild (k + 1) next hnext
      exact hrest.bind fun others => lockstep_pure _

variable {E : StepError → StepError → Prop} {R : StepResult → StepResult → Prop}
  (hrefl : ∀ a, R a a) (hfailed : ∀ e e', E e e' → R (.failed e.toFailure) (.failed e'.toFailure))

include hrefl hfailed

theorem together_iterate_of {place : Nat} (henabled : x.iteration.enabled = true)
    (h : ∀ w w', P w w' → ∀ v v', P v v' →
      SendsAlike E place ⟨w.session.results, ids⟩ ⟨w'.session.results, ids'⟩ x x'
        (env.builder.build (v.current x) ⟨v.session.results, ids⟩)
        (env.builder.build (v'.current x') ⟨v'.session.results, ids'⟩)) :
    Together P (iterate env inner x ids place) (iterate env inner' x' ids' place)
      (fun a a' w w' => R a a' ∧ P w w') P := by
  apply together_get_bind
  intro w w' hw
  have halike := h w w' hw w w' hw
  have hcheck := halike.check henabled
  have hitems := halike.items henabled
  rw [halike.name henabled]
  dsimp only at hcheck hitems ⊢
  rw [hcheck]
  cases hname : Iteration.checkVariable x.iteration.variableName ids with
  | error fault =>
      cases fault with
      | step e => exact .answered ⟨hrefl _, hw⟩
      | _ => exact .failed hw
  | ok u =>
      simp only [Bind.bind, Except.bind]
      generalize hfound : x.iteration.items ⟨w.session.results, ids⟩ place = found at hitems
      generalize x'.iteration.items ⟨w'.session.results, ids'⟩ place = found' at hitems
      cases hitems with
      | same _ =>
          cases found with
          | error fault =>
              cases fault with
              | step e => exact .answered ⟨hrefl _, hw⟩
              | _ => exact .failed hw
          | ok items =>
              have heach : Lockstep P
                  (iterateItems env inner x ids x.iteration.variableName 0 items)
                  (iterateItems env inner' x' ids' x.iteration.variableName 0 items) := by
                apply lockstep_iterateItems hexchange
                intro k item hitem v v' hv
                rw [Nat.zero_add]
                exact (h w w' hw v v' hv).builds _ (.item henabled hname hfound hitem)
              refine Lockstep.bind heach (fun outcomes => ?_) w w' hw
              apply together_pure
              intro v v' hv
              rw [Iteration.result, Iteration.result, halike.unify henabled]
              exact ⟨hrefl _, hv⟩
      | failed h => exact .answered ⟨hfailed _ _ h, hw⟩

/-- Two steps that build the same requests wherever they are sent lead to the same result, up
to related step errors. -/
theorem together_stepResult_of
    (hplace : ∀ w w', P w w' → w'.session.place x'.id = w.session.place x.id)
    (h : ∀ w w', P w w' → ∀ place, w.session.place x.id = .ok place →
      ∀ u u', P u u' → ∀ v v', P v v' →
      SendsAlike E place ⟨u.session.results, w.session.stepIds⟩
        ⟨u'.session.results, w'.session.stepIds⟩ x x'
        (env.builder.build (v.current x) ⟨v.session.results, w.session.stepIds⟩)
        (env.builder.build (v'.current x') ⟨v'.session.results, w'.session.stepIds⟩)) :
    Together P (stepResult env inner x) (stepResult env inner' x')
      (fun a a' w w' => R a a' ∧ P w w') P := by
  apply together_get_bind
  intro w w' hw
  rw [hplace w w' hw]
  cases hfound : w.session.place x.id with
  | error fault => exact .failed hw
  | ok place =>
      have halike := h w w' hw place hfound
      refine together_caught ?_ (fun e v v' hv => ⟨hrefl _, hv⟩) w w' hw
      rw [(halike w w' hw w w' hw).enabled]
      by_cases henabled : x.iteration.enabled = true
      · rw [if_pos henabled, if_pos henabled]
        exact together_iterate_of hexchange hrefl hfailed henabled halike
      · rw [if_neg henabled, if_neg henabled]
        apply Lockstep.bind (lockstep_executeStepOnce hexchange fun v v' hv =>
          (halike v v' hv v v' hv).builds [] (.single (Bool.not_eq_true _ ▸ henabled)))
        exact fun received => together_pure fun v v' hv => ⟨hrefl _, hv⟩

end Exchanges

/-! ## With a client that only replies -/

section Talks

variable {env : Environment σ} (inner : Operation → Run σ Answer)
  (hclient : env.client.OnlyReplies) {w₀ w₀' : World σ} {x x' : Step}

include hclient

theorem lockstep_exchange (call : Call) :
    Lockstep (World.Abreast w₀ w₀') (exchange env inner call) (exchange env inner call) := by
  intro w w' hw
  obtain ⟨htalked, htalked', hpeer, hcalls⟩ := hw
  rw [exchange_eq inner hclient, exchange_eq inner hclient, hpeer]
  refine .answered ⟨rfl, htalked.talk _ _, htalked'.talk _ _, ?_, ?_⟩
  · rw [World.exchanged, World.exchanged, hpeer]
  · rw [World.calls_exchanged, World.calls_exchanged, hcalls]

/-- Two steps that build the same requests before either is sent lead to the same result, up
to related step errors. -/
theorem together_stepResult {E : StepError → StepError → Prop}
    {R : StepResult → StepResult → Prop} (hrefl : ∀ a, R a a)
    (hfailed : ∀ e e', E e e' → R (.failed e.toFailure) (.failed e'.toFailure)) {place : Nat}
    (hplace : w₀.session.place x.id = .ok place) (hplace' : w₀'.session.place x'.id = .ok place)
    (h : SendsAlike E place w₀.session.resolver w₀'.session.resolver x x'
      (env.builder.build (w₀.current x) w₀.session.resolver)
      (env.builder.build (w₀'.current x') w₀'.session.resolver)) :
    Together (World.Abreast w₀ w₀') (stepResult env inner x) (stepResult env inner x')
      (fun a a' w w' => R a a' ∧ World.Abreast w₀ w₀' w w') (World.Abreast w₀ w₀') := by
  apply together_stepResult_of (lockstep_exchange inner hclient) hrefl hfailed
  · intro w w' hw
    rw [hw.talked.session_eq, hw.talked'.session_eq, hplace, hplace']
  · intro w w' hw place' hfound u u' hu v v' hv
    rw [hw.talked.session_eq, hplace] at hfound
    cases hfound
    rw [hw.talked.session_eq, hw.talked'.session_eq, hu.talked.session_eq,
      hu.talked'.session_eq, hv.talked.session_eq, hv.talked'.session_eq, hv.talked.current_eq,
      hv.talked'.current_eq]
    exact h

end Talks

end Run

end CallChain
