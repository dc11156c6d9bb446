/-
# Running two sequences side by side

Two sequences mirror each other when each step of the one is a renamed step of the other.
While both are run, the results before the step that comes next are the same: this is the
invariant, `World.Paired`, that one step after another preserves. So both send the same
calls, and end with the same results up to the wording of a failure.
-/

import CallChain.Proofs.Session.LocalNames
import CallChain.Proofs.Session.SideBySide

namespace CallChain

open Renaming (across Crosses)

/-! ## Steps that mirror each other -/

namespace Step

/-- The texts of a step that may refer to other steps, with the given parameters; bindings
and the source of an iteration as they stand in holes. -/
def sources (p : Parameters) (x : Step) : List String :=
  p.texts ++ (x.mappings.map Prod.snd).map Renaming.wrapped ++
    if x.iteration.enabled then [Renaming.wrapped x.iteration.source] else []

/-- Whether a step at a place of one sequence is that of another one after a document has
carried it there, and all that it refers to is read there as it is written. -/
structure Mirrored (ids ids' : List String) (place : Nat) (p : Parameters) (x x' : Step) :
    Prop where
  /-- The step is renamed. -/
  renamed : Renamed (across ids ids' place) p x x'
  /-- Its body reads as it is written. -/
  body : BodyAsWritten (across ids ids' place) p x
  /-- Its bindings hold no braces. -/
  bindings : ∀ e ∈ x.mappings.map Prod.snd, ∀ c ∈ e.toList, Template.isInner c = true
  /-- The source of its iteration is an expression or one placeholder. -/
  source : x.iteration.enabled = true → x.iteration.HasPlainSource
  /-- The item of its iteration has no id for a name. -/
  apart : x.iteration.enabled = true →
    x.iteration.variableName ∉ ids ∧ x.iteration.variableName ∉ ids'
  /-- Its references can go from the one sequence to the other. -/
  crosses : ∀ s ∈ x.sources p, ∀ reference ∈ Renaming.references s,
    Crosses ids ids' place reference

variable {ids ids' : List String} {place : Nat} {p : Parameters} {x x' y y' : Step}

/-- How the last runs have ended does not matter. -/
theorem Mirrored.reset (h : Mirrored ids ids' place p x x') :
    Mirrored ids ids' place p x.reset x'.reset where
  renamed := ⟨h.renamed.method, h.renamed.path, h.renamed.parameters, h.renamed.inputs,
    h.renamed.mappings, h.renamed.enabled, h.renamed.iteration⟩
  body := ⟨h.body.text, h.body.plain, h.body.written⟩
  bindings := h.bindings
  source := h.source
  apart := h.apart
  crosses := h.crosses

theorem Mirrored.of_reset (h : Mirrored ids ids' place p x.reset x'.reset) :
    Mirrored ids ids' place p x x' where
  renamed := ⟨h.renamed.method, h.renamed.path, h.renamed.parameters, h.renamed.inputs,
    h.renamed.mappings, h.renamed.enabled, h.renamed.iteration⟩
  body := ⟨h.body.text, h.body.plain, h.body.written⟩
  bindings := h.bindings
  source := h.source
  apart := h.apart
  crosses := h.crosses

theorem Mirrored.congr (h : Mirrored ids ids' place p x x') (hx : y.reset = x.reset)
    (hx' : y'.reset = x'.reset) : Mirrored ids ids' place p y y' := by
  apply Mirrored.of_reset
  rw [hx, hx']
  exact h.reset

/-- Everything that the requests of a step read has the same value in both sequences. -/
theorem Mirrored.agrees {r r' : Resolver} (h : Mirrored r.stepIds r'.stepIds place p x x')
    (hr : Resolver.Mirrors place r r') {scope : Fields Value} (hscope : Resolver.Apart scope r)
    (hscope' : Resolver.Apart scope r') :
    Agrees r r' scope (across r.stepIds r'.stepIds place) p x where
  texts := by
    intro s hs
    apply hr.holesAgree hscope hscope'
    apply h.crosses s
    exact List.mem_append_left _ (List.mem_append_left _ hs)
  bindings := by
    intro e he
    have hbare := h.bindings e he
    refine ⟨hbare, hr.resolve_binding hscope hscope' hbare ?_⟩
    apply h.crosses
    exact List.mem_append_left _ (List.mem_append_right _ (List.mem_map.mpr ⟨e, he, rfl⟩))

theorem Mirrored.build_eq {r r' : Resolver} (h : Mirrored r.stepIds r'.stepIds place p x x')
    (hr : Resolver.Mirrors place r r') {scope : Fields Value} (hscope : Resolver.Apart scope r)
    (hscope' : Resolver.Apart scope r') (b : Builder) :
    b.build x' r' scope = b.build x r scope :=
  Builder.build_renamed hr.intoWords_across h.renamed (h.agrees hr hscope hscope') h.body b

/-- A step that mirrors another one builds the same requests while the results before it are
the same. -/
theorem Mirrored.sendsAlike {r r' : Resolver} (h : Mirrored r.stepIds r'.stepIds place p x x')
    (hr : Resolver.Mirrors place r r') (b : Builder) :
    Run.SendsAlike StepError.SameKind place r r' x x' (b.build x.reset r)
      (b.build x'.reset r') where
  enabled := h.renamed.enabled
  name := by
    intro henabled
    rw [h.renamed.iteration henabled]
    rfl
  unify := by
    intro henabled
    rw [h.renamed.iteration henabled]
  check := fun henabled =>
    Iteration.checkVariable_congr (h.apart henabled).1 (h.apart henabled).2
  items := by
    intro henabled
    rw [h.renamed.iteration henabled]
    apply hr.agree_items (h.source henabled)
    apply h.crosses
    rw [sources, if_pos henabled]
    exact List.mem_append_right _ (List.mem_singleton_self _)
  builds := by
    rintro _ (hsingle | @⟨items, index, item, henabled, hcheck, -, -⟩)
    · exact h.reset.build_eq hr (Resolver.apart_nil r) (Resolver.apart_nil r') b
    · have hcheck' : Iteration.checkVariable x.iteration.variableName r'.stepIds = .ok () := by
        rwa [Iteration.checkVariable_congr (h.apart henabled).1 (h.apart henabled).2]
      exact h.reset.build_eq hr (Iteration.apart_itemScope hr.sound.generated hcheck index item)
        (Iteration.apart_itemScope hr.sound'.generated hcheck' index item) b

end Step

/-! ## Results that are forgotten and stored -/

namespace Resolver

variable {r r' : Resolver} {id id' : String} {place : Nat}

theorem Sound.erase (h : r.Sound) (id : String) :
    (⟨r.results.erase id, r.stepIds⟩ : Resolver).Sound where
  nodup := h.nodup
  generated := h.generated
  owned := by
    intro other hother
    have hkey := Session.mem_keys_erase ((Session.mem_keys_iff _ _).mpr hother)
    exact h.owned other ((Session.mem_keys_iff _ _).mp hkey.1)

theorem Sound.set (h : r.Sound) (hid : r.stepIds[place]? = some id) (payload : Value) :
    (⟨r.results.set id payload, r.stepIds⟩ : Resolver).Sound where
  nodup := h.nodup
  generated := h.generated
  owned := by
    intro other hother
    by_cases heq : id = other
    · rw [← heq]
      exact List.mem_of_getElem? hid
    · rw [Fields.has, Fields.get?_set_of_ne _ _ heq] at hother
      exact h.owned other hother

/-- Forgetting the result of the step that comes next leaves the results before it the
same. -/
theorem Mirrors.erase (h : Mirrors place r r') (hid : r.stepIds[place]? = some id)
    (hid' : r'.stepIds[place]? = some id') :
    Mirrors place ⟨r.results.erase id, r.stepIds⟩ ⟨r'.results.erase id', r'.stepIds⟩ := by
  have hold := storedAt_congr h.sound.nodup hid (r.results.erase id)
    fun other hne => Fields.get?_erase_of_ne _ hne
  have hnew := storedAt_congr h.sound'.nodup hid' (r'.results.erase id')
    fun other hne => Fields.get?_erase_of_ne _ hne
  rw [Fields.get?_erase_self] at hold hnew
  refine ⟨h.sound.erase id, h.sound'.erase id', h.length_eq, fun n => ?_, fun n hn => ?_,
    fun n hn => ?_⟩
  · rw [hold, hnew, h.same]
  · rw [hold, if_neg (Nat.ne_of_lt hn)]
    exact h.stored n hn
  · rw [hold, h.unstored n hn, ite_self]

/-- Storing what the step that comes next has received makes the results the same up to
it. -/
theorem Mirrors.set (h : Mirrors place r r') (hid : r.stepIds[place]? = some id)
    (hid' : r'.stepIds[place]? = some id') (payload : Value) :
    Mirrors (place + 1) ⟨r.results.set id payload, r.stepIds⟩
      ⟨r'.results.set id' payload, r'.stepIds⟩ := by
  have hold := storedAt_congr h.sound.nodup hid (r.results.set id payload)
    fun other hne => Fields.get?_set_of_ne _ _ hne
  have hnew := storedAt_congr h.sound'.nodup hid' (r'.results.set id' payload)
    fun other hne => Fields.get?_set_of_ne _ _ hne
  rw [Fields.get?_set_self] at hold hnew
  refine ⟨h.sound.set hid payload, h.sound'.set hid' payload, h.length_eq, fun n => ?_,
    fun n hn => ?_, fun n hn => ?_⟩
  · rw [hold, hnew, h.same]
  · rw [hold]
    split
    · rfl
    · exact h.stored n (by omega)
  · rw [hold, if_neg (by omega), h.unstored n (by omega)]

end Resolver

/-! ## The run of a sequence -/

/-- Whether the sequences of two worlds mirror each other, both have come to the same place,
and no step is in progress. -/
structure World.Paired {σ : Type} (w : World σ) (place : Nat) (w' : World σ) : Prop where
  /-- The results are those of the steps before the place, and the same. -/
  results : Resolver.Mirrors place w.session.resolver w'.session.resolver
  /-- The steps mirror each other. -/
  steps : ∀ (n : Nat) x x', w.session.steps[n]? = some x → w'.session.steps[n]? = some x' →
    ∃ p, Step.Mirrored w.session.stepIds w'.session.stepIds n p x x'
  /-- No step is in progress. -/
  idle : w.running = []
  /-- Neither in the other world. -/
  idle' : w'.running = []
  /-- The same talk has been led. -/
  talk : w.SameTalk w'

namespace Session

variable {s s' : Session} {place : Nat} {x x' : Step}

/-- The session in which the run of a step has begun: its last run is forgotten. -/
theorem mirrors_forget (h : s.resolver.Mirrors place s'.resolver)
    (hx : s.steps[place]? = some x) (hx' : s'.steps[place]? = some x') :
    (s.forget x.id).resolver.Mirrors place (s'.forget x'.id).resolver := by
  have hmirrors := h.erase (getElem?_stepIds_of_step hx) (getElem?_stepIds_of_step hx')
  rw [resolver, resolver, stepIds_forget, stepIds_forget]
  exact hmirrors

/-- What has been stored is what both steps have received. -/
theorem mirrors_store (h : s.resolver.Mirrors place s'.resolver)
    (hx : s.steps[place]? = some x) (hx' : s'.steps[place]? = some x') {result result' : StepResult}
    {payload : Value} (hresult : result.payload? = some payload)
    (hresult' : result'.payload? = some payload) :
    (s.store x.id result).resolver.Mirrors (place + 1) (s'.store x'.id result').resolver := by
  have hmirrors := h.set (getElem?_stepIds_of_step hx) (getElem?_stepIds_of_step hx') payload
  rw [resolver, resolver, stepIds_store, stepIds_store, results_store, results_store, hresult,
    hresult']
  exact hmirrors

/-- Running one step changes no step but for how its last run has ended. -/
theorem mirrored_store_forget {result result' : StepResult}
    (h : ∀ (n : Nat) x x', s.steps[n]? = some x → s'.steps[n]? = some x' →
      ∃ p, Step.Mirrored s.stepIds s'.stepIds n p x x') (id id' : String) (n : Nat) {y y' : Step}
    (hy : ((s.forget id).store id result).steps[n]? = some y)
    (hy' : ((s'.forget id').store id' result').steps[n]? = some y') :
    ∃ p, Step.Mirrored ((s.forget id).store id result).stepIds
      ((s'.forget id').store id' result').stepIds n p y y' := by
  rw [steps_store_forget] at hy hy'
  have hreset : ∀ (result : StepResult) (x : Step), (x.reset.settle result).reset = x.reset :=
    fun _ _ => rfl
  obtain ⟨x, hx, hyx⟩ := getElem?_steps_modify s id (hreset result) hy
  obtain ⟨x', hx', hyx'⟩ := getElem?_steps_modify s' id' (hreset result') hy'
  obtain ⟨p, hmirrored⟩ := h n x x' hx hx'
  rw [stepIds_store, stepIds_forget, stepIds_store, stepIds_forget]
  exact ⟨p, hmirrored.congr hyx hyx'⟩

end Session

/-- A pause between two steps is no call. -/
theorem World.Paired.paused {σ : Type} {place : Nat} {w w' : World σ} (h : w.Paired place w') :
    (w.record .paused).Paired place (w'.record .paused) :=
  ⟨h.results, h.steps, h.idle, h.idle', h.talk.peer_eq, h.talk.calls_eq⟩

namespace Run

variable {σ : Type} {env : Environment σ} (inner : Operation → Run σ Answer)
  (hclient : env.client.OnlyReplies)

include hclient

/-- The runs of the steps at one place: both end with the same result, up to the wording of
a failure, and go on from the next place after a success. -/
theorem together_runStep {place : Nat} {w₀ w₀' : World σ} {x x' : Step}
    (h : w₀.Paired place w₀') (hx : w₀.session.steps[place]? = some x)
    (hx' : w₀'.session.steps[place]? = some x') :
    Together (fun w w' => w = w₀ ∧ w' = w₀') (runStep env inner x.id) (runStep env inner x'.id)
      (fun a a' w w' => a'.withoutMessage = a.withoutMessage ∧
        w.session.stepIds = w₀.session.stepIds ∧ w'.session.stepIds = w₀'.session.stepIds ∧
        w.SameTalk w' ∧ (a.isOk = true → w.Paired (place + 1) w'))
      World.SameTalk := by
  obtain ⟨hresults, hsteps, hidle, hidle', htalk⟩ := h
  obtain ⟨p, hstep⟩ := hsteps place x x' hx hx'
  have hnodup := hresults.sound.nodup
  have hnodup' := hresults.sound'.nodup
  have hsends : SendsAlike StepError.SameKind place
      (w₀.begun x.id).session.resolver (w₀'.begun x'.id).session.resolver x x'
      (env.builder.build ((w₀.begun x.id).current x) (w₀.begun x.id).session.resolver)
      (env.builder.build ((w₀'.begun x'.id).current x') (w₀'.begun x'.id).session.resolver) := by
    have hstep' : Step.Mirrored (w₀.begun x.id).session.stepIds
        (w₀'.begun x'.id).session.stepIds place p x x' := by
      rwa [World.begun, World.begun, Session.stepIds_forget, Session.stepIds_forget]
    rw [World.current_begun hnodup hx, World.current_begun hnodup' hx']
    exact hstep'.sendsAlike (Session.mirrors_forget hresults hx hx') env.builder
  have hresult := together_stepResult inner hclient
    (R := fun a a' => a'.withoutMessage = a.withoutMessage) (fun _ => rfl)
    (fun e e' h => by
      simp only [StepResult.withoutMessage, StepError.toFailure, h.status_eq, h.kind_eq])
    (Session.place_forget hnodup hx) (Session.place_forget hnodup' hx') hsends
  have hrun := together_runStep_of inner (hidle ▸ List.not_mem_nil) (hidle' ▸ List.not_mem_nil)
    (Session.step_of_getElem? hnodup hx) (Session.step_of_getElem? hnodup' hx') htalk hresult
  apply hrun.mono (fun _ _ hw => hw) _ (fun _ _ hw => hw)
  rintro a a' w w' ⟨hsame, hsession, hsession', hrunning, hrunning', htalked⟩
  refine ⟨hsame, ?_, ?_, htalked, fun hok => ?_⟩
  · rw [hsession, Session.stepIds_store, Session.stepIds_forget]
  · rw [hsession', Session.stepIds_store, Session.stepIds_forget]
  · obtain ⟨payload, hpayload⟩ := Option.isSome_iff_exists.mp (a.isOk_iff_payload? ▸ hok)
    have hpayload' : a'.payload? = some payload := by
      rw [← StepResult.payload?_withoutMessage, hsame, StepResult.payload?_withoutMessage,
        hpayload]
    have hstored := Session.mirrors_store (Session.mirrors_forget hresults hx hx')
      (Session.getElem?_forget hx) (Session.getElem?_forget hx') hpayload hpayload'
    refine ⟨?_, ?_, hrunning.trans hidle, hrunning'.trans hidle', htalked⟩
    · rw [hsession, hsession']
      exact hstored
    · rw [hsession, hsession']
      exact fun n y y' hy hy' => Session.mirrored_store_forget hsteps x.id x'.id n hy hy'

/-- The runs of two sequences that mirror each other: the same calls are sent, and the
results are the same up to the wording of a failure; or both runs are refused. -/
theorem together_runAll {w w' : World σ} (h : w.Paired 0 w')
    (hbusy : w'.sequenceRunning = w.sequenceRunning) :
    EndsAlike (fun rs rs' w w' =>
        rs'.map StepResult.withoutMessage = rs.map StepResult.withoutMessage ∧ w.SameTalk w')
      World.SameTalk (runAll env inner w) (runAll env inner w') := by
  -- The ids go along: they say which steps are at a place.
  let P (n : Nat) (v v' : World σ) : Prop := v.Paired n v' ∧
    v.session.stepIds = w.session.stepIds ∧ v'.session.stepIds = w'.session.stepIds
  have hok : ∀ a a' : StepResult, a'.withoutMessage = a.withoutMessage → a'.isOk = a.isOk := by
    intro a a' hsame
    rw [← StepResult.isOk_withoutMessage, hsame, StepResult.isOk_withoutMessage]
  have hstep : ∀ n id id', w.session.stepIds[n]? = some id → w'.session.stepIds[n]? = some id' →
      Together (P n) (runStep env inner id) (runStep env inner id')
        (fun a a' v v' => a'.withoutMessage = a.withoutMessage ∧ v.SameTalk v' ∧
          (a.isOk = true → P (n + 1) v v')) World.SameTalk := by
    rintro n id id' hid hid' v v' ⟨hpaired, hids, hids'⟩
    obtain ⟨x, hx, rfl⟩ := Session.exists_of_getElem?_stepIds (hids ▸ hid)
    obtain ⟨x', hx', rfl⟩ := Session.exists_of_getElem?_stepIds (hids' ▸ hid')
    apply (together_runStep inner hclient hpaired hx hx').mono (fun _ _ hv => hv) _
      (fun _ _ hv => hv) v v' ⟨rfl, rfl⟩
    rintro a a' u u' ⟨hsame, hkept, hkept', htalk, hnext⟩
    exact ⟨hsame, htalk, fun hgo => ⟨hnext hgo, hkept.trans hids, hkept'.trans hids'⟩⟩
  have hsteps := together_runSteps_of inner (R := fun a a' =>
      a'.withoutMessage = a.withoutMessage) (P := P) h.results.length_eq hok
    (fun n v v' hv => hv.1.talk) (fun n v v' hv => ⟨hv.1.paused, hv.2⟩) hstep List.drop_zero
    List.drop_zero
  have hstart : P 0 { w with sequenceRunning := true } { w' with sequenceRunning := true } :=
    ⟨⟨h.results, h.steps, h.idle, h.idle', h.talk.peer_eq, h.talk.calls_eq⟩, rfl, rfl⟩
  have hrun := together_runAll_of inner h.talk hbusy hsteps hstart
  apply hrun.mono _ fun _ _ hv => hv
  rintro rs rs' v v' ⟨hsame, htalk⟩
  refine ⟨?_, htalk⟩
  rw [eq_comm, ← List.forall₂_eq_eq_eq, List.forall₂_map_left_iff, List.forall₂_map_right_iff]
  exact hsame.imp fun _ _ => Eq.symm

end Run

end CallChain
