/-
# Steps read earlier steps, up to stored later results

Executing a step is meant to read results of earlier steps only. The source of an iteration is
checked for this, and the step's own result is forgotten before its requests are built. No other
reference is checked: it is refused as long as the later step that it leads to has no result,
and read once it has one.

`World.before` takes the results from a place on away. The run of a step is compared with the
run in that world: it sends the same calls and ends with the same result, unless building a
request of it comes to a reference to a later step while a result is stored for that; and it is
these requests that come out differently.
-/

import CallChain.Proofs.Request.Later
import CallChain.Proofs.Session.Escapes
import CallChain.Proofs.Session.Independent

namespace CallChain

/-! ## Taking later results away -/

namespace Resolver

variable {r : Resolver} (place : Nat)

/-- The results before a place are those of the steps before it. -/
theorem Owned.sameBefore_before (h : r.Owned) : SameBefore place r (r.before place) where
  ids_eq := rfl
  owned := h
  owned' := h.before place
  same := by
    intro n hn
    have hids : (r.before place).stepIds = r.stepIds := rfl
    rw [storedAt, storedAt, hids]
    cases hid : r.stepIds[n]? with
    | none => rfl
    | some id =>
        have hget := Fields.get?_filter (r.stepIds.take place).contains r.results id
        rwa [contains_take hn hid, if_pos rfl] at hget

end Resolver

/-- The session without the results of the steps from a place on. -/
def Session.before (s : Session) (place : Nat) : Session :=
  { s with results := (s.resolver.before place).results }

/-- The world without the results of the steps from a place on. -/
def World.before {σ : Type} (w : World σ) (place : Nat) : World σ :=
  { w with session := w.session.before place }

theorem Session.resolver_forget_before (s : Session) (id : String) (place : Nat) :
    ((s.before place).forget id).resolver = (s.forget id).resolver.before place := by
  have hids : ((s.before place).forget id).stepIds = s.stepIds := by
    rw [stepIds_forget]
    rfl
  rw [resolver, hids, Resolver.before, resolver, stepIds_forget]
  congr 1
  exact List.filter_comm _ _ _

/-- A step that has forgotten its last run has no result, and any other has the one that was
stored before. -/
theorem Session.storedAt_forget {s : Session} (hnodup : s.stepIds.Nodup) {place n : Nat} {x : Step}
    (hx : s.steps[place]? = some x) (h : n = place ∨ s.resolver.storedAt n = none) :
    (s.forget x.id).resolver.storedAt n = none := by
  have hstored := Resolver.storedAt_congr (r := s.resolver) hnodup (getElem?_stepIds_of_step hx)
    (s.results.erase x.id) (fun other hne => Fields.get?_erase_of_ne _ hne) n
  have hforgot : (s.forget x.id).resolver = ⟨s.results.erase x.id, s.resolver.stepIds⟩ := by
    rw [resolver, stepIds_forget]
    rfl
  rw [hforgot, hstored]
  split
  · exact Fields.get?_erase_self _ _
  · next hne => exact h.resolve_left hne

namespace Run

variable {σ : Type} {env : Environment σ} (inner : Operation → Run σ Answer) {w : World σ}
  {place : Nat} {x : Step}

/-- What the run of a step at a place reads, as long as it is not in progress. -/
structure ReadsEarlier (env : Environment σ) (inner : Operation → Run σ Answer) (w : World σ)
    (place : Nat) (x : Step) : Prop where
  /-- A request is the same without the results from the place on, exactly when its building
  comes to no reference to a later step with a result. -/
  builds_iff : ∀ scope, env.builder.build x.reset ((w.begun x.id).session.resolver.before place)
      scope = env.builder.build x.reset (w.begun x.id).session.resolver scope ↔
    ¬ env.builder.ReadsLater x.reset (w.begun x.id).session.resolver place scope
  /-- Where it comes to a reference to the step itself, or to a later one without a result,
  nothing is sent, and the call fails with the reference as unknown. -/
  refuses : ∀ scope reference n v, (w.begun x.id).OnlyTalked v →
    env.builder.ComesTo x.reset (w.begun x.id).session.resolver place scope reference n →
    (n = place ∨ w.session.resolver.storedAt n = none) →
    attempt env inner (v.current x) v.session.resolver scope v =
      .ok (.failed (StepError.unknownReference reference).toFailure) v
  /-- So does a step that is not iterated. -/
  refuses_single : ∀ reference n, x.iteration.enabled = false →
    env.builder.ComesTo x.reset (w.begun x.id).session.resolver place [] reference n →
    (n = place ∨ w.session.resolver.storedAt n = none) →
    ∃ v, runStep env inner x.id w =
        .ok (.failed (StepError.unknownReference reference).toFailure) v ∧ v.calls = w.calls
  /-- An iterated step whose source leads to the step itself, or to a later one, sends nothing
  and fails, whether that has a result or not. -/
  refuses_source : ∀ n, x.iteration.enabled = true →
    Iteration.checkVariable x.iteration.variableName w.session.stepIds = .ok () →
    x.iteration.sourceExpression ≠ "" →
    w.session.resolver.placeOf (Expression.split x.iteration.sourceExpression).reference =
      .ok (some n) → place ≤ n →
    ∃ v, runStep env inner x.id w = .ok (.failed (StepError.laterSource
        (Expression.split x.iteration.sourceExpression).reference).toFailure) v ∧
      v.calls = w.calls
  /-- Unless building one of its requests comes to a reference to a later step with a result,
  the whole run is the same without the results from the place on. -/
  runs : (∀ scope, x.RunsWith (w.begun x.id).session.resolver place scope →
      ¬ env.builder.ReadsLater x.reset (w.begun x.id).session.resolver place scope) →
    EndsAlike (fun a a' v v' => a' = a ∧ v'.calls = v.calls) (fun v v' => v'.calls = v.calls)
      (runStep env inner x.id w) (runStep env inner x.id (w.before place))

section Step

variable (hnodup : w.session.stepIds.Nodup) (hx : w.session.steps[place]? = some x)

include hnodup hx

/-- While the run of a step only talks, a reference to the step itself or to one without a
result is refused. -/
theorem attempt_refuses (howned : w.session.Owned) {reference : String} {n : Nat}
    {scope : Fields Value} {v : World σ} (hv : (w.begun x.id).OnlyTalked v)
    (hcomes : env.builder.ComesTo x.reset (w.begun x.id).session.resolver place scope reference n)
    (hnone : n = place ∨ w.session.resolver.storedAt n = none) :
    attempt env inner (v.current x) v.session.resolver scope v =
      .ok (.failed (StepError.unknownReference reference).toFailure) v := by
  have hbuild : env.builder.build x.reset (w.begun x.id).session.resolver scope =
      .error (.step (.unknownReference reference)) :=
    hcomes.build_eq (howned.forget x.id).resolver (Session.storedAt_forget hnodup hx hnone)
  rw [hv.current_eq, hv.session_eq, World.current_begun hnodup hx, attempt_unbuilt inner hbuild]
  rfl

variable (hidle : x.id ∉ w.running)

include hidle

/-- A step that fails before it sends anything has sent nothing when its run is over. -/
theorem exists_runStep_failed {failure : Failure}
    (hresult : stepResult env inner x (w.begun x.id) = .ok (.failed failure) (w.begun x.id)) :
    ∃ v, runStep env inner x.id w = .ok (.failed failure) v ∧ v.calls = w.calls := by
  rw [runStep_eq inner hidle (Session.step_of_getElem? hnodup hx), hresult]
  exact ⟨_, rfl, rfl⟩

theorem endsAlike_runStep_before (hclient : env.client.OnlyReplies) (howned : w.session.Owned)
    (hreads : ∀ scope, x.RunsWith (w.begun x.id).session.resolver place scope →
      ¬ env.builder.ReadsLater x.reset (w.begun x.id).session.resolver place scope) :
    EndsAlike (fun a a' v v' => a' = a ∧ v'.calls = v.calls) (fun v v' => v'.calls = v.calls)
      (runStep env inner x.id w) (runStep env inner x.id (w.before place)) := by
  have hforgot : (w.begun x.id).session.resolver.Owned := (howned.forget x.id).resolver
  have hnodup' : (w.before place).session.stepIds.Nodup := hnodup
  have hx' : (w.before place).session.steps[place]? = some x := hx
  have hidle' : x.id ∉ (w.before place).running := hidle
  have hresolver : ((w.before place).begun x.id).session.resolver =
      (w.begun x.id).session.resolver.before place :=
    w.session.resolver_forget_before x.id place
  have hsends : SendsAlike Eq place (w.begun x.id).session.resolver
      ((w.before place).begun x.id).session.resolver x x
      (env.builder.build ((w.begun x.id).current x) (w.begun x.id).session.resolver)
      (env.builder.build (((w.before place).begun x.id).current x)
        ((w.before place).begun x.id).session.resolver) := by
    rw [World.current_begun hnodup hx, World.current_begun hnodup' hx', hresolver]
    refine ⟨rfl, fun _ => rfl, fun _ => rfl, fun _ => rfl, fun _ => ?_, fun scope hscope => ?_⟩
    · rw [(hforgot.sameBefore_before place).items_eq]
      exact .same _
    · exact (Builder.build_before_iff_not_readsLater hforgot
        (Session.storedAt_forget hnodup hx (Or.inl rfl))).mpr (hreads scope hscope)
  have hresult := together_stepResult inner hclient (R := fun a a' => a' = a) (fun _ => rfl)
    (fun e e' heq => by rw [heq]) (Session.place_forget hnodup hx)
    (Session.place_forget hnodup' hx') hsends
  have htalk : w.SameTalk (w.before place) := ⟨rfl, rfl⟩
  have hrun := together_runStep_of inner hidle hidle' (Session.step_of_getElem? hnodup hx)
    (Session.step_of_getElem? hnodup' hx') htalk hresult
  exact (hrun w (w.before place) ⟨rfl, rfl⟩).mono
    (fun a a' v v' hv => ⟨hv.1, hv.2.2.2.2.2.calls_eq⟩) fun v v' hv => hv.calls_eq

/-- The run of a step that is not in progress reads earlier results, and later ones where
building a request comes to them. -/
theorem readsEarlier (hclient : env.client.OnlyReplies) (howned : w.session.Owned) :
    ReadsEarlier env inner w place x where
  builds_iff scope := Builder.build_before_iff_not_readsLater (howned.forget x.id).resolver
    (Session.storedAt_forget hnodup hx (Or.inl rfl))
  refuses scope reference n v hv hcomes hnone :=
    attempt_refuses inner hnodup hx howned hv hcomes hnone
  refuses_single := by
    intro reference n hsingle hcomes hnone
    apply exists_runStep_failed inner hnodup hx hidle
    rw [stepResult_single inner hsingle (Session.place_forget hnodup hx),
      attempt_refuses inner hnodup hx howned (World.OnlyTalked.refl _) hcomes hnone]
    rfl
  refuses_source := by
    intro n hiterated hcheck hblank hleads hn
    apply exists_runStep_failed inner hnodup hx hidle
    have hforgot : (w.begun x.id).session.resolver.Owned := (howned.forget x.id).resolver
    have hids : (w.begun x.id).session.stepIds = w.session.stepIds := Session.stepIds_forget _ _
    have hplaceOf : (w.begun x.id).session.resolver.placeOf
        (Expression.split x.iteration.sourceExpression).reference = .ok (some n) := by
      rw [hforgot.placeOf_eq, Session.resolver, hids, ← hleads, howned.resolver.placeOf_eq,
        Session.resolver]
    have hitems : x.iteration.items ⟨(w.begun x.id).session.results, w.session.stepIds⟩ place =
        .error (.step (.laterSource
          (Expression.split x.iteration.sourceExpression).reference)) := by
      rw [Session.resolver, hids] at hplaceOf
      simp only [Iteration.items, if_neg hblank, hplaceOf, if_pos hn]
    rw [stepResult_iterated inner hiterated (Session.place_forget hnodup hx), hids, caught,
      iterate_eq, hcheck, hitems]
    rfl
  runs hreads := endsAlike_runStep_before inner hnodup hx hidle hclient howned hreads

end Step

end Run

/-- After any completed operations, and for any step that is not in progress: its run reads
earlier results only, but for references to later steps whose results are stored; these it comes
to in a path, a query, a binding or a body. -/
theorem World.Reached.runStep_readsEarlier {σ : Type} {env : Environment σ}
    (hids : Function.Injective env.stepId) (hclient : env.client.OnlyReplies)
    (inner : Operation → Run σ Answer) {w : World σ} (h : World.Reached env w) {place : Nat}
    {x : Step} (hx : w.session.steps[place]? = some x) (hidle : x.id ∉ w.running) :
    Run.ReadsEarlier env inner w place x := by
  have hconsistent := (h.sound hids hclient).consistent
  exact Run.readsEarlier inner hconsistent.ids_nodup hx hidle hclient hconsistent.owned

/-- A step that is bound to the result of the step behind it. -/
def Step.bound : Step where
  id := Reference.countedId 0
  endpoint := { method := .get, path := "/tasks" }
  mappings := [("user", "step1.gid")]

/-- A session in which the second step has been run, and the first one is bound to it. -/
def World.ranLater : World Nat :=
  let add (path : String) (mappings : Fields Value) : Run Nat Answer :=
    Run.performOperation Environment.counting (.add
      (.object [("method", .text "GET"), ("path", .text path)]) none (.object mappings) none)
  let one := (add "/tasks" [("user", .text "step1.gid")]).after
    { session := { baseUrl := defaultBaseUrl }, peer := 0 }
  let two := (add "/users" []).after one
  (Run.performOperation Environment.counting (.runStep (.place 1))).after two

/-- The first step has not been run, and the answer that the second one got is stored. -/
theorem World.state_ranLater :
    World.ranLater.session.steps[0]? = some Step.bound ∧ Step.bound.id ∉ World.ranLater.running ∧
    (World.ranLater.begun Step.bound.id).session.results =
      [(Reference.countedId 1, .object [("gid", .text "0")])] ∧
    (World.ranLater.begun Step.bound.id).session.stepIds =
      [Reference.countedId 0, Reference.countedId 1] := by
  decide +kernel

theorem World.Reached.runStep_readsEarlier_ranLater :
    Function.Injective Environment.counting.stepId ∧ Environment.counting.client.OnlyReplies ∧
    World.Reached Environment.counting World.ranLater ∧
    World.ranLater.session.steps[0]? = some Step.bound ∧
    Step.bound.id ∉ World.ranLater.running ∧
    Run.ReadsEarlier Environment.counting (Run.performAt Environment.counting 0) World.ranLater 0
      Step.bound ∧
    Environment.counting.builder.ReadsLater Step.bound.reset
      (World.ranLater.begun Step.bound.id).session.resolver 0 [] ∧
    (Environment.counting.builder.build Step.bound.reset
      (World.ranLater.begun Step.bound.id).session.resolver []).toOption.map Request.query =
        some [("user", "0"), ("limit", "10"), ("opt_pretty", "true")] := by
  have hids : Function.Injective Environment.counting.stepId :=
    fun _ _ h => Reference.countedId_injective h
  have hclient : Environment.counting.client.OnlyReplies := fun _ _ => rfl
  have hreached : World.Reached Environment.counting World.ranLater := by
    unfold World.ranLater
    exact .perform _ (.perform _ (.perform _ (.start _ _ _ _)))
  obtain ⟨hx, hidle, hresults, hstepIds⟩ := World.state_ranLater
  refine ⟨hids, hclient, hreached, hx, hidle,
    World.Reached.runStep_readsEarlier hids hclient _ hreached hx hidle, ?_⟩
  rw [Session.resolver, hresults, hstepIds]
  refine ⟨⟨"step1", 1, ⟨Nat.zero_le 1, ?_, ?_⟩, Nat.one_pos, ?_⟩, ?_⟩ <;> decide +kernel

end CallChain
