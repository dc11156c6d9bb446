/-
# Earlier runs do not matter

Where the references of every step lead to no step behind it, the run of the whole sequence
reads no result that it has not stored itself. The invariant, `World.Rerun`, is that two
worlds with the same sequence have the same results before the place that comes next; what
is stored from there on may differ. The run of a step forgets the result of the step, reads
only results before it, and stores the same in both worlds.

The source of an iteration needs no condition. One that leads to the step itself or to a
later one is refused before anything is read.
-/

import CallChain.Proofs.Request.Dependence
import CallChain.Proofs.Session.Reached
import CallChain.Proofs.Session.SideBySide

namespace CallChain

/-! ## Where the references of a step lead -/

/-- Whether a name is that of the item of an iteration, or that of its place. -/
def Iteration.Binds (i : Iteration) (reference : String) : Prop :=
  i.enabled = true ∧ (reference = i.variableName ∨ reference = i.variableName ++ "_index")

namespace Step

/-- The references that the request of a step is built from. -/
def references (x : Step) : List String :=
  x.expressions.map fun e => (Expression.split e).reference

/-- Whether no reference of a step at a place leads to a step behind it. -/
def LooksBack (x : Step) (r : Resolver) (place : Nat) : Prop :=
  ∀ reference ∈ x.references, x.iteration.Binds reference ∨
    ∀ n, r.placeOf reference = .ok (some n) → n ≤ place

end Step

/-- Whether no reference of a step leads to a later step. -/
def Session.LooksBack (s : Session) : Prop :=
  ∀ (n : Nat) (x : Step), s.steps[n]? = some x → x.LooksBack s.resolver n

section Decidable

instance (i : Iteration) (reference : String) : Decidable (i.Binds reference) :=
  inferInstanceAs (Decidable (_ ∧ (_ ∨ _)))

instance (place? : Except NumberProblem (Option Nat)) (place : Nat) :
    Decidable (∀ n, place? = .ok (some n) → n ≤ place) :=
  match place? with
  | .ok (some m) =>
    decidable_of_iff (m ≤ place) ⟨fun h n heq => by cases heq; exact h, fun h => h m rfl⟩
  | .ok none => isTrue nofun
  | .error _ => isTrue nofun

instance (x : Step) (r : Resolver) (place : Nat) : Decidable (x.LooksBack r place) :=
  inferInstanceAs (Decidable (∀ reference ∈ x.references, _ ∨ _))

instance (s : Session) : Decidable s.LooksBack :=
  decidable_of_iff (∀ n : Fin s.steps.length, (s.steps[n]).LooksBack s.resolver n) <| by
    constructor
    · intro h n x hx
      obtain ⟨hn, rfl⟩ := List.getElem?_eq_some_iff.mp hx
      exact h ⟨n, hn⟩
    · intro h n
      exact h n _ (List.getElem?_eq_getElem n.isLt)

end Decidable

/-! ## Results that are the same before a place -/

namespace Resolver

/-- Whether two resolvers of one sequence have the same results before a place. -/
structure SameBefore (place : Nat) (r r' : Resolver) : Prop where
  /-- The steps are the same. -/
  ids_eq : r'.stepIds = r.stepIds
  /-- All results are those of steps. -/
  owned : r.Owned
  /-- So are those of the other one. -/
  owned' : r'.Owned
  /-- The results of the steps before the place are the same. -/
  same : ∀ n < place, r'.storedAt n = r.storedAt n

variable {r r' : Resolver} {place : Nat} {scope : Fields Value} {reference e : String}

namespace SameBefore

/-- What a local name or a reference to a step before the place reads is the same. -/
theorem lookup_eq (h : SameBefore place r r')
    (hback : (scope.get? reference).isSome = true ∨
      ∀ n, r.placeOf reference = .ok (some n) → n < place) :
    r'.lookup scope reference = r.lookup scope reference := by
  unfold lookup
  cases hscope : scope.get? reference with
  | some v => rfl
  | none =>
      have hbefore := hback.resolve_left (by rw [hscope]; exact Bool.false_ne_true)
      dsimp only
      rw [h.owned'.idOf_eq, h.ids_eq, ← h.owned.idOf_eq]
      cases hid : r.idOf reference with
      | error problem => rfl
      | ok id? =>
          cases id? with
          | none => rfl
          | some id =>
              obtain ⟨n, hn, hplace⟩ := h.owned.exists_place hid
              have hsame := h.same n (hbefore n hplace)
              rw [storedAt, storedAt, h.ids_eq, hn] at hsame
              exact congrArg Except.ok hsame

theorem resolve_eq (h : SameBefore place r r')
    (hback : (scope.get? (Expression.split e).reference).isSome = true ∨
      ∀ n, r.placeOf (Expression.split e).reference = .ok (some n) → n < place) :
    r'.resolve scope e = r.resolve scope e := by
  rw [resolve, resolve, h.lookup_eq hback]

/-- The items of a source are the same. -/
theorem items_eq (h : SameBefore place r r') (i : Iteration) :
    i.items r' place = i.items r place := by
  have hlist (hback : ∀ n, r.placeOf (Expression.split i.sourceExpression).reference =
        .ok (some n) → n < place) :
      Iteration.items.listOf r' i.sourceExpression =
        Iteration.items.listOf r i.sourceExpression := by
    rw [Iteration.items.listOf, Iteration.items.listOf, h.resolve_eq (.inr hback)]
  unfold Iteration.items
  dsimp only
  rw [h.owned'.placeOf_eq, h.ids_eq, ← h.owned.placeOf_eq]
  split
  · rfl
  · split
    · rfl
    · next source hsource =>
      split
      · rfl
      · next hearlier =>
        apply hlist
        intro n hn
        rw [hsource] at hn
        cases hn
        exact Nat.lt_of_not_le hearlier
    · next hnone =>
      apply hlist
      intro n hn
      rw [hnone] at hn
      cases hn

end SameBefore

end Resolver

/-! ## A step that looks back -/

namespace Iteration

theorem isSome_get?_itemScope {name reference : String} (index : Nat) (item : Value)
    (h : reference = name ∨ reference = name ++ "_index") :
    ((itemScope name index item).get? reference).isSome = true := by
  rw [itemScope, Fields.get?]
  split
  · rfl
  · next hname =>
    rw [Fields.get?, if_pos (h.resolve_left fun heq => hname heq.symm).symm]
    rfl

end Iteration

namespace Step.LooksBack

open Resolver (SameBefore AgreeOn)

variable {x : Step} {r r' : Resolver} {place : Nat}

/-- The expressions of a step have the same values wherever the results up to it are the same
and the names of its iteration are known. -/
theorem agreeOn (hx : x.LooksBack r place) (h : SameBefore (place + 1) r r')
    {scope : Fields Value}
    (hscope : ∀ name, x.iteration.Binds name → (scope.get? name).isSome = true) :
    AgreeOn r r' scope x.expressions := by
  intro e he
  apply h.resolve_eq
  have href : (Expression.split e).reference ∈ x.references := List.mem_map.mpr ⟨e, he, rfl⟩
  exact (hx _ href).imp (hscope _) fun hback n hn => Nat.lt_succ_of_le (hback n hn)

/-- A step that looks back builds the same requests wherever the results up to it are the
same. -/
theorem sendsAlike (hx : x.reset.LooksBack r place) (h : SameBefore (place + 1) r r')
    {x' : Step} (hx' : x'.reset = x.reset) (b : Builder) :
    Run.SendsAlike Eq place r r' x x' (b.build x.reset r) (b.build x'.reset r') := by
  have hiteration : x'.iteration = x.iteration := (congrArg Step.iteration hx' :)
  have hbefore : SameBefore place r r' :=
    ⟨h.ids_eq, h.owned, h.owned', fun n hn => h.same n (Nat.lt_succ_of_lt hn)⟩
  rw [hx']
  refine ⟨?_, fun _ => ?_, fun _ => ?_, fun _ => ?_, fun _ => ?_, ?_⟩
  · rw [hiteration]
  · rw [hiteration]
  · rw [hiteration]
  · rw [h.ids_eq]
  · rw [hiteration, hbefore.items_eq]
    exact .same _
  · rintro _ (hsingle | @⟨items, index, item, -, -, -, -⟩)
    · apply Builder.build_congr
      apply hx.agreeOn h
      rintro name ⟨henabled, -⟩
      exact absurd (henabled.symm.trans hsingle) (by decide)
    · apply Builder.build_congr
      apply hx.agreeOn h
      rintro name ⟨-, hname⟩
      exact Iteration.isSome_get?_itemScope index item hname

end Step.LooksBack

/-! ## Forgetting and storing -/

namespace Resolver

theorem Owned.replace {r : Resolver} (h : r.Owned) {id : String} (hid : id ∈ r.stepIds)
    {results : Fields Value}
    (hother : ∀ other, id ≠ other → results.get? other = r.results.get? other) :
    Owned ⟨results, r.stepIds⟩ := by
  intro other hresult
  by_cases hne : id = other
  · exact hne ▸ hid
  · rw [Fields.has, hother other hne] at hresult
    exact h other hresult

/-- Once the results of the step at the place are the same, they are the same up to it. -/
theorem SameBefore.replace {place : Nat} {r r' : Resolver} {id : String}
    (h : SameBefore place r r') (hnodup : r.stepIds.Nodup) (hid : r.stepIds[place]? = some id)
    {results results' : Fields Value}
    (hother : ∀ other, id ≠ other → results.get? other = r.results.get? other)
    (hother' : ∀ other, id ≠ other → results'.get? other = r'.results.get? other)
    (hsame : results'.get? id = results.get? id) :
    SameBefore (place + 1) ⟨results, r.stepIds⟩ ⟨results', r'.stepIds⟩ := by
  have hid' : r'.stepIds[place]? = some id := h.ids_eq ▸ hid
  refine ⟨h.ids_eq, h.owned.replace (List.mem_of_getElem? hid) hother,
    h.owned'.replace (List.mem_of_getElem? hid') hother', fun n hn => ?_⟩
  rw [storedAt_congr hnodup hid results hother,
    storedAt_congr (h.ids_eq ▸ hnodup) hid' results' hother']
  split
  · exact hsame
  · exact h.same n (by omega)

end Resolver

namespace Session

open Resolver (SameBefore)

variable {s s' : Session} {place : Nat} {id : String}
  (h : SameBefore place s.resolver s'.resolver) (hnodup : s.stepIds.Nodup)
  (hid : s.stepIds[place]? = some id)

include h hnodup hid

theorem sameBefore_forget :
    SameBefore (place + 1) (s.forget id).resolver (s'.forget id).resolver := by
  have hforgot : SameBefore (place + 1) ⟨s.results.erase id, s.stepIds⟩
      ⟨s'.results.erase id, s'.stepIds⟩ :=
    h.replace hnodup hid (fun other hne => Fields.get?_erase_of_ne _ hne)
      (fun other hne => Fields.get?_erase_of_ne _ hne)
      (by rw [Fields.get?_erase_self, Fields.get?_erase_self])
  rw [resolver, resolver, stepIds_forget, stepIds_forget]
  exact hforgot

theorem sameBefore_store (result : StepResult) :
    SameBefore (place + 1) ((s.forget id).store id result).resolver
      ((s'.forget id).store id result).resolver := by
  have hstored := h.replace hnodup hid
    (fun other hne => get?_results_store_forget_of_ne (s := s) hne result)
    (fun other hne => get?_results_store_forget_of_ne (s := s') hne result)
    (by rw [get?_results_store_forget, get?_results_store_forget])
  rw [resolver, resolver, stepIds_store, stepIds_store, stepIds_forget, stepIds_forget]
  exact hstored

end Session

/-! ## The run of a sequence -/

/-- The world with all runs of steps forgotten. -/
def World.fresh {σ : Type} (w : World σ) : World σ :=
  { w with session := { w.session with steps := w.session.steps.map Step.reset, results := [] } }

/-- Whether two worlds have the same sequence, and the same results before a place. -/
structure World.Rerun {σ : Type} (steps : List Step) (place : Nat) (w w' : World σ) : Prop where
  /-- The steps of the one world. -/
  steps_eq : w.session.steps.map Step.reset = steps
  /-- Those of the other. -/
  steps_eq' : w'.session.steps.map Step.reset = steps
  /-- The results before the place are the same. -/
  results : Resolver.SameBefore place w.session.resolver w'.session.resolver
  /-- The same steps are in progress. -/
  running_eq : w'.running = w.running
  /-- The same talk has been led. -/
  talk : w.SameTalk w'

namespace World.Rerun

variable {σ : Type} {steps : List Step} {place : Nat} {w w' : World σ}

theorem ids_eq {w : World σ} (h : w.session.steps.map Step.reset = steps) :
    w.session.stepIds = Step.ids steps := by
  rw [← h, Session.stepIds, Step.ids, Step.ids, List.map_map]
  rfl

theorem paused (h : World.Rerun steps place w w') :
    World.Rerun steps place (w.record .paused) (w'.record .paused) :=
  ⟨h.steps_eq, h.steps_eq', h.results, h.running_eq, h.talk.peer_eq, h.talk.calls_eq⟩

/-- The steps at a place, as they are in both worlds. -/
theorem exists_steps (h : World.Rerun steps place w w') {n : Nat} {x : Step}
    (hx : steps[n]? = some x) : ∃ y y', w.session.steps[n]? = some y ∧
      w'.session.steps[n]? = some y' ∧ y.reset = x ∧ y'.reset = x := by
  have hget := h.steps_eq ▸ hx
  have hget' := h.steps_eq' ▸ hx
  rw [List.getElem?_map] at hget hget'
  obtain ⟨y, hy, hreset⟩ := Option.map_eq_some_iff.mp hget
  obtain ⟨y', hy', hreset'⟩ := Option.map_eq_some_iff.mp hget'
  exact ⟨y, y', hy, hy', hreset, hreset'⟩

end World.Rerun

namespace Run

variable {σ : Type} {env : Environment σ} (inner : Operation → Run σ Answer)

variable (hclient : env.client.OnlyReplies) {steps : List Step} (hnodup : (Step.ids steps).Nodup)
  (hback : ∀ (n : Nat) (x : Step), steps[n]? = some x → x.LooksBack ⟨[], Step.ids steps⟩ n)

include hclient hnodup hback

/-- The runs of the step at a place: both end with the same result, and go on from the next
place. -/
theorem together_runStep_again {place : Nat} {id : String}
    (hid : (Step.ids steps)[place]? = some id) :
    Together (World.Rerun steps place) (runStep env inner id) (runStep env inner id)
      (fun a a' w w' => a' = a ∧ w.SameTalk w' ∧ World.Rerun steps (place + 1) w w')
      World.SameTalk := by
  intro w w' h
  have hids := World.Rerun.ids_eq h.steps_eq
  have hids' := World.Rerun.ids_eq h.steps_eq'
  rw [Step.ids, List.getElem?_map] at hid
  obtain ⟨x, hx, rfl⟩ := Option.map_eq_some_iff.mp hid
  obtain ⟨y, y', hy, hy', rfl, hreset⟩ := h.exists_steps hx
  have hyid : y'.id = y.id := (congrArg Step.id hreset :)
  have hresetId : y.reset.id = y.id := rfl
  rw [hresetId]
  have hplace := Session.getElem?_stepIds_of_step hy
  have hnodup₁ : w.session.stepIds.Nodup := hids ▸ hnodup
  have hnodup₂ : w'.session.stepIds.Nodup := hids' ▸ hnodup
  by_cases hbusy : y.id ∈ w.running
  · have hbusy' : y.id ∈ w'.running := h.running_eq ▸ hbusy
    rw [runStep_busy inner hbusy, runStep_busy inner hbusy']
    exact .failed h.talk
  · have hforgot := Session.sameBefore_forget h.results hnodup₁ hplace
    have hlooks : y.reset.LooksBack (w.session.forget y.id).resolver place := by
      have hforgotIds : (w.session.forget y.id).resolver.stepIds = Step.ids steps :=
        (Session.stepIds_forget _ _).trans hids
      intro reference href
      rw [hforgot.owned.placeOf_eq, hforgotIds]
      exact hback place _ hx reference href
    have hsends : SendsAlike Eq place (w.begun y.id).session.resolver
        (w'.begun y'.id).session.resolver y y'
        (env.builder.build ((w.begun y.id).current y) (w.begun y.id).session.resolver)
        (env.builder.build ((w'.begun y'.id).current y') (w'.begun y'.id).session.resolver) := by
      rw [World.current_begun hnodup₁ hy, World.current_begun hnodup₂ hy', hyid]
      exact hlooks.sendsAlike hforgot hreset env.builder
    have hresult := together_stepResult inner hclient (R := fun a a' => a' = a) (fun _ => rfl)
      (fun e e' heq => by rw [heq]) (Session.place_forget hnodup₁ hy)
      (Session.place_forget hnodup₂ hy') hsends
    have hrun := together_runStep_of inner hbusy (by rwa [hyid, h.running_eq])
      (Session.step_of_getElem? hnodup₁ hy) (Session.step_of_getElem? hnodup₂ hy') h.talk hresult
    rw [hyid] at hrun
    apply hrun.mono (fun _ _ hv => hv) _ (fun _ _ hv => hv) w w' ⟨rfl, rfl⟩
    rintro a a' v v' ⟨rfl, hsession, hsession', hrunning, hrunning', htalk⟩
    have hsettled : ∀ x : Step, (x.reset.settle a').reset = x.reset := fun _ => rfl
    refine ⟨rfl, htalk, ?_, ?_, ?_, ?_, htalk⟩
    · rw [hsession, Session.steps_store_forget, Session.map_reset_modify _ _ hsettled, h.steps_eq]
    · rw [hsession', Session.steps_store_forget, Session.map_reset_modify _ _ hsettled,
        h.steps_eq']
    · rw [hsession, hsession']
      exact Session.sameBefore_store h.results hnodup₁ hplace a'
    · rw [hrunning, hrunning', h.running_eq]

/-- The runs of two worlds with the same sequence and no results in common: both end with the
same results after the same calls, or with the same fault. -/
theorem together_runAll_again {w w' : World σ} (h : World.Rerun steps 0 w w')
    (hbusy : w'.sequenceRunning = w.sequenceRunning) :
    EndsAlike (fun rs rs' w w' => rs' = rs ∧ w.SameTalk w') World.SameTalk (runAll env inner w)
      (runAll env inner w') := by
  have hstep : ∀ n id id', (Step.ids steps)[n]? = some id → (Step.ids steps)[n]? = some id' →
      Together (World.Rerun steps n) (runStep env inner id) (runStep env inner id')
        (fun a a' w w' => a' = a ∧ w.SameTalk w' ∧
          (a.isOk = true → World.Rerun steps (n + 1) w w')) World.SameTalk := by
    intro n id id' hid hid'
    obtain rfl : id = id' := Option.some.inj (hid.symm.trans hid')
    exact (together_runStep_again inner hclient hnodup hback hid).mono (fun _ _ hw => hw)
      (fun a a' v v' hv => ⟨hv.1, hv.2.1, fun _ => hv.2.2⟩) fun _ _ hw => hw
  have hsteps : Together (World.Rerun steps 0) (runSteps env inner w.session.stepIds)
      (runSteps env inner w'.session.stepIds)
      (fun rs rs' w w' => List.Forall₂ (fun a a' => a' = a) rs rs' ∧ w.SameTalk w')
      World.SameTalk := by
    rw [World.Rerun.ids_eq h.steps_eq, World.Rerun.ids_eq h.steps_eq']
    exact together_runSteps_of inner rfl (fun a a' heq => by rw [heq])
      (fun n v v' hv => hv.talk) (fun n v v' hv => hv.paused) hstep List.drop_zero List.drop_zero
  have hrun := together_runAll_of inner h.talk hbusy hsteps
    ⟨h.steps_eq, h.steps_eq', h.results, h.running_eq, h.talk.peer_eq, h.talk.calls_eq⟩
  apply hrun.mono _ fun _ _ hv => hv
  rintro rs rs' v v' ⟨hsame, htalk⟩
  refine ⟨?_, htalk⟩
  rw [eq_comm, ← List.forall₂_eq_eq_eq]
  exact hsame.imp fun _ _ => Eq.symm

end Run

/-- After any completed operations: where no reference of a step leads behind it, the run of
all steps sends the same calls and ends with the same results as if no step had been run
before, or is refused in the same way. -/
theorem World.Reached.runAll_fresh {σ : Type} {env : Environment σ}
    (hids : Function.Injective env.stepId) (hclient : env.client.OnlyReplies)
    (inner : Operation → Run σ Answer) {w : World σ} (h : World.Reached env w)
    (hback : w.session.LooksBack) :
    Run.EndsAlike (fun rs rs' v v' => rs' = rs ∧ v'.calls = v.calls)
      (fun v v' => v'.calls = v.calls) (Run.runAll env inner w)
      (Run.runAll env inner w.fresh) := by
  have hconsistent := (h.sound hids hclient).consistent
  have howned := hconsistent.owned.resolver
  have hsteps := World.Rerun.ids_eq (w := w) rfl
  have hfresh : w.fresh.session.steps.map Step.reset = w.session.steps.map Step.reset := by
    rw [fresh, List.map_map]
    rfl
  have hsame : Resolver.SameBefore 0 w.session.resolver w.fresh.session.resolver :=
    ⟨(World.Rerun.ids_eq hfresh).trans hsteps.symm, howned, nofun,
      fun n hn => absurd hn (Nat.not_lt_zero n)⟩
  have hrerun : World.Rerun (w.session.steps.map Step.reset) 0 w w.fresh :=
    ⟨rfl, hfresh, hsame, rfl, rfl, rfl⟩
  have hlooks : ∀ (n : Nat) (x : Step), (w.session.steps.map Step.reset)[n]? = some x →
      x.LooksBack ⟨[], Step.ids (w.session.steps.map Step.reset)⟩ n := by
    intro n x hx reference href
    rw [List.getElem?_map] at hx
    obtain ⟨y, hy, rfl⟩ := Option.map_eq_some_iff.mp hx
    rw [← hsteps]
    have hread := hback n y hy reference href
    rwa [howned.placeOf_eq] at hread
  have hrun := Run.together_runAll_again inner hclient (hsteps ▸ hconsistent.ids_nodup) hlooks
    hrerun rfl
  exact hrun.mono (fun rs rs' v v' hv => ⟨hv.1, hv.2.calls_eq⟩) fun v v' hv => hv.calls_eq

/-- An environment in which every call is answered with its number. -/
def Environment.counting : Environment Nat :=
  { Environment.answering with
    client := ⟨fun calls _ =>
      (⟨[], .answered 200 ("\x7b\"gid\": \"" ++ Text.natText calls ++ "\"\x7d") none⟩, calls + 1)⟩
    stepId := Reference.countedId }

/-- A session of two steps, the second with a reference to the first, that have been run. -/
def World.ranTwo : World Nat :=
  let add (path : String) (mappings : Fields Value) : Run Nat Answer :=
    Run.performOperation Environment.counting (.add
      (.object [("method", .text "GET"), ("path", .text path)]) none (.object mappings) none)
  let one := (add "/users/me" []).after { session := { baseUrl := defaultBaseUrl }, peer := 0 }
  let two := (add "/tasks/\x7btask_gid\x7d" [("task_gid", .text "step0.gid")]).after one
  (Run.performOperation Environment.counting .runAll).after two

theorem World.Reached.runAll_fresh_ranTwo :
    Function.Injective Environment.counting.stepId ∧ Environment.counting.client.OnlyReplies ∧
    World.Reached Environment.counting World.ranTwo ∧ World.ranTwo.session.LooksBack ∧
    Run.EndsAlike (fun rs rs' v v' => rs' = rs ∧ v'.calls = v.calls)
      (fun v v' => v'.calls = v.calls)
      (Run.runAll Environment.counting (Run.performAt Environment.counting 0) World.ranTwo)
      (Run.runAll Environment.counting (Run.performAt Environment.counting 0)
        World.ranTwo.fresh) := by
  have hids : Function.Injective Environment.counting.stepId :=
    fun _ _ h => Reference.countedId_injective h
  have hclient : Environment.counting.client.OnlyReplies := fun _ _ => rfl
  have hreached : World.Reached Environment.counting World.ranTwo := by
    unfold World.ranTwo
    exact .perform _ (.perform _ (.perform _ (.start _ _ _ _)))
  have hback : World.ranTwo.session.LooksBack := by decide +kernel
  exact ⟨hids, hclient, hreached, hback, World.Reached.runAll_fresh hids hclient _ hreached hback⟩

end CallChain
