/-
# Steps taken out while they are in progress

A step that is taken out of the sequence takes its result along. Its run, if it is in progress,
goes on, and stores a result when it ends, whether or not the step is still there. So results
belong to steps of the sequence as long as no step is taken out while it is in progress.

The proof lets an onlooker put such steps back at once: with it the results belong to steps in
any case, and where there is nothing to put back it makes no difference.
-/

import CallChain.Proofs.Session.InProgress
import CallChain.Proofs.Session.Reached

namespace CallChain

variable {σ : Type} {env : Environment σ}

namespace World

variable {stack : List Progress} {w w' : World σ} {id : String}

/-- Whether every step that is in progress is one of the sequence. -/
def Keeping (stack : List Progress) (w : World σ) : Prop :=
  ∀ id, .step id ∈ stack → id ∈ w.session.stepIds

theorem keeping_nil (w : World σ) : w.Keeping [] := by
  intro id hid
  cases hid

theorem Keeping.mono (h : w.Keeping stack) (hids : w.session.stepIds ⊆ w'.session.stepIds) :
    w'.Keeping stack :=
  fun id hid => hids (h id hid)

theorem Keeping.begun (h : w.Keeping stack) {x : Step} (hx : w.session.step id = .ok x) :
    (w.begun id).Keeping (.step id :: stack) := by
  obtain ⟨hmem, rfl⟩ := Session.mem_steps_of_step hx
  have hids : (w.begun x.id).session.stepIds = w.session.stepIds := Session.stepIds_forget _ _
  intro other hother
  rw [hids]
  rcases List.mem_cons.mp hother with heq | hother
  · cases heq
    exact List.mem_map.mpr ⟨x, hmem, rfl⟩
  · exact h other hother

theorem Keeping.tail {progress : Progress} (h : w.Keeping (progress :: stack)) :
    w.Keeping stack :=
  fun id hid => h id (List.mem_cons_of_mem _ hid)

theorem Keeping.entered (h : w.Keeping stack) : w.Keeping (.sequence :: stack) := by
  intro id hid
  cases hid with
  | tail _ hid => exact h id hid

theorem Keeping.settled (h : w.Keeping stack) (id : String) (result : StepResult) :
    (w.settled id result).Keeping stack :=
  h.mono (Session.stepIds_store w.session id result ▸ List.Subset.refl _)

/-- What does not take steps out leaves them all. -/
theorem Edit.stepIds_subset (h : World.Edit env false w w') :
    w.session.stepIds ⊆ w'.session.stepIds := by
  cases h with
  | kept => exact List.Subset.refl _
  | numbered => exact List.Subset.refl _
  | edited hs =>
      cases hs with
      | removed id h => cases h
      | cleared h => cases h
      | modified id hid hstate hresult =>
          rw [withSession, Session.stepIds_modify _ _ hid]
          exact List.Subset.refl _
      | transformed t => exact List.Subset.refl _
  | added hid hstate hresult =>
      rw [withSession, Session.stepIds_append]
      exact List.subset_append_left _ _
  | imported h => cases h

/-- As long as the client asks for nothing that takes steps out, those in progress stay. -/
theorem Keeping.invariant (env : Environment σ) :
    Run.Invariant env (fun op => op.withdraws = false) Keeping Keeping where
  talked h htalked := h.mono (htalked.session_eq ▸ List.Subset.refl _)
  numbered h := h
  begun h _ hx := h.begun hx
  settled result h := (h.settled _ result).tail
  ended h := h.tail
  entered h _ := h.entered
  left h := h.tail
  weaken h := h
  edited hop h hedit := h.mono (Edit.stepIds_subset (hop ▸ hedit))

/-! ## Putting steps back -/

/-- The world with the steps in progress put back that have been taken out. -/
def putBack (stack : List Progress) (w : World σ) : World σ :=
  let missing := (stack.filterMap Progress.step?).filter (· ∉ w.session.stepIds)
  let added := missing.map fun id => ({ id, endpoint := { method := .get, path := "" } } : Step)
  { w with session := { w.session with steps := w.session.steps ++ added } }

theorem stepIds_putBack (stack : List Progress) (w : World σ) :
    (w.putBack stack).session.stepIds = w.session.stepIds ++
      (stack.filterMap Progress.step?).filter (· ∉ w.session.stepIds) := by
  simp [putBack, Session.stepIds, Step.ids, Function.comp_def]

theorem keeping_putBack (stack : List Progress) (w : World σ) :
    (w.putBack stack).Keeping stack := by
  intro id hid
  rw [stepIds_putBack]
  by_cases hmem : id ∈ w.session.stepIds
  · exact List.mem_append_left _ hmem
  · have hstep := Progress.mem_filterMap_step?_iff.mpr hid
    exact List.mem_append_right _ (List.mem_filter.mpr ⟨hstep, by simpa using hmem⟩)

theorem putBack_eq (h : w.Keeping stack) : w.putBack stack = w := by
  have hnone : (stack.filterMap Progress.step?).filter (· ∉ w.session.stepIds) = [] := by
    rw [List.filter_eq_nil_iff]
    intro id hid
    simpa using h id (Progress.mem_filterMap_step?_iff.mp hid)
  rw [putBack, hnone]
  simp

theorem owned_putBack (stack : List Progress) (h : w.session.Owned) :
    (w.putBack stack).session.Owned :=
  h.mono (fun _ hid => hid) (stepIds_putBack stack w ▸ List.subset_append_left _ _)

/-! ## Results of steps -/

theorem Edit.owned {withdraws : Bool} (h : World.Edit env withdraws w w')
    (howned : w.session.Owned) : w'.session.Owned := by
  cases h with
  | kept => exact howned
  | numbered => exact howned
  | edited hs =>
      cases hs with
      | removed id => exact howned.remove id
      | cleared => exact Session.owned_of_nil rfl
      | modified id hid hstate hresult => exact howned.modify id hid
      | transformed t => exact howned
  | added hid hstate hresult => exact howned.append _
  | imported _ himport => exact Session.owned_of_nil (Session.importDocument_numbered himport).1

/-- Results that belong to steps go on to do so where the steps in progress stay; an edit
keeps the results, though it may take those steps out. -/
theorem owned_invariant (env : Environment σ) :
    Run.Invariant env (fun _ => True) (fun stack w => w.session.Owned ∧ w.Keeping stack)
      (fun _ w => w.session.Owned) where
  talked h htalked := by
    rw [htalked]
    exact h
  numbered h := h
  begun h _ hx := ⟨h.1.forget _, h.2.begun hx⟩
  settled result h :=
    ⟨h.1.store (h.2 _ List.mem_cons_self) result, (h.2.settled _ result).tail⟩
  ended h := ⟨h.1, h.2.tail⟩
  entered h _ := ⟨h.1, h.2.entered⟩
  left h := ⟨h.1, h.2.tail⟩
  weaken h := h.1
  edited _ h hedit := hedit.owned h.1

/-- Where no step is taken out while it is in progress, an operation leaves no result behind
that belongs to no step. -/
theorem owned_after {excuse : Fault → Option Answer} {depth : Nat} {op : Operation}
    (howned : w.session.Owned) (hkept : Run.Always env excuse depth op w Keeping) :
    ((Run.performNested env excuse depth [] op).after w).session.Owned := by
  have hput : ∀ stack (v : World σ), v.session.Owned →
      v.putBack stack = v.putBack stack ∧
        (v.putBack stack).session.Owned ∧ (v.putBack stack).Keeping stack :=
    fun stack v hv => ⟨rfl, owned_putBack stack hv, keeping_putBack stack v⟩
  have hrun : Run.Lockstep (Same fun v => v.session.Owned ∧ v.Keeping [])
      (Run.performWatched env excuse putBack depth [] op)
      (Run.performWatched env excuse putBack depth [] op) :=
    Run.lockstep_performWatched (owned_invariant env) env.client.asks_true excuse hput depth []
      trivial
  have hafter := (hrun.eq ⟨howned, keeping_nil w⟩).2.1
  rwa [Run.after, hkept putBack fun stack v hv => putBack_eq hv] at hafter

/-- The worlds that operations lead an empty session to, each of which takes out no step that
is in progress. Operations nest to a depth, and clients may excuse faults. -/
inductive Orderly (env : Environment σ) (excuse : Fault → Option Answer) (depth : Nat) :
    World σ → Prop
  /-- An empty session. -/
  | start (baseUrl token : String) (peer : σ) (created : Nat) :
    Orderly env excuse depth { session := { baseUrl, token }, peer, created }
  /-- What an operation leaves, whether it ends with an answer or with a fault. -/
  | perform {w : World σ} (op : Operation) (h : Orderly env excuse depth w)
    (hkept : Run.Always env excuse depth op w Keeping) :
    Orderly env excuse depth ((Run.performNested env excuse depth [] op).after w)

theorem Orderly.owned {excuse : Fault → Option Answer} {depth : Nat}
    (h : Orderly env excuse depth w) : w.session.Owned := by
  induction h with
  | start baseUrl token peer created => exact Session.owned_of_nil rfl
  | perform op h hkept ih => exact owned_after ih hkept

end World

/-- A run that succeeds leaves a result, whatever has become of its step. -/
theorem Run.mem_keys_of_runStep_eq_ok (inner : Operation → Run σ Answer) {id : String}
    {result : StepResult} {v v' : World σ} (hrun : runStep env inner id v = .ok result v')
    (hok : result.isOk = true) : id ∈ Fields.keys v'.session.results := by
  obtain ⟨-, x, u, -, -, rfl⟩ := exists_of_runStep_eq_ok inner hrun
  rw [StepResult.isOk_iff_payload?] at hok
  obtain ⟨payload, hpayload⟩ := Option.isSome_iff_exists.mp hok
  have hresults : ((u.settled id result).ended id).session.results =
      u.session.results.set id payload := by
    rw [World.ended, World.settled, World.record]
    dsimp only
    rw [Session.results_store, hpayload]
  rw [hresults, Session.mem_keys_iff, Fields.get?_set_self]
  rfl

/-- Where no step is taken out while it is in progress, every stored result is that of a step of
the sequence, however operations nest, and references name no others. The condition is needed:
a run that succeeds leaves a result under the id of its step, whatever has become of the step. -/
theorem World.Orderly.results_owned {excuse : Fault → Option Answer} {depth : Nat} {w : World σ}
    (h : World.Orderly env excuse depth w) :
    (∀ id ∈ Fields.keys w.session.results, id ∈ w.session.stepIds) ∧
    (∀ reference id, w.session.resolver.idOf reference = .ok (some id) →
      id ∈ w.session.stepIds) ∧
    ∀ (inner : Operation → Run σ Answer) (id : String) (result : StepResult) (v v' : World σ),
      Run.runStep env inner id v = .ok result v' → result.isOk = true →
      id ∈ Fields.keys v'.session.results :=
  ⟨h.owned, fun _ _ hid => h.owned.resolver.mem_of_idOf hid,
    fun inner _ _ _ _ => Run.mem_keys_of_runStep_eq_ok inner⟩

/-- A session of one step that has been run, with a client that has asked for other runs of it in
the meantime. -/
def World.asked : World Nat :=
  let perform := Run.performNested Environment.asking (fun _ => some .done) 3 []
  let added := (perform (.add
    (.object [("method", .text "GET"), ("path", .text "/users")]) none (.object []) none)).after
    { session := { baseUrl := defaultBaseUrl }, peer := 0 }
  (perform .runAll).after added

theorem World.Orderly.results_owned_asked :
    World.Orderly Environment.asking (fun _ => some .done) 3 World.asked ∧
    (∀ id ∈ Fields.keys World.asked.session.results, id ∈ World.asked.session.stepIds) := by
  have hasks : Environment.asking.client.Asks fun op => op.withdraws = false := by
    intro peer call op hop
    rcases List.mem_cons.mp hop with rfl | hop
    · rfl
    · rw [List.mem_singleton.mp hop]
      rfl
  have hkept : ∀ (op : Operation) (w : World Nat), op.withdraws = false →
      Run.Always Environment.asking (fun _ => some .done) 3 op w World.Keeping :=
    fun op w hop => (World.Keeping.invariant _).always hasks _ 3 hop (World.keeping_nil w)
  have horderly : World.Orderly Environment.asking (fun _ => some .done) 3 World.asked := by
    unfold World.asked
    exact .perform _ (.perform _ (.start _ _ _ _) (hkept _ _ rfl)) (hkept _ _ rfl)
  exact ⟨horderly, (World.Orderly.results_owned horderly).1⟩

/-- An environment whose client takes the first step out before it answers a call. -/
def Environment.removing : Environment Nat :=
  { Environment.asking with
    client := ⟨fun calls _ =>
      (⟨[.remove (.place 0)], .answered 200 "\x7b\x7d" none⟩, calls + 1)⟩
    connection := { baseUrl := "http://a" }
    builder := { baseUrl := "http://a" } }

example :
    let w := (Run.performOperation Environment.removing (.runStep (.place 0))).after World.oneStep
    w.session.stepIds = [] ∧ Fields.keys w.session.results = ["a"] := by
  decide +kernel

/-- An onlooker who puts back the step that is taken out while it is in progress makes a
difference. -/
example : ¬ Run.Always Environment.removing (fun _ => none) 2 (.runStep (.place 0))
    World.oneStep World.Keeping := by
  intro halways
  have hsame := halways World.putBack fun stack v hkept => World.putBack_eq hkept
  have hids := congrArg (fun ended => match ended with
    | .ok _ w => w.session.stepIds
    | .error _ w => w.session.stepIds) hsame
  revert hids
  decide +kernel

end CallChain
