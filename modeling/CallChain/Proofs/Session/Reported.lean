/-
# What is reported after the run of the sequence

The run of all steps stores results in the steps that have had a turn and leaves the others as
they were. What is reported after it are its own results, and behind them those that later steps
have kept from earlier runs.
-/

import CallChain.Proofs.Session.FailFast

namespace CallChain

variable {σ : Type} {env : Environment σ}

theorem Session.length_steps_settleAll (s : Session) (turns : List Turn) :
    (s.settleAll turns).steps.length = s.steps.length := by
  induction turns generalizing s with
  | nil => rfl
  | cons t turns ih =>
      refine (ih _).trans ?_
      rw [steps_store_forget, modify, List.length_map]

/-- The last step with records is one of those that have been run. -/
theorem Step.final?_eq (steps : List Step) :
    final? steps = (steps.filter hasRun).reverse.find? fun x => !x.records.isEmpty := by
  rw [final?, ← List.filter_reverse, List.find?_filter]
  simp only [Bool.decide_and, Bool.decide_eq_true]

/-- A step that has been settled has been run. -/
theorem Step.hasRun_settle (x : Step) (result : StepResult) : (x.settle result).hasRun = true :=
  rfl

theorem Step.filter_hasRun_zipWith_settle (steps : List Step) (results : List StepResult) :
    (List.zipWith settle steps results).filter hasRun = List.zipWith settle steps results := by
  rw [List.filter_eq_self]
  intro y hy
  obtain ⟨n, hn, rfl⟩ := List.mem_iff_getElem.mp hy
  rw [List.getElem_zipWith]
  exact hasRun_settle _ _

namespace World.FailFast

variable {inner : Operation → Run σ Answer} {w w' : World σ} {turns : List Turn}

theorem length_le (h : w.FailFast env inner turns w') :
    turns.length ≤ w.session.steps.length := by
  have hlength := h.ids_prefix.length_le
  rwa [List.length_map, Session.stepIds, Step.ids, List.length_map] at hlength

theorem length_settled (h : w.FailFast env inner turns w') :
    (List.zipWith Step.settle (w.session.steps.take turns.length)
      (turns.map Turn.result)).length = turns.length := by
  rw [List.length_zipWith, List.length_take, List.length_map, Nat.min_eq_left h.length_le,
    Nat.min_self]

/-- The first steps have the results of their turns, and the others are as they were. -/
theorem steps_eq (h : w.FailFast env inner turns w')
    (hlength : w'.session.steps.length = w.session.steps.length) :
    w'.session.steps =
      List.zipWith Step.settle (w.session.steps.take turns.length) (turns.map Turn.result) ++
        w.session.steps.drop turns.length := by
  have hran := h.length_settled
  apply List.ext_getElem?
  intro n
  by_cases hn : n < turns.length
  · obtain ⟨t, ht⟩ : ∃ t, turns[n]? = some t := ⟨_, List.getElem?_eq_getElem hn⟩
    obtain ⟨x, hx⟩ : ∃ x, w.session.steps[n]? = some x :=
      ⟨_, List.getElem?_eq_getElem (Nat.lt_of_lt_of_le hn h.length_le)⟩
    rw [(h.settled n t x ht hx).2.1, List.getElem?_append_left (by rwa [hran]),
      List.getElem?_zipWith, List.getElem?_take_of_lt hn, hx, List.getElem?_map, ht]
    rfl
  · have hle := Nat.le_of_not_lt hn
    rw [List.getElem?_append_right (by rwa [hran]), hran, List.getElem?_drop,
      Nat.add_sub_cancel' hle]
    cases hx : w.session.steps[n]? with
    | some x => exact (h.untouched n x hle hx).1
    | none =>
        rw [List.getElem?_eq_none_iff] at hx ⊢
        rwa [hlength]

end World.FailFast

/-- The results that a run of all steps ends with are those of its turns. -/
theorem Run.exists_failFast (inner : Operation → Run σ Answer) (hclient : env.client.OnlyReplies)
    {w w' : World σ} {results : List StepResult} (hnodup : w.session.stepIds.Nodup)
    (hrun : runAll env inner w = .ok results w') :
    ∃ turns v, results = turns.map Turn.result ∧ w' = { v with sequenceRunning := false } ∧
      World.FailFast env inner { w with sequenceRunning := true } turns v ∧
      v.session = w.session.settleAll turns := by
  cases hfree : w.sequenceRunning with
  | true =>
      rw [runAll_busy inner hfree] at hrun
      cases hrun
  | false =>
      rw [runAll_eq inner hfree] at hrun
      cases hruns : runSteps env inner w.session.stepIds { w with sequenceRunning := true } with
      | error fault v =>
          rw [hruns] at hrun
          cases hrun
      | ok others v =>
          obtain ⟨turns, u, hends, hturns, hfirst, hok, hhalted⟩ :=
            exists_inTurn inner hclient (noneFaults_of_runSteps inner hruns)
          rw [hends] at hrun
          cases hrun
          exact ⟨turns, u, rfl, rfl, hturns.failFast hnodup hfirst hok hhalted,
            hturns.session_eq⟩

/-- After a run of all steps that ends with some results, the first steps have them, each its
own, and the others are as they were. So the steps that are reported as run are those first
steps, and behind them the ones that had been run before; it is the first steps alone just when
there are no such ones. The final records are those of the last step among them that has any. -/
theorem World.Reached.runAll_reported (hids : Function.Injective env.stepId)
    (hclient : env.client.OnlyReplies) {w : World σ} (h : World.Reached env w)
    (inner : Operation → Run σ Answer) {results : List StepResult} {w' : World σ}
    (hrun : Run.runAll env inner w = .ok results w') :
    let ran := List.zipWith Step.settle (w.session.steps.take results.length) results
    let others := w.session.steps.drop results.length
    w'.session.steps = ran ++ others ∧ w'.session.steps.take results.length = ran ∧
    w'.session.executed = ran ++ others.filter Step.hasRun ∧
    (w'.session.executed = ran ↔ ∀ x ∈ others, x.hasRun = false) ∧
    Step.final? w'.session.steps =
      (w'.session.executed.reverse.find? fun x => !x.records.isEmpty) ∧
    (w'.session.executed = ran → ∀ x, Step.final? w'.session.steps = some x → x ∈ ran) := by
  intro ran others
  have hnodup := (h.sound hids hclient).consistent.ids_nodup
  obtain ⟨turns, v, rfl, hended, hfast, hsession⟩ :=
    Run.exists_failFast inner hclient hnodup hrun
  have hlength : v.session.steps.length = w.session.steps.length := by
    rw [hsession]
    exact Session.length_steps_settleAll _ _
  have hsteps : w'.session.steps = ran ++ others := by
    rw [hended, hfast.steps_eq hlength]
    simp only [ran, others, List.length_map]
  have hran : ran.length = (turns.map Turn.result).length := by
    simp only [ran, List.length_map]
    exact hfast.length_settled
  have hexecuted : w'.session.executed = ran ++ others.filter Step.hasRun := by
    rw [Session.executed, hsteps, List.filter_append]
    exact congrArg (· ++ _) (Step.filter_hasRun_zipWith_settle _ _)
  have hfinal : Step.final? w'.session.steps =
      (w'.session.executed.reverse.find? fun x => !x.records.isEmpty) :=
    Step.final?_eq _
  refine ⟨hsteps, ?_, hexecuted, ?_, hfinal, fun honly x hx => ?_⟩
  · rw [hsteps, ← hran, List.take_left]
  · rw [hexecuted, List.append_right_eq_self, List.filter_eq_nil_iff]
    simp
  · rw [hfinal, honly] at hx
    exact List.mem_reverse.mp (List.mem_of_find?_eq_some hx)

/-- An environment in which the first two calls are answered, and all later ones refused. -/
def Environment.wearing : Environment Nat :=
  { Environment.answering with
    client := ⟨fun calls _ =>
      (⟨[], if calls < 2 then .answered 200 "\x7b\x7d" none else .answered 500 "" none⟩,
        calls + 1)⟩
    connection := { baseUrl := "http://a" }
    builder := { baseUrl := "http://a" } }

/-- An environment whose client runs the second step before it refuses the first call; all other
calls are answered. -/
def Environment.hurrying : Environment Nat :=
  { Environment.wearing with
    client := ⟨fun calls _ =>
      (if calls = 0 then ⟨[.runStep (.place 1)], .answered 500 "" none⟩
        else ⟨[], .answered 200 "\x7b\x7d" none⟩, calls + 1)⟩ }

/-- A session of two steps that have not been run. -/
def World.twoSteps (env : Environment Nat) : World Nat :=
  let add (path : String) : Run Nat Answer :=
    Run.performOperation env (.add
      (.object [("method", .text "GET"), ("path", .text path)]) none (.object []) none)
  let one := (add "/users").after { session := { baseUrl := "http://a" }, peer := 0 }
  (add "/tags").after one

/-- The same session once all steps have been run. -/
def World.ranBoth : World Nat :=
  (Run.performOperation Environment.wearing .runAll).after (World.twoSteps Environment.wearing)

theorem World.reached_twoSteps (env : Environment Nat) :
    World.Reached env (World.twoSteps env) := by
  unfold World.twoSteps
  exact .perform _ (.perform _ (.start _ _ _ _))

theorem World.reached_ranBoth : World.Reached Environment.wearing World.ranBoth := by
  unfold World.ranBoth
  exact .perform _ (World.reached_twoSteps _)

/-- Whether a run of all steps has ended after the first, and others are reported after it, with
final records that are not its own. -/
def Run.endsStale : EStateM.Result Fault (World Nat) (List StepResult) → Bool
  | .ok results w => decide (results.length = 1 ∧ w.session.executed ≠ w.session.steps.take 1) &&
      (Step.final? w.session.steps).any fun x => x ∉ w.session.steps.take 1
  | .error _ _ => false

theorem Run.exists_of_endsStale {ended : EStateM.Result Fault (World Nat) (List StepResult)}
    (h : endsStale ended = true) :
    ∃ results w x, ended = .ok results w ∧ results.length = 1 ∧
      w.session.executed ≠ w.session.steps.take results.length ∧
      Step.final? w.session.steps = some x ∧ x ∉ w.session.steps.take results.length := by
  cases ended with
  | error fault w => cases h
  | ok results w =>
      rw [endsStale, Bool.and_eq_true, decide_eq_true_eq, Option.any_eq_true] at h
      obtain ⟨⟨hlength, hne⟩, x, hx, hout⟩ := h
      exact ⟨results, w, x, rfl, hlength, hlength ▸ hne, hx, hlength ▸ of_decide_eq_true hout⟩

/-- The second run of both steps fails at the first; the second step keeps what the first run
gave it. -/
theorem World.endsStale_ranBoth : Run.endsStale (Run.runAll Environment.wearing
    (Run.performAt Environment.wearing 0) World.ranBoth) = true := by
  decide +kernel

theorem World.Reached.runAll_reported_ranBoth :
    Function.Injective Environment.wearing.stepId ∧ Environment.wearing.client.OnlyReplies ∧
    World.Reached Environment.wearing World.ranBoth ∧
    ∃ results w', Run.runAll Environment.wearing (Run.performAt Environment.wearing 0)
        World.ranBoth = .ok results w' ∧ results.length = 1 ∧
      w'.session.executed = w'.session.steps.take 1 ++
        (World.ranBoth.session.steps.drop 1).filter Step.hasRun := by
  have hids : Function.Injective Environment.wearing.stepId := by
    intro m n h
    have hlist : List.replicate (m + 1) 'a' = List.replicate (n + 1) 'a' :=
      String.ofList_injective h
    simpa using congrArg List.length hlist
  have hclient : Environment.wearing.client.OnlyReplies := fun _ _ => rfl
  obtain ⟨results, w', -, hrun, hlength, -⟩ :=
    Run.exists_of_endsStale World.endsStale_ranBoth
  obtain ⟨-, hran, hexecuted, -⟩ :=
    World.Reached.runAll_reported hids hclient World.reached_ranBoth _ hrun
  rw [← hran, hlength] at hexecuted
  exact ⟨hids, hclient, World.reached_ranBoth, results, w', hrun, hlength, hexecuted⟩

/-- What is reported after a run of all steps is not always of this run: a step behind the one
that has failed may have been run before, or while the run was in progress. -/
theorem World.Reached.not_onlyThisRun :
    (World.Reached Environment.wearing World.ranBoth ∧
      ∃ results w' x, Run.runAll Environment.wearing (Run.performAt Environment.wearing 0)
          World.ranBoth = .ok results w' ∧ results.length = 1 ∧
        w'.session.executed ≠ w'.session.steps.take results.length ∧
        Step.final? w'.session.steps = some x ∧ x ∉ w'.session.steps.take results.length) ∧
    (World.Reached Environment.hurrying (World.twoSteps Environment.hurrying) ∧
      ∃ results w' x, Run.runAll Environment.hurrying (Run.performAt Environment.hurrying 1)
          (World.twoSteps Environment.hurrying) = .ok results w' ∧ results.length = 1 ∧
        w'.session.executed ≠ w'.session.steps.take results.length ∧
        Step.final? w'.session.steps = some x ∧ x ∉ w'.session.steps.take results.length) :=
  ⟨⟨World.reached_ranBoth, Run.exists_of_endsStale World.endsStale_ranBoth⟩,
    World.reached_twoSteps _, Run.exists_of_endsStale (by decide +kernel)⟩

end CallChain
