/-
# Runs of the sequence in which every step succeeds

The run of the sequence ends with fewer results than there are steps if one of them fails. Still
its results tell whether all steps have succeeded: if none of them is a failure then no step is
missing among them, since only a failure keeps the steps behind it from being run.
-/

import CallChain.Proofs.Session.Reported

namespace CallChain

variable {σ : Type}

/-- Whether a step has been run with success, and its result has been seen to be stored. -/
def World.Succeeded (w : World σ) (id : String) : Prop :=
  ∃ x ∈ w.session.steps, ∃ result, x.id = id ∧ x.state = .ran ∧ x.result = some result ∧
    result.isOk = true ∧ .settled id result ∈ w.events

/-- What is seen of a turn is seen of all turns. -/
theorem Turn.mem_histories {t : Turn} {turns : List Turn} (ht : t ∈ turns) {e : Event}
    (he : e ∈ t.history) : e ∈ histories turns := by
  induction turns with
  | nil => cases ht
  | cons first turns ih =>
      cases turns with
      | nil =>
          rw [histories_singleton, ← List.mem_singleton.mp ht]
          exact he
      | cons next others =>
          rw [histories_cons]
          rcases List.mem_cons.mp ht with rfl | ht
          · exact List.mem_append_left _ he
          · exact List.mem_append_right _ (List.mem_cons_of_mem _ (ih ht))

theorem Session.stepIds_settleAll (s : Session) (turns : List Turn) :
    (s.settleAll turns).stepIds = s.stepIds := by
  induction turns generalizing s with
  | nil => rfl
  | cons t turns ih =>
      refine (ih _).trans ?_
      rw [stepIds_store, stepIds_forget]

namespace World.FailFast

variable {env : Environment σ} {inner : Operation → Run σ Answer} {w w' : World σ}
  {turns : List Turn}

/-- If no turn has failed, every step has had one. -/
theorem length_eq (h : w.FailFast env inner turns w')
    (hok : ∀ t ∈ turns, t.result.isOk = true) : turns.length = w.session.steps.length := by
  apply Nat.le_antisymm h.length_le
  by_contra hlt
  obtain ⟨t, ht, hfailed⟩ := h.halted (by simpa [Session.stepIds, Step.ids] using hlt)
  rw [hok t (List.mem_of_getLast? ht)] at hfailed
  cases hfailed

theorem mem_events (h : w.FailFast env inner turns w') {t : Turn} (ht : t ∈ turns) :
    .settled t.id t.result ∈ w'.events := by
  have hmem : Event.settled t.id t.result ∈ w'.history := by
    rw [h.history_eq]
    exact List.mem_append_right _ (Turn.mem_histories ht (by simp [Turn.history]))
  exact List.mem_reverse.mp hmem

end World.FailFast

namespace Run

variable {env : Environment σ} (inner : Operation → Run σ Answer)

/-- The results of a run of all steps are all successes just when all steps have succeeded. -/
theorem any_failed_eq_false_iff (hclient : env.client.OnlyReplies) {w w' : World σ}
    {results : List StepResult} (hnodup : w.session.stepIds.Nodup)
    (hrun : runAll env inner w = .ok results w') :
    results.any (!·.isOk) = false ↔ ∀ x ∈ w.session.steps, w'.Succeeded x.id := by
  obtain ⟨turns, v, rfl, rfl, hfast, hsession⟩ := exists_failFast inner hclient hnodup hrun
  have hall : (turns.map Turn.result).any (!·.isOk) = false ↔
      ∀ t ∈ turns, t.result.isOk = true := by
    simp only [List.any_map, List.any_eq_false, Function.comp_apply, Bool.not_eq_true',
      Bool.not_eq_false]
  rw [hall]
  constructor
  · intro hok x hx
    obtain ⟨n, hn⟩ := List.mem_iff_getElem?.mp hx
    have hlength : turns.length = w.session.steps.length := hfast.length_eq hok
    obtain ⟨t, ht⟩ : ∃ t, turns[n]? = some t := by
      refine ⟨_, List.getElem?_eq_getElem ?_⟩
      rw [hlength]
      exact (List.getElem?_eq_some_iff.mp hn).1
    have hmem := List.mem_of_getElem? ht
    obtain ⟨hid, hsettled, -⟩ := hfast.settled n t x ht hn
    exact ⟨x.settle t.result, List.mem_of_getElem? hsettled, t.result, rfl, rfl, rfl, hok t hmem,
      hid ▸ hfast.mem_events hmem⟩
  · intro hsucceeded t ht
    obtain ⟨n, hn⟩ := List.mem_iff_getElem?.mp ht
    obtain ⟨x, hx⟩ : ∃ x, w.session.steps[n]? = some x :=
      ⟨_, List.getElem?_eq_getElem (Nat.lt_of_lt_of_le (List.getElem?_eq_some_iff.mp hn).1
        hfast.length_le)⟩
    obtain ⟨-, hsettled, -⟩ := hfast.settled n t x hn hx
    obtain ⟨y, hy, result, hid, -, hresult, hok, -⟩ := hsucceeded x (List.mem_of_getElem? hx)
    have hids : v.session.stepIds.Nodup := by
      rw [hsession, Session.stepIds_settleAll]
      exact hnodup
    have heq : y = x.settle t.result :=
      List.inj_on_of_nodup_map hids hy (List.mem_of_getElem? hsettled) hid
    rw [heq] at hresult
    cases hresult
    exact hok

end Run

end CallChain
