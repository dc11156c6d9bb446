/-
# The run of the whole sequence stops at the first failure

The run of a sequence gives its steps their turns, one after another. A turn sends calls and
stores the result of its step; after a success comes a pause and the next turn, after a
failure nothing. `Run.InTurn` says that turns have been taken in this way. What a run leaves
behind, and what has been seen of it from outside, is told by its turns alone.
-/

import CallChain.Proofs.Session.Places
import CallChain.Proofs.Session.Reached

namespace CallChain

variable {σ : Type}

/-- What has been seen from outside, in order. -/
def World.history (w : World σ) : List Event := w.events.reverse

/-- Whether a pause was made. -/
def Event.isPause : Event → Bool
  | paused => true
  | _ => false

/-- The turn of a step in the run of a sequence. -/
structure Turn where
  /-- The id of the step. -/
  id : String
  /-- The calls that were sent. -/
  calls : List Call
  /-- The result that was stored. -/
  result : StepResult

namespace Turn

/-- What is seen of a turn from outside. -/
def history (t : Turn) : List Event := t.calls.map .sent ++ [.settled t.id t.result]

/-- What is seen of several turns, with a pause between each two. -/
def histories (turns : List Turn) : List Event := [.paused].intercalate (turns.map history)

theorem countP_isPause_history (t : Turn) : t.history.countP Event.isPause = 0 := by
  rw [List.countP_eq_zero]
  intro e he
  rcases List.mem_append.mp he with he | he
  · obtain ⟨call, -, rfl⟩ := List.mem_map.mp he
    exact Bool.false_ne_true
  · rw [List.mem_singleton.mp he]
    exact Bool.false_ne_true

theorem histories_singleton (t : Turn) : histories [t] = t.history := by
  simp [histories, List.intercalate]

theorem histories_cons (t t' : Turn) (ts : List Turn) :
    histories (t :: t' :: ts) = t.history ++ .paused :: histories (t' :: ts) := by
  simp [histories, List.intercalate]

/-- There is a pause between each two turns, and no other. -/
theorem countP_isPause_histories (turns : List Turn) :
    (histories turns).countP Event.isPause = turns.length - 1 := by
  induction turns with
  | nil => rfl
  | cons t turns ih =>
      cases turns with
      | nil => rw [histories_singleton, countP_isPause_history]; rfl
      | cons t' ts =>
          rw [histories_cons, List.countP_append, countP_isPause_history,
            List.countP_cons_of_pos rfl, ih]
          simp

end Turn

/-! ## The results of several turns -/

namespace Session

/-- The session with the results of turns stored, each in place of an earlier one of its
step. -/
def settleAll (s : Session) (turns : List Turn) : Session :=
  turns.foldl (fun s t => (s.forget t.id).store t.id t.result) s

variable {s : Session} {turns : List Turn} {n : Nat} {x : Step}

theorem getElem?_steps_store_forget (hx : s.steps[n]? = some x) (id : String)
    (result : StepResult) : ((s.forget id).store id result).steps[n]? =
      some (if x.id = id then x.settle result else x) := by
  rw [steps_store_forget, modify, List.getElem?_map, hx]
  rfl

/-- A step without a turn stays as it is. -/
theorem settleAll_of_not_mem (hx : s.steps[n]? = some x) (hnot : x.id ∉ turns.map Turn.id) :
    (s.settleAll turns).steps[n]? = some x ∧
      (s.settleAll turns).results.get? x.id = s.results.get? x.id := by
  induction turns generalizing s with
  | nil => exact ⟨hx, rfl⟩
  | cons t ts ih =>
      rw [List.map_cons, List.mem_cons, not_or] at hnot
      have hstep := getElem?_steps_store_forget hx t.id t.result
      rw [if_neg hnot.1] at hstep
      have hrest := ih hstep hnot.2
      rwa [get?_results_store_forget_of_ne (Ne.symm hnot.1)] at hrest

/-- A step with a turn has the result of the turn, and what it received is stored. -/
theorem settleAll_of_mem (hx : s.steps[n]? = some x) (hnodup : (turns.map Turn.id).Nodup)
    {t : Turn} (ht : t ∈ turns) (hid : t.id = x.id) :
    (s.settleAll turns).steps[n]? = some (x.settle t.result) ∧
      (s.settleAll turns).results.get? x.id = t.result.payload? := by
  induction turns generalizing s with
  | nil => cases ht
  | cons t' ts ih =>
      rw [List.map_cons, List.nodup_cons] at hnodup
      have hstep := getElem?_steps_store_forget hx t'.id t'.result
      rcases List.mem_cons.mp ht with rfl | hmem
      · rw [if_pos hid.symm] at hstep
        have hrest := settleAll_of_not_mem hstep (hid ▸ hnodup.1)
        have hstored : ((s.forget t.id).store t.id t.result).results.get? x.id =
            t.result.payload? := by
          rw [← hid]
          exact get?_results_store_forget s t.id t.result
        exact ⟨hrest.1, hrest.2.trans hstored⟩
      · have hne : t'.id ≠ x.id := by
          rintro heq
          exact hnodup.1 (List.mem_map.mpr ⟨t, hmem, hid.trans heq.symm⟩)
        rw [if_neg hne.symm] at hstep
        exact ih hstep hnodup.2 hmem

end Session

/-! ## Turns that are taken -/

namespace Run

section InTurn

variable (env : Environment σ) (inner : Operation → Run σ Answer)

/-- Whether a turn leads from one world to another. -/
structure Leads (t : Turn) (w w' : World σ) : Prop where
  /-- The step is run, with the result of the turn. -/
  run : runStep env inner t.id w = .ok t.result w'
  /-- The result is stored. -/
  session_eq : w'.session = (w.session.forget t.id).store t.id t.result
  /-- The calls are sent before that. -/
  history_eq : w'.history = w.history ++ t.history

/-- Whether turns lead from one world to another, with a pause between each two. -/
inductive InTurn : World σ → List Turn → World σ → Prop
  /-- No step has a turn. -/
  | none (w : World σ) : InTurn w [] w
  /-- The last turn. -/
  | last {t : Turn} {w w' : World σ} (h : Leads env inner t w w') : InTurn w [t] w'
  /-- A turn before another one. -/
  | next {t t' : Turn} {ts : List Turn} {w v w' : World σ} (h : Leads env inner t w v)
    (hrest : InTurn (v.record .paused) (t' :: ts) w') : InTurn w (t :: t' :: ts) w'

/-- Whether no fault ends the run of a step, as long as steps are run one after another. -/
def NoneFaults : List String → World σ → Prop
  | [], _ => True
  | id :: ids, w =>
    match runStep env inner id w with
    | .ok result w' => result.isOk = true → ids ≠ [] → NoneFaults ids (w'.record .paused)
    | .error _ _ => False

instance decidableNoneFaults :
    ∀ (ids : List String) (w : World σ), Decidable (NoneFaults env inner ids w)
  | [], _ => isTrue trivial
  | id :: ids, w =>
    match h : runStep env inner id w with
    | .ok result w' =>
      have := decidableNoneFaults ids (w'.record .paused)
      decidable_of_iff
        (result.isOk = true → ids ≠ [] → NoneFaults env inner ids (w'.record .paused))
        (by rw [NoneFaults, h])
    | .error _ _ => isFalse (by rw [NoneFaults, h]; exact not_false)

end InTurn

variable {env : Environment σ} {inner : Operation → Run σ Answer}

theorem history_record (w : World σ) (e : Event) : (w.record e).history = w.history ++ [e] :=
  List.reverse_cons

namespace InTurn

variable {w w' : World σ} {turns : List Turn}

theorem session_eq (h : InTurn env inner w turns w') :
    w'.session = w.session.settleAll turns := by
  induction h with
  | none w => rfl
  | last h => exact h.session_eq
  | next h _ ih => rw [ih]; exact congrArg (Session.settleAll · _) h.session_eq

theorem history_eq (h : InTurn env inner w turns w') :
    w'.history = w.history ++ Turn.histories turns := by
  induction h with
  | none w => exact (List.append_nil _).symm
  | last h => rw [h.history_eq, Turn.histories_singleton]
  | next h _ ih =>
      rw [ih, history_record, h.history_eq, Turn.histories_cons]
      simp

/-- Each turn is taken in the session that the turns before it have left, after what is seen of
them and a pause after each. -/
theorem exists_leads (h : InTurn env inner w turns w') {n : Nat} {t : Turn}
    (ht : turns[n]? = some t) : ∃ v v', Leads env inner t v v' ∧
      v.session = w.session.settleAll (turns.take n) ∧
      v.history = w.history ++ (turns.take n).flatMap fun t => t.history ++ [.paused] := by
  induction h generalizing n with
  | none w => cases ht
  | last h =>
      cases n with
      | zero =>
          cases ht
          exact ⟨_, _, h, rfl, (List.append_nil _).symm⟩
      | succ n => cases ht
  | next h _ ih =>
      cases n with
      | zero =>
          cases ht
          exact ⟨_, _, h, rfl, (List.append_nil _).symm⟩
      | succ n =>
          obtain ⟨v, v', hleads, hsession, hhistory⟩ := ih ht
          refine ⟨v, v', hleads, ?_, ?_⟩
          · rw [hsession]
            exact congrArg (Session.settleAll · _) h.session_eq
          · rw [hhistory, history_record, h.history_eq]
            simp

end InTurn

/-! ## A run of steps -/

section Runs

variable (inner) (hclient : env.client.OnlyReplies)

include hclient

/-- The run of a step sends calls, and then stores the result. -/
theorem ensures_runStep_history (id : String) (w₀ : World σ) :
    Ensures (fun w => w = w₀) (runStep env inner id)
      (fun result w => ∃ calls, w.history = w₀.history ++ (⟨id, calls, result⟩ : Turn).history)
      (fun _ => True) := by
  let Said (w : World σ) : Prop := ∃ calls : List Call, w.history = w₀.history ++ calls.map .sent
  have hexchange : ∀ call, Keeps Said (exchange env inner call) := by
    intro call
    constructor
    rintro w ⟨calls, hcalls⟩
    rw [exchange_eq inner hclient]
    refine ⟨calls ++ [call], ?_⟩
    rw [World.history] at hcalls ⊢
    simp [World.exchanged, World.record, hcalls]
  apply ensures_runStep_of inner hexchange
  · exact fun _ _ => trivial
  · rintro w x rfl -
    exact ⟨[], (List.append_nil _).symm⟩
  · rintro result w ⟨calls, hcalls⟩
    refine ⟨calls, ?_⟩
    rw [Turn.history, ← List.append_assoc, ← hcalls]
    exact List.reverse_cons
  · exact fun _ _ => trivial

/-- What a step does that is run to its end is a turn. -/
theorem exists_leads {id : String} {result : StepResult} {w w' : World σ}
    (h : runStep env inner id w = .ok result w') :
    ∃ t : Turn, t.id = id ∧ t.result = result ∧ Leads env inner t w w' := by
  have hsession := (ensures_runStep inner hclient id w).holds w rfl
  have hhistory := (ensures_runStep_history inner hclient id w).holds w rfl
  rw [h] at hsession hhistory
  obtain ⟨calls, hcalls⟩ := hhistory
  exact ⟨⟨id, calls, result⟩, rfl, rfl, h, hsession.2.1, hcalls⟩

omit hclient in
/-- The run of a step that fails, or of the last one, is the last. -/
theorem runSteps_stop {id : String} {ids : List String} {result : StepResult} {w v : World σ}
    (h : runStep env inner id w = .ok result v) (hstop : result.isOk = true → ids = []) :
    runSteps env inner (id :: ids) w = .ok [result] v := by
  rw [runSteps, bind_ok h]
  cases hok : result.isOk with
  | false => rfl
  | true => rw [hstop hok]; rfl

omit hclient in
/-- After the run of a step that succeeds come those of the others. -/
theorem runSteps_go {id : String} {ids : List String} {result : StepResult} {w v : World σ}
    (h : runStep env inner id w = .ok result v) (hok : result.isOk = true) (hids : ids ≠ []) :
    runSteps env inner (id :: ids) w =
      match runSteps env inner ids (v.record .paused) with
      | .ok results w' => .ok (result :: results) w'
      | .error fault w' => .error fault w' := by
  have hempty : ids.isEmpty = false := by rwa [List.isEmpty_eq_false_iff]
  have hpaused : (modify (·.record .paused) : Run σ PUnit) v = .ok ⟨⟩ (v.record .paused) := rfl
  rw [runSteps, bind_ok h, hok, hempty]
  refine (bind_ok hpaused).trans ?_
  simp only [bind, EStateM.bind]
  cases runSteps env inner ids (v.record .paused) <;> rfl

/-- Steps take their turns in order, up to the first that fails. -/
theorem exists_inTurn {ids : List String} {w : World σ} (h : NoneFaults env inner ids w) :
    ∃ turns w', runSteps env inner ids w = .ok (turns.map Turn.result) w' ∧
      InTurn env inner w turns w' ∧ turns.map Turn.id <+: ids ∧
      (∀ t ∈ turns.dropLast, t.result.isOk = true) ∧
      (turns.length < ids.length → ∃ t ∈ turns.getLast?, t.result.isOk = false) := by
  induction ids generalizing w with
  | nil => exact ⟨[], w, rfl, .none w, List.nil_prefix, nofun, nofun⟩
  | cons id ids ih =>
      rw [NoneFaults] at h
      cases hrun : runStep env inner id w with
      | error fault w' =>
          rw [hrun] at h
          cases h
      | ok result v =>
          rw [hrun] at h
          obtain ⟨t, rfl, rfl, hleads⟩ := exists_leads inner hclient hrun
          by_cases hok : t.result.isOk = true
          · cases ids with
            | nil =>
                exact ⟨[t], v, runSteps_stop inner hrun fun _ => rfl, .last hleads,
                  List.prefix_rfl, nofun, fun hlt => absurd hlt (Nat.lt_irrefl 1)⟩
            | cons id' ids =>
                obtain ⟨turns, w', hruns, hturns, hfirst, hoks, hhalt⟩ :=
                  ih (h hok (List.cons_ne_nil _ _))
                obtain ⟨t', ts, rfl⟩ : ∃ t' ts, turns = t' :: ts := by
                  cases turns with
                  | nil =>
                      obtain ⟨t', ht', -⟩ := hhalt (Nat.succ_pos _)
                      cases ht'
                  | cons t' ts => exact ⟨t', ts, rfl⟩
                refine ⟨t :: t' :: ts, w', ?_, .next hleads hturns,
                  (List.prefix_cons_inj _).mpr hfirst, ?_, ?_⟩
                · rw [runSteps_go inner hrun hok (List.cons_ne_nil _ _), hruns]
                  rfl
                · rw [List.dropLast_cons_cons]
                  intro t'' ht''
                  rcases List.mem_cons.mp ht'' with rfl | ht''
                  · exact hok
                  · exact hoks t'' ht''
                · intro hlt
                  rw [List.getLast?_cons_cons]
                  exact hhalt (Nat.lt_of_succ_lt_succ hlt)
          · exact ⟨[t], v, runSteps_stop inner hrun fun hgo => absurd hgo hok, .last hleads,
              (List.prefix_cons_inj _).mpr List.nil_prefix, nofun,
              fun _ => ⟨t, rfl, Bool.not_eq_true _ ▸ hok⟩⟩

omit hclient in
/-- A run of steps that ends with results has not been ended by a fault. -/
theorem noneFaults_of_runSteps {ids : List String} {results : List StepResult} {w w' : World σ}
    (h : runSteps env inner ids w = .ok results w') : NoneFaults env inner ids w := by
  induction ids generalizing w w' results with
  | nil => trivial
  | cons id ids ih =>
      rw [NoneFaults]
      cases hrun : runStep env inner id w with
      | error fault v =>
          rw [runSteps] at h
          simp only [bind, EStateM.bind, hrun] at h
          cases h
      | ok result v =>
          intro hok hids
          rw [runSteps_go inner hrun hok hids] at h
          cases hrest : runSteps env inner ids (v.record .paused) with
          | ok others u => exact ih hrest
          | error fault u =>
              rw [hrest] at h
              cases h

end Runs

end Run

/-! ## The run of the whole sequence -/

/-- Whether turns are those of the steps of a sequence up to the first that fails, and have led
from one world to another. -/
structure World.FailFast (env : Environment σ) (inner : Operation → Run σ Answer) (w : World σ)
    (turns : List Turn) (w' : World σ) : Prop where
  /-- The first steps have a turn each, in order, and no other step has one. -/
  ids_prefix : turns.map Turn.id <+: w.session.stepIds
  /-- All results but the last are successes. -/
  ok : ∀ t ∈ turns.dropLast, t.result.isOk = true
  /-- Steps are left out only after a failure. -/
  halted : turns.length < w.session.stepIds.length →
    ∃ t ∈ turns.getLast?, t.result.isOk = false
  /-- What is seen from outside are the turns, with a pause between each two. -/
  history_eq : w'.history = w.history ++ Turn.histories turns
  /-- There is one pause less than there are turns. -/
  pauses_eq : w'.history.countP Event.isPause =
    w.history.countP Event.isPause + (turns.length - 1)
  /-- Each step is run when exactly the results of the turns before are stored, and this run
  sends the calls of the turn. -/
  leads : ∀ (n : Nat) (t : Turn), turns[n]? = some t → ∃ v v', Run.Leads env inner t v v' ∧
    v.session = w.session.settleAll (turns.take n) ∧
    v.history = w.history ++ (turns.take n).flatMap fun t => t.history ++ [.paused]
  /-- A step with a turn has the result of the turn, and what it received is stored. -/
  settled : ∀ (n : Nat) (t : Turn) (x : Step), turns[n]? = some t →
    w.session.steps[n]? = some x → t.id = x.id ∧
      w'.session.steps[n]? = some (x.settle t.result) ∧
      w'.session.results.get? x.id = t.result.payload?
  /-- A step without a turn is as it was before. -/
  untouched : ∀ (n : Nat) (x : Step), turns.length ≤ n → w.session.steps[n]? = some x →
    w'.session.steps[n]? = some x ∧
      w'.session.results.get? x.id = w.session.results.get? x.id

/-- What turns in order lead to. -/
theorem Run.InTurn.failFast {env : Environment σ} {inner : Operation → Run σ Answer}
    {w w' : World σ} {turns : List Turn} (h : Run.InTurn env inner w turns w')
    (hnodup : w.session.stepIds.Nodup) (hfirst : turns.map Turn.id <+: w.session.stepIds)
    (hok : ∀ t ∈ turns.dropLast, t.result.isOk = true)
    (hhalted : turns.length < w.session.stepIds.length →
      ∃ t ∈ turns.getLast?, t.result.isOk = false) :
    w.FailFast env inner turns w' where
  ids_prefix := hfirst
  ok := hok
  halted := hhalted
  history_eq := h.history_eq
  pauses_eq := by rw [h.history_eq, List.countP_append, Turn.countP_isPause_histories]
  leads := fun n t ht => h.exists_leads ht
  settled := by
    intro n t x ht hx
    have hid : t.id = x.id := by
      have hturn : (turns.map Turn.id)[n]? = some t.id := by
        rw [List.getElem?_map, ht]
        rfl
      obtain ⟨rest, hrest⟩ := hfirst
      have hstep := Session.getElem?_stepIds_of_step hx
      rw [← hrest, List.getElem?_append_left (List.getElem?_eq_some_iff.mp hturn).1] at hstep
      exact Option.some.inj (hturn.symm.trans hstep)
    rw [h.session_eq]
    exact ⟨hid, Session.settleAll_of_mem hx (hnodup.sublist hfirst.sublist)
      (List.mem_of_getElem? ht) hid⟩
  untouched := by
    intro n x hn hx
    have hnot : x.id ∉ turns.map Turn.id := by
      obtain ⟨rest, hrest⟩ := hfirst
      have hstep := Session.getElem?_stepIds_of_step hx
      rw [← hrest, List.getElem?_append_right (by rwa [List.length_map])] at hstep
      rw [← hrest] at hnodup
      intro hturn
      exact (List.nodup_append.mp hnodup).2.2 _ hturn _ (List.mem_of_getElem? hstep) rfl
    rw [h.session_eq]
    exact Session.settleAll_of_not_mem hx hnot

/-- The run of all steps ends with one result for each turn, where no fault ends the run of a
step: the first steps have their turns, one after another, up to the first that fails. -/
theorem World.runAll_failFast {env : Environment σ} (inner : Operation → Run σ Answer)
    (hclient : env.client.OnlyReplies) {w : World σ} (hnodup : w.session.stepIds.Nodup)
    (hfree : w.sequenceRunning = false)
    (hfaults : Run.NoneFaults env inner w.session.stepIds { w with sequenceRunning := true }) :
    ∃ turns w', Run.runAll env inner w = .ok (turns.map Turn.result) w' ∧
      w.FailFast env inner turns w' := by
  obtain ⟨turns, w', hruns, hturns, hfirst, hok, hhalted⟩ :=
    Run.exists_inTurn inner hclient hfaults
  refine ⟨turns, { w' with sequenceRunning := false }, ?_, ?_⟩
  · rw [Run.runAll_eq inner hfree, hruns]
  · obtain ⟨-, -, -, hhistory, hpauses, hleads, hsettled, huntouched⟩ :=
      hturns.failFast hnodup hfirst hok hhalted
    exact ⟨hfirst, hok, hhalted, hhistory, hpauses, hleads, hsettled, huntouched⟩

/-- A session of three steps, of which the second lacks a parameter of its path. -/
def World.missingParameter : World Nat where
  session :=
    { baseUrl := defaultBaseUrl
      steps := [
        { id := "a", endpoint := { method := .get, path := "/users/me" } },
        { id := "b", endpoint := { method := .get, path := "/tasks/\x7btask_gid\x7d" } },
        { id := "c", endpoint := { method := .get, path := "/tags" } }] }
  peer := 0

theorem World.runAll_failFast_missingParameter :
    let w := World.missingParameter
    let inner := Run.performAt Environment.answering 0
    Environment.answering.client.OnlyReplies ∧ w.session.stepIds.Nodup ∧
      w.sequenceRunning = false ∧
      Run.NoneFaults Environment.answering inner w.session.stepIds
        { w with sequenceRunning := true } ∧
      ∃ turns w', Run.runAll Environment.answering inner w = .ok (turns.map Turn.result) w' ∧
        w.FailFast Environment.answering inner turns w' := by
  intro w inner
  have hclient : Environment.answering.client.OnlyReplies := fun _ _ => rfl
  have hnodup : w.session.stepIds.Nodup := by decide
  have hfaults : Run.NoneFaults Environment.answering inner w.session.stepIds
      { w with sequenceRunning := true } := by decide +kernel
  exact ⟨hclient, hnodup, rfl, hfaults, World.runAll_failFast inner hclient hnodup rfl hfaults⟩

end CallChain
