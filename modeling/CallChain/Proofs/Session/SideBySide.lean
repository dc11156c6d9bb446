/-
# Two sequences run side by side

The runs of two sequences go on in the same way as long as their steps, place by place, lead
to related results. What relates the results, and which relation of the worlds carries it
from one place to the next, is left open here: `together_runSteps_of` takes both, and asks
for one run of a step at a time.
-/

import CallChain.Proofs.Session.Paired
import CallChain.Proofs.Session.Places
import Mathlib.Data.List.Forall2

namespace CallChain

variable {σ : Type}

/-- Whether two worlds have led the same talk with the same client. -/
structure World.SameTalk (w w' : World σ) : Prop where
  /-- The client remembers the same. -/
  peer_eq : w'.peer = w.peer
  /-- The same calls have been sent. -/
  calls_eq : w'.calls = w.calls

namespace Run

variable {env : Environment σ} (inner : Operation → Run σ Answer)

/-! ## One step -/

section Step

variable {R : StepResult → StepResult → Prop} {w₀ w₀' : World σ} {x x' : Step}

/-- Two steps that are not in progress and lead to related results: each has forgotten its last
run and stored the result. -/
theorem together_runStep_of (hidle : x.id ∉ w₀.running) (hidle' : x'.id ∉ w₀'.running)
    (hx : w₀.session.step x.id = .ok x) (hx' : w₀'.session.step x'.id = .ok x')
    (htalk : w₀.SameTalk w₀')
    (hresult : Together (World.Abreast (w₀.begun x.id) (w₀'.begun x'.id))
      (stepResult env inner x) (stepResult env inner x')
      (fun a a' w w' => R a a' ∧ World.Abreast (w₀.begun x.id) (w₀'.begun x'.id) w w')
      (World.Abreast (w₀.begun x.id) (w₀'.begun x'.id))) :
    Together (fun w w' => w = w₀ ∧ w' = w₀') (runStep env inner x.id) (runStep env inner x'.id)
      (fun a a' w w' => R a a' ∧ w.session = (w₀.session.forget x.id).store x.id a ∧
        w'.session = (w₀'.session.forget x'.id).store x'.id a' ∧
        w.running = w₀.running ∧ w'.running = w₀'.running ∧ w.SameTalk w')
      World.SameTalk := by
  rintro w w' ⟨rfl, rfl⟩
  have hrun := hresult (w.begun x.id) (w'.begun x'.id)
    ⟨World.OnlyTalked.refl _, World.OnlyTalked.refl _, htalk.peer_eq, htalk.calls_eq⟩
  rw [runStep_eq inner hidle hx, runStep_eq inner hidle' hx']
  generalize stepResult env inner x (w.begun x.id) = ended at hrun
  generalize stepResult env inner x' (w'.begun x'.id) = ended' at hrun
  cases hrun with
  | failed h => exact .failed ⟨h.peer_eq, h.calls_eq⟩
  | @answered a a' v v' h =>
      obtain ⟨hrelated, hv⟩ := h
      refine .answered ⟨hrelated, ?_, ?_, ?_, ?_, hv.peer_eq, hv.calls_eq⟩
      · exact congrArg (Session.store · x.id a) hv.talked.session_eq
      · exact congrArg (Session.store · x'.id a') hv.talked'.session_eq
      · exact World.running_ended hidle hv.talked.running_eq
      · exact World.running_ended hidle' hv.talked'.running_eq

end Step

/-! ## All steps -/

section Sequence

variable {R : StepResult → StepResult → Prop} {P : Nat → World σ → World σ → Prop}
  {ids ids' : List String}

/-- The runs of the steps from a place on, when each two steps at one place lead to related
results, and from a success on to the next place. -/
theorem together_runSteps_of (hlength : ids'.length = ids.length)
    (hok : ∀ a a', R a a' → a'.isOk = a.isOk)
    (htalk : ∀ n w w', P n w w' → w.SameTalk w')
    (hpaused : ∀ n w w', P n w w' → P n (w.record .paused) (w'.record .paused))
    (hstep : ∀ n id id', ids[n]? = some id → ids'[n]? = some id' →
      Together (P n) (runStep env inner id) (runStep env inner id')
        (fun a a' w w' => R a a' ∧ w.SameTalk w' ∧ (a.isOk = true → P (n + 1) w w'))
        World.SameTalk)
    {rest rest' : List String} {n : Nat} (hrest : ids.drop n = rest)
    (hrest' : ids'.drop n = rest') :
    Together (P n) (runSteps env inner rest) (runSteps env inner rest')
      (fun rs rs' w w' => List.Forall₂ R rs rs' ∧ w.SameTalk w') World.SameTalk := by
  have hcons : ∀ {ids rest : List String} {id n}, ids.drop n = id :: rest →
      ids[n]? = some id ∧ ids.drop (n + 1) = rest := by
    intro ids rest id n h
    constructor
    · rw [← Nat.add_zero n, ← List.getElem?_drop, h, List.getElem?_cons_zero]
    · rw [← List.tail_drop, h, List.tail_cons]
  have hlengths : rest'.length = rest.length := by
    rw [← hrest, ← hrest', List.length_drop, List.length_drop, hlength]
  induction rest generalizing rest' n with
  | nil =>
      obtain rfl := List.length_eq_zero_iff.mp hlengths
      exact together_pure fun w w' hw => ⟨.nil, htalk n w w' hw⟩
  | cons id rest ih =>
      obtain ⟨id', others, rfl⟩ : ∃ id' others, rest' = id' :: others :=
        List.exists_cons_of_length_eq_add_one hlengths
      obtain ⟨hid, htail⟩ := hcons hrest
      obtain ⟨hid', htail'⟩ := hcons hrest'
      have htails : others.length = rest.length := Nat.succ.inj hlengths
      have hempty : others.isEmpty = rest.isEmpty := by
        rw [Bool.eq_iff_iff, List.isEmpty_iff_length_eq_zero, List.isEmpty_iff_length_eq_zero,
          htails]
      rw [runSteps, runSteps]
      apply together_bind (hstep n id id' hid hid')
      intro a a' w w' hw
      obtain ⟨hrelated, htalked, hnext⟩ := hw
      rw [hok a a' hrelated, hempty]
      have hone : List.Forall₂ R [a] [a'] := .cons hrelated .nil
      by_cases hgo : a.isOk = true
      · rw [hgo]
        by_cases hlast : rest.isEmpty = true
        · rw [hlast]
          exact .answered ⟨hone, htalked⟩
        · rw [Bool.not_eq_true] at hlast
          rw [hlast]
          have hpause : Together (fun v v' => v = w ∧ v' = w')
              (modify (·.record .paused)) (modify (·.record .paused))
              (fun _ _ => P (n + 1)) World.SameTalk := by
            apply together_modify
            rintro v v' ⟨rfl, rfl⟩
            exact hpaused _ _ _ (hnext hgo)
          refine together_bind hpause (fun _ _ => ?_) w w' ⟨rfl, rfl⟩
          refine together_bind (ih htail htail' htails) fun rs rs' => ?_
          apply together_pure
          rintro v v' ⟨hresults, htalked⟩
          exact ⟨.cons hrelated hresults, htalked⟩
      · rw [Bool.not_eq_true] at hgo
        rw [hgo]
        exact .answered ⟨hone, htalked⟩

/-- The runs of two sequences that lead to related results, step by step; or both are
refused. -/
theorem together_runAll_of {w w' : World σ} (htalk : w.SameTalk w')
    (hbusy : w'.sequenceRunning = w.sequenceRunning)
    (hsteps : Together (P 0) (runSteps env inner w.session.stepIds)
      (runSteps env inner w'.session.stepIds)
      (fun rs rs' w w' => List.Forall₂ R rs rs' ∧ w.SameTalk w') World.SameTalk)
    (hstart : P 0 { w with sequenceRunning := true } { w' with sequenceRunning := true }) :
    EndsAlike (fun rs rs' w w' => List.Forall₂ R rs rs' ∧ w.SameTalk w') World.SameTalk
      (runAll env inner w) (runAll env inner w') := by
  cases hrunning : w.sequenceRunning with
  | true =>
      rw [runAll_busy inner hrunning, runAll_busy inner (hbusy.trans hrunning)]
      exact .failed htalk
  | false =>
      have hrun := hsteps _ _ hstart
      rw [runAll_eq inner hrunning, runAll_eq inner (hbusy.trans hrunning)]
      generalize runSteps env inner w.session.stepIds { w with sequenceRunning := true } = ended
        at hrun
      generalize runSteps env inner w'.session.stepIds { w' with sequenceRunning := true } = ended'
        at hrun
      cases hrun with
      | answered h => exact .answered ⟨h.1, h.2.peer_eq, h.2.calls_eq⟩
      | failed h => exact .failed ⟨h.peer_eq, h.calls_eq⟩

end Sequence

end Run

end CallChain
