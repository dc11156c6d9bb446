/-
# Steps by id and by place

The steps of a session are told apart by their ids, so the step at a place is the one that its
id finds, and the place is the one that its id leads to. Edits of how runs have ended keep
both. While a step is run, what is read of it is the step without its last run.
-/

import CallChain.Proofs.Reference.Mirrored
import CallChain.Proofs.Session.Consistency

namespace CallChain

namespace Session

variable {s : Session} {id : String} {place : Nat} {x : Step}

/-- What becomes of a step by an edit that keeps all but how the last run ended. -/
theorem getElem?_steps_modify (s : Session) (id : String) {f : Step → Step}
    (hreset : ∀ x, (f x).reset = x.reset) {n : Nat} {y : Step}
    (hy : (s.modify id f).steps[n]? = some y) :
    ∃ x, s.steps[n]? = some x ∧ y.reset = x.reset := by
  rw [modify, List.getElem?_map] at hy
  obtain ⟨x, hx, rfl⟩ := Option.map_eq_some_iff.mp hy
  refine ⟨x, hx, ?_⟩
  split
  · exact hreset x
  · rfl

theorem getElem?_stepIds_of_step {n : Nat} {x : Step} (hx : s.steps[n]? = some x) :
    s.stepIds[n]? = some x.id := by
  rw [stepIds, Step.ids, List.getElem?_map, hx]
  rfl

theorem id_ne_of_lt (hnodup : s.stepIds.Nodup) {j n : Nat} {x y : Step}
    (hx : s.steps[n]? = some x) (hy : s.steps[j]? = some y) (hlt : j < n) : y.id ≠ x.id := by
  intro heq
  have hget : s.stepIds[j]? = s.stepIds[n]? := by
    rw [getElem?_stepIds_of_step hx, getElem?_stepIds_of_step hy, heq]
  have hlength : j < s.stepIds.length :=
    (List.getElem?_eq_some_iff.mp (getElem?_stepIds_of_step hy)).1
  have hsame := (List.getElem?_inj hlength hnodup).mp hget
  omega

theorem exists_of_getElem?_stepIds {n : Nat} {id : String} (hid : s.stepIds[n]? = some id) :
    ∃ x, s.steps[n]? = some x ∧ x.id = id := by
  rw [stepIds, Step.ids, List.getElem?_map] at hid
  exact Option.map_eq_some_iff.mp hid

/-- The step of an id is the one at the place of the id. -/
theorem find?_of_getElem? (hnodup : s.stepIds.Nodup) {n : Nat} {x : Step}
    (hx : s.steps[n]? = some x) : s.find? x.id = some x := by
  obtain ⟨hn, rfl⟩ := List.getElem?_eq_some_iff.mp hx
  rw [find?, List.find?_eq_some_iff_getElem]
  refine ⟨by simp, n, hn, rfl, fun j hj => ?_⟩
  have hne := id_ne_of_lt hnodup hx (List.getElem?_eq_getElem (by omega)) hj
  simpa using hne

theorem step_of_getElem? (hnodup : s.stepIds.Nodup) {n : Nat} {x : Step}
    (hx : s.steps[n]? = some x) : s.step x.id = .ok x := by
  rw [step, find?_of_getElem? hnodup hx]

theorem place_of_getElem? (hnodup : s.stepIds.Nodup) {n : Nat} {x : Step}
    (hx : s.steps[n]? = some x) : s.place x.id = .ok n := by
  have hplace : s.steps.findIdx? (fun y => decide (y.id = x.id)) = some n := by
    rw [List.findIdx?_eq_some_iff_getElem]
    obtain ⟨hn, rfl⟩ := List.getElem?_eq_some_iff.mp hx
    refine ⟨hn, by simp, fun j hj => ?_⟩
    have hne := id_ne_of_lt hnodup hx (List.getElem?_eq_getElem (by omega)) hj
    simpa using hne
  rw [place, hplace]

theorem getElem?_forget (hx : s.steps[place]? = some x) :
    (s.forget x.id).steps[place]? = some x.reset := by
  rw [forget, modify, List.getElem?_map, hx]
  simp

theorem place_forget (hnodup : s.stepIds.Nodup) (hx : s.steps[place]? = some x) :
    (s.forget x.id).place x.id = .ok place :=
  place_of_getElem? (x := x.reset) (by rwa [stepIds_forget]) (getElem?_forget hx)

end Session

namespace Resolver

variable {r : Resolver} {id : String} {place : Nat}

/-- The result of one step is replaced. -/
theorem storedAt_congr (hnodup : r.stepIds.Nodup) (hid : r.stepIds[place]? = some id)
    (results : Fields Value)
    (hother : ∀ other, id ≠ other → results.get? other = r.results.get? other) (n : Nat) :
    (⟨results, r.stepIds⟩ : Resolver).storedAt n =
      if n = place then results.get? id else r.storedAt n := by
  rw [storedAt, storedAt]
  by_cases hn : n = place
  · rw [if_pos hn, hn, hid]
    rfl
  · rw [if_neg hn]
    cases hget : r.stepIds[n]? with
    | none => rfl
    | some other =>
        apply hother
        rintro rfl
        have hlength := (List.getElem?_eq_some_iff.mp hget).1
        exact hn ((List.getElem?_inj hlength hnodup).mp (hget.trans hid.symm))

end Resolver

namespace World

variable {σ : Type} {w : World σ}

/-- What the run of a step reads of it is the step without its last run. -/
theorem current_begun (hnodup : w.session.stepIds.Nodup) {n : Nat} {x : Step}
    (hx : w.session.steps[n]? = some x) : (w.begun x.id).current x = x.reset := by
  have hfind : (w.session.forget x.id).find? x.id = some x.reset :=
    Session.find?_of_getElem? (by rwa [Session.stepIds_forget]) (Session.getElem?_forget hx)
  rw [current, begun]
  dsimp only
  rw [hfind]
  rfl

end World

end CallChain
