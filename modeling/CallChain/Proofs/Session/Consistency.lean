/-
# Steps and stored results

A session writes three things about the run of a step: its state, its result, and what
later steps may refer to. `Session.Consistent` says how they go together. Every
operation keeps it, whatever the client answers and also when the operation ends in a
fault: the runs of steps forget before they send and store after, and nothing in
between touches the session.

Operations that are asked for while a request waits are left out here.
-/

import CallChain.Proofs.Session.Effects
import Mathlib.Data.List.Forall2
import Mathlib.Data.List.Nodup

namespace CallChain

namespace Resolver

/-- Whether all results are those of steps of the sequence. -/
def Owned (r : Resolver) : Prop := ∀ id, r.results.has id = true → id ∈ r.stepIds

/-- References name no other steps then. -/
theorem Owned.mem_of_idOf {r : Resolver} (h : r.Owned) {reference id : String}
    (hid : r.idOf reference = .ok (some id)) : id ∈ r.stepIds := by
  unfold idOf at hid
  split at hid
  · next hknown =>
    cases hid
    rcases Bool.or_eq_true_iff.mp hknown with hresult | hstep
    · exact h _ hresult
    · exact List.contains_iff_mem.mp hstep
  · cases hplace : Reference.place reference with
    | error problem =>
        rw [hplace] at hid
        cases hid
    | ok place =>
        rw [hplace] at hid
        obtain ⟨n, -, hn⟩ := Option.bind_eq_some_iff.mp (Except.ok.inj hid)
        exact List.mem_of_getElem? hn

variable {r : Resolver} {reference : String}

/-- Which step a reference names does not depend on the results. -/
theorem Owned.idOf_eq (h : r.Owned) (reference : String) :
    r.idOf reference = (⟨[], r.stepIds⟩ : Resolver).idOf reference := by
  have hhas : (r.results.has reference || r.stepIds.contains reference) =
      r.stepIds.contains reference := by
    cases hresult : r.results.has reference with
    | false => exact Bool.false_or _
    | true => exact (List.contains_iff_mem.mpr (h reference hresult)).symm
  rw [idOf, idOf, hhas]
  rfl

theorem Owned.placeOf_eq (h : r.Owned) (reference : String) :
    r.placeOf reference = (⟨[], r.stepIds⟩ : Resolver).placeOf reference := by
  rw [placeOf, placeOf, h.idOf_eq]

/-- A reference that names a step leads to its place. -/
theorem Owned.exists_place (h : r.Owned) {id : String} (hid : r.idOf reference = .ok (some id)) :
    ∃ n, r.stepIds[n]? = some id ∧ r.placeOf reference = .ok (some n) := by
  obtain ⟨n, hn⟩ := Option.isSome_iff_exists.mp (List.isSome_idxOf?.mpr (h.mem_of_idOf hid))
  obtain ⟨hlength, hget, -⟩ := List.idxOf?_eq_some_iff.mp hn
  refine ⟨n, by rw [List.getElem?_eq_getElem hlength, hget], ?_⟩
  rw [placeOf, hid]
  exact congrArg Except.ok hn

end Resolver

namespace Session

/-- Whether bodies are stored for steps of the sequence only. -/
def Owned (s : Session) : Prop := ∀ id ∈ Fields.keys s.results, id ∈ s.stepIds

/-- Whether the states, the results and the stored bodies of a session go together. -/
structure Consistent (s : Session) : Prop where
  /-- Steps are told apart by their ids. -/
  ids_nodup : s.stepIds.Nodup
  /-- Bodies are stored for steps of the sequence only. -/
  owned : s.Owned
  /-- What is stored for a step is what its last run has received. -/
  stored : ∀ x ∈ s.steps, s.results.get? x.id = x.payload?
  /-- A step that has not been run has no result, and any other has one. -/
  notRun_iff : ∀ x ∈ s.steps, x.state = .notRun ↔ x.result = none

section Edits

variable {s : Session}

theorem mem_keys_iff {α : Type} (fields : Fields α) (name : String) :
    name ∈ Fields.keys fields ↔ (fields.get? name).isSome := by
  rw [← not_iff_not, ← Fields.get?_eq_none_iff]
  simp

theorem Owned.resolver (h : s.Owned) : s.resolver.Owned :=
  fun id hid => h id ((mem_keys_iff _ _).mpr hid)

theorem stepIds_modify (s : Session) (id : String) {f : Step → Step} (hid : ∀ x, (f x).id = x.id) :
    (s.modify id f).stepIds = s.stepIds := by
  simp only [stepIds, Step.ids, modify, List.map_map]
  apply List.map_congr_left
  intro x hx
  simp only [Function.comp]
  split
  · exact hid x
  · rfl

theorem stepIds_append (s : Session) (x : Step) : (s.append x).stepIds = s.stepIds ++ [x.id] :=
  List.map_append

theorem map_reset_modify (s : Session) (id : String) {f : Step → Step}
    (hreset : ∀ x, (f x).reset = x.reset) :
    (s.modify id f).steps.map Step.reset = s.steps.map Step.reset := by
  rw [modify, List.map_map]
  apply List.map_congr_left
  intro x hx
  rw [Function.comp_apply]
  split
  · exact hreset x
  · rfl

/-- A step of an edited session is an untouched step, or the image of the edited one. -/
theorem mem_steps_modify {id : String} {f : Step → Step} {x : Step}
    (hx : x ∈ (s.modify id f).steps) :
    (x ∈ s.steps ∧ x.id ≠ id) ∨ ∃ y ∈ s.steps, y.id = id ∧ x = f y := by
  obtain ⟨y, hy, rfl⟩ := List.mem_map.mp hx
  by_cases hid : y.id = id
  · rw [if_pos hid]
    exact Or.inr ⟨y, hy, hid, rfl⟩
  · rw [if_neg hid]
    exact Or.inl ⟨hy, hid⟩

theorem mem_keys_erase {α : Type} {fields : Fields α} {name other : String}
    (h : other ∈ Fields.keys (fields.erase name)) : other ∈ Fields.keys fields ∧ other ≠ name := by
  rw [mem_keys_iff] at h
  by_cases hname : other = name
  · rw [hname, Fields.get?_erase_self] at h
    cases h
  · rw [Fields.get?_erase_of_ne _ (Ne.symm hname), ← mem_keys_iff] at h
    exact ⟨h, hname⟩

/-- Only the results and the ids of the steps are compared. -/
theorem Owned.mono {s' : Session} (h : s.Owned)
    (hresults : ∀ id ∈ Fields.keys s'.results, id ∈ Fields.keys s.results)
    (hids : s.stepIds ⊆ s'.stepIds) : s'.Owned :=
  fun id hid => hids (h id (hresults id hid))

theorem owned_of_nil (hresults : s.results = []) : s.Owned := by
  intro id hid
  rw [hresults] at hid
  cases hid

theorem Owned.remove (h : s.Owned) (id : String) :
    Owned { s with steps := s.steps.filter (·.id ≠ id), results := s.results.erase id } := by
  intro other hother
  obtain ⟨hkey, hne⟩ := mem_keys_erase hother
  obtain ⟨x, hx, rfl⟩ := List.mem_map.mp (h other hkey)
  exact List.mem_map.mpr ⟨x, List.mem_filter.mpr ⟨hx, by simpa using hne⟩, rfl⟩

theorem Owned.append (h : s.Owned) (x : Step) : (s.append x).Owned :=
  h.mono (fun _ hid => hid) (stepIds_append s x ▸ List.subset_append_left _ _)

theorem Owned.modify (h : s.Owned) (id : String) {f : Step → Step}
    (hid : ∀ x, (f x).id = x.id) : (s.modify id f).Owned :=
  h.mono (fun _ hid => hid) (stepIds_modify s id hid ▸ List.Subset.refl _)

/-- An edit that leaves the id and the last run of a step alone. -/
theorem Consistent.modify (h : s.Consistent) (id : String) {f : Step → Step}
    (hid : ∀ x, (f x).id = x.id) (hstate : ∀ x, (f x).state = x.state)
    (hresult : ∀ x, (f x).result = x.result) : (s.modify id f).Consistent where
  ids_nodup := by
    rw [stepIds_modify s id hid]
    exact h.ids_nodup
  owned := h.owned.modify id hid
  stored := by
    intro x hx
    rcases mem_steps_modify hx with ⟨hx, -⟩ | ⟨y, hy, -, rfl⟩
    · exact h.stored x hx
    · rw [hid, Step.payload?, hresult]
      exact h.stored y hy
  notRun_iff := by
    intro x hx
    rcases mem_steps_modify hx with ⟨hx, -⟩ | ⟨y, hy, -, rfl⟩
    · exact h.notRun_iff x hx
    · rw [hstate, hresult]
      exact h.notRun_iff y hy

theorem Consistent.append (h : s.Consistent) {x : Step} (hfresh : x.id ∉ s.stepIds)
    (hstate : x.state = .notRun) (hresult : x.result = none) : (s.append x).Consistent where
  ids_nodup := by
    rw [stepIds_append]
    apply List.Nodup.append h.ids_nodup (List.nodup_singleton x.id)
    intro id hid hx
    rw [List.mem_singleton.mp hx] at hid
    exact hfresh hid
  owned := h.owned.append x
  stored := by
    intro y hy
    rcases List.mem_append.mp hy with hy | hy
    · exact h.stored y hy
    · rw [List.mem_singleton.mp hy, Step.payload?, hresult]
      exact (Fields.get?_eq_none_iff _ _).mpr fun hkey => hfresh (h.owned _ hkey)
  notRun_iff := by
    intro y hy
    rcases List.mem_append.mp hy with hy | hy
    · exact h.notRun_iff y hy
    · rw [List.mem_singleton.mp hy, hstate, hresult]
      simp

/-- Steps that have not been run, with nothing stored. -/
theorem consistent_of_notRun {s : Session} (hids : s.stepIds.Nodup) (hresults : s.results = [])
    (hsteps : ∀ x ∈ s.steps, x.state = .notRun ∧ x.result = none) : s.Consistent where
  ids_nodup := hids
  owned := owned_of_nil hresults
  stored := by
    intro x hx
    rw [hresults, Step.payload?, (hsteps x hx).2]
    rfl
  notRun_iff := by
    intro x hx
    simp [hsteps x hx]

theorem Consistent.remove (h : s.Consistent) (id : String) :
    Consistent { s with steps := s.steps.filter (·.id ≠ id), results := s.results.erase id } where
  ids_nodup := List.Nodup.sublist (List.filter_sublist.map Step.id) h.ids_nodup
  owned := h.owned.remove id
  stored := by
    intro x hx
    obtain ⟨hx, hne⟩ := List.mem_filter.mp hx
    rw [Fields.get?_erase_of_ne _ (by simpa using Ne.symm (of_decide_eq_true hne))]
    exact h.stored x hx
  notRun_iff := fun x hx => h.notRun_iff x (List.mem_filter.mp hx).1

theorem consistent_clear (s : Session) : s.clear.Consistent :=
  consistent_of_notRun List.nodup_nil rfl (by simp [clear])

end Edits

/-! ## Forgetting and storing a run -/

section Runs

variable {s : Session}

theorem stepIds_forget (s : Session) (id : String) : (s.forget id).stepIds = s.stepIds :=
  stepIds_modify s id fun _ => rfl

theorem Owned.forget (h : s.Owned) (id : String) : (s.forget id).Owned :=
  h.mono (fun _ hid => (mem_keys_erase hid).1) (stepIds_forget s id ▸ List.Subset.refl _)

theorem Consistent.forget (h : s.Consistent) (id : String) : (s.forget id).Consistent where
  ids_nodup := by
    rw [stepIds_forget]
    exact h.ids_nodup
  owned := h.owned.forget id
  stored := by
    intro x hx
    rcases mem_steps_modify hx with ⟨hx, hne⟩ | ⟨y, hy, rfl, rfl⟩
    · exact (Fields.get?_erase_of_ne _ (Ne.symm hne)).trans (h.stored x hx)
    · exact Fields.get?_erase_self _ _
  notRun_iff := by
    intro x hx
    rcases mem_steps_modify hx with ⟨hx, -⟩ | ⟨y, hy, rfl, rfl⟩
    · exact h.notRun_iff x hx
    · simp [Step.reset]

theorem stepIds_store (s : Session) (id : String) (result : StepResult) :
    (s.store id result).stepIds = s.stepIds := by
  have hmodify := stepIds_modify s id (f := (·.settle result)) fun _ => rfl
  unfold store
  split
  · exact hmodify
  · exact hmodify

theorem steps_store (s : Session) (id : String) (result : StepResult) :
    (s.store id result).steps = (s.modify id (·.settle result)).steps := by
  unfold store
  split <;> rfl

theorem results_store (s : Session) (id : String) (result : StepResult) :
    (s.store id result).results = match result.payload? with
      | some payload => s.results.set id payload
      | none => s.results := by
  unfold store
  cases result.payload? with
  | none => rfl
  | some payload => rfl

/-- Only the slot of the step is written. -/
theorem get?_results_store_of_ne {id other : String} (hne : id ≠ other) (result : StepResult) :
    (s.store id result).results.get? other = s.results.get? other := by
  rw [results_store]
  split
  · exact Fields.get?_set_of_ne _ _ hne
  · rfl

/-- Forgetting and storing is one edit of the steps. -/
theorem steps_store_forget (s : Session) (id : String) (result : StepResult) :
    ((s.forget id).store id result).steps =
      (s.modify id fun x => x.reset.settle result).steps := by
  rw [steps_store, forget, modify, modify, modify, List.map_map]
  apply List.map_congr_left
  intro x hx
  simp only [Function.comp]
  by_cases hid : x.id = id
  · rw [if_pos hid, if_pos hid]
    exact if_pos hid
  · rw [if_neg hid, if_neg hid, if_neg hid]

/-- After a step has been run, what is stored for it is what it has received. -/
theorem get?_results_store_forget (s : Session) (id : String) (result : StepResult) :
    ((s.forget id).store id result).results.get? id = result.payload? := by
  rw [results_store]
  cases hpayload : result.payload? with
  | some payload => exact Fields.get?_set_self _ _ _
  | none => exact Fields.get?_erase_self _ _

theorem get?_results_store_forget_of_ne {id other : String} (hne : id ≠ other)
    (result : StepResult) :
    ((s.forget id).store id result).results.get? other = s.results.get? other := by
  rw [get?_results_store_of_ne hne]
  exact Fields.get?_erase_of_ne _ hne

/-- A result is stored for a step of the sequence. -/
theorem Owned.store (h : s.Owned) {id : String} (hid : id ∈ s.stepIds) (result : StepResult) :
    (s.store id result).Owned := by
  intro other hother
  rw [stepIds_store]
  by_cases hne : id = other
  · exact hne ▸ hid
  · rw [mem_keys_iff, get?_results_store_of_ne hne, ← mem_keys_iff] at hother
    exact h other hother

/-- A result is stored for a step whose last run has been forgotten. -/
theorem Consistent.store (h : s.Consistent) {id : String} (hid : id ∈ s.stepIds)
    (hforgotten : s.results.get? id = none) (result : StepResult) :
    (s.store id result).Consistent where
  ids_nodup := by
    rw [stepIds_store]
    exact h.ids_nodup
  owned := h.owned.store hid result
  stored := by
    intro x hx
    rw [steps_store] at hx
    rcases mem_steps_modify hx with ⟨hx, hne⟩ | ⟨y, hy, rfl, rfl⟩
    · rw [get?_results_store_of_ne (Ne.symm hne)]
      exact h.stored x hx
    · have hpayload : (y.settle result).payload? = result.payload? := rfl
      rw [hpayload, results_store]
      cases hresult : result.payload? with
      | none => exact hforgotten
      | some payload => exact Fields.get?_set_self _ _ _
  notRun_iff := by
    intro x hx
    rw [steps_store] at hx
    rcases mem_steps_modify hx with ⟨hx, -⟩ | ⟨y, hy, rfl, rfl⟩
    · exact h.notRun_iff x hx
    · simp [Step.settle]

/-- Whether two steps are the same, or both have the id of the step that was run and
differ in their last runs only. -/
def SameOutside (id : String) (x x' : Step) : Prop :=
  x'.id = x.id ∧ (x.id ≠ id → x' = x)

theorem steps_sameOutside_modify (s : Session) (id : String) {f : Step → Step}
    (hid : ∀ x, (f x).id = x.id) :
    List.Forall₂ (SameOutside id) s.steps (s.modify id f).steps := by
  rw [Session.modify, List.forall₂_map_right_iff]
  apply List.forall₂_same.mpr
  intro x hx
  split
  · next heq => exact ⟨hid x, fun hne => absurd heq hne⟩
  · exact ⟨rfl, fun _ => rfl⟩

end Runs

end Session

end CallChain
