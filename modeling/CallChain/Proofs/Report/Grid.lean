/-
# The grid of all records

The grid has one row for each record of each step that has been run with success: step by
step, and within a step record by record. A row starts with where its record comes from, and
then has the flat fields of the record itself.

What a row tells of its record and the record's own fields share one set of names. Where they
meet the record's field counts: a record with a field `Status` or `Row` hides what the row
would tell under that name. Step and row number tell rows apart as long as no record hides
them.
-/

import CallChain.Report.Record
import Mathlib.Data.List.Forall2

namespace CallChain

/-- A step that has failed has no records. -/
theorem Step.hasFailed_of_mem_records {s : Step} {v : Value} (h : v ∈ s.records) :
    s.hasFailed = false := by
  unfold records at h
  unfold hasFailed
  cases hresult : s.result with
  | none =>
      rw [hresult] at h
      cases h
  | some result =>
      rw [hresult] at h
      cases result with
      | failed f => cases h
      | _ => rfl

/-- A record at its place among steps. -/
structure GridRecord where
  /-- The place of the step. -/
  stepPlace : Nat
  /-- The place of the record among those of the step. -/
  place : Nat
  /-- The step. -/
  step : Step
  /-- The record. -/
  value : Value

namespace GridRecord

/-- Whether a record is one of those that steps have received. -/
structure IsOf (steps : List Step) (g : GridRecord) : Prop where
  /-- The step has its place among the steps. -/
  step_at : steps[g.stepPlace]? = some g.step
  /-- It has been run. -/
  ran : g.step.hasRun = true
  /-- It has not failed. -/
  succeeded : g.step.hasFailed = false
  /-- The record has its place among those of the step. -/
  value_at : g.step.records[g.place]? = some g.value

/-- Whether a record comes before another one, step by step. -/
def Before (g h : GridRecord) : Prop :=
  g.stepPlace < h.stepPlace ∨ g.stepPlace = h.stepPlace ∧ g.place < h.place

/-- What a row tells of its record. -/
def metadata (g : GridRecord) : Fields Value :=
  [("Step", .int (g.stepPlace + 1)), ("Endpoint", .text g.step.endpoint.label),
    ("Status", .text "Success"), ("Records", .int g.step.records.length),
    ("Row", .int (g.place + 1))]

/-- The flat fields of a record. -/
def flat (g : GridRecord) : Fields Value := Record.flatten g.value

/-- Whether a row is that of a record. -/
structure Shows (g : GridRecord) (row : Fields Value) : Prop where
  /-- The row starts with what it tells of the record; the record's other fields follow. -/
  keys : row.keys = g.metadata.keys ++ g.flat.keys.filter fun name => name ∉ g.metadata.keys
  /-- Every field of the record is shown with its own value. -/
  own : ∀ name v, g.flat.get? name = some v → row.get? name = some v
  /-- What the row tells of the record is shown where the record has no field of that name. -/
  told : ∀ name, name ∉ g.flat.keys → row.get? name = g.metadata.get? name

theorem shows_merge (g : GridRecord) : g.Shows (g.metadata.merge g.flat) := by
  have hflat : g.flat.Distinct := Record.distinct_flatten g.value
  refine ⟨Fields.keys_merge g.metadata hflat, fun name v hv => ?_, fun name hname => ?_⟩
  · rw [Fields.get?_merge g.metadata hflat, hv]
    rfl
  · rw [Fields.get?_merge g.metadata hflat, (Fields.get?_eq_none_iff _ _).mpr hname]
    rfl

/-- The records of a step, each at its place; none if the step has not been run. -/
def ofStep (i : Nat) (s : Step) : List GridRecord :=
  (if s.hasRun then s.records else []).zipIdx.map fun x => ⟨i, x.2, s, x.1⟩

/-- The records of steps, each at its place. -/
def ofSteps (steps : List Step) : List GridRecord :=
  steps.zipIdx.flatMap fun x => ofStep x.2 x.1

variable {steps : List Step} {s : Step} {i : Nat} {g : GridRecord}

theorem mem_ofStep : g ∈ ofStep i s ↔
    g.stepPlace = i ∧ g.step = s ∧ s.hasRun = true ∧ s.records[g.place]? = some g.value := by
  unfold ofStep
  rw [List.mem_map]
  by_cases hran : s.hasRun = true
  · rw [if_pos hran]
    constructor
    · rintro ⟨⟨v, j⟩, hvalue, rfl⟩
      exact ⟨rfl, rfl, hran, List.mk_mem_zipIdx_iff_getElem?.mp hvalue⟩
    · rintro ⟨rfl, rfl, -, hvalue⟩
      exact ⟨(g.value, g.place), List.mk_mem_zipIdx_iff_getElem?.mpr hvalue, rfl⟩
  · simp [hran]

/-- The records that are listed are those that steps have received. -/
theorem mem_ofSteps : g ∈ ofSteps steps ↔ g.IsOf steps := by
  unfold ofSteps
  rw [List.mem_flatMap]
  constructor
  · rintro ⟨⟨s, i⟩, hstep, hrecord⟩
    obtain ⟨rfl, rfl, hran, hvalue⟩ := mem_ofStep.mp hrecord
    exact ⟨List.mk_mem_zipIdx_iff_getElem?.mp hstep, hran,
      Step.hasFailed_of_mem_records (List.mem_of_getElem? hvalue), hvalue⟩
  · intro h
    exact ⟨(g.step, g.stepPlace), List.mk_mem_zipIdx_iff_getElem?.mpr h.step_at,
      mem_ofStep.mpr ⟨rfl, rfl, h.ran, h.value_at⟩⟩

/-- Places grow along a list. -/
theorem pairwise_zipIdx {α : Type} (xs : List α) : xs.zipIdx.Pairwise fun x y => x.2 < y.2 := by
  have hplaces : (xs.zipIdx.map Prod.snd).Pairwise (· < ·) := by
    rw [List.zipIdx_map_snd]
    exact List.pairwise_lt_range'
  exact List.pairwise_map.mp hplaces

/-- They are listed step by step. -/
theorem pairwise_ofSteps (steps : List Step) : (ofSteps steps).Pairwise Before := by
  unfold ofSteps
  rw [List.pairwise_flatMap]
  constructor
  · rintro ⟨s, i⟩ -
    rw [ofStep, List.pairwise_map]
    exact (pairwise_zipIdx _).imp fun h => Or.inr ⟨rfl, h⟩
  · refine (pairwise_zipIdx steps).imp fun {x y} h g hg g' hg' => Or.inl ?_
    rwa [(mem_ofStep.mp hg).1, (mem_ofStep.mp hg').1]

/-- The places of two records tell them apart, also as rows tell them. -/
theorem Before.get?_metadata_ne {g h : GridRecord} (hbefore : g.Before h) :
    (g.metadata.get? "Step", g.metadata.get? "Row") ≠
      (h.metadata.get? "Step", h.metadata.get? "Row") := by
  intro heq
  have hplaces : (g.stepPlace : Int) + 1 = h.stepPlace + 1 ∧ (g.place : Int) + 1 = h.place + 1 := by
    simpa [metadata, Fields.get?] using heq
  rcases hbefore with hstep | ⟨-, hplace⟩ <;> omega

end GridRecord

namespace Step

open GridRecord

/-- A step has the rows of its records. -/
theorem gridRows_eq (i : Nat) (s : Step) :
    gridRows i s = (ofStep i s).map fun g => g.metadata.merge g.flat := by
  unfold gridRows ofStep
  rw [List.map_map]
  by_cases hran : s.hasRun = true
  · simp only [if_pos hran]
    rfl
  · simp only [if_neg hran]
    rfl

theorem grid_eq (steps : List Step) :
    grid steps = (ofSteps steps).map fun g => g.metadata.merge g.flat := by
  unfold grid ofSteps
  rw [List.map_flatMap]
  congr 1
  funext ⟨s, i⟩
  exact gridRows_eq i s

/-- The grid has one row for each record of each step that has been run with success, step by
step and record by record. A row shows all fields of its record, and tells the step's place,
its endpoint, its success, the number of its records and the record's place under the names
that the record leaves free. If no record has a field `Step` or `Row`, these two tell every
row from every other. -/
theorem grid_shows (steps : List Step) : ∃ found : List GridRecord,
    (∀ g, g ∈ found ↔ g.IsOf steps) ∧ found.Pairwise Before ∧
    List.Forall₂ Shows found (grid steps) ∧
    ((∀ g : GridRecord, g.IsOf steps → "Step" ∉ g.flat.keys ∧ "Row" ∉ g.flat.keys) →
      ((grid steps).map fun row => (row.get? "Step", row.get? "Row")).Nodup) := by
  refine ⟨ofSteps steps, fun g => mem_ofSteps, pairwise_ofSteps steps, ?_, fun hfree => ?_⟩
  · rw [grid_eq, List.forall₂_map_right_iff, List.forall₂_same]
    exact fun g _ => g.shows_merge
  · have htold : (grid steps).map (fun row => (row.get? "Step", row.get? "Row")) =
        (ofSteps steps).map fun g => (g.metadata.get? "Step", g.metadata.get? "Row") := by
      rw [grid_eq, List.map_map]
      refine List.map_congr_left fun g hg => ?_
      obtain ⟨hstep, hrow⟩ := hfree g (mem_ofSteps.mp hg)
      exact Prod.ext (g.shows_merge.told _ hstep) (g.shows_merge.told _ hrow)
    rw [htold, List.Nodup, List.pairwise_map]
    exact (pairwise_ofSteps steps).imp Before.get?_metadata_ne

/-- A step that has asked for projects and has received some. -/
def projects (items : List Value) : Step where
  id := "projects"
  endpoint := { method := .get, path := "/projects" }
  state := .ran
  result := some (.received ⟨some 200, .list items, .list items⟩)

/-- A project with a status of its own, and one without. -/
def someProjects : List Value :=
  [.object [("gid", .text "1"), ("Status", .text "open")], .object [("gid", .text "2")]]

/-- Projects with a row number of their own. -/
def numberedProjects : List Value := [.object [("Row", .int 7)], .object [("Row", .int 7)]]

/-- A record's own status takes the place of the step's, and the rows of records with their own
row numbers may be all the same. -/
theorem grid_shows_projects :
    (∀ g : GridRecord, g.IsOf [projects someProjects] →
      "Step" ∉ g.flat.keys ∧ "Row" ∉ g.flat.keys) ∧
    ((grid [projects someProjects]).map fun row => (row.get? "Step", row.get? "Row")).Nodup ∧
    (grid [projects someProjects]).map (Fields.get? · "Status") =
      [some (.text "open"), some (.text "Success")] ∧
    (grid [projects numberedProjects]).map (fun row => (row.get? "Step", row.get? "Row")) =
      [(some (.int 1), some (.int 7)), (some (.int 1), some (.int 7))] := by
  have hfree : ∀ g : GridRecord, g.IsOf [projects someProjects] →
      "Step" ∉ g.flat.keys ∧ "Row" ∉ g.flat.keys := by
    intro g hg
    have hstep : g.step = projects someProjects :=
      List.mem_singleton.mp (List.mem_of_getElem? hg.step_at)
    have hvalue : g.value ∈ someProjects := by
      have hat := List.mem_of_getElem? hg.value_at
      rwa [hstep] at hat
    have hflat : someProjects.map (fun v => (Record.flatten v).keys) =
        [["gid", "Status"], ["gid"]] := by
      simp [someProjects, Record.flatten, Record.flattenFrom, Record.flattenObject,
        Record.flattenFields, Record.depthLimit, Record.under, Fields.set, Fields.keys]
    have hkeys : g.flat.keys ∈ [["gid", "Status"], ["gid"]] :=
      hflat ▸ List.mem_map_of_mem hvalue
    rcases List.mem_pair.mp hkeys with heq | heq <;> rw [heq] <;> decide
  obtain ⟨found, -, -, -, hnodup⟩ := grid_shows [projects someProjects]
  refine ⟨hfree, hnodup hfree, ?_⟩
  simp [grid, gridRows, projects, someProjects, numberedProjects, hasRun, records,
    StepResult.records, contribution, Record.flatten, Record.flattenFrom, Record.flattenObject,
    Record.flattenFields, Record.depthLimit, Record.under, Fields.merge, Fields.set, Fields.get?]

end Step

end CallChain
