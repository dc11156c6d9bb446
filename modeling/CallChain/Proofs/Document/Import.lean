/-
# The steps of an import

An import goes through the entries of a document once. Each entry that can be loaded
becomes a step with the next id; the others leave no trace but their number. The steps
that an import has made are therefore known from the entries that can be loaded, and from
the number of the first id: `importDocument_eq_ok` says which they are.
-/

import CallChain.Document.Transfer
import Mathlib.Data.List.Nodup

namespace CallChain

/-! ## The ids that are given out -/

/-- The ids from a number on. -/
def idsFrom (stepId : Nat → String) (start count : Nat) : List String :=
  (List.range count).map fun n => stepId (start + n)

section Ids

variable {stepId : Nat → String} {start count : Nat}

@[simp]
theorem length_idsFrom (start count : Nat) : (idsFrom stepId start count).length = count := by
  simp [idsFrom]

theorem getElem?_idsFrom (stepId : Nat → String) (start : Nat) {count n : Nat} (h : n < count) :
    (idsFrom stepId start count)[n]? = some (stepId (start + n)) := by
  rw [idsFrom, List.getElem?_map, List.getElem?_range h]
  rfl

theorem exists_of_mem_idsFrom {id : String} (h : id ∈ idsFrom stepId start count) :
    ∃ n < count, stepId (start + n) = id := by
  obtain ⟨n, hn, hid⟩ := List.mem_map.mp h
  exact ⟨n, List.mem_range.mp hn, hid⟩

theorem nodup_idsFrom (h : Function.Injective stepId) (start count : Nat) :
    (idsFrom stepId start count).Nodup := by
  apply List.Nodup.map _ List.nodup_range
  intro m n hmn
  exact Nat.add_left_cancel (h hmn)

theorem idsFrom_split (start : Nat) {place count : Nat} (h : place < count) :
    idsFrom stepId start count = idsFrom stepId start place ++
      stepId (start + place) :: idsFrom stepId (start + place + 1) (count - place - 1) := by
  obtain ⟨rest, rfl⟩ : ∃ rest, count = place + (rest + 1) := ⟨count - place - 1, by omega⟩
  have hrest : place + (rest + 1) - place - 1 = rest := by omega
  rw [hrest, idsFrom, idsFrom, idsFrom, List.range_add, List.map_append, List.range_succ_eq_map]
  simp [Function.comp_def, Nat.add_assoc, Nat.add_comm 1]

end Ids

/-! ## Numbered steps -/

namespace ImportState

variable {catalog : List Endpoint} {stepId : Nat → String}

/-- Whether the steps of an import have the ids from a number on, in order, and none of
them has been run. -/
structure Numbered (stepId : Nat → String) (start : Nat) (st : ImportState) : Prop where
  /-- One id has been given out for each step. -/
  created_eq : st.created = start + st.steps.length
  /-- The steps have them in order. -/
  ids_eq : Step.ids st.steps = (List.range st.steps.length).map fun n => stepId (start + n)
  /-- No step has been run. -/
  notRun : ∀ x ∈ st.steps, x.state = .notRun ∧ x.result = none

theorem ids_concat (steps : List Step) (x : Step) :
    Step.ids (steps ++ [x]) = Step.ids steps ++ [x.id] := by
  simp [Step.ids]

theorem numbered_start (stepId : Nat → String) (start : Nat) :
    Numbered stepId start { created := start } where
  created_eq := rfl
  ids_eq := rfl
  notRun := by simp

/-- Reading the references of an entry only in part changes nothing that tells its step
apart, and nothing of its last run. -/
theorem stepSoFar_eq (e : Entry) (x : Step) :
    (e.stepSoFar x).1.id = x.id ∧ (e.stepSoFar x).1.state = x.state ∧
      (e.stepSoFar x).1.result = x.result := by
  unfold Entry.stepSoFar
  split <;> exact ⟨rfl, rfl, rfl⟩

theorem Numbered.add {start : Nat} {st : ImportState} (h : Numbered stepId start st)
    (catalog : List Endpoint) (index : Nat) (raw : Value) :
    Numbered stepId start (st.add catalog stepId index raw) := by
  unfold ImportState.add
  split
  · exact ⟨h.created_eq, h.ids_eq, h.notRun⟩
  · next e endpoint isPlaceholder _ =>
    obtain ⟨hid, hstate, hresult⟩ := stepSoFar_eq e
      (e.toStep endpoint isPlaceholder (Step.ids st.steps) (stepId st.created))
    constructor
    · simp only [List.length_append, List.length_singleton, h.created_eq]
      omega
    · have hlast : (e.stepSoFar (e.toStep endpoint isPlaceholder (Step.ids st.steps)
          (stepId st.created))).1.id = stepId (start + st.steps.length) := by
        rw [hid, ← h.created_eq]
        rfl
      rw [ids_concat, hlast, List.length_append, List.length_singleton, List.range_succ,
        List.map_append, ← h.ids_eq]
      rfl
    · intro x hx
      rcases List.mem_append.mp hx with hx | hx
      · exact h.notRun x hx
      · rw [List.mem_singleton.mp hx]
        exact ⟨hstate, hresult⟩

theorem Numbered.addAll {start : Nat} {st : ImportState} (h : Numbered stepId start st)
    (catalog : List Endpoint) (index : Nat) (entries : List Value) :
    Numbered stepId start (st.addAll catalog stepId index entries) := by
  induction entries generalizing st index with
  | nil => exact h
  | cons raw others ih =>
      have hnext := h.add catalog index raw
      rw [ImportState.addAll]
      split
      · exact hnext
      · exact ih hnext (index + 1)

end ImportState

/-! ## The entries that can be loaded -/

/-- An entry that can be loaded, with its endpoint. -/
structure LoadedEntry where
  /-- Its place in the document. -/
  index : Nat
  /-- The entry. -/
  entry : Entry
  /-- The endpoint that it calls. -/
  endpoint : Endpoint
  /-- Whether the catalog does not know the endpoint. -/
  isPlaceholder : Bool

namespace LoadedEntry

/-- An entry at a place of a document, if it can be loaded. -/
def ofValue? (catalog : List Endpoint) (raw : Value) (index : Nat) : Option LoadedEntry :=
  (Entry.ofValue? raw).bind fun e =>
    (e.endpoint? catalog index).map fun (endpoint, isPlaceholder) =>
      ⟨index, e, endpoint, isPlaceholder⟩

/-- The entries from a place on that can be loaded. -/
def listFrom (catalog : List Endpoint) (index : Nat) (entries : List Value) : List LoadedEntry :=
  (entries.zipIdx index).filterMap fun (raw, index) => ofValue? catalog raw index

/-- The step of an entry before which so many others have been loaded. -/
def step (l : LoadedEntry) (stepId : Nat → String) (start place : Nat) : Step :=
  l.entry.toStep l.endpoint l.isPlaceholder (idsFrom stepId start place) (stepId (start + place))

end LoadedEntry

/-! ## The endpoint of an entry -/

namespace Entry

variable {catalog : List Endpoint} {e e' : Entry} {endpoint : Endpoint} {index : Nat}

/-- Which endpoint of the catalog an entry has depends on its method and path. -/
theorem known?_congr (hmethod : Method.ofName? e'.method = Method.ofName? e.method)
    (hpath : e'.path = e.path) (catalog : List Endpoint) :
    e'.known? catalog = e.known? catalog := by
  rw [known?, known?, hmethod, hpath]

theorem known?_of_method {method : Method} (h : Method.ofName? e.method = some method) :
    e.known? catalog =
      catalog.reverse.find? fun known => known.method = method && known.path = e.path := by
  rw [known?, h]
  rfl

theorem known?_eq_some (h : e.known? catalog = some endpoint) :
    Method.ofName? e.method = some endpoint.method ∧ endpoint.path = e.path ∧
      endpoint ∈ catalog := by
  cases hmethod : Method.ofName? e.method with
  | none =>
      rw [known?, hmethod] at h
      cases h
  | some method =>
      rw [known?_of_method hmethod] at h
      have hsame := List.find?_some h
      simp only [Bool.and_eq_true, decide_eq_true_eq] at hsame
      exact ⟨by rw [hsame.1], hsame.2, List.mem_reverse.mp (List.mem_of_find?_eq_some h)⟩

theorem known?_eq_none_iff {method : Method} (h : Method.ofName? e.method = some method) :
    e.known? catalog = none ↔
      ∀ known ∈ catalog, known.method = method → known.path ≠ e.path := by
  rw [known?_of_method h, List.find?_eq_none]
  simp

/-- What stands in for an endpoint has the method and the path of the entry. -/
theorem placeholder?_eq_some (h : e.placeholder? index = some endpoint) :
    Method.ofName? e.method = some endpoint.method ∧ endpoint.path = e.path := by
  obtain ⟨method, hmethod, hmade⟩ := Option.bind_eq_some_iff.mp h
  cases hmade
  exact ⟨hmethod, rfl⟩

/-- An endpoint is of the catalog when it is no placeholder. -/
theorem endpoint?_eq_known_iff :
    e.endpoint? catalog index = some (endpoint, false) ↔ e.known? catalog = some endpoint := by
  rw [endpoint?]
  cases e.known? catalog <;> simp

/-- A placeholder stands in for an endpoint that the catalog does not have. -/
theorem endpoint?_eq_placeholder_iff :
    e.endpoint? catalog index = some (endpoint, true) ↔
      e.known? catalog = none ∧ e.placeholder? index = some endpoint := by
  rw [endpoint?]
  cases e.known? catalog <;> simp

/-- The endpoint of an entry has its method and its path. -/
theorem endpoint?_eq_some {isPlaceholder : Bool}
    (h : e.endpoint? catalog index = some (endpoint, isPlaceholder)) :
    Method.ofName? e.method = some endpoint.method ∧ endpoint.path = e.path := by
  cases isPlaceholder with
  | false =>
      obtain ⟨hmethod, hpath, -⟩ := known?_eq_some (endpoint?_eq_known_iff.mp h)
      exact ⟨hmethod, hpath⟩
  | true => exact placeholder?_eq_some (endpoint?_eq_placeholder_iff.mp h).2

/-- It is a placeholder when the catalog has none of this method and path. -/
theorem endpoint?_isPlaceholder_iff {isPlaceholder : Bool}
    (h : e.endpoint? catalog index = some (endpoint, isPlaceholder)) :
    isPlaceholder = true ↔ ∀ known ∈ catalog,
      known.method = endpoint.method → known.path ≠ endpoint.path := by
  obtain ⟨hmethod, hpath⟩ := endpoint?_eq_some h
  cases isPlaceholder with
  | false =>
      obtain ⟨-, -, hmem⟩ := known?_eq_some (endpoint?_eq_known_iff.mp h)
      exact iff_of_false Bool.false_ne_true fun hnone => hnone endpoint hmem rfl rfl
  | true =>
      rw [hpath]
      exact iff_of_true rfl
        ((known?_eq_none_iff hmethod).mp (endpoint?_eq_placeholder_iff.mp h).1)

/-- An entry has an endpoint when its method is one. -/
theorem exists_endpoint? {method : Method} (h : Method.ofName? e.method = some method)
    (catalog : List Endpoint) (index : Nat) :
    ∃ endpoint isPlaceholder, e.endpoint? catalog index = some (endpoint, isPlaceholder) ∧
      endpoint.method = method ∧ endpoint.path = e.path := by
  have hsome : ∃ found, e.endpoint? catalog index = some found := by
    rw [endpoint?, placeholder?, h]
    cases e.known? catalog with
    | none => exact ⟨_, rfl⟩
    | some known => exact ⟨_, rfl⟩
  obtain ⟨⟨endpoint, isPlaceholder⟩, hfound⟩ := hsome
  obtain ⟨hmethod, hpath⟩ := endpoint?_eq_some hfound
  rw [h] at hmethod
  exact ⟨endpoint, isPlaceholder, hfound, (Option.some.inj hmethod).symm, hpath⟩

end Entry

/-! ## Reading the references of an entry -/

/-- Whether every place that an entry refers to can be read. -/
structure Entry.Readable (e : Entry) : Prop where
  /-- Those in its parameters. -/
  parameters : ∀ s ∈ e.parameters.texts, Renaming.textProblem? s = none
  /-- Those in its bindings. -/
  mappings : Renaming.mappingsProblem? e.mappings = none
  /-- Those in the source of its iteration. -/
  source : ∀ i, e.iteration = some i → Renaming.expressionProblem? i.source = none

/-- The references of an entry are all read, or the first problem is reported. -/
theorem Entry.stepSoFar_eq_none_iff (e : Entry) (x : Step) :
    (e.stepSoFar x).2 = none ↔ e.Readable := by
  have hsource : (e.iteration.bind fun i => Renaming.expressionProblem? i.source) = none ↔
      ∀ i, e.iteration = some i → Renaming.expressionProblem? i.source = none :=
    Option.bind_eq_none_iff
  unfold Entry.stepSoFar
  split
  · next problem _ _ htexts =>
    refine ⟨fun h => absurd h nofun, fun h => ?_⟩
    rw [List.findSome?_eq_none_iff.mpr h.parameters] at htexts
    cases htexts
  · next problem _ htexts hmappings =>
    refine ⟨fun h => absurd h nofun, fun h => ?_⟩
    rw [h.mappings] at hmappings
    cases hmappings
  · next problem htexts hmappings hproblem =>
    refine ⟨fun h => absurd h nofun, fun h => ?_⟩
    rw [hsource.mpr h.source] at hproblem
    cases hproblem
  · next htexts hmappings hnone =>
    exact ⟨fun _ => ⟨List.findSome?_eq_none_iff.mp htexts, hmappings, hsource.mp hnone⟩,
      fun _ => rfl⟩

theorem Entry.stepSoFar_of_readable {e : Entry} (h : e.Readable) (x : Step) :
    (e.stepSoFar x) = (x, none) := by
  have hnone := (e.stepSoFar_eq_none_iff x).mpr h
  unfold Entry.stepSoFar at hnone ⊢
  split at hnone
  · cases hnone
  · cases hnone
  · cases hnone
  · rfl

namespace ImportState

variable {catalog : List Endpoint} {stepId : Nat → String} {start : Nat} {st : ImportState}

/-- One more entry is skipped, or its step is made as far as its references can be read. -/
theorem add_eq (catalog : List Endpoint) (stepId : Nat → String) (st : ImportState) (raw : Value)
    (index : Nat) :
    st.add catalog stepId index raw =
      match LoadedEntry.ofValue? catalog raw index with
      | none => { st with report := { st.report with skipped := st.report.skipped + 1 } }
      | some l =>
        let soFar := l.entry.stepSoFar
          (l.entry.toStep l.endpoint l.isPlaceholder (Step.ids st.steps) (stepId st.created))
        { steps := st.steps ++ [soFar.1]
          created := st.created + 1
          stopped := soFar.2
          report := { st.report with
            loaded := st.report.loaded + 1
            placeholders := st.report.placeholders + if l.isPlaceholder then 1 else 0 } } := by
  unfold ImportState.add LoadedEntry.ofValue?
  cases Entry.ofValue? raw with
  | none => rfl
  | some e =>
      cases hendpoint : e.endpoint? catalog index with
      | none => simp only [Option.bind_some, hendpoint, Option.map_none]
      | some found => simp only [Option.bind_some, hendpoint, Option.map_some]

/-- What the rest of an import adds when no reference stops it: the steps of the entries
that can be loaded, and a count of the others. -/
structure Completed (catalog : List Endpoint) (stepId : Nat → String) (start index : Nat)
    (entries : List Value) (before after : ImportState) : Prop where
  /-- Every reference of an entry that has been loaded can be read. -/
  readable : ∀ l ∈ LoadedEntry.listFrom catalog index entries, l.entry.Readable
  /-- The steps follow those from before. -/
  steps_eq : after.steps = before.steps ++ (LoadedEntry.listFrom catalog index entries).mapIdx
    fun place l => l.step stepId start (before.steps.length + place)
  /-- Every other entry has been skipped. -/
  skipped_eq : after.report.skipped + (LoadedEntry.listFrom catalog index entries).length =
    before.report.skipped + entries.length

theorem listFrom_cons (catalog : List Endpoint) (raw : Value) (entries : List Value)
    (index : Nat) :
    LoadedEntry.listFrom catalog index (raw :: entries) =
      match LoadedEntry.ofValue? catalog raw index with
      | none => LoadedEntry.listFrom catalog (index + 1) entries
      | some l => l :: LoadedEntry.listFrom catalog (index + 1) entries := by
  simp only [LoadedEntry.listFrom, List.zipIdx_cons, List.filterMap_cons]
  cases LoadedEntry.ofValue? catalog raw index <;> rfl

theorem idsFrom_of_numbered (hst : Numbered stepId start st) :
    Step.ids st.steps = idsFrom stepId start st.steps.length ∧
      stepId st.created = stepId (start + st.steps.length) :=
  ⟨hst.ids_eq, by rw [hst.created_eq]⟩

namespace Completed

variable {index : Nat} {raw : Value} {entries : List Value} {after : ImportState}

/-- An entry that is skipped is one more of those that leave no step. -/
theorem skipped (hload : LoadedEntry.ofValue? catalog raw index = none)
    (h : Completed catalog stepId start (index + 1) entries (st.add catalog stepId index raw)
      after) : Completed catalog stepId start index (raw :: entries) st after := by
  have hadd := add_eq catalog stepId st raw index
  have hlist := listFrom_cons catalog raw entries index
  rw [hload] at hadd hlist
  obtain ⟨hreadable, hsteps, hskipped⟩ := h
  rw [hadd] at hsteps hskipped
  refine ⟨?_, ?_, ?_⟩
  · rw [hlist]
    exact hreadable
  · rw [hlist]
    exact hsteps
  · rw [hlist, hskipped, List.length_cons]
    dsimp only
    omega

/-- The step of an entry comes before those of the entries behind it. -/
theorem loaded (hst : Numbered stepId start st) {l : LoadedEntry}
    (hload : LoadedEntry.ofValue? catalog raw index = some l) (hl : l.entry.Readable)
    (h : Completed catalog stepId start (index + 1) entries (st.add catalog stepId index raw)
      after) : Completed catalog stepId start index (raw :: entries) st after := by
  obtain ⟨hids, hid⟩ := idsFrom_of_numbered hst
  have hadd := add_eq catalog stepId st raw index
  have hlist := listFrom_cons catalog raw entries index
  rw [hload] at hadd hlist
  dsimp only at hadd hlist
  rw [Entry.stepSoFar_of_readable hl, hids, hid] at hadd
  obtain ⟨hreadable, hsteps, hskipped⟩ := h
  rw [hadd] at hsteps hskipped
  refine ⟨?_, ?_, ?_⟩
  · rw [hlist]
    exact List.forall_mem_cons.mpr ⟨hl, hreadable⟩
  · rw [hlist, List.mapIdx_cons, hsteps, List.append_assoc]
    simp only [List.length_append, List.length_singleton, Nat.add_zero,
      List.singleton_append, Nat.add_assoc, Nat.add_comm 1]
    rfl
  · rw [hlist, List.length_cons, List.length_cons]
    dsimp only at hskipped
    omega

end Completed

/-- An import that is not stopped has come to the end. -/
theorem completed_of_not_stopped (hst : Numbered stepId start st) (index : Nat)
    (entries : List Value) (h : (st.addAll catalog stepId index entries).stopped = none) :
    Completed catalog stepId start index entries st (st.addAll catalog stepId index entries) := by
  induction entries generalizing st index with
  | nil => exact ⟨by simp [LoadedEntry.listFrom], by simp [LoadedEntry.listFrom, addAll],
      by simp [LoadedEntry.listFrom, addAll]⟩
  | cons raw entries ih =>
      rw [addAll] at h ⊢
      split at h
      · next hstopped =>
        rw [h] at hstopped
        cases hstopped
      · next hgo =>
        rw [if_neg hgo]
        have hrest := ih (hst.add catalog index raw) (index + 1) h
        cases hload : LoadedEntry.ofValue? catalog raw index with
        | none => exact hrest.skipped hload
        | some l =>
            -- the import goes on only if the references of the entry could be read
            have hl : l.entry.Readable := by
              rw [← l.entry.stepSoFar_eq_none_iff (l.entry.toStep l.endpoint l.isPlaceholder
                (Step.ids st.steps) (stepId st.created))]
              rw [add_eq, hload] at hgo
              simpa using hgo
            exact hrest.loaded hst hload hl

/-- When every reference of the entries that can be loaded can be read, nothing stops an
import. -/
theorem not_stopped_of_readable (hst : st.stopped = none) (index : Nat) (entries : List Value)
    (h : ∀ l ∈ LoadedEntry.listFrom catalog index entries, l.entry.Readable) :
    (st.addAll catalog stepId index entries).stopped = none := by
  induction entries generalizing st index with
  | nil => exact hst
  | cons raw entries ih =>
      have hlist := listFrom_cons catalog raw entries index
      have hnext : (st.add catalog stepId index raw).stopped = none := by
        rw [add_eq]
        cases hload : LoadedEntry.ofValue? catalog raw index with
        | none => exact hst
        | some l =>
            rw [hload] at hlist
            have hl : l.entry.Readable := h l (by rw [hlist]; exact List.mem_cons_self)
            dsimp only
            rw [Entry.stepSoFar_of_readable hl]
      rw [addAll, if_neg (by rw [hnext]; exact Bool.false_ne_true)]
      apply ih hnext (index + 1)
      intro l hl
      apply h l
      rw [hlist]
      split
      · exact hl
      · exact List.mem_cons_of_mem _ hl

end ImportState

namespace Session

/-- What an import makes of a session, whether or not all references could be read: steps
with the ids from a number on, and nothing that was there before but the address and the
token. -/
theorem importDocument_numbered {s s' : Session} {catalog : List Endpoint} {stepId : Nat → String}
    {start created : Nat} {document : Value} {report : Except NumberProblem ImportReport}
    (h : s.importDocument catalog stepId start document = .ok (report, s', created)) :
    s'.results = [] ∧
      ImportState.Numbered stepId start { steps := s'.steps, created := created } := by
  unfold importDocument at h
  split at h
  · next fields entries _ _ =>
    have hst := (ImportState.numbered_start stepId start).addAll catalog 0 entries
    dsimp only at h
    split at h
    · cases h
      exact ⟨rfl, hst.created_eq, hst.ids_eq, hst.notRun⟩
    · cases h
      exact ⟨rfl, hst.created_eq, hst.ids_eq, hst.notRun⟩
  · cases h

variable {s s' : Session} {catalog : List Endpoint} {stepId : Nat → String}
  {start created : Nat} {document : Value} {report : ImportReport}

/-- What an import makes of a session when all references can be read. -/
structure Imported (catalog : List Endpoint) (stepId : Nat → String) (start : Nat)
    (entries : List Value) (s' : Session) : Prop where
  /-- Every reference of an entry that has been loaded can be read. -/
  readable : ∀ l ∈ LoadedEntry.listFrom catalog 0 entries, l.entry.Readable
  /-- The steps are those of the entries that can be loaded, in order. -/
  steps_eq : s'.steps = (LoadedEntry.listFrom catalog 0 entries).mapIdx
    fun place l => l.step stepId start place
  /-- Nothing is stored. -/
  results_eq : s'.results = []

/-- An import that gives a report has made the steps of all entries that can be loaded, and
has taken over the transformations of the document. -/
theorem importDocument_eq_ok
    (h : s.importDocument catalog stepId start document = .ok (.ok report, s', created)) :
    ∃ fields entries, document.object? = some fields ∧
      (document.field? "sequence").bind Value.list? = some entries ∧
      Imported catalog stepId start entries s' ∧
      report.skipped + (LoadedEntry.listFrom catalog 0 entries).length = entries.length ∧
      s'.transformations = (documentTransformations fields).getD {} := by
  unfold importDocument at h
  split at h
  · next fields entries hfields hentries =>
    dsimp only at h
    split at h
    · cases h
    · next hstopped =>
      cases h
      have hdone := ImportState.completed_of_not_stopped
        (ImportState.numbered_start stepId start) 0 entries hstopped
      refine ⟨fields, entries, hfields, hentries, ⟨hdone.readable, ?_, rfl⟩, ?_, rfl⟩
      · simpa using hdone.steps_eq
      · simpa using hdone.skipped_eq
  · cases h

/-- An import gives a report when the document has a list of entries and all references in
those that can be loaded can be read. -/
theorem exists_importDocument {fields : Fields Value} {entries : List Value}
    (hfields : document.object? = some fields)
    (hentries : (document.field? "sequence").bind Value.list? = some entries)
    (hreadable : ∀ l ∈ LoadedEntry.listFrom catalog 0 entries, l.entry.Readable) (s : Session)
    (stepId : Nat → String) (start : Nat) :
    ∃ report s' created,
      s.importDocument catalog stepId start document = .ok (.ok report, s', created) := by
  have hstopped :
      (ImportState.addAll catalog stepId { created := start } 0 entries).stopped = none :=
    ImportState.not_stopped_of_readable rfl 0 entries hreadable
  unfold importDocument
  rw [hfields, hentries]
  dsimp only
  rw [hstopped]
  exact ⟨_, _, _, rfl⟩

/-- The report and the session of an import that gives a report. -/
def reported? :
    Except SequenceProblem (Except NumberProblem ImportReport × Session × Nat) →
      Option (ImportReport × Session)
  | .ok (.ok report, s', _) => some (report, s')
  | _ => none

theorem exists_of_reported?
    {result : Except SequenceProblem (Except NumberProblem ImportReport × Session × Nat)}
    (h : reported? result = some (report, s')) :
    ∃ created, result = .ok (.ok report, s', created) := by
  unfold reported? at h
  split at h
  · next created =>
    cases h
    exact ⟨created, rfl⟩
  · cases h

namespace Imported

variable {entries : List Value}

/-- The steps have the ids from a number on. -/
theorem stepIds_eq (h : Imported catalog stepId start entries s') :
    s'.stepIds = idsFrom stepId start (LoadedEntry.listFrom catalog 0 entries).length := by
  rw [Session.stepIds, Step.ids, h.steps_eq, idsFrom]
  apply List.ext_getElem
  · simp
  · intro n hn hm
    simp only [List.getElem_mapIdx, List.getElem_map, List.getElem_range]
    rfl

end Imported

end Session

end CallChain
