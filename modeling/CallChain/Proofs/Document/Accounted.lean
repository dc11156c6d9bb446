/-
# Imports account for every entry

An import ends in one of three ways. A document without a list of entries is refused, and
the world stays as it is. Otherwise every entry is loaded or skipped and the report says
how many of each, unless a loaded entry refers to a place of too many digits. A report
means what it says: the counts are those of the steps, the steps are those of the entries
that can be loaded, and the placeholders are the steps that the catalog does not know.
-/

import CallChain.Proofs.Document.FixedPoint
import CallChain.Proofs.Session.Effects
import CallChain.Session.Perform

namespace CallChain

/-! ## Counts -/

namespace ImportState

variable {st : ImportState}

/-- Whether the counts of an import are those of the steps that it has made. -/
structure Counted (st : ImportState) : Prop where
  /-- Every step has been counted. -/
  loaded_eq : st.report.loaded = st.steps.length
  /-- So has every placeholder among them. -/
  placeholders_eq : st.report.placeholders = st.steps.countP (·.isPlaceholder)

theorem isPlaceholder_stepSoFar (e : Entry) (x : Step) :
    (e.stepSoFar x).1.isPlaceholder = x.isPlaceholder := by
  unfold Entry.stepSoFar
  split <;> rfl

theorem Counted.add (h : Counted st) (catalog : List Endpoint) (stepId : Nat → String)
    (index : Nat) (raw : Value) : Counted (st.add catalog stepId index raw) := by
  rw [add_eq]
  cases LoadedEntry.ofValue? catalog raw index with
  | none => exact ⟨h.loaded_eq, h.placeholders_eq⟩
  | some l =>
      have hflag := isPlaceholder_stepSoFar l.entry
        (l.entry.toStep l.endpoint l.isPlaceholder (Step.ids st.steps) (stepId st.created))
      constructor
      · simp only [List.length_append, List.length_singleton, h.loaded_eq]
      · simp only [List.countP_append, List.countP_singleton, hflag, h.placeholders_eq]
        rfl

theorem Counted.addAll (h : Counted st) (catalog : List Endpoint) (stepId : Nat → String)
    (index : Nat) (entries : List Value) : Counted (st.addAll catalog stepId index entries) := by
  induction entries generalizing st index with
  | nil => exact h
  | cons raw others ih =>
      have hnext := h.add catalog stepId index raw
      rw [ImportState.addAll]
      split
      · exact hnext
      · exact ih hnext (index + 1)

end ImportState

/-! ## Reports -/

theorem Method.name_of_ofName? {text : String} {m : Method} (h : ofName? text = some m) :
    m.name = Text.capital text := by
  simpa using List.find?_some h

namespace Session

variable {s s' : Session} {catalog : List Endpoint} {stepId : Nat → String}
  {start created : Nat} {document : Value} {fields : Fields Value} {entries : List Value}
  {report : ImportReport}

/-- Whether a report accounts for the entries of a document, of the given fields, that has
been imported into a session. -/
structure Accounts (catalog : List Endpoint) (stepId : Nat → String) (start : Nat)
    (fields : Fields Value) (entries : List Value) (report : ImportReport) (s s' : Session) :
    Prop where
  /-- Every entry has been loaded or skipped. -/
  entries_eq : report.loaded + report.skipped = entries.length
  /-- Every step is one that has been loaded. -/
  loaded_eq : report.loaded = s'.steps.length
  /-- The steps are those of the entries that can be loaded, in order. -/
  steps_eq : s'.steps = (LoadedEntry.listFrom catalog 0 entries).mapIdx
    fun place l => l.step stepId start place
  /-- Each has the method of its entry, in capital letters, and its path. -/
  endpoints : List.Forall₂ (fun x l => x.endpoint.method.name = Text.capital l.entry.method ∧
    x.endpoint.path = l.entry.path) s'.steps (LoadedEntry.listFrom catalog 0 entries)
  /-- Each placeholder has been counted. -/
  placeholders_eq : report.placeholders = s'.steps.countP (·.isPlaceholder)
  /-- The placeholders are the steps whose method and path the catalog does not have. -/
  isPlaceholder_iff : ∀ x ∈ s'.steps, x.isPlaceholder = true ↔ ∀ known ∈ catalog,
    known.method = x.endpoint.method → known.path ≠ x.endpoint.path
  /-- No step has been run. -/
  notRun : ∀ x ∈ s'.steps, x.state = .notRun ∧ x.result = none
  /-- The transformations are those of the document; none, if it has none that are well
  formed. No result is stored, and the address and the token stay. -/
  session_eq : s' = { s.clear with
    steps := s'.steps, transformations := (documentTransformations fields).getD {} }
  /-- Each transformation has been counted. -/
  transformations_eq : report.transformations = s'.transformations.count

theorem importDocument_counted
    (h : s.importDocument catalog stepId start document = .ok (.ok report, s', created)) :
    report.loaded = s'.steps.length ∧ report.placeholders = s'.steps.countP (·.isPlaceholder) ∧
      report.transformations = s'.transformations.count ∧
      s' = { s.clear with steps := s'.steps, transformations := s'.transformations } := by
  unfold importDocument at h
  split at h
  · next fields entries _ _ =>
    have hempty : ImportState.Counted { created := start } := ⟨rfl, rfl⟩
    have hcounted := hempty.addAll catalog stepId 0 entries
    dsimp only at h
    split at h
    · cases h
    · cases h
      refine ⟨hcounted.loaded_eq, hcounted.placeholders_eq, ?_, rfl⟩
      cases documentTransformations fields <;> rfl
  · cases h

theorem accounts_of_importDocument
    (h : s.importDocument catalog stepId start document = .ok (.ok report, s', created)) :
    ∃ fields entries, document.object? = some fields ∧
      (document.field? "sequence").bind Value.list? = some entries ∧
      Accounts catalog stepId start fields entries report s s' := by
  obtain ⟨fields, entries, hfields, hentries, himported, hskipped, htransformations⟩ :=
    importDocument_eq_ok h
  obtain ⟨hloaded, hplaceholders, hcount, hsession⟩ := importDocument_counted h
  refine ⟨fields, entries, hfields, hentries, ?_⟩
  have hsteps := himported.steps_eq
  have hendpoint : ∀ l ∈ LoadedEntry.listFrom catalog 0 entries,
      l.entry.endpoint? catalog l.index = some (l.endpoint, l.isPlaceholder) := by
    intro l hl
    obtain ⟨raw, -, -, hfound⟩ := exists_of_mem_listFrom hl
    exact hfound
  constructor
  · rw [hloaded, hsteps, List.length_mapIdx, Nat.add_comm, hskipped]
  · exact hloaded
  · exact hsteps
  · rw [hsteps, List.forall₂_iff_get]
    refine ⟨List.length_mapIdx, fun n hn hm => ?_⟩
    obtain ⟨hmethod, hpath⟩ := Entry.endpoint?_eq_some (hendpoint _ (List.getElem_mem hm))
    simp only [List.get_eq_getElem, List.getElem_mapIdx]
    exact ⟨Method.name_of_ofName? hmethod, hpath⟩
  · exact hplaceholders
  · intro x hx
    rw [hsteps, List.mem_mapIdx] at hx
    obtain ⟨place, hplace, rfl⟩ := hx
    exact Entry.endpoint?_isPlaceholder_iff (hendpoint _ (List.getElem_mem hplace))
  · exact (importDocument_numbered h).2.notRun
  · rw [← htransformations]
    exact hsession
  · exact hcount

/-- A document is refused exactly when it is no object with a list of entries. -/
theorem importDocument_eq_error_iff {problem : SequenceProblem} :
    s.importDocument catalog stepId start document = .error problem ↔
      problem = .noEntries ∧ (document.field? "sequence").bind Value.list? = none := by
  unfold importDocument
  split
  · next fields entries hfields hentries =>
    rw [hentries]
    refine iff_of_false ?_ (by simp)
    dsimp only
    split <;> simp
  · next hnone =>
    have hlist : (document.field? "sequence").bind Value.list? = none := by
      cases hobject : document.object? with
      | none => rw [Value.field?, hobject]; rfl
      | some fields =>
          rw [Option.eq_none_iff_forall_ne_some]
          exact fun entries hentries => hnone fields entries hobject hentries
    simp [hlist, eq_comm]

/-- An import that is stopped has come to an entry with a place of too many digits. -/
theorem exists_not_readable_of_stopped {problem : NumberProblem}
    (h : s.importDocument catalog stepId start document = .ok (.error problem, s', created)) :
    ∃ fields entries, document.object? = some fields ∧
      (document.field? "sequence").bind Value.list? = some entries ∧
      ∃ l ∈ LoadedEntry.listFrom catalog 0 entries, ¬ l.entry.Readable := by
  have hlist : (document.field? "sequence").bind Value.list? ≠ none := by
    intro hnone
    rw [importDocument_eq_error_iff.mpr ⟨rfl, hnone⟩] at h
    cases h
  obtain ⟨entries, hentries⟩ := Option.ne_none_iff_exists'.mp hlist
  obtain ⟨v, hv, -⟩ := Option.bind_eq_some_iff.mp hentries
  obtain ⟨fields, hfields, -⟩ := Option.bind_eq_some_iff.mp hv
  refine ⟨fields, entries, hfields, hentries, ?_⟩
  by_contra hnone
  have hall : ∀ l ∈ LoadedEntry.listFrom catalog 0 entries, l.entry.Readable :=
    fun l hl => not_not.mp fun hnot => hnone ⟨l, hl, hnot⟩
  obtain ⟨report, s'', created', hreported⟩ :=
    exists_importDocument hfields hentries hall s stepId start
  rw [hreported] at h
  cases h

end Session

namespace Run

variable {σ : Type} {env : Environment σ} {document : Value} {w : World σ} {session : Session}
  {created : Nat}

theorem importValue_refused {problem : SequenceProblem}
    (h : w.session.importDocument env.catalog env.stepId w.created document = .error problem) :
    importValue env document w = .error (.badSequence problem) w := by
  rw [importValue, get_bind, h]
  rfl

theorem importValue_stopped {problem : NumberProblem}
    (h : w.session.importDocument env.catalog env.stepId w.created document =
      .ok (.error problem, session, created)) :
    importValue env document w =
      .error (.badNumber problem) { w.withSession session with created } := by
  rw [importValue, get_bind, h]
  rfl

theorem importValue_reported {report : ImportReport}
    (h : w.session.importDocument env.catalog env.stepId w.created document =
      .ok (.ok report, session, created)) :
    importValue env document w = .ok (.imported report session.steps session.transformations)
      { w.withSession session with created } := by
  rw [importValue, get_bind, h]
  rfl

/-- An import is refused, reports on every entry, or is stopped by a place of too many
digits. It is refused exactly when the document is no object with a list of entries, and
then nothing in the world changes. -/
theorem importValue_accounts (env : Environment σ) (document : Value) (w : World σ) :
    ((document.field? "sequence").bind Value.list? = none ∧
      importValue env document w = .error (.badSequence .noEntries) w) ∨
    ∃ fields entries, document.object? = some fields ∧
      (document.field? "sequence").bind Value.list? = some entries ∧
      (((∀ l ∈ LoadedEntry.listFrom env.catalog 0 entries, l.entry.Readable) ∧
          ∃ report w', importValue env document w =
              .ok (.imported report w'.session.steps w'.session.transformations) w' ∧
            Session.Accounts env.catalog env.stepId w.created fields entries report w.session
              w'.session) ∨
        ((∃ l ∈ LoadedEntry.listFrom env.catalog 0 entries, ¬ l.entry.Readable) ∧
          ∃ problem w', importValue env document w = .error (.badNumber problem) w')) := by
  cases hresult : w.session.importDocument env.catalog env.stepId w.created document with
  | error problem =>
      obtain ⟨rfl, hnone⟩ := Session.importDocument_eq_error_iff.mp hresult
      exact Or.inl ⟨hnone, importValue_refused hresult⟩
  | ok ends =>
      obtain ⟨report, session, created⟩ := ends
      right
      cases report with
      | ok report =>
          obtain ⟨fields, entries, hfields, hentries, haccounts⟩ :=
            Session.accounts_of_importDocument hresult
          obtain ⟨-, own, -, hown, himported, -⟩ := Session.importDocument_eq_ok hresult
          cases Option.some.inj (hentries.symm.trans hown)
          exact ⟨fields, entries, hfields, hentries, Or.inl ⟨himported.readable, report,
            { w.withSession session with created }, importValue_reported hresult, haccounts⟩⟩
      | error problem =>
          obtain ⟨fields, entries, hfields, hentries, hunreadable⟩ :=
            Session.exists_not_readable_of_stopped hresult
          exact ⟨fields, entries, hfields, hentries,
            Or.inr ⟨hunreadable, problem, _, importValue_stopped hresult⟩⟩

end Run

end CallChain
