/-
# What a run of the command line writes

Once the steps of a sequence file have been run, a run shows what they have received, and writes
the records, a report and the sequence if it is asked to. Each of these is there when it has come
to its end, unless a file cannot be written or a text cannot be encoded: that escapes, as an
exception that nothing turns into a message.
-/

import CallChain.CommandLine.Perform
import CallChain.Proofs.Files.Writing

namespace CallChain

variable {σ α β : Type}

namespace CommandLine

/-- Whether a stop is an exception that nothing has turned into a message. -/
def Stop.Escapes : Stop → Prop
  | settings _ | document _ | file _ | fault _ => True
  | _ => False

theorem Stop.status_ne_zero (stop : Stop) : stop.status ≠ 0 := by
  cases stop <;> exact nofun

namespace Task

/-! ## One step after another -/

theorem exists_of_bind_eq_ok {task : Task σ α} {next : α → Task σ β} {b : β} {c after : Console σ}
    (h : (task >>= next) c = .ok b after) :
    ∃ a c', task c = .ok a c' ∧ next a c' = .ok b after := by
  simp only [bind, EStateM.bind] at h
  cases hresult : task c with
  | ok a c' =>
      rw [hresult] at h
      exact ⟨a, c', rfl, h⟩
  | error stop c' =>
      rw [hresult] at h
      cases h

theorem of_bind_eq_error {task : Task σ α} {next : α → Task σ β} {stop : Stop}
    {c after : Console σ} (h : (task >>= next) c = .error stop after) :
    task c = .error stop after ∨ ∃ a c', task c = .ok a c' ∧ next a c' = .error stop after := by
  simp only [bind, EStateM.bind] at h
  cases hresult : task c with
  | ok a c' =>
      rw [hresult] at h
      exact Or.inr ⟨a, c', rfl, h⟩
  | error stop c' =>
      rw [hresult] at h
      cases h
      exact Or.inl rfl

/-- Whether a task comes to its end, whatever the console. -/
def GoesOn (task : Task σ Unit) : Prop := ∀ c, ∃ after, task c = .ok () after

theorem GoesOn.bind {task next : Task σ Unit} (h : GoesOn task) (hnext : GoesOn next) :
    GoesOn (task >>= fun _ => next) := by
  intro c
  obtain ⟨c', hc'⟩ := h c
  obtain ⟨after, hafter⟩ := hnext c'
  refine ⟨after, ?_⟩
  simp only [Bind.bind, EStateM.bind, hc', hafter]

/-- A change of the files changes nothing else, and stops where it does not come to its end. -/
theorem ofChange_eq (change : Files × Option FileProblem) (c : Console σ) :
    ofChange change c = match change with
      | (files, none) => .ok () { c with files }
      | (files, some problem) => .error (.file problem) { c with files } := by
  rcases change with ⟨files, _ | problem⟩ <;> rfl

theorem escapes_of_ofChange {change : Files × Option FileProblem} {stop : Stop}
    {c after : Console σ} (h : ofChange change c = .error stop after) : stop.Escapes := by
  rw [ofChange_eq] at h
  split at h
  · cases h
  · cases h
    trivial

/-- What has been written is in the files then, and nothing else of the console has changed. -/
theorem of_writeFile_eq_ok {l : Location} {text : String} {u : Unit} {c after : Console σ}
    (h : writeFile l text c = .ok u after) :
    c.files.write l text = (after.files, none) ∧ after.lines = c.lines := by
  have hchange : ofChange (c.files.write l text) c = .ok u after := h
  rw [ofChange_eq] at hchange
  split at hchange
  · next hwrite =>
    cases hchange
    exact ⟨hwrite, rfl⟩
  · cases hchange

theorem escapes_of_writeFile {l : Location} {text : String} {stop : Stop} {c after : Console σ}
    (h : writeFile l text c = .error stop after) : stop.Escapes := by
  have hchange : ofChange (c.files.write l text) c = .error stop after := h
  exact escapes_of_ofChange hchange

/-- What is refused has no end of its own. -/
theorem not_refuseFile_eq_ok {l : Location} {fault : Fault} {a : α} {c after : Console σ} :
    refuseFile l fault c ≠ .ok a after := by
  intro h
  obtain ⟨v, c', -, h⟩ := exists_of_bind_eq_ok h
  obtain ⟨v', c'', -, h⟩ := exists_of_bind_eq_ok h
  cases h

theorem escapes_of_refuseFile {l : Location} {fault : Fault} {stop : Stop} {c after : Console σ}
    (h : (refuseFile l fault : Task σ α) c = .error stop after) : stop.Escapes := by
  obtain h | ⟨v, c', -, h⟩ := of_bind_eq_error h
  · cases h
  · obtain h | ⟨v', c'', -, h⟩ := of_bind_eq_error h
    · exact escapes_of_ofChange h
    · cases h
      trivial

end Task

namespace Host

/-! ## What is written after the steps have been run -/

/-- The session that a run keeps: it has the mappings that were made for the records it
writes. -/
def kept (request : RunRequest) (session : Session) : Session :=
  if request.output.isSome then
    { session with
      transformations :=
        outputTransformations request session (Step.finalRecords session.steps) }
  else session

/-- Whether everything has been written that a run asks for, of the session that its steps have
left: the records, unless the sequence is written to the same file after them, a report, and the
sequence. -/
structure Writes (host : Host σ) (request : RunRequest) (session : Session)
    (after : Console σ) : Prop where
  /-- The records are in their file. -/
  output : ∀ output, request.output = some output →
    (∀ target, request.saveTo = some target →
      after.files.resolve target ≠ after.files.resolve output) →
    (after.files.file output).map File.text = .ok (some (rowsText host.quotesReturn request
      (outputRows request (kept request session) (Step.finalRecords session.steps))))
  /-- The report is printed. -/
  report : request.report = true → Report.ofSteps host.now session.steps ∈ after.lines
  /-- The sequence is in its file. -/
  saved : ∀ target, request.saveTo = some target → ∃ document,
    (kept request session).document? host.now host.today (some request.file.stem) =
      some document ∧
    (after.files.file target).map File.text = .ok (some document.text)

variable {host : Host σ} {request : RunRequest} {session : Session} {c after : Console σ}

theorem of_writeRows_eq_ok {output : Location} {rows : List (Fields Value)} {u : Unit}
    (h : writeRows host request output rows c = .ok u after) :
    c.files.write output (rowsText host.quotesReturn request rows) = (after.files, none) ∧
      after.lines = c.lines := by
  unfold writeRows at h
  split at h
  · obtain ⟨v, c', -, h⟩ := Task.exists_of_bind_eq_ok h
    cases h
  · exact Task.of_writeFile_eq_ok h

theorem escapes_of_writeRows {output : Location} {rows : List (Fields Value)} {stop : Stop}
    (h : writeRows host request output rows c = .error stop after) : stop.Escapes := by
  unfold writeRows at h
  split at h
  · obtain h | ⟨u, c', -, h⟩ := Task.of_bind_eq_error h
    · exact Task.escapes_of_writeFile h
    · cases h
      trivial
  · exact Task.escapes_of_writeFile h

theorem of_writeOutput_eq_ok {written : Session}
    (h : writeOutput host request session (Step.finalRecords session.steps) c =
      .ok written after) :
    written = kept request session ∧ (∃ lines, after.lines = lines ++ c.lines) ∧
      (request.output = none → after.files = c.files) ∧
      ∀ output, request.output = some output →
        c.files.write output (rowsText host.quotesReturn request
          (outputRows request (kept request session) (Step.finalRecords session.steps))) =
            (after.files, none) := by
  unfold writeOutput at h
  cases houtput : request.output with
  | none =>
      rw [houtput] at h
      cases h
      exact ⟨by rw [kept, houtput]; rfl, ⟨[], rfl⟩, fun _ => rfl, nofun⟩
  | some output =>
      rw [houtput] at h
      have hkept : kept request session = { session with
          transformations :=
            outputTransformations request session (Step.finalRecords session.steps) } := by
        rw [kept, houtput]
        rfl
      obtain ⟨u, c', hwrite, h⟩ := Task.exists_of_bind_eq_ok h
      obtain ⟨hfiles, hlines⟩ := of_writeRows_eq_ok hwrite
      cases h
      refine ⟨hkept.symm, ⟨[_], congrArg _ hlines⟩, nofun, ?_⟩
      rintro _ ⟨⟩
      rw [hkept]
      exact hfiles

theorem of_saveSequence_eq_ok {u : Unit} (h : saveSequence host request session c = .ok u after) :
    (∃ lines, after.lines = lines ++ c.lines) ∧
      (request.saveTo = none → after.files = c.files) ∧
      ∀ target, request.saveTo = some target → ∃ document,
        session.document? host.now host.today (some request.file.stem) = some document ∧
        c.files.write target document.text = (after.files, none) := by
  unfold saveSequence at h
  cases htarget : request.saveTo with
  | none =>
      rw [htarget] at h
      cases h
      exact ⟨⟨[], rfl⟩, fun _ => rfl, nofun⟩
  | some target =>
      rw [htarget] at h
      cases hdocument : session.document? host.now host.today (some request.file.stem) with
      | none =>
          rw [hdocument] at h
          exact absurd h Task.not_refuseFile_eq_ok
      | some document =>
          rw [hdocument] at h
          cases hdump : document.dump host.isHalf with
          | error fault =>
              simp only [hdump] at h
              exact absurd h Task.not_refuseFile_eq_ok
          | ok text =>
              simp only [hdump] at h
              obtain ⟨-, rfl⟩ := SequenceDocument.dump_eq_ok_iff.mp hdump
              obtain ⟨u, c', hwrite, h⟩ := Task.exists_of_bind_eq_ok h
              obtain ⟨hfiles, hlines⟩ := Task.of_writeFile_eq_ok hwrite
              cases h
              refine ⟨⟨[_], congrArg _ hlines⟩, nofun, ?_⟩
              rintro _ ⟨⟩
              exact ⟨document, rfl, hfiles⟩

/-- The listing of a run only prints, and comes to its end. -/
theorem goesOn_showRun (request : RunRequest) (session : Session) :
    Task.GoesOn (showRun request session : Task σ Unit) := by
  have hprint : ∀ line, Task.GoesOn (Task.print line : Task σ Unit) := fun _ c => ⟨_, rfl⟩
  have hprintAll : ∀ lines, Task.GoesOn (Task.printAll lines : Task σ Unit) := by
    intro lines
    induction lines with
    | nil => exact fun c => ⟨c, rfl⟩
    | cons line lines ih => exact (hprint line).bind ih
  apply (hprintAll _).bind
  split
  · exact (hprint _).bind ((hprintAll _).bind ((hprint _).bind (hprintAll _)))
  · exact fun c => ⟨c, rfl⟩

theorem writes_of_writeRun {u : Unit} (h : writeRun host request session c = .ok u after) :
    Writes host request session after := by
  obtain ⟨written, c₁, houtput, h⟩ := Task.exists_of_bind_eq_ok h
  obtain ⟨rfl, -, hunwritten, hwritten⟩ := of_writeOutput_eq_ok houtput
  have hreport : ∃ c₂ : Console σ, c₂.files = c₁.files ∧
      (request.report = true → Report.ofSteps host.now session.steps ∈ c₂.lines) ∧
      saveSequence host request (kept request session) c₂ = .ok u after := by
    split at h
    · obtain ⟨v, c₂, hprint, h⟩ := Task.exists_of_bind_eq_ok h
      cases hprint
      exact ⟨{ c₁ with lines := Report.ofSteps host.now session.steps :: c₁.lines }, rfl,
        fun _ => List.mem_cons_self, h⟩
    · next hnone => exact ⟨c₁, rfl, fun hasked => absurd hasked hnone, h⟩
  obtain ⟨c₂, hfiles, hreport, hsave⟩ := hreport
  obtain ⟨⟨lines, hlines⟩, hunsaved, hsaved⟩ := of_saveSequence_eq_ok hsave
  have hheld : ∀ {fs fs' : Files} {l : Location} {text : String}, fs.write l text = (fs', none) →
      (fs'.file l).map File.text = .ok (some text) := by
    intro fs fs' l text hwrite
    obtain ⟨place, access, hresolve, hfind, -⟩ := Files.file_of_write hwrite
    rw [Files.file, hresolve]
    dsimp only
    rw [hfind]
    rfl
  constructor
  · intro output houtput hapart
    have hwrite := hwritten output houtput
    cases htarget : request.saveTo with
    | none =>
        rw [hunsaved htarget, hfiles]
        exact hheld hwrite
    | some target =>
        obtain ⟨document, -, hagain⟩ := hsaved target htarget
        obtain ⟨place, access, hresolve, hfind, -⟩ := Files.file_of_write hwrite
        obtain ⟨other, -, hother, -, hgrows⟩ := Files.file_of_write hagain
        rw [hfiles] at hgrows
        have hresolved := hgrows.resolve hresolve
        have hne : some other ≠ some place := by
          rintro ⟨⟩
          exact hapart target htarget (hother.trans hresolved.symm)
        rw [Files.file, hresolved]
        dsimp only
        rw [hgrows.find?_eq place hne, hfind]
        rfl
  · intro hasked
    rw [hlines]
    exact List.mem_append_right _ (hreport hasked)
  · intro target htarget
    obtain ⟨document, hdocument, hwrite⟩ := hsaved target htarget
    exact ⟨document, hdocument, hheld hwrite⟩

theorem escapes_of_writeOutput {records : List Value} {stop : Stop}
    (h : writeOutput host request session records c = .error stop after) : stop.Escapes := by
  unfold writeOutput at h
  cases houtput : request.output with
  | none =>
      rw [houtput] at h
      cases h
  | some output =>
      rw [houtput] at h
      obtain h | ⟨u, c', -, h⟩ := Task.of_bind_eq_error h
      · exact escapes_of_writeRows h
      · cases h

theorem escapes_of_saveSequence {stop : Stop}
    (h : saveSequence host request session c = .error stop after) : stop.Escapes := by
  unfold saveSequence at h
  cases htarget : request.saveTo with
  | none =>
      rw [htarget] at h
      cases h
  | some target =>
      rw [htarget] at h
      cases hdocument : session.document? host.now host.today (some request.file.stem) with
      | none =>
          rw [hdocument] at h
          exact Task.escapes_of_refuseFile h
      | some document =>
          rw [hdocument] at h
          cases hdump : document.dump host.isHalf with
          | error fault =>
              simp only [hdump] at h
              exact Task.escapes_of_refuseFile h
          | ok text =>
              simp only [hdump] at h
              obtain h | ⟨u, c', -, h⟩ := Task.of_bind_eq_error h
              · exact Task.escapes_of_writeFile h
              · cases h

theorem escapes_of_writeRun {stop : Stop}
    (h : writeRun host request session c = .error stop after) : stop.Escapes := by
  obtain h | ⟨written, c₁, -, h⟩ := Task.of_bind_eq_error h
  · exact escapes_of_writeOutput h
  · split at h
    · obtain h | ⟨u, c₂, -, h⟩ := Task.of_bind_eq_error h
      · cases h
      · exact escapes_of_saveSequence h
    · exact escapes_of_saveSequence h

/-- What is shown and written after a run is all there at its end, unless something escapes. -/
theorem afterRun_ends (host : Host σ) (request : RunRequest) (session : Session) (c : Console σ) :
    match afterRun host request session c with
    | .ok _ after => Writes host request session after
    | .error stop _ => stop.Escapes := by
  obtain ⟨c', hshow⟩ := goesOn_showRun request session c
  have hafter : afterRun host request session c = writeRun host request session c' := by
    simp only [afterRun, bind, EStateM.bind, hshow]
  rw [hafter]
  cases hwrite : writeRun host request session c' with
  | ok u after => exact writes_of_writeRun hwrite
  | error stop after => exact escapes_of_writeRun hwrite

end Host

end CommandLine

end CallChain
