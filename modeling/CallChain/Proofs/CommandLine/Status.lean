/-
# The exit status of a run

The run of a sequence file exits with status 0 only if it has loaded steps and all of them have
been run by it, each with success. Unless something escapes it, it exits with that status or with
status 1, and in both cases only when everything has been written that was asked for.

A run looks at its results alone, of which there are fewer than steps if one has failed: that
no step is missing among them is what the run of the sequence guarantees.
-/

import CallChain.Proofs.CommandLine.Written
import CallChain.Proofs.Document.Import
import CallChain.Proofs.Reference.Naming
import CallChain.Proofs.Session.Edits
import CallChain.Proofs.Session.Succeeded

namespace CallChain

variable {σ : Type}

namespace CommandLine

namespace Host

variable {host : Host σ} {request : RunRequest} {session : Session} {c after : Console σ}

/-! ## What is loaded and run -/

theorem stepIds_withPreset {session' : Session} (h : withPreset request session = .ok session') :
    session'.stepIds = session.stepIds := by
  have hpreset : ∀ {s s' : Session} {id preset : String}, s.applyPreset id preset = .ok s' →
      s'.stepIds = s.stepIds := by
    intro s s' id preset h
    have hedit : Session.Edit false s s' := Session.edit_applyPreset h
    clear h
    cases hedit with
    | removed other hwithdraws => cases hwithdraws
    | cleared hwithdraws => cases hwithdraws
    | modified other hid hstate hresult => exact Session.stepIds_modify s other hid
    | transformed t => rfl
  have hall : ∀ (preset : String) (ids : List String) {s s' : Session},
      ids.foldlM (fun s id => s.applyPreset id preset) s = .ok s' → s'.stepIds = s.stepIds := by
    intro preset ids
    induction ids with
    | nil =>
        intro s s' h
        cases h
        rfl
    | cons id ids ih =>
        intro s s' h
        rw [List.foldlM_cons] at h
        cases hfirst : s.applyPreset id preset with
        | error fault =>
            rw [hfirst] at h
            cases h
        | ok next =>
            rw [hfirst] at h
            exact (ih h).trans (hpreset hfirst)
  unfold withPreset at h
  split at h
  · exact hall _ _ h
  · cases h
    rfl

/-- A sequence file that is imported is read, and its document is. -/
theorem exists_document {catalog : List Endpoint} {start : Session} {report : ImportReport}
    (h : importFile host request catalog start c = .ok (report, session) after) :
    ∃ document, start.importDocument catalog host.stepId c.created document =
      .ok (.ok report, session, after.created) := by
  obtain ⟨v, c', hget, h⟩ := Task.exists_of_bind_eq_ok h
  cases hget
  dsimp only at h
  generalize hsource : (do
    let text ← (c.files.read request.file).mapError Fault.ofUnreadable
    let document ← readSequence text
    (start.importDocument catalog host.stepId c.created document).mapError .badSequence :
      Except Fault (Except NumberProblem ImportReport × Session × Nat)) = imported at h
  rcases imported with fault | ⟨report? | report, s, created⟩
  · cases fault <;> cases h
  · cases h
  · cases h
    cases hread : c.files.read request.file with
    | error problem =>
        rw [hread] at hsource
        cases hsource
    | ok text =>
        rw [hread] at hsource
        cases hdocument : readSequence text with
        | error fault =>
            simp only [Except.mapError, bind, Except.bind, hdocument] at hsource
            cases hsource
        | ok document =>
            simp only [Except.mapError, bind, Except.bind, hdocument] at hsource
            refine ⟨document, ?_⟩
            split at hsource
            · cases hsource
            · next himport =>
              cases hsource
              exact himport

/-- The steps of a sequence file have ids of their own, and none of them has been run. -/
theorem of_importFile_eq_ok {catalog : List Endpoint} {start : Session} {report : ImportReport}
    (hids : Function.Injective host.stepId)
    (h : importFile host request catalog start c = .ok (report, session) after) :
    session.stepIds.Nodup ∧ ∀ x ∈ session.steps, x.state = .notRun := by
  obtain ⟨document, himport⟩ := exists_document h
  obtain ⟨-, hnumbered⟩ := Session.importDocument_numbered himport
  have hstepIds : session.stepIds = idsFrom host.stepId c.created session.steps.length :=
    hnumbered.ids_eq
  refine ⟨?_, fun x hx => (hnumbered.notRun x hx).1⟩
  rw [hstepIds]
  exact nodup_idsFrom hids _ _

/-- Whether a command line asks for the run of a sequence file, which loads the steps of a
session: for what it asks, what its operations read, and the console then. -/
structure Loads (host : Host σ) (line : List String) (c : Console σ) (request : RunRequest)
    (env : Environment σ) (session : Session) (c' : Console σ) : Prop where
  /-- The line asks for it, and the import comes to its end. -/
  imports : ∃ invocation settings, Invocation.read? line = some invocation ∧
    invocation.name = some "run" ∧
    Settings.load c.files host.home host.environment invocation.settingsFile host.yaml =
      .ok settings ∧
    command? c.files "run" invocation.arguments = some (.run request) ∧
    host.importSequence settings request c = .ok (env, session) c'
  /-- At least one step is loaded. -/
  nonempty : session.steps ≠ []

/-- Whether the steps that have been loaded are run one after another, with the preset that is
asked for, and what is left then. -/
def HasRun (request : RunRequest) (env : Environment σ) (session : Session) (c : Console σ)
    (w : World σ) : Prop :=
  ∃ prepared results, withPreset request session = .ok prepared ∧
    Run.runAll env (Run.performOperation env)
      { session := prepared, peer := c.peer, created := c.created } = .ok results w

/-- What an import loads. -/
structure Loaded (host : Host σ) (env : Environment σ) (session : Session) : Prop where
  /-- Calls go to the client. -/
  client_eq : env.client = host.client
  /-- Every step has an id of its own. -/
  nodup : session.stepIds.Nodup
  /-- No step has been run. -/
  notRun : ∀ x ∈ session.steps, x.state = .notRun

variable {settings : Settings} {env : Environment σ}

theorem loaded_of_importSequence (hids : Function.Injective host.stepId)
    (h : host.importSequence settings request c = .ok (env, session) after) :
    Loaded host env session := by
  unfold importSequence at h
  have hrest : ∀ {c : Console σ}, (do
      let token ← activeToken settings
      let catalog ← host.catalog settings request.source
      let imported ← importFile host request catalog { baseUrl := settings.baseUrl, token }
      Task.print imported.1.summary
      return (host.environmentOf settings token catalog, imported.2) : Task σ _) c =
        .ok (env, session) after → Loaded host env session := by
    intro c h
    obtain ⟨token, c₁, -, h⟩ := Task.exists_of_bind_eq_ok h
    obtain ⟨catalog, c₂, -, h⟩ := Task.exists_of_bind_eq_ok h
    obtain ⟨⟨report, loaded⟩, c₃, himport, h⟩ := Task.exists_of_bind_eq_ok h
    obtain ⟨u, c₄, -, h⟩ := Task.exists_of_bind_eq_ok h
    cases h
    obtain ⟨hnodup, hnotRun⟩ := of_importFile_eq_ok hids himport
    exact ⟨rfl, hnodup, hnotRun⟩
  split at h
  · cases h
  · exact hrest h

/-- A run without steps refuses. -/
theorem runFile_of_nil (hload : host.importSequence settings request c = .ok (env, session) after)
    (hempty : session.steps = []) : host.runFile settings request c =
      .error (.refused "The sequence has no steps to run.") after := by
  simp only [runFile, bind, EStateM.bind, hload, hempty]
  rfl

/-- A run whose steps are loaded is stopped by something that escapes, or comes to its end; then
it says last whether all of them have succeeded, when everything is written. -/
theorem runFile_ends (hclient : host.client.OnlyReplies) (hids : Function.Injective host.stepId)
    (hload : host.importSequence settings request c = .ok (env, session) after)
    (hnonempty : session.steps ≠ []) :
    (∃ stop c', host.runFile settings request c = .error stop c' ∧ stop.Escapes) ∨
      ∃ w c', HasRun request env session after w ∧ host.Writes request w.session c' ∧
        ((host.runFile settings request c = .ok () c' ∧
            ∀ x ∈ session.steps, w.Succeeded x.id) ∨
          (host.runFile settings request c = .error .stepFailed c' ∧
            ¬∀ x ∈ session.steps, w.Succeeded x.id)) := by
  obtain ⟨hclient_eq, hnodup, -⟩ := loaded_of_importSequence hids hload
  have hsteps : session.steps.isEmpty = false := by rwa [List.isEmpty_eq_false_iff]
  cases hprepared : withPreset request session with
  | error fault =>
      refine Or.inl ⟨.fault fault, after, ?_, trivial⟩
      simp only [runFile, bind, EStateM.bind, hload, hsteps, hprepared]
      rfl
  | ok prepared =>
      have hids_eq := stepIds_withPreset hprepared
      have hrun : host.runFile settings request c = (do
          let ended ← Task.ofRun prepared (Run.runAll env (Run.performOperation env))
          afterRun host request ended.2
          if ended.1.any (!·.isOk) then throw .stepFailed : Task σ Unit) after := by
        simp only [runFile, bind, EStateM.bind, hload, hsteps, hprepared]
        rfl
      let ran (w : World σ) : Console σ :=
        { after with peer := w.peer, created := w.created, events := w.events ++ after.events }
      cases hresults : Run.runAll env (Run.performOperation env)
          { session := prepared, peer := after.peer, created := after.created } with
      | error fault w =>
          refine Or.inl ⟨.fault fault, ran w, ?_, trivial⟩
          simp only [hrun, bind, EStateM.bind, Task.ofRun, hresults, ran]
      | ok results w =>
          have hrest : host.runFile settings request c = (do
              afterRun host request w.session
              if results.any (!·.isOk) then throw .stepFailed : Task σ Unit) (ran w) := by
            simp only [hrun, bind, EStateM.bind, Task.ofRun, hresults]
            rfl
          have hends := afterRun_ends host request w.session (ran w)
          cases hwritten : afterRun host request w.session (ran w) with
          | error stop c' =>
              rw [hwritten] at hends
              refine Or.inl ⟨stop, c', ?_, hends⟩
              simp only [hrest, bind, EStateM.bind, hwritten]
          | ok u c' =>
              rw [hwritten] at hends
              have hsucceeded : results.any (!·.isOk) = false ↔
                  ∀ x ∈ session.steps, w.Succeeded x.id := by
                rw [Run.any_failed_eq_false_iff _ (hclient_eq ▸ hclient)
                  (hids_eq ▸ hnodup : prepared.stepIds.Nodup) hresults]
                have hmap : ∀ s : Session, (∀ x ∈ s.steps, w.Succeeded x.id) ↔
                    ∀ id ∈ s.stepIds, w.Succeeded id := fun s => List.forall_mem_map.symm
                rw [hmap session, ← hids_eq]
                exact hmap prepared
              refine Or.inr ⟨w, c', ⟨prepared, results, hprepared, hresults⟩, hends, ?_⟩
              cases hany : results.any (!·.isOk) with
              | false =>
                  refine Or.inl ⟨?_, hsucceeded.mp hany⟩
                  simp only [hrest, bind, EStateM.bind, hwritten, hany]
                  rfl
              | true =>
                  refine Or.inr ⟨?_, fun hall => ?_⟩
                  · simp only [hrest, bind, EStateM.bind, hwritten, hany]
                    rfl
                  · rw [hsucceeded.mpr hall] at hany
                    cases hany

/-! ## The status of a command line -/

/-- The arguments of a run ask for a run, or for help. -/
theorem of_runCommand? {fs : Files} {arguments : List String} {command : Command}
    (h : runCommand? fs arguments = some command) :
    command = .help ∨ ∃ request, command = .run request := by
  unfold runCommand? withRules at h
  split at h
  · cases h
  · split at h
    · cases h
      exact Or.inl rfl
    · dsimp only at h
      split at h
      · split at h
        · simp only [bind, Option.bind_eq_some_iff] at h
          obtain ⟨file, -, asTable, -, preset, -, h⟩ := h
          cases h
          exact Or.inr ⟨_, rfl⟩
        · cases h
      · cases h

/-- The settings are read first, and then the arguments. -/
theorem performNamed_eq (host : Host σ) (invocation : Invocation) (name : String)
    (c : Console σ) : host.performNamed invocation name c =
      match Settings.load c.files host.home host.environment invocation.settingsFile host.yaml with
      | .error problem =>
        .error (if problem.isTold then .refused problem.message else .settings problem) c
      | .ok settings => match command? c.files name invocation.arguments with
        | none => .error .usage c
        | some command => host.perform settings command c := by
  have hget : host.performNamed invocation name c = (match Settings.load c.files host.home
      host.environment invocation.settingsFile host.yaml with
    | .error problem =>
      throw (if problem.isTold then .refused problem.message else .settings problem)
    | .ok settings => match command? c.files name invocation.arguments with
      | none => throw .usage
      | some command => host.perform settings command : Task σ Unit) c := rfl
  rw [hget]
  cases Settings.load c.files host.home host.environment invocation.settingsFile host.yaml with
  | error problem => rfl
  | ok settings => cases command? c.files name invocation.arguments <;> rfl

section Line

variable {line : List String} {invocation : Invocation}
  (hread : Invocation.read? line = some invocation) (hname : invocation.name = some "run")

include hread hname

theorem stop_run_eq :
    (host.run line c).1.stop = (finish (host.performNamed invocation "run" c)).1 ∧
      (host.run line c).2 = (finish (host.performNamed invocation "run" c)).2 := by
  rw [run, hread]
  dsimp only
  rw [hname]
  exact ⟨rfl, rfl⟩

/-- A command line that asks for a run is carried out as that run. -/
theorem stop_run_eq_runFile
    (hsettings : Settings.load c.files host.home host.environment invocation.settingsFile
      host.yaml = .ok settings)
    (hcommand : command? c.files "run" invocation.arguments = some (.run request)) :
    (host.run line c).1.stop = (finish (host.runFile settings request c)).1 ∧
      (host.run line c).2 = (finish (host.runFile settings request c)).2 := by
  have hperformed : host.performNamed invocation "run" c = host.runFile settings request c := by
    rw [performNamed_eq, hsettings]
    dsimp only
    rw [hcommand]
    rfl
  rw [← hperformed]
  exact stop_run_eq hread hname

/-- A command line with the name of a run that ends with status 0 asks for the run of a sequence
file, unless it asks for help. -/
theorem exists_request (hhelp : command? c.files "run" invocation.arguments ≠ some .help)
    (hstatus : (host.run line c).1.status = 0) : ∃ settings request,
      Settings.load c.files host.home host.environment invocation.settingsFile host.yaml =
      .ok settings ∧
      command? c.files "run" invocation.arguments = some (.run request) := by
  rw [Ending.status, (stop_run_eq hread hname).1, performNamed_eq] at hstatus
  cases hsettings : Settings.load c.files host.home host.environment invocation.settingsFile
      host.yaml with
  | error problem =>
      rw [hsettings] at hstatus
      exact absurd hstatus (Stop.status_ne_zero _)
  | ok settings =>
      rw [hsettings] at hstatus
      cases hcommand : command? c.files "run" invocation.arguments with
      | none =>
          rw [hcommand] at hstatus
          exact absurd hstatus (Stop.status_ne_zero .usage)
      | some command =>
          obtain rfl | ⟨request, rfl⟩ := of_runCommand? hcommand
          · exact absurd hcommand hhelp
          · exact ⟨settings, request, rfl, rfl⟩

end Line

/-- The run of a sequence file exits with status 0 only if at least one step has been loaded, and
each of them has been run by it with success. Whenever steps have been loaded and nothing
escapes, it exits with status 0 if all of them have succeeded and with status 1 otherwise, and in
both cases has written what it was asked to write of what the run of the steps has left. -/
theorem run_status (host : Host σ) (hids : Function.Injective host.stepId)
    (hclient : host.client.OnlyReplies) (line : List String) (c : Console σ) :
    (∀ invocation, Invocation.read? line = some invocation → invocation.name = some "run" →
      command? c.files "run" invocation.arguments ≠ some .help →
      (host.run line c).1.status = 0 → ∃ request env session c' w,
        host.Loads line c request env session c' ∧ HasRun request env session c' w ∧
        ∀ x ∈ session.steps, x.state = .notRun ∧ w.Succeeded x.id) ∧
    ∀ request env session c', host.Loads line c request env session c' →
      (∀ stop, (host.run line c).1.stop = some stop → ¬stop.Escapes) →
      ∃ w, HasRun request env session c' w ∧ host.Writes request w.session (host.run line c).2 ∧
        (((host.run line c).1.status = 0 ∧ ∀ x ∈ session.steps, w.Succeeded x.id) ∨
          ((host.run line c).1.status = 1 ∧ ¬∀ x ∈ session.steps, w.Succeeded x.id)) := by
  constructor
  · intro invocation hread hname hhelp hstatus
    obtain ⟨settings, request, hsettings, hcommand⟩ := exists_request hread hname hhelp hstatus
    have hstop := (stop_run_eq_runFile hread hname hsettings hcommand).1
    rw [Ending.status, hstop] at hstatus
    have hok : ∃ after, host.runFile settings request c = .ok () after := by
      cases hrun : host.runFile settings request c with
      | ok u after => exact ⟨after, rfl⟩
      | error stop after =>
          rw [hrun] at hstatus
          exact absurd hstatus (Stop.status_ne_zero stop)
    obtain ⟨after, hrun⟩ := hok
    obtain ⟨⟨env, session⟩, c', hload, -⟩ := Task.exists_of_bind_eq_ok hrun
    by_cases hempty : session.steps = []
    · rw [runFile_of_nil hload hempty] at hrun
      cases hrun
    · obtain ⟨stop, c'', hstopped, -⟩ | ⟨w, c'', hran, -, ⟨-, hall⟩ | ⟨hfailed, -⟩⟩ :=
        runFile_ends hclient hids hload hempty
      · rw [hrun] at hstopped
        cases hstopped
      · have hnotRun := (loaded_of_importSequence hids hload).notRun
        exact ⟨request, env, session, c', w,
          ⟨⟨invocation, settings, hread, hname, hsettings, hcommand, hload⟩, hempty⟩, hran,
          fun x hx => ⟨hnotRun x hx, hall x hx⟩⟩
      · rw [hrun] at hfailed
        cases hfailed
  · intro request env session c' hloads hescapes
    obtain ⟨invocation, settings, hread, hname, hsettings, hcommand, hload⟩ := hloads.imports
    obtain ⟨hstop, hafter⟩ := stop_run_eq_runFile hread hname hsettings hcommand
    rw [Ending.status]
    rw [hstop] at hescapes ⊢
    rw [hafter]
    obtain ⟨stop, c'', hrun, hescaped⟩ | ⟨w, c'', hran, hwrites, ⟨hrun, hall⟩ | ⟨hrun, hall⟩⟩ :=
      runFile_ends hclient hids hload hloads.nonempty
    · rw [hrun] at hescapes
      exact absurd hescaped (hescapes stop rfl)
    · rw [hrun]
      exact ⟨w, hran, hwrites, Or.inl ⟨rfl, hall⟩⟩
    · rw [hrun]
      exact ⟨w, hran, hwrites, Or.inr ⟨rfl, hall⟩⟩

/-- A host whose client answers every call with an empty object. -/
def answering : Host Nat where
  client := Environment.answering.client
  home := Location.ofText "/home"
  stepId := Reference.countedId
  now := "2026-01-01T00:00:00"
  today := "2026-01-01"

end Host

/-- A console with the file of a sequence of one step. -/
def Console.withSequence : Console Nat where
  files := { entries := [(Location.ofText "users.json",
    { text := "\x7b\"sequence\": [\x7b\"method\": \"GET\", \"path\": \"/users\"\x7d]\x7d" })] }
  peer := 0

/-- Whether a command asks for the run of a sequence file. -/
def Command.isRun : Command → Bool
  | run _ => true
  | _ => false

/-- The step is run with success, and its records, a report and the sequence are written. -/
theorem Host.run_status_withSequence :
    let line := ["run", "users.json", "-o", "out/rows.json", "--report", "--save", "copy.json"]
    Function.Injective Host.answering.stepId ∧ Host.answering.client.OnlyReplies ∧
    (Host.answering.run line Console.withSequence).1.status = 0 ∧
    ∃ request env session c' w,
      Host.answering.Loads line Console.withSequence request env session c' ∧
      HasRun request env session c' w ∧
      (∀ x ∈ session.steps, x.state = .notRun ∧ w.Succeeded x.id) ∧
      ∃ w, HasRun request env session c' w ∧
        Host.answering.Writes request w.session
          (Host.answering.run line Console.withSequence).2 := by
  intro line
  have hids : Function.Injective Host.answering.stepId := fun _ _ => Reference.countedId_injective
  have hclient : Host.answering.client.OnlyReplies := fun _ _ => rfl
  have hstatus : (Host.answering.run line Console.withSequence).1.status = 0 := by
    decide +kernel
  have hname : (Invocation.read? line).map Invocation.name = some (some "run") := by
    decide +kernel
  have hcommand : (Invocation.read? line).any (fun invocation =>
      (command? Console.withSequence.files "run" invocation.arguments).any
        Command.isRun) = true := by
    decide +kernel
  obtain ⟨hzero, hends⟩ := Host.run_status Host.answering hids hclient line Console.withSequence
  obtain ⟨invocation, hread, hrun⟩ := Option.map_eq_some_iff.mp hname
  rw [hread] at hcommand
  have hhelp : command? Console.withSequence.files "run" invocation.arguments ≠ some .help := by
    intro hhelp
    rw [Option.any_some, hhelp] at hcommand
    cases hcommand
  obtain ⟨request, env, session, c', w, hloads, hran, hall⟩ :=
    hzero invocation hread hrun hhelp hstatus
  have hstop : ∀ stop, (Host.answering.run line Console.withSequence).1.stop = some stop →
      ¬stop.Escapes := by
    intro stop hstop
    rw [Ending.status, hstop] at hstatus
    exact absurd hstatus (Stop.status_ne_zero stop)
  obtain ⟨v, hleft, hwrites, -⟩ := hends request env session c' hloads hstop
  exact ⟨hids, hclient, hstatus, request, env, session, c', w, hloads, hran, hall, v, hleft,
    hwrites⟩

end CommandLine

end CallChain
