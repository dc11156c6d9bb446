/-
# One run at a time

A step is run at most once at a time, and so is the sequence, however the requests of runs and
what is asked for in the meantime nest. What the session takes for in progress is what is in
progress: `World.Tallies` compares the two, and every operation hands it to the operations
inside it.
-/

import CallChain.Proofs.Session.Nested

namespace CallChain

variable {σ : Type} {env : Environment σ}

theorem Progress.mem_filterMap_step?_iff {stack : List Progress} {id : String} :
    id ∈ stack.filterMap step? ↔ .step id ∈ stack := by
  rw [List.mem_filterMap]
  constructor
  · rintro ⟨progress, hmem, hstep⟩
    cases progress with
    | step other =>
        cases hstep
        exact hmem
    | sequence => cases hstep
  · exact fun hmem => ⟨_, hmem, rfl⟩

namespace World

/-- Whether the session takes for in progress what is in progress, each once. -/
structure Tallies (stack : List Progress) (w : World σ) : Prop where
  /-- The steps that are in progress are marked, and no others. -/
  running_eq : w.running = stack.filterMap Progress.step?
  /-- The sequence is marked if it is in progress. -/
  sequence_iff : w.sequenceRunning = true ↔ .sequence ∈ stack
  /-- No run is in progress twice. -/
  nodup : stack.Nodup

theorem Edit.running_eq {withdraws : Bool} {w w' : World σ} (h : World.Edit env withdraws w w') :
    w'.running = w.running := by
  cases h <;> rfl

theorem Edit.sequenceRunning_eq {withdraws : Bool} {w w' : World σ}
    (h : World.Edit env withdraws w w') : w'.sequenceRunning = w.sequenceRunning := by
  cases h <;> rfl

namespace Tallies

variable {stack : List Progress} {w w' : World σ} {id : String}

/-- Nothing else of the world is compared. -/
theorem congr (h : w.Tallies stack) (hrunning : w'.running = w.running)
    (hsequence : w'.sequenceRunning = w.sequenceRunning) : w'.Tallies stack where
  running_eq := hrunning.trans h.running_eq
  sequence_iff := by
    rw [hsequence]
    exact h.sequence_iff
  nodup := h.nodup

theorem mem_running_iff (h : w.Tallies stack) : id ∈ w.running ↔ .step id ∈ stack := by
  rw [h.running_eq, Progress.mem_filterMap_step?_iff]

theorem isBusy_iff (h : w.Tallies stack) : w.isBusy = true ↔ stack ≠ [] := by
  rw [isBusy, Bool.or_eq_true, h.sequence_iff, h.running_eq]
  cases stack with
  | nil => simp
  | cons progress stack => cases progress <;> simp [Progress.step?]

theorem of_idle (h : w.isBusy = false) : w.Tallies [] := by
  rw [isBusy, Bool.or_eq_false_iff] at h
  exact ⟨by simpa using h.2, by simp [h.1], List.nodup_nil⟩

theorem begun (h : w.Tallies stack) (hid : id ∉ w.running) :
    (w.begun id).Tallies (.step id :: stack) where
  running_eq := congrArg (id :: ·) h.running_eq
  sequence_iff := by simpa [World.begun] using h.sequence_iff
  nodup := List.nodup_cons.mpr ⟨fun hmem => hid (h.mem_running_iff.mpr hmem), h.nodup⟩

theorem ended (h : w.Tallies (.step id :: stack)) : (w.ended id).Tallies stack where
  running_eq := by
    have hout := (List.nodup_cons.mp h.nodup).1
    have hrunning : w.running = id :: stack.filterMap Progress.step? := h.running_eq
    rw [World.ended, hrunning, List.filter_cons_of_neg (by simp), List.filter_eq_self]
    intro other hother
    rw [Progress.mem_filterMap_step?_iff] at hother
    simpa using fun heq : other = id => hout (heq ▸ hother)
  sequence_iff := by simpa [World.ended] using h.sequence_iff
  nodup := (List.nodup_cons.mp h.nodup).2

theorem entered (h : w.Tallies stack) (hfree : w.sequenceRunning = false) :
    World.Tallies (.sequence :: stack) { w with sequenceRunning := true } where
  running_eq := h.running_eq
  sequence_iff := by simp
  nodup := by
    refine List.nodup_cons.mpr ⟨fun hmem => ?_, h.nodup⟩
    rw [h.sequence_iff.mpr hmem] at hfree
    cases hfree

theorem left (h : w.Tallies (.sequence :: stack)) :
    World.Tallies stack { w with sequenceRunning := false } where
  running_eq := h.running_eq
  sequence_iff := by simpa using (List.nodup_cons.mp h.nodup).1
  nodup := (List.nodup_cons.mp h.nodup).2

/-- Every operation hands it to the operations inside it. -/
theorem invariant (env : Environment σ) :
    Run.Invariant env (fun _ => True) Tallies Tallies where
  talked h htalked := h.congr (by rw [htalked]) (by rw [htalked])
  numbered h := h.congr rfl rfl
  begun h hid _ := h.begun hid
  settled result h := (h.congr rfl rfl : (World.settled _ _ result).Tallies _).ended
  ended h := h.ended
  entered h hfree := h.entered hfree
  left h := h.left
  weaken h := h
  edited _ h hedit := h.congr hedit.running_eq hedit.sequenceRunning_eq

/-- What is in progress is not run a second time: it is refused, and nothing is sent or
changed. -/
theorem refused (h : w.Tallies stack) (inner : List Progress → Operation → Run σ Answer) :
    (∀ name : StepName, .step (name.resolve w.session) ∈ stack →
      Run.performWithin env inner stack (.runStep name) w =
        .error (.stepInProgress (name.resolve w.session)) w) ∧
    (.sequence ∈ stack →
      Run.performWithin env inner stack .runAll w = .error .sequenceInProgress w) := by
  constructor
  · intro name hmem
    have hname : (Run.stepNamed name : Run σ String) w = .ok (name.resolve w.session) w := rfl
    have hrefused : Run.runStep env (inner (.step (name.resolve w.session) :: stack))
        (name.resolve w.session) w = .error (.stepInProgress (name.resolve w.session)) w :=
      Run.runStep_busy _ (h.mem_running_iff.mpr hmem)
    rw [Run.performWithin, Run.bind_ok hname]
    simp only [bind, EStateM.bind, hrefused]
  · intro hmem
    have hrefused : Run.runAllWithin env inner stack w = .error .sequenceInProgress w := by
      rw [Run.runAllWithin, Run.get_bind, h.sequence_iff.mpr hmem]
      rfl
    rw [Run.performWithin]
    simp only [bind, EStateM.bind, hrefused]

end Tallies

/-- No step, and no sequence, is run twice at a time, however operations nest and whatever
faults their clients excuse: what the session takes for in progress is always what is in
progress, each once; that is refused without a request when it is asked for again; and once the
outermost operation has ended, in whichever way, nothing is in progress. -/
theorem runsOnce (env : Environment σ) (excuse : Fault → Option Answer) (depth : Nat)
    (op : Operation) {w : World σ} (hidle : w.isBusy = false) :
    Run.Always env excuse depth op w Tallies ∧
    (∀ (stack : List Progress) (v : World σ), v.Tallies stack →
      (v.isBusy = true ↔ stack ≠ []) ∧
      ∀ inner : List Progress → Operation → Run σ Answer,
        (∀ name : StepName, .step (name.resolve v.session) ∈ stack →
          Run.performWithin env inner stack (.runStep name) v =
            .error (.stepInProgress (name.resolve v.session)) v) ∧
        (.sequence ∈ stack →
          Run.performWithin env inner stack .runAll v = .error .sequenceInProgress v)) ∧
    ((Run.performNested env excuse depth [] op).after w).isBusy = false ∧
    ((Run.performAt env depth op).after w).isBusy = false := by
  have hstart := Tallies.of_idle hidle
  have hidle_after : ∀ excuse,
      ((Run.performNested env excuse depth [] op).after w).isBusy = false := by
    intro excuse
    have hafter : Tallies [] ((Run.performNested env excuse depth [] op).after w) :=
      (Tallies.invariant env).after env.client.asks_true excuse depth trivial hstart
    rw [← Bool.not_eq_true, hafter.isBusy_iff]
    exact fun hne => hne rfl
  have hplain := hidle_after fun _ => none
  rw [Run.performNested_eq] at hplain
  have halways : Run.Always env excuse depth op w Tallies :=
    (Tallies.invariant env).always env.client.asks_true excuse depth trivial hstart
  exact ⟨halways, fun stack v hv => ⟨hv.isBusy_iff, fun inner => hv.refused inner⟩,
    hidle_after excuse, hplain⟩

end World

/-- An environment whose client asks for the first step and for the sequence before it answers
a call with an empty object. -/
def Environment.asking : Environment Nat where
  client := ⟨fun calls _ =>
    (⟨[.runStep (.place 0), .runAll], .answered 200 "\x7b\x7d" none⟩, calls + 1)⟩
  connection := { baseUrl := defaultBaseUrl }
  builder := { baseUrl := defaultBaseUrl }
  stepId := Reference.countedId
  now := "2026-01-01T00:00:00"
  today := "2026-01-01"

/-- A session of one step. -/
def World.oneStep : World Nat where
  session :=
    { baseUrl := defaultBaseUrl
      steps := [{ id := "a", endpoint := { method := .get, path := "/users" } }] }
  peer := 0

theorem World.runsOnce_asking :
    World.oneStep.isBusy = false ∧
    Run.Always Environment.asking (fun _ => some .done) 3 .runAll World.oneStep World.Tallies ∧
    ((Run.performNested Environment.asking (fun _ => some .done) 3 [] .runAll).after
      World.oneStep).isBusy = false := by
  have hidle : World.oneStep.isBusy = false := rfl
  obtain ⟨halways, -, hafter, -⟩ :=
    World.runsOnce Environment.asking (fun _ => some .done) 3 .runAll hidle
  exact ⟨hidle, halways, hafter⟩

example : ((Run.performNested Environment.asking (fun _ => some .done) 3 [] .runAll).after
    World.oneStep).calls.length = 1 := by decide +kernel

end CallChain
