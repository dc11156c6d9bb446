/-
# What an operation changes that sends nothing

Most operations of a session send no request: they read it, or they edit it. `World.Edit` lists
what becomes of the world then, once for all of them; whatever is to be known of such an
operation is read off that list. An operation that is refused has changed nothing, or has only
used up an id.
-/

import CallChain.Proofs.Document.Import
import CallChain.Proofs.Json.Reading
import CallChain.Proofs.Session.Effects

namespace CallChain

variable {σ : Type}

/-- Whether an operation sends requests. -/
def Operation.sends : Operation → Bool
  | runStep _ | runAll | runEndpoint _ _ | testConnection => true
  | _ => false

/-- Whether an operation may take steps out of the sequence. -/
def Operation.withdraws : Operation → Bool
  | remove _ | clear | importValue _ | importSample | load _ | roundTrip _ => true
  | _ => false

namespace Session

/-- The edits of a session, with those that may take steps out only on request. -/
inductive Edit (withdraws : Bool) (s : Session) : Session → Prop
  /-- A step is taken out, with what is stored for it. -/
  | removed (id : String) (h : withdraws = true) :
    Edit withdraws s { s with steps := s.steps.filter (·.id ≠ id), results := s.results.erase id }
  /-- All steps are taken out, with what is stored. -/
  | cleared (h : withdraws = true) : Edit withdraws s s.clear
  /-- A step is changed, but not its id and not its last run. -/
  | modified (id : String) {f : Step → Step} (hid : ∀ x, (f x).id = x.id)
    (hstate : ∀ x, (f x).state = x.state) (hresult : ∀ x, (f x).result = x.result) :
    Edit withdraws s (s.modify id f)
  /-- The transformations are replaced. -/
  | transformed (t : Transformations) : Edit withdraws s { s with transformations := t }

variable {withdraws : Bool} {s s' : Session}

theorem edit_remove {id : String} (h : s.remove id = .ok s') : Edit true s s' := by
  obtain ⟨x, -, h⟩ := exists_ok_of_bind h
  cases h
  exact .removed id rfl

theorem edit_update {id kind name : String} {value : Value}
    (h : s.update id kind name value = .ok s') : Edit withdraws s s' := by
  obtain ⟨x, -, h⟩ := exists_ok_of_bind h
  split at h
  case h_4 => cases h
  all_goals
    cases h
    exact .modified id (fun _ => rfl) (fun _ => rfl) fun _ => rfl

theorem edit_applyPreset {id name : String} (h : s.applyPreset id name = .ok s') :
    Edit withdraws s s' := by
  obtain ⟨x, -, h⟩ := exists_ok_of_bind h
  split at h
  · cases h
  · cases h
    exact .modified id (fun _ => rfl) (fun _ => rfl) fun _ => rfl

theorem edit_bindParameter {id name expression : String}
    (h : s.bindParameter id name expression = .ok s') : Edit withdraws s s' := by
  obtain ⟨x, -, h⟩ := exists_ok_of_bind h
  cases h
  exact .modified id (fun _ => rfl) (fun _ => rfl) fun _ => rfl

end Session

/-- What becomes of the world by an operation that sends nothing, with what may take steps out
only on request. -/
inductive World.Edit (env : Environment σ) (withdraws : Bool) (w : World σ) : World σ → Prop
  /-- Nothing. -/
  | kept : Edit env withdraws w w
  /-- An id is used up. -/
  | numbered : Edit env withdraws w { w with created := w.created + 1 }
  /-- The session is edited. -/
  | edited {s : Session} (h : w.session.Edit withdraws s) : Edit env withdraws w (w.withSession s)
  /-- A step with the next id is added, which has not been run. -/
  | added {x : Step} (hid : x.id = env.stepId w.created) (hstate : x.state = .notRun)
    (hresult : x.result = none) :
    Edit env withdraws w ({ w with created := w.created + 1 }.withSession (w.session.append x))
  /-- The steps of a document take the place of those of the session. -/
  | imported {document : Value} {report : Except NumberProblem ImportReport} {s : Session}
    {created : Nat} (hwithdraws : withdraws = true)
    (h : w.session.importDocument env.catalog env.stepId w.created document =
      .ok (report, s, created)) : Edit env withdraws w { w.withSession s with created }

namespace Run

variable {α : Type} {env : Environment σ} {withdraws : Bool} {w₀ : World σ}

/-- An edit takes place in the session as it is, or is refused. -/
theorem edit_eq (f : Session → Except Fault Session) (w : World σ) :
    edit f w = match f w.session with
      | .ok s => .ok s (w.withSession s)
      | .error fault => .error fault w := by
  rw [edit, get_bind]
  cases f w.session <;> rfl

/-- What only reads the world can come before an edit. -/
theorem Keeps.beforeEdit {run : Run σ α} (h : Keeps (· = w₀) run) :
    Ensures (· = w₀) run (fun _ w => w = w₀) (World.Edit env withdraws w₀) :=
  h.mono (fun _ hw => hw) (fun _ _ hw => hw) fun _ hw => hw ▸ .kept

/-- What only reads the world is an edit that changes nothing. -/
theorem Keeps.edit {run : Run σ α} (h : Keeps (· = w₀) run) :
    Ensures (· = w₀) run (fun _ => World.Edit env withdraws w₀) (World.Edit env withdraws w₀) :=
  h.mono (fun _ hw => hw) (fun _ _ hw => hw ▸ .kept) fun _ hw => hw ▸ .kept

theorem ensures_edit_of {f : Session → Except Fault Session}
    (h : ∀ s, f w₀.session = .ok s → w₀.session.Edit withdraws s) :
    Ensures (· = w₀) (edit f) (fun _ => World.Edit env withdraws w₀)
      (World.Edit env withdraws w₀) := by
  constructor
  rintro w rfl
  rw [edit_eq]
  cases hs : f w.session with
  | ok s => exact .edited (h s hs)
  | error fault => exact .kept

theorem ensures_editStep {name : StepName} {f : Session → String → Except Fault Session}
    (h : ∀ id s, f w₀.session id = .ok s → w₀.session.Edit withdraws s) :
    Ensures (· = w₀) (editStep name f) (fun _ => World.Edit env withdraws w₀)
      (World.Edit env withdraws w₀) := by
  apply ensures_bind (keeps_get_bind fun w => keeps_pure _).beforeEdit
  intro id
  exact ensures_bind (ensures_edit_of fun s => h id s) fun s => keeps_ofExcept _

theorem ensures_importValue (document : Value) :
    Ensures (· = w₀) (importValue env document) (fun _ => World.Edit env true w₀)
      (World.Edit env true w₀) := by
  apply ensures_get_bind
  intro w
  split
  · exact ensures_throw fun w' hw' => hw'.1.trans hw'.2 ▸ .kept
  · next report session created himport =>
    apply ensures_bind (Q := fun _ => World.Edit env true w₀)
    · apply ensures_set
      rintro w' ⟨-, rfl⟩
      exact .imported rfl himport
    · rintro ⟨⟩
      exact keeps_bind (keeps_ofExcept _) fun report => keeps_pure _

theorem ensures_importText (text : String) :
    Ensures (· = w₀) (importText env text) (fun _ => World.Edit env true w₀)
      (World.Edit env true w₀) :=
  ensures_bind (keeps_ofExcept _).beforeEdit fun document => ensures_importValue document

/-- The step that `add` appends has the next id; what is malformed about it may show only after
the id has been given out. -/
theorem ensures_add (inner : Operation → Run σ Answer) (endpoint : Value)
    (parameters : Option Value) (mappings : Value) (iteration : Option Value) :
    Ensures (· = w₀) (perform env inner (.add endpoint parameters mappings iteration))
      (fun _ => World.Edit env withdraws w₀) (World.Edit env withdraws w₀) := by
  apply ensures_bind (keeps_checked _).beforeEdit
  intro endpoint
  apply ensures_bind (keeps_optionalRecord _ _ _).beforeEdit
  intro parameters
  apply ensures_bind (keeps_optionalRecord _ _ _).beforeEdit
  intro iteration
  apply ensures_bind (Q := fun id w => id = env.stepId w₀.created ∧
    w = { w₀ with created := w₀.created + 1 }) (E := World.Edit env withdraws w₀)
  · constructor
    rintro w rfl
    exact ⟨rfl, rfl⟩
  · rintro id
    apply ensures_bind (ensures_checked (fun mappings w hw => hw) fun w hw => hw.2 ▸ .numbered)
    intro mappings
    constructor
    rintro w ⟨rfl, rfl⟩
    exact .added rfl rfl rfl

/-- What becomes of the world by an operation that sends nothing. -/
theorem ensures_perform_edit (env : Environment σ) (inner : Operation → Run σ Answer)
    {op : Operation} (hop : op.sends = false) :
    Ensures (· = w₀) (perform env inner op) (fun _ => World.Edit env op.withdraws w₀)
      (World.Edit env op.withdraws w₀) := by
  have hname : ∀ name : StepName, Keeps (· = w₀) (stepNamed name : Run σ String) :=
    fun name => keeps_get_bind fun w => keeps_pure _
  have htext : ∀ name, Keeps (· = w₀) (exportText env name) := fun name =>
    keeps_bind (keeps_get_bind fun w => keeps_checked _) fun d => keeps_ofExcept _
  cases op with
  | add endpoint parameters mappings iteration =>
      exact ensures_add inner endpoint parameters mappings iteration
  | find name =>
      exact (keeps_bind (hname name) fun id => keeps_get_bind fun w =>
        keeps_bind (keeps_ofExcept _) fun x => keeps_pure _).edit
  | place name =>
      exact (keeps_bind (hname name) fun id => keeps_get_bind fun w =>
        keeps_bind (keeps_ofExcept _) fun n => keeps_pure _).edit
  | remove name =>
      apply ensures_bind (hname name).beforeEdit
      intro id
      exact ensures_bind (ensures_edit_of fun s => Session.edit_remove) fun s => keeps_pure _
  | clear =>
      apply ensures_bind _ fun s => keeps_pure _
      apply ensures_edit_of
      rintro s ⟨⟩
      exact .cleared rfl
  | update name kind parameter value =>
      exact ensures_bind (ensures_editStep fun id s => Session.edit_update) fun x => keeps_pure _
  | preset name preset =>
      exact ensures_bind (ensures_editStep fun id s => Session.edit_applyPreset)
        fun x => keeps_pure _
  | bindTo name parameter expression =>
      exact ensures_bind (ensures_editStep fun id s => Session.edit_bindParameter)
        fun x => keeps_pure _
  | executed => exact (keeps_get_bind fun w => keeps_pure _).edit
  | resolve expression =>
      exact (keeps_get_bind fun w => keeps_bind (keeps_ofExcept _) fun v => keeps_pure _).edit
  | runStep name => cases hop
  | runAll => cases hop
  | runEndpoint endpoint parameters => cases hop
  | testConnection => cases hop
  | setTransformations value =>
      apply ensures_bind (keeps_checked _).beforeEdit
      intro transformations
      apply ensures_bind _ fun s => keeps_pure _
      apply ensures_edit_of
      rintro s ⟨⟩
      exact .transformed transformations
  | transform => exact (keeps_get_bind fun w => keeps_pure _).edit
  | grid => exact (keeps_get_bind fun w => keeps_pure _).edit
  | suggest before => exact (keeps_get_bind fun w => keeps_pure _).edit
  | report => exact (keeps_get_bind fun w => keeps_pure _).edit
  | exportText name => exact (keeps_bind (htext name) fun text => keeps_pure _).edit
  | importValue document => exact ensures_importValue document
  | importSample => exact ensures_importValue _
  | load content =>
      cases content with
      | error reason => exact ensures_throw fun _ hw => hw ▸ .kept
      | ok text => exact ensures_importText text
  | roundTrip name =>
      apply ensures_bind (htext name).beforeEdit
      intro text
      exact ensures_importText text

/-- What sends nothing has nothing happen inside it. -/
theorem perform_congr {inner inner' : Operation → Run σ Answer} {op : Operation}
    (hop : op.sends = false) : perform env inner' op = perform env inner op := by
  cases op with
  | runStep name => cases hop
  | runAll => cases hop
  | runEndpoint endpoint parameters => cases hop
  | testConnection => cases hop
  | load content => cases content <;> rw [perform, perform]
  | _ => rw [perform, perform]

end Run

end CallChain
