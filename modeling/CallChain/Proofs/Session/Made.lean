/-
# Steps that are made by hand

A step is added with parameters that have been checked, and edits replace single inputs of it by
values of any shape. `Step.Made` says how a step can come about; by induction on it, names are
distinct, and the inputs can be checked again if each value that was entered is one that its
kind of input takes. Every operation that edits a session keeps its steps made in this way.
-/

import CallChain.Proofs.Document.Reading
import CallChain.Proofs.Request.Building
import CallChain.Proofs.Session.Reached
import CallChain.Proofs.Value.Merged

namespace CallChain

variable {σ : Type}

/-! ## Inputs that can be checked -/

/-- The kinds of inputs of a step. -/
inductive InputKind where
  /-- A parameter of the path. -/
  | path
  /-- A parameter of the query. -/
  | query
  /-- The body. -/
  | body

/-- The name of a kind. -/
def InputKind.name : InputKind → String
  | path => "path"
  | query => "query"
  | body => "body"

namespace Inputs

/-- Whether a kind of input takes a value: texts, and numbers that can be written; a flag in
the query, and null for the body. -/
inductive Takes : InputKind → Value → Prop
  /-- A text. -/
  | text (kind : InputKind) (s : String) : Takes kind (.text s)
  /-- A whole number that is not too long. -/
  | int (kind : InputKind) {n : Int} (h : isWritable n = true) : Takes kind (.int n)
  /-- Any other number. -/
  | float (kind : InputKind) (x : Binary64) : Takes kind (.float x)
  /-- A flag. -/
  | flag (b : Bool) : Takes .query (.bool b)
  /-- No body. -/
  | none : Takes .body .null

/-- Whether a kind of input cannot have a value. -/
inductive Refuses : InputKind → Value → Prop
  /-- A list. -/
  | list (kind : InputKind) (items : List Value) : Refuses kind (.list items)
  /-- An object. -/
  | object (kind : InputKind) (fields : Fields Value) : Refuses kind (.object fields)
  /-- A flag outside the query. -/
  | flag {kind : InputKind} (h : kind ≠ .query) (b : Bool) : Refuses kind (.bool b)
  /-- Null other than for the body. -/
  | null {kind : InputKind} (h : kind ≠ .body) : Refuses kind .null

/-- Whether each input is one that its kind takes. -/
structure Fit (i : Inputs) : Prop where
  /-- The parameters of the path are. -/
  path : ∀ field ∈ i.path, Takes .path field.2
  /-- Those of the query are. -/
  query : ∀ field ∈ i.query, Takes .query field.2
  /-- The body is. -/
  body : Takes .body i.body

/-- Whether some input is one that its kind cannot have. -/
inductive Unfit (i : Inputs) : Prop
  /-- A parameter of the path is. -/
  | path {field : String × Value} (h : field ∈ i.path) (hvalue : Refuses .path field.2) : Unfit i
  /-- A parameter of the query is. -/
  | query {field : String × Value} (h : field ∈ i.query) (hvalue : Refuses .query field.2) :
    Unfit i
  /-- The body is. -/
  | body (h : Refuses .body i.body) : Unfit i

variable {v : Value}

theorem Takes.exists_asText? (h : Takes .path v) : ∃ s, v.asText? = some s := by
  cases h <;> exact ⟨_, rfl⟩

theorem Takes.exists_query (h : Takes .query v) : ∃ q, QueryValue.ofValue? v = some q := by
  cases h <;> exact ⟨_, rfl⟩

theorem Takes.exists_body (h : Takes .body v) :
    ∃ s, Value.optional? Value.asText? v = some s := by
  cases h <;> exact ⟨_, rfl⟩

theorem Refuses.asText?_eq_none (h : Refuses .path v) : v.asText? = none := by
  cases h <;> rfl

theorem Refuses.query_eq_none (h : Refuses .query v) : QueryValue.ofValue? v = none := by
  cases h with
  | flag h => exact absurd rfl h
  | _ => rfl

theorem Refuses.body_eq_none (h : Refuses .body v) :
    Value.optional? Value.asText? v = none := by
  cases h with
  | null h => exact absurd rfl h
  | _ => rfl

/-- Inputs that their kinds take can be checked. -/
theorem Fit.exists_parameters? {i : Inputs} (h : i.Fit) : ∃ p, i.parameters? = some p := by
  obtain ⟨path, hpath⟩ := Fields.exists_mapValues? fun field hfield =>
    (h.path field hfield).exists_asText?
  obtain ⟨query, hquery⟩ := Fields.exists_mapValues? fun field hfield =>
    (h.query field hfield).exists_query
  obtain ⟨body, hbody⟩ := h.body.exists_body
  exact ⟨⟨path, query, body⟩, by rw [parameters?, hpath, hquery, hbody]; rfl⟩

/-- With one that its kind cannot have they cannot. -/
theorem Unfit.parameters?_eq_none {i : Inputs} (h : i.Unfit) : i.parameters? = none := by
  cases hp : i.parameters? with
  | none => rfl
  | some p =>
      obtain ⟨hpath, hquery, hbody⟩ := Builder.parts_of_parameters? hp
      cases h with
      | path h hvalue =>
          rw [Fields.mapValues?_eq_none h hvalue.asText?_eq_none] at hpath
          cases hpath
      | query h hvalue =>
          rw [Fields.mapValues?_eq_none h hvalue.query_eq_none] at hquery
          cases hquery
      | body h =>
          rw [h.body_eq_none] at hbody
          cases hbody

end Inputs

/-! ## How a step comes about -/

namespace Step

/-- How a step comes about, when the values that inputs are replaced by are allowed ones. -/
inductive Made (allowed : InputKind → Value → Prop) : Step → Prop
  /-- It is added with parameters that have been checked. -/
  | added {x : Step} {p : Parameters} (hinputs : x.inputs = Inputs.ofParameters p)
    (hpath : p.path.keys.Nodup) (hquery : p.query.keys.Nodup)
    (hmappings : x.mappings.keys.Nodup) : Made allowed x
  /-- A parameter of the path is replaced. -/
  | path {x : Step} (h : Made allowed x) (name : String) {v : Value} (hv : allowed .path v) :
    Made allowed { x with inputs := { x.inputs with path := x.inputs.path.set name v } }
  /-- A parameter of the query is replaced. -/
  | query {x : Step} (h : Made allowed x) (name : String) {v : Value} (hv : allowed .query v) :
    Made allowed { x with inputs := { x.inputs with query := x.inputs.query.set name v } }
  /-- A parameter of the query is replaced by a text, without the blanks around it. -/
  | trimmed {x : Step} (h : Made allowed x) (name s : String) : Made allowed
      { x with inputs := { x.inputs with query := x.inputs.query.set name (.text s) } }
  /-- A parameter is taken out of the query. -/
  | blank {x : Step} (h : Made allowed x) (name : String) :
    Made allowed { x with inputs := { x.inputs with query := x.inputs.query.erase name } }
  /-- The body is replaced. -/
  | body {x : Step} (h : Made allowed x) {v : Value} (hv : allowed .body v) :
    Made allowed { x with inputs := { x.inputs with body := v } }
  /-- Texts are added to the query. -/
  | preset {x : Step} (h : Made allowed x) (texts : Fields String) : Made allowed
      { x with inputs := { x.inputs with query := x.inputs.query.merge (texts.mapValues .text) } }
  /-- A parameter is bound. -/
  | bound {x : Step} (h : Made allowed x) (name expression : String) :
    Made allowed { x with mappings := x.mappings.set name expression }
  /-- A binding is taken away. -/
  | unbound {x : Step} (h : Made allowed x) (name : String) :
    Made allowed { x with mappings := x.mappings.erase name }

/-- Whether the parameters and the bindings of a step have distinct names. -/
structure Keyed (x : Step) : Prop where
  /-- Those of the path have. -/
  path : x.inputs.path.Distinct
  /-- Those of the query have. -/
  query : x.inputs.query.Distinct
  /-- The bindings have. -/
  mappings : x.mappings.Distinct

variable {allowed : InputKind → Value → Prop} {x : Step}

/-- However a step comes about, its names are distinct. -/
theorem Made.keyed (h : x.Made allowed) : x.Keyed := by
  induction h with
  | added hinputs hpath hquery hmappings =>
      refine ⟨?_, ?_, hmappings⟩
      · rw [hinputs, Fields.Distinct, Inputs.ofParameters, Fields.keys_mapValues]
        exact hpath
      · rw [hinputs, Fields.Distinct, Inputs.ofParameters, Fields.keys_mapValues]
        exact hquery
  | path _ name _ ih => exact ⟨ih.path.set name _, ih.query, ih.mappings⟩
  | query _ name _ ih => exact ⟨ih.path, ih.query.set name _, ih.mappings⟩
  | trimmed _ name s ih => exact ⟨ih.path, ih.query.set name _, ih.mappings⟩
  | blank _ name ih => exact ⟨ih.path, ih.query.erase name, ih.mappings⟩
  | body _ _ ih => exact ⟨ih.path, ih.query, ih.mappings⟩
  | preset _ texts ih => exact ⟨ih.path, ih.query.merge _, ih.mappings⟩
  | bound _ name expression ih => exact ⟨ih.path, ih.query, ih.mappings.set name expression⟩
  | unbound _ name ih => exact ⟨ih.path, ih.query, ih.mappings.erase name⟩

theorem fit_ofParameters (p : Parameters) : (Inputs.ofParameters p).Fit where
  path field hfield := by
    obtain ⟨source, -, rfl⟩ := List.mem_map.mp hfield
    exact .text _ _
  query field hfield := by
    obtain ⟨source, -, rfl⟩ := List.mem_map.mp hfield
    rcases source with ⟨name, s | b⟩
    · exact .text _ s
    · exact .flag b
  body := by
    cases hbody : p.body with
    | none => simpa [Inputs.ofParameters, hbody] using Inputs.Takes.none
    | some s => simpa [Inputs.ofParameters, hbody] using Inputs.Takes.text .body s

theorem takes_set {kind : InputKind} {fields : Fields Value}
    (h : ∀ field ∈ fields, Inputs.Takes kind field.2) (name : String) {v : Value}
    (hv : Inputs.Takes kind v) : ∀ field ∈ fields.set name v, Inputs.Takes kind field.2 := by
  intro field hfield
  rcases Fields.mem_of_mem_set hfield with hold | rfl
  · exact h field hold
  · exact hv

/-- If the values that are entered are ones that their kinds take, all inputs are. -/
theorem Made.fit (hallowed : ∀ kind v, allowed kind v → Inputs.Takes kind v)
    (h : x.Made allowed) : x.inputs.Fit := by
  induction h with
  | added hinputs _ _ _ => exact hinputs ▸ fit_ofParameters _
  | path _ name hv ih => exact ⟨takes_set ih.path name (hallowed _ _ hv), ih.query, ih.body⟩
  | query _ name hv ih => exact ⟨ih.path, takes_set ih.query name (hallowed _ _ hv), ih.body⟩
  | trimmed _ name s ih => exact ⟨ih.path, takes_set ih.query name (.text _ s), ih.body⟩
  | blank _ name ih =>
      exact ⟨ih.path, fun field hfield => ih.query field (List.mem_filter.mp hfield).1, ih.body⟩
  | body _ hv ih => exact ⟨ih.path, ih.query, hallowed _ _ hv⟩
  | preset _ texts ih =>
      refine ⟨ih.path, fun field hfield => ?_, ih.body⟩
      rcases Fields.mem_or_mem_of_mem_merge hfield with hold | hadded
      · exact ih.query field hold
      · obtain ⟨source, -, rfl⟩ := List.mem_map.mp hadded
        exact .text _ _
  | bound _ _ _ ih => exact ih
  | unbound _ _ ih => exact ih

end Step

/-! ## Edits of a session -/

namespace Session

/-- Whether all steps of a session have come about by editing it. -/
def AllMade (allowed : InputKind → Value → Prop) (s : Session) : Prop :=
  ∀ x ∈ s.steps, x.Made allowed

variable {allowed : InputKind → Value → Prop} {s s' : Session}

theorem AllMade.append (h : s.AllMade allowed) {x : Step} (hx : x.Made allowed) :
    (s.append x).AllMade allowed := by
  intro y hy
  rcases List.mem_append.mp hy with hy | hy
  · exact h y hy
  · exact List.mem_singleton.mp hy ▸ hx

theorem AllMade.modify (h : s.AllMade allowed) (id : String) {f : Step → Step}
    (hf : ∀ x, x.Made allowed → (f x).Made allowed) : (s.modify id f).AllMade allowed := by
  intro y hy
  obtain ⟨x, hx, rfl⟩ := List.mem_map.mp hy
  split
  · exact hf x (h x hx)
  · exact h x hx

theorem AllMade.remove (h : s.AllMade allowed) {id : String} (hs : s.remove id = .ok s') :
    s'.AllMade allowed := by
  obtain ⟨x, -, hs⟩ := exists_ok_of_bind hs
  cases hs
  exact fun y hy => h y (List.mem_filter.mp hy).1

theorem AllMade.update (h : s.AllMade allowed) {id kind name : String} {v : Value}
    (hv : ∀ k : InputKind, kind = k.name → allowed k v)
    (hs : s.update id kind name v = .ok s') : s'.AllMade allowed := by
  obtain ⟨x, -, hs⟩ := exists_ok_of_bind hs
  split at hs
  · cases hs
    exact h.modify id fun x hx => .path hx name (hv .path rfl)
  · cases hs
    refine h.modify id fun x hx => ?_
    dsimp only
    split
    · split
      · exact .blank hx name
      · exact .trimmed hx name _
    · exact .query hx name (hv .query rfl)
  · cases hs
    exact h.modify id fun x hx => .body hx (hv .body rfl)
  · cases hs

theorem AllMade.applyPreset (h : s.AllMade allowed) {id name : String}
    (hs : s.applyPreset id name = .ok s') : s'.AllMade allowed := by
  obtain ⟨x, -, hs⟩ := exists_ok_of_bind hs
  split at hs
  · cases hs
  · cases hs
    exact h.modify id fun x hx => .preset hx _

theorem AllMade.bindParameter (h : s.AllMade allowed) {id name expression : String}
    (hs : s.bindParameter id name expression = .ok s') : s'.AllMade allowed := by
  obtain ⟨x, -, hs⟩ := exists_ok_of_bind hs
  cases hs
  refine h.modify id fun x hx => ?_
  split
  · exact .unbound hx name
  · exact .bound hx name expression

end Session

/-! ## Operations that edit a session -/

/-- Whether an operation edits the steps of a session by hand, with allowed values for their
inputs. Records are objects, whose names are distinct. -/
def Operation.Edits (allowed : InputKind → Value → Prop) : Operation → Prop
  | add _ parameters mappings _ =>
    (∀ v ∈ parameters, v.hasDistinctNames = true) ∧ mappings.hasDistinctNames = true
  | update _ kind _ v => ∀ k : InputKind, kind = k.name → allowed k v
  | bindTo _ _ _ | preset _ _ | remove _ => True
  | _ => False

/-- The worlds that editing leads an empty session to, whether an edit is made or refused. -/
inductive World.Edited (env : Environment σ) (allowed : InputKind → Value → Prop) :
    World σ → Prop
  /-- An empty session. -/
  | start (baseUrl token : String) (peer : σ) (created : Nat) :
    Edited env allowed { session := { baseUrl, token }, peer, created }
  /-- What an edit leaves. -/
  | edit {w : World σ} {op : Operation} (hop : op.Edits allowed) (h : Edited env allowed w) :
    Edited env allowed ((Run.performOperation env op).after w)

namespace Run

variable {α β : Type} {I : World σ → Prop} {env : Environment σ}
  {allowed : InputKind → Value → Prop}

theorem keeps_bind_checked {a? : Option α} {next : α → Run σ β}
    (h : ∀ a, a? = some a → Keeps I (next a)) : Keeps I (checked a? >>= next) := by
  cases a? with
  | none => exact keeps_throw _
  | some a => exact h a rfl

theorem keeps_bind_optionalRecord {P : α → Prop} {default : α} {read : Value → Option α}
    {v? : Option Value} {next : α → Run σ β} (hdefault : P default)
    (hread : ∀ v a, v? = some v → read v = some a → P a) (hnext : ∀ a, P a → Keeps I (next a)) :
    Keeps I (optionalRecord default read v? >>= next) := by
  cases v? with
  | none => exact hnext default hdefault
  | some v => exact keeps_bind_checked fun a ha => hnext a (hread v a rfl ha)

theorem keeps_edit {f : Session → Except Fault Session}
    (h : ∀ w s, I w → f w.session = .ok s → I (w.withSession s)) : Keeps I (edit f) := by
  constructor
  intro w hw
  rw [edit_eq]
  cases hs : f w.session with
  | ok s => exact h w s hw hs
  | error fault => exact hw

theorem keeps_stepNamed (name : StepName) : Keeps I (stepNamed name : Run σ String) :=
  keeps_get_bind fun _ => keeps_pure _

theorem keeps_editStep {name : StepName} {f : Session → String → Except Fault Session}
    (h : ∀ id w s, I w → f w.session id = .ok s → I (w.withSession s)) :
    Keeps I (editStep name f) :=
  keeps_bind (keeps_stepNamed name) fun id =>
    keeps_bind (keeps_edit (h id)) fun _ => keeps_ofExcept _

/-- An edit leaves only steps that have come about by editing. -/
theorem keeps_allMade (inner : Operation → Run σ Answer) {op : Operation}
    (hop : op.Edits allowed) :
    Keeps (fun w => w.session.AllMade allowed) (perform env inner op) := by
  cases op with
  | add endpoint parameters mappings iteration =>
      obtain ⟨hparameters, hmappings⟩ := hop
      refine keeps_bind (keeps_checked _) fun endpoint => ?_
      refine keeps_bind_optionalRecord (P := fun p : Parameters =>
        p.path.keys.Nodup ∧ p.query.keys.Nodup) ⟨List.nodup_nil, List.nodup_nil⟩
        (fun v p hv => Parameters.keys_nodup_of_ofValue? (hparameters v hv)) fun p hp => ?_
      refine keeps_bind (keeps_optionalRecord _ _ _) fun iteration => ?_
      refine keeps_bind ⟨fun _ hw => hw⟩ fun id => ?_
      refine keeps_bind_checked fun bindings hbindings => ?_
      refine keeps_bind (keeps_edit fun w s hw hs => ?_) fun _ => keeps_pure _
      cases hs
      exact hw.append (.added rfl hp.1 hp.2 (Value.keys_nodup_of_fieldsOf? hmappings hbindings))
  | remove name =>
      refine keeps_bind (keeps_stepNamed name) fun id => ?_
      exact keeps_bind (keeps_edit fun w s hw hs => hw.remove hs) fun _ => keeps_pure _
  | update name kind parameter v =>
      exact keeps_bind (keeps_editStep fun id w s hw hs => hw.update hop hs)
        fun _ => keeps_pure _
  | preset name preset =>
      exact keeps_bind (keeps_editStep fun id w s hw hs => hw.applyPreset hs)
        fun _ => keeps_pure _
  | bindTo name parameter expression =>
      exact keeps_bind (keeps_editStep fun id w s hw hs => hw.bindParameter hs)
        fun _ => keeps_pure _
  | _ => exact hop.elim

end Run

/-- All steps of an edited session have come about by editing it. -/
theorem World.Edited.allMade {env : Environment σ} {allowed : InputKind → Value → Prop}
    {w : World σ} (h : World.Edited env allowed w) : w.session.AllMade allowed := by
  induction h with
  | start => exact fun x hx => absurd hx List.not_mem_nil
  | edit hop _ ih => exact (Run.keeps_allMade _ hop).after ih

end CallChain
