/-
# Reading the parts of a document

Each part of a document is an object with all of its members, so that reading it gives
the part back. A document is plain: it holds no numbers, and its objects have distinct
names when the parameters and bindings of its entries have. So its text can be read
again, and what is read is the document.
-/

import CallChain.Document.Transfer
import CallChain.Proofs.Json.RoundTrip
import Mathlib.Data.List.Basic
import Mathlib.Data.List.Defs

namespace CallChain

/-! ## Members and lists -/

theorem mapM_eq_some_map {α β : Type} {f : α → Option β} {g : α → β} {items : List α}
    (h : ∀ a ∈ items, f a = some (g a)) : items.mapM f = some (items.map g) := by
  induction items with
  | nil => rfl
  | cons a items ih =>
      rw [List.mapM_cons, h a List.mem_cons_self,
        ih fun other hother => h other (List.mem_cons_of_mem a hother)]
      rfl

theorem mapM_map_eq_some {α β : Type} (f : α → β) (read : β → Option α)
    (h : ∀ a, read (f a) = some a) (items : List α) : (items.map f).mapM read = some items := by
  have hread : items.mapM (read ∘ f) = some (items.map id) := mapM_eq_some_map fun a _ => h a
  rw [List.mapM_map, hread, List.map_id]

/-- Reading what is made of each item at its place. -/
theorem mapM_zipIdx_mapIdx {α β γ : Type} {f : β × Nat → Option γ} {make : Nat → α → β}
    {image : Nat → α → γ} {items : List α}
    (h : ∀ n item, items[n]? = some item → f (make n item, n) = some (image n item)) :
    (items.mapIdx make).zipIdx.mapM f = some (items.mapIdx image) := by
  have hmade : (items.mapIdx make).zipIdx =
      items.zipIdx.map fun pair => (make pair.2 pair.1, pair.2) := by
    apply List.ext_getElem?
    intro n
    simp only [List.getElem?_zipIdx, List.getElem?_mapIdx, List.getElem?_map, Option.map_map,
      Nat.zero_add]
    rfl
  rw [hmade, List.mapM_map, mapM_eq_some_map, List.mapIdx_eq_zipIdx_map]
  rintro ⟨item, n⟩ hmem
  exact h n item (List.mem_zipIdx_iff_getElem?.mp hmem)

/-- What is made of an item of a list is found at its place. -/
theorem exists_of_mapM {α β : Type} {f : α → Option β} {items : List α} {images : List β}
    (h : items.mapM f = some images) {n : Nat} {a : α} (ha : items[n]? = some a) :
    ∃ b, f a = some b ∧ images[n]? = some b := by
  induction items generalizing images n with
  | nil => cases ha
  | cons first items ih =>
      rw [List.mapM_cons] at h
      simp only [Option.bind_eq_bind, Option.bind_eq_some_iff, Option.pure_def,
        Option.some.injEq] at h
      obtain ⟨b, hb, rest, hrest, rfl⟩ := h
      cases n with
      | zero =>
          cases ha
          exact ⟨b, hb, rfl⟩
      | succ n => exact ih hrest ha

theorem length_of_mapM {α β : Type} {f : α → Option β} {items : List α} {images : List β}
    (h : items.mapM f = some images) : images.length = items.length := by
  induction items generalizing images with
  | nil =>
      cases h
      rfl
  | cons a items ih =>
      rw [List.mapM_cons] at h
      simp only [Option.bind_eq_bind, Option.bind_eq_some_iff, Option.pure_def,
        Option.some.injEq] at h
      obtain ⟨b, -, rest, hrest, rfl⟩ := h
      rw [List.length_cons, List.length_cons, ih hrest]

theorem Fields.mapValues?_mapValues {α β γ : Type} (f : α → β) (read : β → Option γ) (g : α → γ)
    (h : ∀ a, read (f a) = some (g a)) (fields : Fields α) :
    Fields.mapValues? read (fields.mapValues f) = some (fields.mapValues g) := by
  rw [mapValues?, mapValues, List.mapM_map]
  apply mapM_eq_some_map
  intro field _
  simp [h]

theorem Fields.mapValues_id {α : Type} (fields : Fields α) :
    fields.mapValues (fun a => a) = fields :=
  List.map_id fields

theorem Fields.keys_mapValues? {α β : Type} {read : α → Option β} {fields : Fields α}
    {image : Fields β} (h : Fields.mapValues? read fields = some image) :
    image.keys = fields.keys := by
  induction fields generalizing image with
  | nil =>
      cases h
      rfl
  | cons field fields ih =>
      simp only [mapValues?, List.mapM_cons, Option.bind_eq_bind, Option.bind_eq_some_iff,
        Option.map_eq_some_iff] at h
      obtain ⟨first, ⟨v, -, rfl⟩, others, hothers, hpure⟩ := h
      cases hpure
      have := ih hothers
      simp only [keys] at this
      simp [keys, this]

theorem Fields.exists_mapValues? {α β : Type} {read : α → Option β} {fields : Fields α}
    (h : ∀ field ∈ fields, ∃ b, read field.2 = some b) :
    ∃ image, Fields.mapValues? read fields = some image := by
  induction fields with
  | nil => exact ⟨[], rfl⟩
  | cons field fields ih =>
      obtain ⟨b, hb⟩ := h field List.mem_cons_self
      obtain ⟨image, himage⟩ := ih fun other hother => h other (List.mem_cons_of_mem _ hother)
      rw [mapValues?] at himage ⊢
      exact ⟨(field.1, b) :: image, by rw [List.mapM_cons, hb, himage]; rfl⟩

theorem Fields.mapValues?_eq_none {α β : Type} {read : α → Option β} {fields : Fields α}
    {field : String × α} (h : field ∈ fields) (hnone : read field.2 = none) :
    Fields.mapValues? read fields = none := by
  cases himage : Fields.mapValues? read fields with
  | none => rfl
  | some image =>
      obtain ⟨n, hn⟩ := List.mem_iff_getElem?.mp h
      obtain ⟨b, hb, -⟩ := exists_of_mapM himage hn
      rw [hnone] at hb
      cases hb

@[simp]
theorem Value.texts?_textList (texts : List String) : Value.texts? (textList texts) = some texts :=
  mapM_map_eq_some Value.text Value.text? (fun _ => rfl) texts

@[simp]
theorem Value.fieldsOf?_textObject (fields : Fields String) :
    Value.fieldsOf? Value.text? (textObject fields) = some fields := by
  have h := Fields.mapValues?_mapValues Value.text Value.text? (fun s => s) (fun _ => rfl) fields
  rw [Fields.mapValues_id] at h
  exact h

/-! ## The parts of a document -/

/-- Checked parameters are entered as they are and checked again. -/
@[simp]
theorem Inputs.parameters?_ofParameters (p : Parameters) :
    (Inputs.ofParameters p).parameters? = some p := by
  obtain ⟨path, query, body⟩ := p
  have hpath := Fields.mapValues?_mapValues Value.text Value.asText? (fun s => s) (fun _ => rfl)
    path
  have hquery := Fields.mapValues?_mapValues QueryValue.toValue QueryValue.ofValue? (fun q => q)
    QueryValue.ofValue?_toValue query
  rw [Fields.mapValues_id] at hpath hquery
  simp only [parameters?, ofParameters, hpath, hquery]
  cases body <;> rfl

@[simp]
theorem Parameters.ofValue?_toValue (p : Parameters) : Parameters.ofValue? p.toValue = some p := by
  obtain ⟨path, query, body⟩ := p
  have hpath := Fields.mapValues?_mapValues Value.text Value.asText? (fun s => s) (fun _ => rfl)
    path
  have hquery := Fields.mapValues?_mapValues QueryValue.toValue QueryValue.ofValue? (fun q => q)
    QueryValue.ofValue?_toValue query
  rw [Fields.mapValues_id] at hpath hquery
  have hmembers : Parameters.ofValue? (Parameters.toValue ⟨path, query, body⟩) =
      (Fields.mapValues? Value.asText? (path.mapValues .text)).bind fun path =>
        (Fields.mapValues? QueryValue.ofValue?
            (query.mapValues QueryValue.toValue)).bind fun query =>
          (Value.optional? Value.asText? ((body.map Value.text).getD .null)).bind fun body =>
            some ⟨path, query, body⟩ := rfl
  rw [hmembers, hpath, hquery]
  cases body <;> rfl

@[simp]
theorem Iteration.ofValue?_toValue (i : Iteration) : Iteration.ofValue? i.toValue = some i := rfl

@[simp]
theorem Transformations.ofValue?_toValue (t : Transformations) :
    Transformations.ofValue? t.toValue = some t := by
  obtain ⟨mappings, columns⟩ := t
  have hmappings := mapM_map_eq_some
    (fun m : FieldMapping =>
      Value.object [("sourceField", .text m.source), ("targetField", .text m.target)])
    FieldMapping.ofValue? (fun _ => rfl) mappings
  have hcolumns := mapM_map_eq_some
    (fun c : UnifiedColumn =>
      Value.object [("name", .text c.name), ("formatTemplate", .text c.template),
        ("sourceFields", textList c.sourceFields)])
    UnifiedColumn.ofValue? (fun _ => rfl) columns
  have hmembers : Transformations.ofValue? (Transformations.toValue ⟨mappings, columns⟩) =
      ((mappings.map fun m : FieldMapping => Value.object
          [("sourceField", .text m.source), ("targetField", .text m.target)]).mapM
            FieldMapping.ofValue?).bind fun mappings =>
        ((columns.map fun c : UnifiedColumn => Value.object
            [("name", .text c.name), ("formatTemplate", .text c.template),
              ("sourceFields", textList c.sourceFields)]).mapM
                UnifiedColumn.ofValue?).bind fun columns =>
          some ⟨mappings, columns⟩ := rfl
  rw [hmembers, hmappings, hcolumns]
  rfl

@[simp]
theorem Entry.ofValue?_toValue (e : Entry) : Entry.ofValue? e.toValue = some e := by
  obtain ⟨method, path, summary, description, tags, parameters, mappings, iteration⟩ := e
  have hmembers : Entry.ofValue? (Entry.toValue
        ⟨method, path, summary, description, tags, parameters, mappings, iteration⟩) =
      (Value.texts? (textList tags)).bind fun tags =>
        (Parameters.ofValue? parameters.toValue).bind fun parameters =>
          (Value.fieldsOf? Value.text? (textObject mappings)).bind fun mappings =>
            (Value.optional? Iteration.ofValue?
              ((iteration.map Iteration.toValue).getD .null)).bind fun iteration =>
                some ⟨method, path, summary, description, tags, parameters, mappings, iteration⟩ :=
    rfl
  rw [hmembers, Value.texts?_textList, Parameters.ofValue?_toValue, Value.fieldsOf?_textObject]
  cases iteration <;> rfl

/-! ## Distinct names -/

section Names

variable {fields : Fields Value}

theorem Value.hasDistinctNames_of_get? (h : Value.fieldsHaveDistinctNames fields = true)
    {name : String} {v : Value} (hv : fields.get? name = some v) : v.hasDistinctNames = true := by
  induction fields with
  | nil => cases hv
  | cons field fields ih =>
      obtain ⟨key, first⟩ := field
      simp only [Value.fieldsHaveDistinctNames, Bool.and_eq_true] at h
      rw [Fields.get?] at hv
      split at hv
      · cases hv
        exact h.1
      · exact ih h.2 hv

theorem Value.hasDistinctNames_of_mem {items : List Value}
    (h : Value.itemsHaveDistinctNames items = true) {v : Value} (hv : v ∈ items) :
    v.hasDistinctNames = true := by
  induction items with
  | nil => cases hv
  | cons item items ih =>
      simp only [Value.itemsHaveDistinctNames, Bool.and_eq_true] at h
      rcases List.mem_cons.mp hv with rfl | hv
      · exact h.1
      · exact ih h.2 hv

theorem Value.names_of_object {v : Value} (h : v.hasDistinctNames = true)
    (hfields : v.object? = some fields) :
    fields.keys.Nodup ∧ Value.fieldsHaveDistinctNames fields = true := by
  cases v with
  | object own =>
      cases hfields
      simpa [Value.hasDistinctNames] using h
  | _ => cases hfields

/-- What holds of the default of a member, and of what is read from values with distinct
names, holds of the member. -/
theorem Fields.member?_induction {α : Type} {P : α → Prop} {read : Value → Option α}
    {names : List String} {default a : α} (hnames : Value.fieldsHaveDistinctNames fields = true)
    (h : Fields.member? fields names default read = some a)
    (hread : ∀ v, v.hasDistinctNames = true → read v = some a → P a) (hdefault : P default) :
    P a := by
  unfold Fields.member? at h
  split at h
  · next v hfirst =>
    obtain ⟨name, -, hname⟩ := List.exists_of_findSome?_eq_some hfirst
    exact hread v (Value.hasDistinctNames_of_get? hnames hname) h
  · cases h
    exact hdefault

theorem Value.keys_nodup_of_fieldsOf? {α : Type} {read : Value → Option α} {v : Value}
    {image : Fields α} (hnames : v.hasDistinctNames = true)
    (h : Value.fieldsOf? read v = some image) : image.keys.Nodup := by
  obtain ⟨fields, hfields, hread⟩ := Option.bind_eq_some_iff.mp h
  rw [Fields.keys_mapValues? hread]
  exact (Value.names_of_object hnames hfields).1

end Names

/-- Whether the parameters and the bindings of an entry have distinct names. -/
structure Entry.Distinct (e : Entry) : Prop where
  /-- Those of the path. -/
  path : e.parameters.path.keys.Nodup
  /-- Those of the query. -/
  query : e.parameters.query.keys.Nodup
  /-- The bindings. -/
  mappings : e.mappings.keys.Nodup

theorem Parameters.keys_nodup_of_ofValue? {v : Value} {p : Parameters}
    (hnames : v.hasDistinctNames = true) (h : Parameters.ofValue? v = some p) :
    p.path.keys.Nodup ∧ p.query.keys.Nodup := by
  simp only [Parameters.ofValue?, Option.bind_eq_bind, Option.bind_eq_some_iff] at h
  obtain ⟨fields, hfields, path, hpath, query, hquery, body, -, hp⟩ := h
  cases hp
  have hinside := (Value.names_of_object hnames hfields).2
  exact ⟨Fields.member?_induction (P := fun image : Fields String => image.keys.Nodup) hinside hpath
      (fun v hv => Value.keys_nodup_of_fieldsOf? hv) List.nodup_nil,
    Fields.member?_induction (P := fun image : Fields QueryValue => image.keys.Nodup) hinside hquery
      (fun v hv => Value.keys_nodup_of_fieldsOf? hv) List.nodup_nil⟩

/-- An entry of a document with distinct names has distinct names. -/
theorem Entry.distinct_of_ofValue? {raw : Value} {e : Entry} (hnames : raw.hasDistinctNames = true)
    (h : Entry.ofValue? raw = some e) : e.Distinct := by
  simp only [Entry.ofValue?, Option.bind_eq_bind, Option.bind_eq_some_iff] at h
  obtain ⟨fields, hfields, method, -, path, -, summary, -, description, -, tags, -, parameters,
    hparameters, mappings, hmappings, iteration, -, he⟩ := h
  cases he
  have hinside := (Value.names_of_object hnames hfields).2
  obtain ⟨hpath, hquery⟩ := Fields.member?_induction
    (P := fun p : Parameters => p.path.keys.Nodup ∧ p.query.keys.Nodup) hinside hparameters
    (fun v hv => Parameters.keys_nodup_of_ofValue? hv) ⟨List.nodup_nil, List.nodup_nil⟩
  exact ⟨hpath, hquery,
    Fields.member?_induction (P := fun image : Fields String => image.keys.Nodup) hinside hmappings
      (fun v hv => Value.keys_nodup_of_fieldsOf? hv) List.nodup_nil⟩

/-! ## Documents are plain -/

namespace Json

theorem plain_textList (levels : Nat) (texts : List String) :
    Plain (levels + 1) (textList texts) := by
  apply Plain.list
  intro item hitem
  obtain ⟨s, -, rfl⟩ := List.mem_map.mp hitem
  exact .text s

theorem plain_mapValues {α : Type} {levels : Nat} {f : α → Value} {fields : Fields α}
    (hf : ∀ a, Plain levels (f a)) (hnames : fields.keys.Nodup) :
    Plain (levels + 1) (.object (fields.mapValues f)) := by
  apply Plain.object
  · rw [Fields.keys_mapValues]
    exact hnames
  · intro field hfield
    obtain ⟨source, -, rfl⟩ := List.mem_map.mp hfield
    exact hf source.2

/-- The fields of an object with a fixed list of names. -/
theorem plain_record {levels : Nat} {fields : List (String × Value)}
    (hnames : (Fields.keys fields).Nodup) (h : fields.Forall fun field => Plain levels field.2) :
    Plain (levels + 1) (.object fields) :=
  .object hnames (List.forall_iff_forall_mem.mp h)

end Json

open Json

theorem Parameters.plain_toValue {p : Parameters} (hpath : p.path.keys.Nodup)
    (hquery : p.query.keys.Nodup) (levels : Nat) : Plain (levels + 2) p.toValue := by
  apply plain_record (by simp [Fields.keys])
  refine ⟨plain_mapValues (fun s => .text s) hpath, plain_mapValues (fun q => ?_) hquery, ?_⟩
  · cases q with
    | text s => exact .text s
    | flag b => exact .bool b
  · cases p.body with
    | none => exact .null
    | some s => exact .text s

theorem Entry.Distinct.plain_toValue {e : Entry} (h : e.Distinct) (levels : Nat) :
    Plain (levels + 3) e.toValue := by
  apply plain_record (by simp [Fields.keys])
  refine ⟨.text _, .text _, .text _, .text _, plain_textList _ _,
    Parameters.plain_toValue h.path h.query levels, plain_mapValues (fun s => .text s) h.mappings,
    ?_⟩
  cases e.iteration with
  | none => exact .null
  | some i =>
      apply plain_record (by simp [Fields.keys])
      exact ⟨.bool _, .text _, .text _, .bool _⟩

theorem Transformations.plain_toValue (t : Transformations) (levels : Nat) :
    Plain (levels + 4) t.toValue := by
  apply plain_record (by simp [Fields.keys])
  refine ⟨.list ?_, .list ?_⟩
  · intro item hitem
    obtain ⟨m, -, rfl⟩ := List.mem_map.mp hitem
    exact plain_record (by simp [Fields.keys]) ⟨.text _, .text _⟩
  · intro item hitem
    obtain ⟨c, -, rfl⟩ := List.mem_map.mp hitem
    exact plain_record (by simp [Fields.keys]) ⟨.text _, .text _, plain_textList _ _⟩

namespace SequenceDocument

variable {d : SequenceDocument}

theorem plain_toValue (h : ∀ e ∈ d.sequence, e.Distinct) (levels : Nat) :
    Plain (levels + 5) d.toValue := by
  apply plain_record (by simp [Fields.keys])
  refine ⟨.text _, .text _, .text _, .list ?_, d.transformations.plain_toValue _, .text _, .text _⟩
  intro item hitem
  obtain ⟨e, he, rfl⟩ := List.mem_map.mp hitem
  exact (h e he).plain_toValue levels

/-- The text of a document is read as the document. -/
theorem readSequence_text (h : ∀ e ∈ d.sequence, e.Distinct) :
    readSequence d.text = .ok d.toValue := by
  rw [readSequence, text, read_indentedRaw (plain_toValue h 980)]
  rfl

theorem documentTransformations_toValue (d : SequenceDocument) :
    (d.toValue.object?.bind documentTransformations) = some d.transformations := by
  have htransformations : d.toValue.object?.bind documentTransformations =
      Transformations.ofValue? d.transformations.toValue := rfl
  rw [htransformations, Transformations.ofValue?_toValue]

end SequenceDocument

end CallChain
