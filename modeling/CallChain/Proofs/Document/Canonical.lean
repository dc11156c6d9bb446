/-
# Entries in canonical form

The entry that an export writes for an imported step is the entry that the step was made
from, in canonical form: with what the catalog says about the endpoint, with references
to earlier steps as places, and without an iteration that is not enabled. Which ids the
step has been given does not show. The canonical form of a canonical form is itself, at
the same place and with the same catalog.
-/

import CallChain.Proofs.Document.Import
import CallChain.Proofs.Document.Reading
import CallChain.Proofs.Reference.Canonical

namespace CallChain

/-! ## Texts of parameters and bindings -/

namespace Fields

variable {α β γ : Type}

theorem mapValues_mapValues (f : α → β) (g : β → γ) (fields : Fields α) :
    (fields.mapValues f).mapValues g = fields.mapValues (g ∘ f) := by
  simp [mapValues]

theorem mapValues_congr {f g : α → β} {fields : Fields α}
    (h : ∀ a ∈ fields.map Prod.snd, f a = g a) : fields.mapValues f = fields.mapValues g := by
  apply List.map_congr_left
  intro field hfield
  rw [h field.2 (List.mem_map.mpr ⟨field, hfield, rfl⟩)]

theorem map_snd_mapValues (f : α → β) (fields : Fields α) :
    (fields.mapValues f).map Prod.snd = (fields.map Prod.snd).map f := by
  simp [mapValues]

end Fields

namespace Parameters

theorem mapText_mapText (f g : String → String) (p : Parameters) :
    (p.mapText f).mapText g = p.mapText (g ∘ f) := by
  have hquery : QueryValue.mapText g ∘ QueryValue.mapText f = QueryValue.mapText (g ∘ f) := by
    funext q
    cases q <;> rfl
  simp only [mapText, Fields.mapValues_mapValues, hquery, Option.map_map]

theorem mapText_congr {f g : String → String} {p : Parameters} (h : ∀ s ∈ p.texts, f s = g s) :
    p.mapText f = p.mapText g := by
  obtain ⟨path, query, body⟩ := p
  simp only [texts, List.mem_append] at h
  have hpath : path.mapValues f = path.mapValues g :=
    Fields.mapValues_congr fun s hs => h s (Or.inl (Or.inl hs))
  have hquery :
      query.mapValues (QueryValue.mapText f) = query.mapValues (QueryValue.mapText g) := by
    apply Fields.mapValues_congr
    intro q hq
    cases q with
    | flag b => rfl
    | text s =>
        obtain ⟨field, hfield, hs⟩ := List.mem_map.mp hq
        exact congrArg QueryValue.text
          (h s (Or.inl (Or.inr (List.mem_filterMap.mpr ⟨field, hfield, by rw [hs]⟩))))
  have hbody : body.map f = body.map g := by
    cases body with
    | none => rfl
    | some s => exact congrArg some (h s (Or.inr (by simp)))
  simp only [mapText, hpath, hquery, hbody]

theorem texts_mapText (f : String → String) (p : Parameters) :
    (p.mapText f).texts = p.texts.map f := by
  obtain ⟨path, query, body⟩ := p
  have hbody : (body.map f).toList = body.toList.map f := by
    cases body <;> rfl
  simp only [texts, mapText, List.map_append, Fields.map_snd_mapValues, hbody]
  congr 2
  rw [Fields.mapValues, List.filterMap_map, List.map_filterMap]
  apply List.filterMap_congr
  intro entry _
  obtain ⟨name, q⟩ := entry
  cases q <;> rfl

end Parameters

/-! ## The canonical form of an entry -/

namespace Entry

/-- The texts of an entry that may refer to steps; bindings and the source of the iteration
as they stand in holes. -/
def sources (e : Entry) : List String :=
  e.parameters.texts ++ (e.mappings.map Prod.snd).map Renaming.wrapped ++
    (e.iteration.map fun i => Renaming.wrapped i.source).toList

/-- The references of an entry that are renamed. -/
def references (e : Entry) : List String := e.sources.flatMap Renaming.references

/-- An entry in canonical form, for its endpoint and its place. -/
def canonical (e : Entry) (endpoint : Endpoint) (place : Nat) : Entry where
  method := endpoint.method.name
  path := endpoint.path
  summary := endpoint.summary
  description := endpoint.description
  tags := endpoint.tags
  parameters := e.parameters.mapText (Renaming.text (Renaming.canonical place))
  mappings := Renaming.mappings (Renaming.canonical place) e.mappings
  iteration := (e.iteration.filter (·.enabled)).map fun i =>
    { i with source := Renaming.expression (Renaming.canonical place) i.source }

variable {e : Entry} {endpoint other : Endpoint} {place : Nat}

theorem not_mem_references_iff {id : String} :
    id ∉ e.references ↔ ∀ s ∈ e.sources, id ∉ Renaming.references s := by
  simp [references]

theorem wrapped_mem_sources {v : String} (h : v ∈ e.mappings.map Prod.snd) :
    Renaming.wrapped v ∈ e.sources := by
  rw [sources]
  exact List.mem_append_left _ (List.mem_append_right _ (List.mem_map.mpr ⟨v, h, rfl⟩))

theorem text_mem_sources {s : String} (h : s ∈ e.parameters.texts) : s ∈ e.sources := by
  rw [sources]
  exact List.mem_append_left _ (List.mem_append_left _ h)

theorem source_mem_sources {i : Iteration} (h : e.iteration = some i) :
    Renaming.wrapped i.source ∈ e.sources := by
  rw [sources]
  exact List.mem_append_right _ (by simp [h])

theorem canonical_canonical (hmethod : other.method = endpoint.method)
    (hpath : other.path = endpoint.path) (hsummary : other.summary = endpoint.summary)
    (hdescription : other.description = endpoint.description) (htags : other.tags = endpoint.tags) :
    (e.canonical endpoint place).canonical other place = e.canonical endpoint place := by
  have hparameters : (e.parameters.mapText (Renaming.text (Renaming.canonical place))).mapText
      (Renaming.text (Renaming.canonical place)) =
        e.parameters.mapText (Renaming.text (Renaming.canonical place)) := by
    rw [Parameters.mapText_mapText]
    exact Parameters.mapText_congr fun s _ => Renaming.text_canonical_canonical place s
  have hmappings : Renaming.mappings (Renaming.canonical place)
      (Renaming.mappings (Renaming.canonical place) e.mappings) =
        Renaming.mappings (Renaming.canonical place) e.mappings := by
    rw [Renaming.mappings, Renaming.mappings, Fields.mapValues_mapValues]
    exact Fields.mapValues_congr fun v _ => Renaming.expression_canonical_canonical place v
  simp only [canonical, hmethod, hpath, hsummary, hdescription, htags, hparameters, hmappings]
  cases e.iteration with
  | none => rfl
  | some i => cases henabled : i.enabled <;> simp [Option.filter, henabled]

/-- The sources of the canonical form are sources in canonical form. -/
theorem exists_of_mem_sources_canonical {s : String}
    (h : s ∈ (e.canonical endpoint place).sources) :
    ∃ source ∈ e.sources, Renaming.references s = (Renaming.references source).map
      fun r => (Renaming.canonical place r).getD r := by
  have hwords := Renaming.intoWords_canonical place
  rw [sources, List.mem_append, List.mem_append] at h
  rcases h with (h | h) | h
  · have htexts : (e.canonical endpoint place).parameters.texts =
        e.parameters.texts.map (Renaming.text (Renaming.canonical place)) :=
      Parameters.texts_mapText _ _
    rw [htexts] at h
    obtain ⟨source, hsource, rfl⟩ := List.mem_map.mp h
    exact ⟨source, text_mem_sources hsource, Renaming.references_text hwords source⟩
  · have hvalues : (e.canonical endpoint place).mappings.map Prod.snd =
        (e.mappings.map Prod.snd).map (Renaming.expression (Renaming.canonical place)) :=
      Fields.map_snd_mapValues _ _
    rw [hvalues] at h
    obtain ⟨image, himage, rfl⟩ := List.mem_map.mp h
    obtain ⟨source, hsource, rfl⟩ := List.mem_map.mp himage
    exact ⟨_, wrapped_mem_sources hsource, Renaming.references_expression hwords source⟩
  · obtain ⟨i, hi, rfl⟩ := Option.map_eq_some_iff.mp (Option.mem_toList.mp h)
    obtain ⟨own, hown, rfl⟩ := Option.map_eq_some_iff.mp hi
    have hiteration : e.iteration = some own := (Option.filter_eq_some_iff.mp hown).1
    exact ⟨_, source_mem_sources hiteration, Renaming.references_expression hwords own.source⟩

theorem not_mem_references_canonical {id : String} (hid : Reference.IsGenerated id)
    (h : id ∉ e.references) : id ∉ (e.canonical endpoint place).references := by
  rw [not_mem_references_iff] at h ⊢
  intro s hs
  obtain ⟨source, hsource, heq⟩ := exists_of_mem_sources_canonical hs
  rw [heq]
  exact Renaming.not_mem_map_canonical place hid (h source hsource)

theorem mappingsProblem?_eq_none_iff {bindings : Fields String} :
    Renaming.mappingsProblem? bindings = none ↔
      ∀ v ∈ bindings.map Prod.snd, Renaming.textProblem? (Renaming.wrapped v) = none := by
  have hempty : Renaming.textProblem? (Renaming.wrapped "") = none := by decide
  rw [Renaming.mappingsProblem?, List.findSome?_eq_none_iff]
  constructor
  · intro h v hv
    obtain ⟨field, hfield, rfl⟩ := List.mem_map.mp hv
    have hnone := h field hfield
    split at hnone
    · next heq => rw [heq, hempty]
    · rwa [Renaming.expressionProblem?_eq] at hnone
  · intro h field hfield
    split
    · rfl
    · rw [Renaming.expressionProblem?_eq]
      exact h _ (List.mem_map.mpr ⟨field, hfield, rfl⟩)

/-- The places that an entry refers to can be read when those in its sources can. -/
theorem readable_iff : e.Readable ↔ ∀ s ∈ e.sources, Renaming.textProblem? s = none := by
  constructor
  · intro h s hs
    rw [sources, List.mem_append, List.mem_append] at hs
    rcases hs with (hs | hs) | hs
    · exact h.parameters s hs
    · obtain ⟨v, hv, rfl⟩ := List.mem_map.mp hs
      exact mappingsProblem?_eq_none_iff.mp h.mappings v hv
    · obtain ⟨i, hi, rfl⟩ := Option.map_eq_some_iff.mp (Option.mem_toList.mp hs)
      rw [← Renaming.expressionProblem?_eq]
      exact h.source i hi
  · intro h
    refine ⟨fun s hs => h s (text_mem_sources hs), mappingsProblem?_eq_none_iff.mpr fun v hv => ?_,
      fun i hi => ?_⟩
    · exact h _ (wrapped_mem_sources hv)
    · rw [Renaming.expressionProblem?_eq]
      exact h _ (source_mem_sources hi)

theorem Readable.canonical (h : e.Readable) : (e.canonical endpoint place).Readable := by
  rw [readable_iff] at h ⊢
  intro s hs
  obtain ⟨source, hsource, heq⟩ := exists_of_mem_sources_canonical hs
  rw [Renaming.textProblem?_eq_none_iff, heq]
  exact Renaming.readable_map_canonical place
    (Renaming.textProblem?_eq_none_iff.mp (h source hsource))

theorem Distinct.canonical (h : e.Distinct) : (e.canonical endpoint place).Distinct where
  path := by
    simpa [Entry.canonical, Parameters.mapText] using h.path
  query := by
    simpa [Entry.canonical, Parameters.mapText] using h.query
  mappings := by
    simpa [Entry.canonical, Renaming.mappings] using h.mappings

end Entry

end CallChain
