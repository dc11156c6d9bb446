/-
# Sequences that documents carry

A step can be carried from one session to another when all that refers to steps in it is
read as it is written. The document of such a session holds one entry for each step, every
entry is loaded again, and the steps that are made of them mirror those of the session.
-/

import CallChain.Proofs.Document.FixedPoint
import CallChain.Proofs.Session.Mirrored

namespace CallChain

open Renaming (across Crosses)

/-! ## Steps that can be carried -/

/-- Whether a reference names a step before a place, by id or by place. -/
def Renaming.RefersBack (ids : List String) (place : Nat) (reference : String) : Prop :=
  ∃ n < place, ids[n]? = some reference ∨ Reference.place reference = .ok (some n)

/-- Whether a step, with the given parameters, can be carried by a document from its place to
another session. -/
structure Step.Portable (ids : List String) (place : Nat) (p : Parameters) (x : Step) :
    Prop where
  /-- What was entered are texts, numbers and flags. -/
  parameters : x.inputs.parameters? = some p
  /-- The parameters of the path have distinct names. -/
  path : x.inputs.path.keys.Nodup
  /-- So have those of the query. -/
  query : x.inputs.query.keys.Nodup
  /-- So have the bindings. -/
  mappings : x.mappings.keys.Nodup
  /-- The body is a text, if there is one. -/
  body : x.inputs.body = (p.body.map Value.text).getD .null
  /-- No character of it is escaped. -/
  plain : ∀ s, p.body = some s → '\\' ∉ s.toList
  /-- If it is JSON, no name of a field in it holds a placeholder. -/
  names : ∀ s v, p.body = some s → Json.read (Text.trim s) = .ok v →
    ∀ name ∈ v.names, Template.hasHole name = false
  /-- The bindings hold no braces. -/
  bindings : ∀ e ∈ x.mappings.map Prod.snd, ∀ c ∈ e.toList, Template.isInner c = true
  /-- The source of the iteration is an expression without braces or one placeholder. -/
  source : x.iteration.enabled = true → x.iteration.HasPlainSource
  /-- The item of the iteration has no id for a name. -/
  apart : x.iteration.enabled = true → x.iteration.variableName ∉ ids
  /-- No place that is referred to has too many digits. -/
  readable : ∀ s ∈ x.sources p, ∀ reference ∈ Renaming.references s,
    ∃ place?, Reference.place reference = .ok place?

/-- Whether no placeholder in a JSON body that refers to an earlier step holds a quote. One
that does starts in a text literal and ends behind it, so no placeholder is read there. -/
def Step.KeepsLiterals (ids : List String) (place : Nat) (x : Step) : Prop :=
  ∀ s v, x.inputs.body = .text s → Json.read (Text.trim s) = .ok v →
    ∀ inside ∈ Template.holes s.toList, '"' ∈ inside → ∀ parts,
      HoleParts.ofInner? inside = some parts →
        ¬ Renaming.RefersBack ids place (String.ofList parts.reference)

/-- Whether a session without results can be carried by a document. -/
structure Session.Portable (s : Session) : Prop where
  /-- No result is stored. -/
  results : s.results = []
  /-- Steps are told apart by their ids. -/
  nodup : s.stepIds.Nodup
  /-- Ids have their shape. -/
  generated : ∀ id ∈ s.stepIds, Reference.IsGenerated id
  /-- The places of the steps can be written. -/
  length_le : s.steps.length ≤ 10 ^ digitLimit
  /-- Every step can be carried from its place. -/
  steps : ∀ (n : Nat) x, s.steps[n]? = some x → ∃ p, Step.Portable s.stepIds n p x

/-! ## The document of a session -/

/-- The entry of a step, with the given parameters, at a place of a sequence. -/
def Step.entry (ids : List String) (place : Nat) (p : Parameters) (x : Step) : Entry where
  method := x.endpoint.method.name
  path := x.endpoint.path
  summary := x.endpoint.summary
  description := x.endpoint.description
  tags := x.endpoint.tags
  parameters := p.mapText (Renaming.text (Renaming.toPlace ids place))
  mappings := Renaming.mappings (Renaming.toPlace ids place) x.mappings
  iteration := if x.iteration.enabled then
      some { x.iteration with
        source := Renaming.expression (Renaming.toPlace ids place) x.iteration.source }
    else none

theorem Session.entryAt?_eq (s : Session) (place : Nat) (x : Step) :
    s.entryAt? place x = x.inputs.parameters?.map fun p => x.entry s.stepIds place p := by
  unfold entryAt?
  cases x.inputs.parameters? <;> rfl

namespace Session

variable {s : Session}

/-- Whether the entries of a document are those of the steps of a session that it can
carry. -/
structure CarriedBy (s : Session) (d : SequenceDocument) : Prop where
  /-- There are as many as steps. -/
  length_eq : d.sequence.length = s.steps.length
  /-- Each is the entry of the step at its place. -/
  entries : ∀ (n : Nat) x, s.steps[n]? = some x → ∃ p, Step.Portable s.stepIds n p x ∧
    d.sequence[n]? = some (x.entry s.stepIds n p)

/-- A session has a document when the inputs of all steps can be checked. -/
theorem exists_document (h : ∀ x ∈ s.steps, ∃ p, x.inputs.parameters? = some p)
    (now today : String) (name : Option String) : ∃ d, s.document? now today name = some d := by
  have hentries : s.steps.zipIdx.mapM (fun pair => s.entryAt? pair.2 pair.1) =
      some (s.steps.zipIdx.map fun pair =>
        pair.1.entry s.stepIds pair.2 (pair.1.inputs.parameters?.getD {})) := by
    apply mapM_eq_some_map
    rintro ⟨x, n⟩ hmem
    have hx : x ∈ s.steps := List.mem_iff_getElem?.mpr ⟨n, List.mem_zipIdx_iff_getElem?.mp hmem⟩
    obtain ⟨p, hp⟩ := h x hx
    dsimp only
    rw [entryAt?_eq, hp]
    rfl
  exact ⟨_, by rw [document?, hentries]; rfl⟩

/-- A document has the entry of each step, in order. -/
theorem entries_of_document {d : SequenceDocument} {now today : String} {name : Option String}
    (h : s.document? now today name = some d) :
    d.sequence.length = s.steps.length ∧ ∀ (n : Nat) x, s.steps[n]? = some x →
      ∃ p, x.inputs.parameters? = some p ∧ d.sequence[n]? = some (x.entry s.stepIds n p) := by
  obtain ⟨entries, hentries, hd⟩ := Option.bind_eq_some_iff.mp h
  cases hd
  refine ⟨(length_of_mapM hentries).trans List.length_zipIdx, fun n x hx => ?_⟩
  have hwhole : s.steps.zipIdx[n]? = some (x, n) := by
    rw [List.getElem?_zipIdx, hx]
    simp
  obtain ⟨e, he, hget⟩ := exists_of_mapM hentries hwhole
  dsimp only at he
  rw [entryAt?_eq, Option.map_eq_some_iff] at he
  obtain ⟨p, hp, rfl⟩ := he
  exact ⟨p, hp, hget⟩

/-- A session that can be carried has a document, with the entries of its steps. -/
theorem Portable.exists_document (h : s.Portable) (now today : String) (name : Option String) :
    ∃ d, s.document? now today name = some d ∧ s.CarriedBy d := by
  have hchecked : ∀ x ∈ s.steps, ∃ p, x.inputs.parameters? = some p := by
    intro x hx
    obtain ⟨n, hn⟩ := List.mem_iff_getElem?.mp hx
    obtain ⟨p, hp⟩ := h.steps n x hn
    exact ⟨p, hp.parameters⟩
  obtain ⟨d, hd⟩ := Session.exists_document hchecked now today name
  obtain ⟨hlength, hentries⟩ := entries_of_document hd
  refine ⟨d, hd, hlength, fun n x hx => ?_⟩
  obtain ⟨p, hp⟩ := h.steps n x hx
  obtain ⟨own, hown, hentry⟩ := hentries n x hx
  cases Option.some.inj (hp.parameters.symm.trans hown)
  exact ⟨p, hp, hentry⟩

end Session

/-! ## The steps that are made of the entries -/

namespace Renaming

variable {ids ids' : List String} {place : Nat} {reference : String}

/-- What an export writes can be read, if what it does not touch can. -/
theorem exists_place_toPlace (hlength : ids.length ≤ 10 ^ digitLimit)
    (h : ∃ place?, Reference.place reference = .ok place?) :
    ∃ place?, Reference.place ((toPlace ids place reference).getD reference) = .ok place? := by
  rw [toPlace]
  cases hplace : ids.idxOf? reference with
  | none => exact h
  | some n =>
      have hn : n < ids.length := (List.idxOf?_eq_some_iff.mp hplace).1
      rw [Option.bind_some]
      split
      · exact ⟨some n, Reference.place_ofPlace (by omega)⟩
      · exact h

/-- A reference that names no step before the place stays. -/
theorem across_of_not_refersBack (h : ¬ RefersBack ids place reference) :
    across ids ids' place reference = none := by
  have hid : ∀ n < place, ids[n]? ≠ some reference := fun n hn hget => h ⟨n, hn, Or.inl hget⟩
  have hplace : ∀ n < place, Reference.place reference ≠ .ok (some n) :=
    fun n hn hplace => h ⟨n, hn, Or.inr hplace⟩
  rw [across, andThen, toPlace_eq_none hid]
  exact toId_of_not_place hplace

end Renaming

namespace Step

variable {ids earlier later : List String} {id : String} {place : Nat} {p : Parameters}
  {x : Step}

/-- The references of an entry are those of its step as an export writes them. -/
theorem references_entry (ids : List String) (place : Nat) (p : Parameters) (x : Step) :
    (x.entry ids place p).references = ((x.sources p).flatMap Renaming.references).map
      fun reference => (Renaming.toPlace ids place reference).getD reference := by
  have hwords := Renaming.intoWords_toPlace ids place
  have htexts : (x.entry ids place p).parameters.texts =
      p.texts.map (Renaming.text (Renaming.toPlace ids place)) := Parameters.texts_mapText _ _
  have hvalues : (x.entry ids place p).mappings.map Prod.snd =
      (x.mappings.map Prod.snd).map (Renaming.expression (Renaming.toPlace ids place)) :=
    Fields.map_snd_mapValues _ _
  have hsource : ((x.entry ids place p).iteration.map fun i => Renaming.wrapped i.source).toList =
      if x.iteration.enabled then [Renaming.wrapped
        (Renaming.expression (Renaming.toPlace ids place) x.iteration.source)] else [] := by
    rw [entry]
    cases x.iteration.enabled <;> rfl
  rw [Entry.references, Entry.sources, htexts, hvalues, hsource, sources]
  simp only [List.flatMap_append, List.map_append, List.flatMap_map, List.map_flatMap,
    Renaming.references_text hwords, Renaming.references_expression hwords]
  congr 1
  cases x.iteration.enabled with
  | false => rfl
  | true => simp [Renaming.references_expression hwords]

theorem Portable.crosses {ids' : List String} (h : Portable ids place p x)
    (hlength : ids.length ≤ 10 ^ digitLimit)
    (hfresh : ∀ id ∈ ids', id ∉ (x.entry ids place p).references) :
    ∀ s ∈ x.sources p, ∀ reference ∈ Renaming.references s, Crosses ids ids' place reference := by
  intro s hs reference hreference
  refine ⟨fun hmem => hfresh _ hmem ?_,
    Renaming.exists_place_toPlace hlength (h.readable s hs reference hreference)⟩
  rw [references_entry]
  exact List.mem_map.mpr ⟨reference, List.mem_flatMap.mpr ⟨s, hs, hreference⟩, rfl⟩

/-- Every place that the entry of a step refers to can be read, if those of the step can. -/
theorem readable_entry (hlength : ids.length ≤ 10 ^ digitLimit)
    (h : ∀ s ∈ x.sources p, ∀ reference ∈ Renaming.references s,
      ∃ place?, Reference.place reference = .ok place?) :
    (x.entry ids place p).Readable := by
  rw [Entry.readable_iff]
  intro s hs
  rw [Renaming.textProblem?_eq_none_iff]
  intro reference hreference
  have hmem : reference ∈ (x.entry ids place p).references :=
    List.mem_flatMap.mpr ⟨s, hs, hreference⟩
  rw [references_entry] at hmem
  obtain ⟨own, hown, rfl⟩ := List.mem_map.mp hmem
  obtain ⟨source, hsource, howns⟩ := List.mem_flatMap.mp hown
  exact Renaming.exists_place_toPlace hlength (h source hsource own howns)

/-- The names in the entry of a step are distinct, if those of the step are. -/
theorem distinct_entry (hpath : x.inputs.path.Distinct) (hquery : x.inputs.query.Distinct)
    (hmappings : x.mappings.Distinct) (hp : x.inputs.parameters? = some p) (ids : List String)
    (place : Nat) : (x.entry ids place p).Distinct := by
  obtain ⟨hown, hchecked, -⟩ := Builder.parts_of_parameters? hp
  refine ⟨?_, ?_, ?_⟩
  · simp only [entry, Parameters.mapText, Fields.keys_mapValues]
    rw [Fields.keys_mapValues? hown]
    exact hpath
  · simp only [entry, Parameters.mapText, Fields.keys_mapValues]
    rw [Fields.keys_mapValues? hchecked]
    exact hquery
  · simp only [entry, Renaming.mappings, Fields.keys_mapValues]
    exact hmappings

theorem Portable.bodyAsWritten {ids' : List String} (h : Portable ids place p x)
    (hkeeps : x.KeepsLiterals ids place) : BodyAsWritten (across ids ids' place) p x where
  text := h.body
  plain := h.plain
  written := by
    intro s hs
    refine ⟨fun v hv => h.names s v hs hv, fun v hv inside hinside hquote => ?_⟩
    cases hparts : HoleParts.ofInner? inside with
    | none => exact Renaming.inner_of_none hparts
    | some parts =>
        have hbody : x.inputs.body = .text s := by
          rw [h.body, hs]
          rfl
        have hstay := hkeeps s v hbody hv inside
          (Json.holes_subset_of_part (Text.infix_trim s) hinside) hquote parts hparts
        rw [Renaming.inner, hparts]
        dsimp only
        rw [Renaming.across_of_not_refersBack hstay]

/-- The step that is made of the entry of another one mirrors it. -/
theorem Portable.mirrored (h : Portable ids place p x) (hkeeps : x.KeepsLiterals ids place)
    (hplace : earlier.length = place) (hlength : ids.length ≤ 10 ^ digitLimit)
    (hfresh : ∀ other ∈ earlier ++ id :: later, other ∉ (x.entry ids place p).references)
    (hapart : x.iteration.enabled = true → x.iteration.variableName ∉ earlier ++ id :: later)
    {endpoint : Endpoint} (hmethod : endpoint.method = x.endpoint.method)
    (hpath : endpoint.path = x.endpoint.path) (isPlaceholder : Bool) :
    Mirrored ids (earlier ++ id :: later) place p x
      ((x.entry ids place p).toStep endpoint isPlaceholder earlier id) := by
  subst hplace
  have hwords := Renaming.intoWords_toPlace ids earlier.length
  have htake : (earlier ++ id :: later).take (earlier.length + 1) = earlier ++ [id] := by
    rw [List.take_append, List.take_of_length_le (Nat.le_succ _)]
    simp
  refine ⟨⟨hmethod, hpath, h.parameters, ?_, ?_, ?_, ?_⟩, h.bodyAsWritten hkeeps, h.bindings,
    h.source, fun henabled => ⟨h.apart henabled, hapart henabled⟩, h.crosses hlength hfresh⟩
  · simp only [Entry.toStep, entry, Parameters.mapText_mapText, across, htake]
    apply congrArg
    exact Parameters.mapText_congr fun t _ => Renaming.text_text hwords t
  · simp only [Entry.toStep, entry, Renaming.mappings, Fields.mapValues_mapValues, across, htake]
    exact Fields.mapValues_congr fun v _ => Renaming.expression_expression hwords v
  · simp only [Entry.toStep, entry]
    cases x.iteration.enabled <;> rfl
  · intro henabled
    simp only [Entry.toStep, entry, henabled, if_true, Renaming.expression_expression hwords,
      across, htake]

end Step

/-! ## The session that the document makes -/

namespace Resolver

theorem sound_of_nil {r : Resolver} (hresults : r.results = []) (hnodup : r.stepIds.Nodup)
    (hgenerated : ∀ id ∈ r.stepIds, Reference.IsGenerated id) : r.Sound where
  nodup := hnodup
  generated := hgenerated
  owned := by
    intro id hhas
    rw [hresults] at hhas
    cases hhas

/-- Sequences without results have the same results before the first step: none. -/
theorem mirrors_of_nil {r r' : Resolver} (h : r.Sound) (h' : r'.Sound) (hresults : r.results = [])
    (hresults' : r'.results = []) (hlength : r'.stepIds.length = r.stepIds.length) :
    Mirrors 0 r r' := by
  have hnone : ∀ {r : Resolver}, r.results = [] → ∀ n, r.storedAt n = none := by
    intro r hr n
    rw [storedAt, hr]
    cases r.stepIds[n]? <;> rfl
  refine ⟨h, h', hlength, fun n => ?_, fun n hn => absurd hn n.not_lt_zero,
    fun n _ => hnone hresults n⟩
  rw [hnone hresults, hnone hresults']

end Resolver

namespace Session

variable {s : Session} {d : SequenceDocument} {catalog : List Endpoint} {stepId : Nat → String}

theorem CarriedBy.exists_step (h : s.CarriedBy d) {n : Nat} {e : Entry}
    (he : d.sequence[n]? = some e) :
    ∃ x p, s.steps[n]? = some x ∧ Step.Portable s.stepIds n p x ∧ e = x.entry s.stepIds n p := by
  have hn : n < s.steps.length := by
    rw [← h.length_eq]
    exact (List.getElem?_eq_some_iff.mp he).1
  obtain ⟨p, hp, hentry⟩ := h.entries n _ (List.getElem?_eq_getElem hn)
  rw [he, Option.some.injEq] at hentry
  exact ⟨_, p, List.getElem?_eq_getElem hn, hp, hentry⟩

/-- Every entry is loaded again, with an endpoint of the same method and path. -/
theorem CarriedBy.load (h : s.CarriedBy d) (catalog : List Endpoint) :
    (LoadedEntry.listFrom catalog 0 (d.sequence.map Entry.toValue)).length = s.steps.length ∧
      ∀ (n : Nat) l,
        (LoadedEntry.listFrom catalog 0 (d.sequence.map Entry.toValue))[n]? = some l →
        ∃ x p, s.steps[n]? = some x ∧ Step.Portable s.stepIds n p x ∧
          l.entry = x.entry s.stepIds n p ∧ l.endpoint.method = x.endpoint.method ∧
          l.endpoint.path = x.endpoint.path := by
  have hname : ∀ n x p, Method.ofName? (Step.entry s.stepIds n p x).method =
      some x.endpoint.method := fun _ x _ => Method.ofName?_name x.endpoint.method
  obtain ⟨hlength, hloaded⟩ := exists_listFrom_map_toValue catalog d.sequence 0 fun n e he => by
    obtain ⟨x, p, -, -, rfl⟩ := h.exists_step he
    obtain ⟨endpoint, isPlaceholder, hendpoint, -⟩ :=
      Entry.exists_endpoint? (hname n x p) catalog (0 + n)
    exact Option.isSome_iff_exists.mpr ⟨_, hendpoint⟩
  refine ⟨hlength.trans h.length_eq, fun n l hl => ?_⟩
  have hn : n < d.sequence.length := by
    rw [← hlength]
    exact (List.getElem?_eq_some_iff.mp hl).1
  obtain ⟨x, p, hx, hp, hentry⟩ := h.exists_step (List.getElem?_eq_getElem hn)
  obtain ⟨endpoint, isPlaceholder, hendpoint, hget⟩ := hloaded n _ (List.getElem?_eq_getElem hn)
  rw [hl, Option.some.injEq] at hget
  subst hget
  rw [hentry] at hendpoint
  obtain ⟨again, known, hagain, hmethod, hpath⟩ :=
    Entry.exists_endpoint? (hname n x p) catalog (0 + n)
  rw [hendpoint, Option.some.injEq, Prod.mk.injEq] at hagain
  obtain ⟨rfl, -⟩ := hagain
  exact ⟨x, p, hx, hp, hentry, hmethod, hpath⟩

/-- The document of a session is imported without a loss, and the session that it makes
mirrors the first one. -/
theorem CarriedBy.import (h : s.CarriedBy d) (hs : s.Portable)
    (hkeeps : ∀ (n : Nat) x, s.steps[n]? = some x → x.KeepsLiterals s.stepIds n)
    (hids : FreshIds stepId d.toValue)
    (hapart : ∀ x ∈ s.steps, x.iteration.enabled = true → ∀ n, stepId n ≠ x.iteration.variableName)
    (t : Session) (catalog : List Endpoint) (start : Nat) :
    ∃ report t' created,
      t.importDocument catalog stepId start d.toValue = .ok (.ok report, t', created) ∧
      report.skipped = 0 ∧ Resolver.Mirrors 0 s.resolver t'.resolver ∧
      ∀ (n : Nat) x x', s.steps[n]? = some x → t'.steps[n]? = some x' →
        ∃ p, Step.Mirrored s.stepIds t'.stepIds n p x x' := by
  obtain ⟨hlength, hloaded⟩ := h.load catalog
  have hids_length : s.stepIds.length ≤ 10 ^ digitLimit := by
    rw [stepIds, Step.ids, List.length_map]
    exact hs.length_le
  have hread : ∀ l ∈ LoadedEntry.listFrom catalog 0 (d.sequence.map Entry.toValue),
      l.entry.Readable := by
    intro l hl
    obtain ⟨n, hn⟩ := List.mem_iff_getElem?.mp hl
    obtain ⟨x, p, -, hp, hentry, -⟩ := hloaded n l hn
    rw [hentry]
    exact Step.readable_entry hids_length hp.readable
  have hvalues : (d.toValue.field? "sequence").bind Value.list? =
      some (d.sequence.map Entry.toValue) := rfl
  obtain ⟨report, t', created, himport⟩ := exists_importDocument rfl hvalues hread t stepId start
  obtain ⟨fields, values, hfields, hvalues, himported, hskipped, -⟩ := importDocument_eq_ok himport
  cases hfields
  cases hvalues
  have hstepIds := himported.stepIds_eq
  rw [List.length_map, hlength, h.length_eq] at hskipped
  rw [hlength] at hstepIds
  refine ⟨report, t', created, himport, by omega, ?_, fun n x x' hx hx' => ?_⟩
  · apply Resolver.mirrors_of_nil (Resolver.sound_of_nil hs.results hs.nodup hs.generated)
      (Resolver.sound_of_nil himported.results_eq _ _) hs.results himported.results_eq
    · rw [resolver, resolver, hstepIds, length_idsFrom, stepIds, Step.ids, List.length_map]
    · rw [resolver, hstepIds]
      exact nodup_idsFrom hids.injective start _
    · rw [resolver, hstepIds]
      exact fun id => isGenerated_of_mem_idsFrom hids.generated
  · have hn : n < s.steps.length := (List.getElem?_eq_some_iff.mp hx).1
    rw [himported.steps_eq, List.getElem?_mapIdx] at hx'
    obtain ⟨l, hl, rfl⟩ := Option.map_eq_some_iff.mp hx'
    obtain ⟨own, p, hown, hp, hentry, hmethod, hpath⟩ := hloaded n l hl
    rw [hx, Option.some.injEq] at hown
    subst hown
    have hgiven : ∀ id ∈ idsFrom stepId start s.steps.length,
        id ∉ (x.entry s.stepIds n p).references ∧
          (x.iteration.enabled = true → id ≠ x.iteration.variableName) := by
      intro id hid
      obtain ⟨m, -, rfl⟩ := exists_of_mem_idsFrom hid
      rw [← hentry]
      exact ⟨hids.not_mem_references (List.mem_of_getElem? hl) _,
        fun henabled => hapart x (List.mem_of_getElem? hx) henabled _⟩
    rw [hstepIds, LoadedEntry.step, hentry]
    rw [idsFrom_split start hn] at hgiven ⊢
    exact ⟨p, hp.mirrored (hkeeps n x hx) (length_idsFrom start n) hids_length
      (fun id hid => (hgiven id hid).1)
      (fun henabled hmem => (hgiven _ hmem).2 henabled rfl) hmethod hpath _⟩

end Session

end CallChain
