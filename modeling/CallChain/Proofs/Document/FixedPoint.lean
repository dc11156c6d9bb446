/-
# Saving what has been loaded

The document of an imported session holds the canonical forms of the entries that were
loaded. Importing that document loads every entry of it, with an endpoint that says the
same, and exporting again gives the same entries and transformations. This holds whatever
the ids of the two sessions are, as long as they are new to the first document.
-/

import CallChain.Proofs.Document.Canonical

namespace CallChain

/-- The entries of a document, as they stand there; none if it has no list of them. -/
def documentEntries (document : Value) : List Value :=
  ((document.field? "sequence").bind Value.list?).getD []

/-- Whether ids are new to a document: they are given out once, have the shape of ids, and
occur in no text of an entry that may refer to steps. -/
structure FreshIds (stepId : Nat → String) (document : Value) : Prop where
  /-- No id is given out twice. -/
  injective : Function.Injective stepId
  /-- Ids have their shape. -/
  generated : ∀ n, Reference.IsGenerated (stepId n)
  /-- Ids occur in no text of an entry that may refer to steps. -/
  unused : ∀ n, ∀ raw ∈ documentEntries document, ∀ e, Entry.ofValue? raw = some e →
    ∀ s ∈ e.sources, ¬ (stepId n).toList <:+: s.toList

/-! ## Exporting a step -/

section Export

variable {stepId : Nat → String}

theorem isGenerated_of_mem_idsFrom (hshape : ∀ n, Reference.IsGenerated (stepId n))
    {start count : Nat} {id : String} (h : id ∈ idsFrom stepId start count) :
    Reference.IsGenerated id := by
  obtain ⟨n, -, rfl⟩ := exists_of_mem_idsFrom h
  exact hshape _

/-- The entry of an imported step is the canonical form of the entry that it was made from. -/
theorem Session.entryAt?_toStep {s : Session} {earlier later : List String} {id : String}
    (hids : s.stepIds = earlier ++ id :: later) (hnodup : (earlier ++ id :: later).Nodup)
    (hshape : ∀ x ∈ earlier ++ id :: later, Reference.IsGenerated x) (e : Entry)
    (endpoint : Endpoint) (isPlaceholder : Bool)
    (hfresh : ∀ x ∈ earlier ++ id :: later, x ∉ e.references) :
    s.entryAt? earlier.length (e.toStep endpoint isPlaceholder earlier id) =
      some (e.canonical endpoint earlier.length) := by
  have hsources : ∀ source ∈ e.sources, ∀ x ∈ earlier ++ id :: later,
      x ∉ Renaming.references source :=
    fun source hsource x hx => Entry.not_mem_references_iff.mp (hfresh x hx) source hsource
  have hparameters : (e.parameters.mapText
        (Renaming.text (Renaming.toId (earlier ++ [id]) earlier.length))).mapText
      (Renaming.text (Renaming.toPlace (earlier ++ id :: later) earlier.length)) =
        e.parameters.mapText (Renaming.text (Renaming.canonical earlier.length)) := by
    rw [Parameters.mapText_mapText]
    exact Parameters.mapText_congr fun t ht => Renaming.text_toPlace_toId hnodup hshape
      (hsources t (Entry.text_mem_sources ht))
  have hmappings : Renaming.mappings (Renaming.toPlace (earlier ++ id :: later) earlier.length)
      (Renaming.mappings (Renaming.toId (earlier ++ [id]) earlier.length) e.mappings) =
        Renaming.mappings (Renaming.canonical earlier.length) e.mappings := by
    rw [Renaming.mappings, Renaming.mappings, Fields.mapValues_mapValues]
    exact Fields.mapValues_congr fun v hv => Renaming.expression_toPlace_toId hnodup hshape
      (hsources _ (Entry.wrapped_mem_sources hv))
  simp only [entryAt?, Entry.toStep, Inputs.parameters?_ofParameters, hids, hparameters, hmappings,
    Option.bind_eq_bind, Option.bind_some, Entry.canonical]
  cases hiteration : e.iteration with
  | none => rfl
  | some i =>
      have hsource := Renaming.expression_toPlace_toId hnodup hshape
        (hsources _ (Entry.source_mem_sources hiteration))
      cases henabled : i.enabled with
      | false => simp [Option.filter, henabled]
      | true => simp [Option.filter, henabled, hsource]

/-- The document of an imported session holds the canonical forms of the entries that were
loaded. -/
theorem Session.Imported.document?_eq {s : Session} {catalog : List Endpoint} {start : Nat}
    {entries : List Value} (h : Session.Imported catalog stepId start entries s)
    (hinjective : Function.Injective stepId) (hshape : ∀ n, Reference.IsGenerated (stepId n))
    (hfresh : ∀ l ∈ LoadedEntry.listFrom catalog 0 entries, ∀ n, stepId n ∉ l.entry.references)
    (now today : String) (name : Option String) :
    ∃ d, s.document? now today name = some d ∧
      d.sequence = (LoadedEntry.listFrom catalog 0 entries).mapIdx
        (fun place l => l.entry.canonical l.endpoint place) ∧
      d.transformations = s.transformations := by
  have hentry : ∀ place l, (LoadedEntry.listFrom catalog 0 entries)[place]? = some l →
      s.entryAt? place (l.step stepId start place) =
        some (l.entry.canonical l.endpoint place) := by
    intro place l hl
    have hplace : place < (LoadedEntry.listFrom catalog 0 entries).length :=
      (List.getElem?_eq_some_iff.mp hl).1
    have hids := h.stepIds_eq
    have hnodup := nodup_idsFrom hinjective start
      (LoadedEntry.listFrom catalog 0 entries).length
    have hgiven : ∀ x ∈ idsFrom stepId start (LoadedEntry.listFrom catalog 0 entries).length,
        Reference.IsGenerated x ∧ x ∉ l.entry.references := by
      intro x hx
      obtain ⟨n, -, rfl⟩ := exists_of_mem_idsFrom hx
      exact ⟨hshape _, hfresh l (List.mem_of_getElem? hl) _⟩
    rw [idsFrom_split start hplace] at hids hnodup hgiven
    have hexport := Session.entryAt?_toStep hids hnodup (fun x hx => (hgiven x hx).1) l.entry
      l.endpoint l.isPlaceholder fun x hx => (hgiven x hx).2
    rw [length_idsFrom] at hexport
    exact hexport
  have hentries : ((LoadedEntry.listFrom catalog 0 entries).mapIdx
        fun place l => l.step stepId start place).zipIdx.mapM
          (fun pair => s.entryAt? pair.2 pair.1) =
      some ((LoadedEntry.listFrom catalog 0 entries).mapIdx
        fun place l => l.entry.canonical l.endpoint place) :=
    mapM_zipIdx_mapIdx hentry
  unfold Session.document?
  simp only [h.steps_eq]
  refine ⟨_, by rw [hentries]; rfl, rfl, rfl⟩

end Export

/-! ## Importing the document of an imported session -/

section Import

variable {catalog : List Endpoint}

/-- The catalog gives the canonical form of an entry an endpoint that says the same. -/
theorem Entry.endpoint?_canonical {e : Entry} {endpoint : Endpoint} {isPlaceholder : Bool}
    {index : Nat} (h : e.endpoint? catalog index = some (endpoint, isPlaceholder))
    (place other : Nat) :
    ∃ again, (e.canonical endpoint place).endpoint? catalog other = some (again, isPlaceholder) ∧
      again.method = endpoint.method ∧ again.path = endpoint.path ∧
      again.summary = endpoint.summary ∧ again.description = endpoint.description ∧
      again.tags = endpoint.tags := by
  obtain ⟨hmethod, hpath⟩ := endpoint?_eq_some h
  have hname : Method.ofName? (e.canonical endpoint place).method = some endpoint.method :=
    Method.ofName?_name endpoint.method
  have hknown := known?_congr (hname.trans hmethod.symm) hpath catalog
  cases isPlaceholder with
  | false =>
      exact ⟨endpoint, endpoint?_eq_known_iff.mpr (hknown.trans (endpoint?_eq_known_iff.mp h)),
        rfl, rfl, rfl, rfl, rfl⟩
  | true =>
      obtain ⟨hnone, hplaceholder⟩ := endpoint?_eq_placeholder_iff.mp h
      obtain ⟨again, hagain⟩ :
          ∃ again, (e.canonical endpoint place).placeholder? other = some again := by
        rw [placeholder?, hname]
        exact ⟨_, rfl⟩
      refine ⟨again, endpoint?_eq_placeholder_iff.mpr ⟨hknown.trans hnone, hagain⟩, ?_⟩
      obtain ⟨method, -, hmade⟩ := Option.bind_eq_some_iff.mp hplaceholder
      rw [placeholder?, hname] at hagain
      cases hagain
      cases hmade
      refine ⟨rfl, rfl, ?_, ?_, ?_⟩
      · by_cases hempty : e.summary = "" <;> simp [canonical, hempty]
      · by_cases hempty : e.description = "" <;> simp [canonical, hempty]
      · by_cases hempty : e.tags = [] <;> simp [canonical, hempty]

/-- Entries with endpoints are all loaded from the document that they are written to. -/
theorem exists_listFrom_map_toValue (catalog : List Endpoint) (entries : List Entry) (offset : Nat)
    (h : ∀ (n : Nat) e, entries[n]? = some e →
      (e.endpoint? catalog (offset + n)).isSome = true) :
    (LoadedEntry.listFrom catalog offset (entries.map Entry.toValue)).length = entries.length ∧
      ∀ (n : Nat) e, entries[n]? = some e → ∃ endpoint isPlaceholder,
        e.endpoint? catalog (offset + n) = some (endpoint, isPlaceholder) ∧
        (LoadedEntry.listFrom catalog offset (entries.map Entry.toValue))[n]? =
          some ⟨offset + n, e, endpoint, isPlaceholder⟩ := by
  induction entries generalizing offset with
  | nil => exact ⟨rfl, nofun⟩
  | cons e entries ih =>
      obtain ⟨⟨endpoint, isPlaceholder⟩, hendpoint⟩ := Option.isSome_iff_exists.mp (h 0 e rfl)
      have hshift : ∀ n, offset + (n + 1) = offset + 1 + n := by
        intro n
        omega
      obtain ⟨hlength, hothers⟩ := ih (offset + 1) fun n next hnext => by
        have hnext := h (n + 1) next hnext
        rwa [hshift] at hnext
      have hload : LoadedEntry.ofValue? catalog e.toValue offset =
          some ⟨offset, e, endpoint, isPlaceholder⟩ := by
        rw [LoadedEntry.ofValue?, Entry.ofValue?_toValue, Option.bind_some, ← Nat.add_zero offset,
          hendpoint]
        rfl
      rw [List.map_cons, ImportState.listFrom_cons, hload]
      refine ⟨congrArg (· + 1) hlength, fun n next hnext => ?_⟩
      cases n with
      | zero =>
          cases hnext
          exact ⟨endpoint, isPlaceholder, hendpoint, rfl⟩
      | succ n =>
          rw [hshift]
          exact hothers n next hnext

/-- Entries that are their own canonical forms are all loaded from the document that they
are written to, and are in canonical form there. -/
theorem listFrom_map_toValue (catalog : List Endpoint) (entries : List Entry) (offset : Nat)
    (h : ∀ n (e : Entry), entries[n]? = some e → ∃ endpoint isPlaceholder,
      e.endpoint? catalog (offset + n) = some (endpoint, isPlaceholder) ∧
      e.canonical endpoint (offset + n) = e) :
    (LoadedEntry.listFrom catalog offset (entries.map Entry.toValue)).map LoadedEntry.entry =
        entries ∧
      (LoadedEntry.listFrom catalog offset (entries.map Entry.toValue)).mapIdx
        (fun n l => l.entry.canonical l.endpoint (offset + n)) = entries := by
  obtain ⟨hlength, hloaded⟩ := exists_listFrom_map_toValue catalog entries offset fun n e he => by
    obtain ⟨endpoint, isPlaceholder, hendpoint, -⟩ := h n e he
    exact Option.isSome_of_eq_some hendpoint
  refine ⟨List.ext_getElem? fun n => ?_, List.ext_getElem? fun n => ?_⟩
  · rw [List.getElem?_map]
    cases hn : entries[n]? with
    | none =>
        rw [List.getElem?_eq_none (hlength ▸ List.getElem?_eq_none_iff.mp hn), Option.map_none]
    | some e =>
        obtain ⟨endpoint, isPlaceholder, -, hl⟩ := hloaded n e hn
        rw [hl, Option.map_some]
  · rw [List.getElem?_mapIdx]
    cases hn : entries[n]? with
    | none =>
        rw [List.getElem?_eq_none (hlength ▸ List.getElem?_eq_none_iff.mp hn), Option.map_none]
    | some e =>
        obtain ⟨endpoint, isPlaceholder, hendpoint, hl⟩ := hloaded n e hn
        obtain ⟨endpoint', isPlaceholder', hendpoint', hcanonical⟩ := h n e hn
        cases hendpoint.symm.trans hendpoint'
        rw [hl, Option.map_some, hcanonical]

/-- The references of a text occur in it. -/
theorem infix_of_mem_references {s r : String} (h : r ∈ Renaming.references s) :
    r.toList <:+: s.toList := by
  obtain ⟨inside, hinside, hr⟩ := List.mem_filterMap.mp h
  obtain ⟨p, hp, rfl⟩ := Option.map_eq_some_iff.mp hr
  obtain ⟨-, front, rest, htext⟩ := Template.mem_holes_iff.mp hinside
  refine ⟨front ++ ('\x7b' :: '\x7b' :: p.before), p.after ++ '\x7d' :: '\x7d' :: rest, ?_⟩
  rw [htext, (HoleParts.ofInner?_eq_some_iff.mp hp).2, String.toList_ofList]
  simp [Piece.render]

theorem exists_of_mem_listFrom {entries : List Value} {l : LoadedEntry}
    (hl : l ∈ LoadedEntry.listFrom catalog 0 entries) :
    ∃ raw ∈ entries, Entry.ofValue? raw = some l.entry ∧
      l.entry.endpoint? catalog l.index = some (l.endpoint, l.isPlaceholder) := by
  obtain ⟨⟨raw, index⟩, hraw, hload⟩ := List.mem_filterMap.mp hl
  obtain ⟨e, he, hfound⟩ := Option.bind_eq_some_iff.mp hload
  obtain ⟨found, hendpoint, rfl⟩ := Option.map_eq_some_iff.mp hfound
  exact ⟨raw, List.fst_mem_of_mem_zipIdx hraw, he, hendpoint⟩

theorem FreshIds.not_mem_references {stepId : Nat → String} {document : Value}
    (h : FreshIds stepId document) {l : LoadedEntry}
    (hl : l ∈ LoadedEntry.listFrom catalog 0 (documentEntries document)) (n : Nat) :
    stepId n ∉ l.entry.references := by
  rw [Entry.not_mem_references_iff]
  intro s hs hmem
  obtain ⟨raw, hraw, he, -⟩ := exists_of_mem_listFrom hl
  exact h.unused n raw hraw l.entry he s hs (infix_of_mem_references hmem)

theorem Entry.distinct_of_mem_listFrom {document : Value}
    (hnames : document.hasDistinctNames = true) {l : LoadedEntry}
    (hl : l ∈ LoadedEntry.listFrom catalog 0 (documentEntries document)) : l.entry.Distinct := by
  obtain ⟨raw, hmem, he, -⟩ := exists_of_mem_listFrom hl
  apply Entry.distinct_of_ofValue? _ he
  unfold documentEntries at hmem
  cases hentries : (document.field? "sequence").bind Value.list? with
  | none =>
      rw [hentries] at hmem
      cases hmem
  | some entries =>
      rw [hentries] at hmem
      obtain ⟨v, hv, hitems⟩ := Option.bind_eq_some_iff.mp hentries
      obtain ⟨fields, hfields, hget⟩ := Option.bind_eq_some_iff.mp hv
      have hinside := Value.hasDistinctNames_of_get? (Value.names_of_object hnames hfields).2 hget
      cases v with
      | list items =>
          cases hitems
          exact Value.hasDistinctNames_of_mem (by simpa [Value.hasDistinctNames] using hinside) hmem
      | _ => cases hitems

end Import

/-! ## The fixed point -/

section FixedPoint

variable {catalog : List Endpoint} {entries : List Value} {d : SequenceDocument}

/-- What the document of an imported session holds. -/
def SavedFrom (catalog : List Endpoint) (entries : List Value) (d : SequenceDocument) : Prop :=
  d.sequence = (LoadedEntry.listFrom catalog 0 entries).mapIdx
    fun place l => l.entry.canonical l.endpoint place

theorem SavedFrom.exists_of_mem (h : SavedFrom catalog entries d) {e : Entry}
    (he : e ∈ d.sequence) :
    ∃ l ∈ LoadedEntry.listFrom catalog 0 entries, ∃ place,
      e = l.entry.canonical l.endpoint place := by
  rw [h] at he
  obtain ⟨place, hplace, rfl⟩ := List.mem_mapIdx.mp he
  exact ⟨_, List.getElem_mem hplace, place, rfl⟩

/-- Every entry that was saved is loaded again, in the form in which it was saved. -/
theorem SavedFrom.load_again (h : SavedFrom catalog entries d) :
    (LoadedEntry.listFrom catalog 0 (d.sequence.map Entry.toValue)).map LoadedEntry.entry =
        d.sequence ∧
      (LoadedEntry.listFrom catalog 0 (d.sequence.map Entry.toValue)).mapIdx
        (fun place l => l.entry.canonical l.endpoint place) = d.sequence := by
  have hagain := listFrom_map_toValue catalog d.sequence 0 fun n e he => by
    rw [h, List.getElem?_mapIdx, Option.map_eq_some_iff] at he
    obtain ⟨l, hl, rfl⟩ := he
    obtain ⟨raw, -, -, hendpoint⟩ := exists_of_mem_listFrom (List.mem_of_getElem? hl)
    obtain ⟨again, hagain, hmethod, hpath, hsummary, hdescription, htags⟩ :=
      Entry.endpoint?_canonical hendpoint n (0 + n)
    rw [Nat.zero_add] at hagain ⊢
    exact ⟨again, l.isPlaceholder, hagain,
      Entry.canonical_canonical hmethod hpath hsummary hdescription htags⟩
  simp only [Nat.zero_add] at hagain
  exact hagain

theorem SavedFrom.exists_of_mem_again (h : SavedFrom catalog entries d) {l' : LoadedEntry}
    (hl' : l' ∈ LoadedEntry.listFrom catalog 0 (d.sequence.map Entry.toValue)) :
    ∃ l ∈ LoadedEntry.listFrom catalog 0 entries, ∃ place,
      l'.entry = l.entry.canonical l.endpoint place := by
  apply h.exists_of_mem
  rw [← h.load_again.1]
  exact List.mem_map.mpr ⟨l', hl', rfl⟩

/-- A saved document is imported without a loss, and saved in the same way. -/
theorem SavedFrom.save_again (h : SavedFrom catalog entries d) {stepId : Nat → String}
    (hinjective : Function.Injective stepId) (hshape : ∀ n, Reference.IsGenerated (stepId n))
    (hreadable : ∀ l ∈ LoadedEntry.listFrom catalog 0 entries, l.entry.Readable)
    (hunused : ∀ l ∈ LoadedEntry.listFrom catalog 0 entries, ∀ n, stepId n ∉ l.entry.references)
    (t : Session) (start : Nat) :
    ∃ report t' created,
      t.importDocument catalog stepId start d.toValue = .ok (.ok report, t', created) ∧
      report.skipped = 0 ∧
      ∀ (now today : String) (name : Option String), ∃ d',
        t'.document? now today name = some d' ∧ d'.sequence = d.sequence ∧
          d'.transformations = d.transformations := by
  obtain ⟨hentries, hforms⟩ := h.load_again
  have hread : ∀ l' ∈ LoadedEntry.listFrom catalog 0 (d.sequence.map Entry.toValue),
      l'.entry.Readable := by
    intro l' hl'
    obtain ⟨l, hl, place, heq⟩ := h.exists_of_mem_again hl'
    rw [heq]
    exact (hreadable l hl).canonical
  have hvalues : (d.toValue.field? "sequence").bind Value.list? =
      some (d.sequence.map Entry.toValue) := rfl
  obtain ⟨report, t', created, himport⟩ :=
    Session.exists_importDocument rfl hvalues hread t stepId start
  obtain ⟨fields, values, hfields, hvalues, himported, hskipped, htransformations⟩ :=
    Session.importDocument_eq_ok himport
  cases hfields
  cases hvalues
  have hlength := congrArg List.length hentries
  rw [List.length_map] at hlength hskipped
  refine ⟨report, t', created, himport, by omega, fun now today name => ?_⟩
  obtain ⟨d', hd', hsequence, hsame⟩ := himported.document?_eq hinjective hshape
    (fun l' hl' n => by
      obtain ⟨l, hl, place, heq⟩ := h.exists_of_mem_again hl'
      rw [heq]
      exact Entry.not_mem_references_canonical (hshape n) (hunused l hl n))
    now today name
  refine ⟨d', hd', by rw [hsequence, hforms], ?_⟩
  rw [hsame, htransformations]
  exact congrArg (fun t : Option Transformations => t.getD {})
    (SequenceDocument.documentTransformations_toValue d)

end FixedPoint

/-- The document of an imported session, saved and loaded again, loses no entry and is
written in the same way. It can be saved unless it has a text that cannot be written in
UTF-8. -/
theorem export_import_fixed {document : Value} (hnames : document.hasDistinctNames = true)
    {catalog : List Endpoint} {stepId stepId' : Nat → String} (hids : FreshIds stepId document)
    (hids' : FreshIds stepId' document) {s s' : Session} {start created : Nat}
    {report : ImportReport}
    (himport : s.importDocument catalog stepId start document = .ok (.ok report, s', created))
    (now today : String) (name : Option String) :
    ∃ d, s'.document? now today name = some d ∧ ∀ half : Char → Bool,
      (d.dump half = .error .notDumped ∧ Text.isEncodable half d.text = false) ∨
      ∃ text value, d.dump half = .ok text ∧ readSequence text = .ok value ∧
        ∀ (t : Session) (start' : Nat), ∃ report' t' created',
          t.importDocument catalog stepId' start' value = .ok (.ok report', t', created') ∧
          report'.skipped = 0 ∧
          ∀ (now' today' : String) (name' : Option String), ∃ d',
            t'.document? now' today' name' = some d' ∧ d'.sequence = d.sequence ∧
              d'.transformations = d.transformations := by
  obtain ⟨fields, entries, hfields, hentries, himported, -, -⟩ :=
    Session.importDocument_eq_ok himport
  have hown : documentEntries document = entries := by
    rw [documentEntries, hentries]
    rfl
  subst hown
  obtain ⟨d, hd, hsaved, -⟩ := himported.document?_eq hids.injective hids.generated
    (fun l hl n => hids.not_mem_references hl n) now today name
  have hdistinct : ∀ e ∈ d.sequence, e.Distinct := by
    intro e he
    obtain ⟨l, hl, place, rfl⟩ := SavedFrom.exists_of_mem hsaved he
    exact (Entry.distinct_of_mem_listFrom hnames hl).canonical
  refine ⟨d, hd, fun half => (d.dump_cases half).imp_right fun hdump => ?_⟩
  exact ⟨d.text, d.toValue, hdump, SequenceDocument.readSequence_text hdistinct,
    SavedFrom.save_again hsaved hids'.injective hids'.generated himported.readable
      fun l hl n => hids'.not_mem_references hl n⟩

/-- Ids are new to a document whose texts lack the letter that they all hold. -/
theorem freshIds_countedId {document : Value}
    (h : ((documentEntries document).all fun raw => (Entry.ofValue? raw).all fun e =>
      e.sources.all fun s => !s.toList.contains 'q') = true) :
    FreshIds Reference.countedId document where
  injective := fun _ _ h => Reference.countedId_injective h
  generated := Reference.isGenerated_countedId
  unused := by
    intro n raw hraw e he s hs hoccurs
    have hid : 'q' ∈ (Reference.countedId n).toList := by
      rw [Reference.toList_countedId]
      simp
    simp only [List.all_eq_true, Option.all_eq_true, Bool.not_eq_true'] at h
    have hnot := h raw hraw e he s hs
    rw [List.contains_iff_mem.mpr (hoccurs.subset hid)] at hnot
    cases hnot

/-- A document whose last entry writes a place with a leading zero; the entry before it is
malformed. -/
def leadingZero : Value :=
  .object [("sequence", .list [
    .object [("method", .text "get"), ("path", .text "/users")],
    .null,
    .object [("method", .text "GET"), ("path", .text "/tasks"), ("parameters", .object
      [("query", .object [("user", .text "\x7b\x7bstep00.gid\x7d\x7d")])])]])]

theorem freshIds_leadingZero : FreshIds Reference.countedId leadingZero :=
  freshIds_countedId (by decide +kernel)

theorem export_import_fixed_leadingZero :
    leadingZero.hasDistinctNames = true ∧ FreshIds Reference.countedId leadingZero ∧
    ∃ report s' created,
      Session.importDocument { baseUrl := defaultBaseUrl } [] Reference.countedId 0 leadingZero =
        .ok (.ok report, s', created) ∧
      ∃ d text value, s'.document? "" "" none = some d ∧ d.dump (fun _ => false) = .ok text ∧
        readSequence text = .ok value ∧ ∀ (t : Session) (start' : Nat), ∃ report' t' created',
          t.importDocument [] Reference.countedId start' value =
            .ok (.ok report', t', created') ∧
          report'.skipped = 0 ∧
          ∀ (now' today' : String) (name' : Option String), ∃ d',
            t'.document? now' today' name' = some d' ∧ d'.sequence = d.sequence ∧
              d'.transformations = d.transformations := by
  have hnames : leadingZero.hasDistinctNames = true := by decide +kernel
  have hloads : (Session.reported? (Session.importDocument { baseUrl := defaultBaseUrl } []
      Reference.countedId 0 leadingZero)).isSome = true := by decide +kernel
  obtain ⟨⟨report, s'⟩, hreported⟩ := Option.isSome_iff_exists.mp hloads
  obtain ⟨created, himport⟩ := Session.exists_of_reported? hreported
  obtain ⟨d, hd, hsaved⟩ := export_import_fixed hnames freshIds_leadingZero freshIds_leadingZero
    himport "" "" none
  refine ⟨hnames, freshIds_leadingZero, report, s', created, himport, ?_⟩
  rcases hsaved fun _ => false with ⟨-, hhalf⟩ | ⟨text, value, hdump, hread, hagain⟩
  · rw [Text.isEncodable_none] at hhalf
    cases hhalf
  · exact ⟨d, text, value, hd, hdump, hread, hagain⟩

/-- A document that has half a pair for a text is imported, but the session cannot be saved. -/
example :
    (do
      let document ← Except.toOption (readSequence
        "\x7b\"sequence\":[\x7b\"method\":\"GET\",\"path\":\"/x\",\"summary\":\"\\ud800\"\x7d]\x7d")
      let loaded ← Session.reported? (Session.importDocument { baseUrl := defaultBaseUrl } []
        Reference.countedId 0 document)
      let d ← loaded.2.document? "" "" none
      return d.dump Text.isHalf) = some (.error .notDumped) := by
  decide +kernel

end CallChain
