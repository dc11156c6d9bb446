/-
# Documents of edited sessions

The document of a session that has been edited has one entry for each step, and its text is read
and imported without a loss: every step has the method and the path that it had. Only a reference
to a place of too many digits stops an import, and only a text that cannot be written in UTF-8 is
in the way of saving the document. Whether there is a document turns on the values
that were entered for the inputs of the steps.
-/

import CallChain.Proofs.Document.Accounted
import CallChain.Proofs.Document.Carried
import CallChain.Proofs.Session.Made

namespace CallChain

variable {σ : Type}

/-! ## The document of an edited session -/

/-- Whether all places that the sources of a step refer to can be read. -/
def Step.RefersReadably (x : Step) : Prop :=
  ∀ p, x.inputs.parameters? = some p → ∀ s ∈ x.sources p,
    ∀ reference ∈ Renaming.references s, ∃ place?, Reference.place reference = .ok place?

namespace Session

variable {s : Session} {now today : String} {name : Option String} {d : SequenceDocument}

/-- A session with an input that cannot be checked has no document. -/
theorem document?_eq_none_of_unfit {x : Step} (hx : x ∈ s.steps) (h : x.inputs.Unfit) :
    s.document? now today name = none := by
  cases hd : s.document? now today name with
  | none => rfl
  | some d =>
      obtain ⟨n, hn⟩ := List.mem_iff_getElem?.mp hx
      obtain ⟨p, hp, -⟩ := (entries_of_document hd).2 n x hn
      rw [h.parameters?_eq_none] at hp
      cases hp

/-- Every entry of a document is that of a step. -/
theorem exists_step_of_document (h : s.document? now today name = some d) {n : Nat} {e : Entry}
    (he : d.sequence[n]? = some e) :
    ∃ x p, s.steps[n]? = some x ∧ x.inputs.parameters? = some p ∧ e = x.entry s.stepIds n p := by
  obtain ⟨hlength, hentries⟩ := entries_of_document h
  have hn : n < s.steps.length := hlength ▸ (List.getElem?_eq_some_iff.mp he).1
  obtain ⟨p, hp, hentry⟩ := hentries n _ (List.getElem?_eq_getElem hn)
  rw [he, Option.some.injEq] at hentry
  exact ⟨_, p, List.getElem?_eq_getElem hn, hp, hentry⟩

/-- Where the names of the steps are distinct, those of the entries are. -/
theorem distinct_of_document (hkeyed : ∀ x ∈ s.steps, x.Keyed)
    (h : s.document? now today name = some d) : ∀ e ∈ d.sequence, e.Distinct := by
  intro e he
  obtain ⟨n, hn⟩ := List.mem_iff_getElem?.mp he
  obtain ⟨x, p, hx, hp, rfl⟩ := exists_step_of_document h hn
  have hnames := hkeyed x (List.mem_of_getElem? hx)
  exact Step.distinct_entry hnames.path hnames.query hnames.mappings hp _ _

/-- Where all places that the steps refer to can be read, those of the entries can. -/
theorem readable_of_document (hlength : s.steps.length ≤ 10 ^ digitLimit)
    (hreadable : ∀ x ∈ s.steps, x.RefersReadably)
    (h : s.document? now today name = some d) : ∀ e ∈ d.sequence, e.Readable := by
  intro e he
  obtain ⟨n, hn⟩ := List.mem_iff_getElem?.mp he
  obtain ⟨x, p, hx, hp, rfl⟩ := exists_step_of_document h hn
  refine Step.readable_entry ?_ (hreadable x (List.mem_of_getElem? hx) p hp)
  rwa [stepIds, Step.ids, List.length_map]

/-! ## Importing the document -/

/-- All entries of a document are loaded again, in order. -/
theorem entries_listFrom_of_document (h : s.document? now today name = some d)
    (catalog : List Endpoint) :
    (LoadedEntry.listFrom catalog 0 (d.sequence.map Entry.toValue)).map LoadedEntry.entry =
      d.sequence := by
  obtain ⟨hlength, hloaded⟩ := exists_listFrom_map_toValue catalog d.sequence 0 fun n e he => by
    obtain ⟨x, p, -, -, rfl⟩ := exists_step_of_document h he
    obtain ⟨endpoint, isPlaceholder, hendpoint, -⟩ := Entry.exists_endpoint?
      (e := x.entry s.stepIds n p) (Method.ofName?_name x.endpoint.method) catalog (0 + n)
    exact Option.isSome_iff_exists.mpr ⟨_, hendpoint⟩
  apply List.ext_getElem (by rw [List.length_map, hlength])
  intro n hn hm
  obtain ⟨endpoint, isPlaceholder, -, hget⟩ := hloaded n _ (List.getElem?_eq_getElem hm)
  rw [List.length_map] at hn
  rw [List.getElem?_eq_getElem hn, Option.some.injEq] at hget
  rw [List.getElem_map, hget]

end Session

namespace Session.Accounts

variable {s t t' : Session} {now today : String} {name : Option String} {d : SequenceDocument}
  {catalog : List Endpoint} {stepId : Nat → String} {start : Nat} {fields : Fields Value}
  {report : ImportReport}

/-- What an import reports of the document of a session: nothing is skipped, and every step has
its method and its path. -/
theorem of_document (haccounts : Accounts catalog stepId start fields
      (d.sequence.map Entry.toValue) report t t') (h : s.document? now today name = some d) :
    report.skipped = 0 ∧ report.loaded = s.steps.length ∧
      t'.steps.map (·.endpoint.key) = s.steps.map (·.endpoint.key) := by
  have hentries := entries_listFrom_of_document h catalog
  have hloaded : (LoadedEntry.listFrom catalog 0 (d.sequence.map Entry.toValue)).length =
      d.sequence.length := by rw [← List.length_map, hentries]
  have hsteps : t'.steps.length = d.sequence.length := haccounts.endpoints.length_eq.trans hloaded
  have hcount := haccounts.entries_eq
  rw [haccounts.loaded_eq, hsteps, List.length_map] at hcount
  have hlength := (entries_of_document h).1
  refine ⟨by omega, by rw [haccounts.loaded_eq, hsteps, hlength], ?_⟩
  apply List.ext_getElem (by rw [List.length_map, List.length_map, hsteps, hlength])
  intro n hn hm
  rw [List.length_map] at hn hm
  rw [List.getElem_map, List.getElem_map]
  obtain ⟨-, hsame⟩ := List.forall₂_iff_get.mp haccounts.endpoints
  obtain ⟨hmethod, hpath⟩ := hsame n hn (by omega)
  obtain ⟨p, -, hentry⟩ := (entries_of_document h).2 n _ (List.getElem?_eq_getElem hm)
  have hloads : (LoadedEntry.listFrom catalog 0 (d.sequence.map Entry.toValue))[n].entry =
      s.steps[n].entry s.stepIds n p := by
    have hget := List.ext_getElem?_iff.mp hentries n
    rw [List.getElem?_map, List.getElem?_eq_getElem (by omega), hentry] at hget
    exact Option.some.inj hget
  simp only [List.get_eq_getElem, hloads] at hmethod hpath
  have hcapital := Method.name_of_ofName? (Method.ofName?_name s.steps[n].endpoint.method)
  exact Prod.ext (Method.name_injective (hmethod.trans hcapital.symm)) hpath

end Session.Accounts

namespace Run

variable {τ : Type} {s : Session} {now today : String} {name : Option String}
  {d : SequenceDocument}

/-- The text of a document of a session is read and imported. Nothing is skipped, and every step
has its method and its path, unless a place that an entry refers to has too many digits. -/
theorem importText_of_document (hkeyed : ∀ x ∈ s.steps, x.Keyed)
    (h : s.document? now today name = some d) (env : Environment τ) (w : World τ) :
    ((∀ e ∈ d.sequence, e.Readable) ∧ ∃ report w', importText env d.text w =
        .ok (.imported report w'.session.steps w'.session.transformations) w' ∧
      report.skipped = 0 ∧ report.loaded = s.steps.length ∧
      w'.session.steps.map (·.endpoint.key) = s.steps.map (·.endpoint.key)) ∨
    ((∃ e ∈ d.sequence, ¬ e.Readable) ∧
      ∃ problem w', importText env d.text w = .error (.badNumber problem) w') := by
  have htext : importText env d.text w = importValue env d.toValue w := by
    rw [importText, SequenceDocument.readSequence_text (Session.distinct_of_document hkeyed h)]
    rfl
  have hvalues : (d.toValue.field? "sequence").bind Value.list? =
      some (d.sequence.map Entry.toValue) := rfl
  have hread := Session.entries_listFrom_of_document h env.catalog
  rw [htext]
  rcases importValue_accounts env d.toValue w with
    ⟨hnone, -⟩ | ⟨fields, entries, -, hentries, himport⟩
  · rw [hvalues] at hnone
    cases hnone
  cases Option.some.inj (hvalues.symm.trans hentries)
  rcases himport with ⟨hreadable, report, w', hreported, haccounts⟩ | ⟨⟨l, hl, hnot⟩, hstopped⟩
  · refine Or.inl ⟨fun e he => ?_, report, w', hreported, haccounts.of_document h⟩
    rw [← hread] at he
    obtain ⟨l, hl, rfl⟩ := List.mem_map.mp he
    exact hreadable l hl
  · exact Or.inr ⟨⟨l.entry, hread ▸ List.mem_map_of_mem hl, hnot⟩, hstopped⟩

end Run

/-- The inputs of an edited session can all be checked if every value that was entered is one
that its kind of input takes; then the session can be exported. It cannot while some input is one
that its kind cannot have. Its document can be saved unless it has a text that cannot be written
in UTF-8. Importing what is saved anywhere skips nothing and makes as many steps, with the same
methods and paths; only a reference to a place of too many digits stops it, and where the steps
have none, so have the entries. -/
theorem World.Edited.document_imports {env : Environment σ} {allowed : InputKind → Value → Prop}
    {w : World σ} (h : World.Edited env allowed w) (now today : String) (name : Option String) :
    ((∀ kind v, allowed kind v → Inputs.Takes kind v) → ∀ x ∈ w.session.steps, x.inputs.Fit) ∧
    ((∀ x ∈ w.session.steps, x.inputs.Fit) → ∃ d, w.session.document? now today name = some d) ∧
    ((∃ x ∈ w.session.steps, x.inputs.Unfit) → w.session.document? now today name = none) ∧
    ∀ d, w.session.document? now today name = some d →
      (w.session.steps.length ≤ 10 ^ digitLimit → (∀ x ∈ w.session.steps, x.RefersReadably) →
        ∀ e ∈ d.sequence, e.Readable) ∧
      ∀ half : Char → Bool,
        (d.dump half = .error .notDumped ∧ Text.isEncodable half d.text = false) ∨
        ∃ text, d.dump half = .ok text ∧ ∀ {τ : Type} (env' : Environment τ) (w' : World τ),
          ((∀ e ∈ d.sequence, e.Readable) ∧ ∃ report w'', Run.importText env' text w' =
              .ok (.imported report w''.session.steps w''.session.transformations) w'' ∧
            report.skipped = 0 ∧ report.loaded = w.session.steps.length ∧
            w''.session.steps.map (·.endpoint.key) = w.session.steps.map (·.endpoint.key)) ∨
          ((∃ e ∈ d.sequence, ¬ e.Readable) ∧
            ∃ problem w'', Run.importText env' text w' = .error (.badNumber problem) w'') := by
  have hmade := h.allMade
  have hkeyed : ∀ x ∈ w.session.steps, x.Keyed := fun x hx => (hmade x hx).keyed
  refine ⟨fun hallowed x hx => (hmade x hx).fit hallowed, fun hfit => ?_, ?_, fun d hd => ⟨?_, ?_⟩⟩
  · exact Session.exists_document (fun x hx => (hfit x hx).exists_parameters?) now today name
  · rintro ⟨x, hx, hunfit⟩
    exact Session.document?_eq_none_of_unfit hx hunfit
  · exact fun hlength hreadable => Session.readable_of_document hlength hreadable hd
  · intro half
    refine (d.dump_cases half).imp_right fun hdump => ⟨d.text, hdump, fun env' w' => ?_⟩
    exact Run.importText_of_document hkeyed hd env' w'

/-- A session of one step, with a value that has been entered for a parameter of its query. -/
def World.entering (v : Value) : World Nat :=
  let added := (Run.performOperation Environment.answering (.add
    (.object [("method", .text "GET"), ("path", .text "/users")]) none (.object []) none)).after
    { session := { baseUrl := defaultBaseUrl }, peer := 0 }
  (Run.performOperation Environment.answering (.update (.place 0) "query" "limit" v)).after added

theorem World.edited_entering {allowed : InputKind → Value → Prop} {v : Value}
    (h : allowed .query v) : World.Edited Environment.answering allowed (World.entering v) := by
  have hadd : Operation.Edits allowed (.add
      (.object [("method", .text "GET"), ("path", .text "/users")]) none (.object []) none) :=
    ⟨nofun, rfl⟩
  have hupdate : Operation.Edits allowed (.update (.place 0) "query" "limit" v) := by
    intro kind hkind
    cases kind with
    | query => exact h
    | path => exact absurd hkind (by decide)
    | body => exact absurd hkind (by decide)
  unfold World.entering
  exact .edit hupdate (.edit hadd (.start _ _ _ _))

/-- With a number the session is exported and imported. With null it cannot be exported. -/
theorem World.Edited.document_imports_entering :
    World.Edited Environment.answering Inputs.Takes (World.entering (.int 5)) ∧
    (∃ d text, (World.entering (.int 5)).session.document? "" "" none = some d ∧
      d.dump (fun _ => false) = .ok text ∧ ∃ report w,
      Run.importText Environment.answering text (World.entering (.int 5)) =
        .ok (.imported report w.session.steps w.session.transformations) w ∧
      report.skipped = 0 ∧ report.loaded = 1) ∧
    World.Edited Environment.answering (fun _ _ => True) (World.entering .null) ∧
    (World.entering .null).session.document? "" "" none = none := by
  have hnumber : World.Edited Environment.answering Inputs.Takes (World.entering (.int 5)) :=
    World.edited_entering (.int .query (by decide +kernel))
  have hnull : World.Edited Environment.answering (fun _ _ => True) (World.entering .null) :=
    World.edited_entering trivial
  obtain ⟨hfit, hdocument, -, himport⟩ := World.Edited.document_imports hnumber "" "" none
  obtain ⟨-, -, hrefused, -⟩ := World.Edited.document_imports hnull "" "" none
  have hreferences : (World.entering (.int 5)).session.steps.all (fun x =>
      x.inputs.parameters?.all fun p => ((x.sources p).flatMap Renaming.references).isEmpty) =
        true := by decide +kernel
  have hreadable : ∀ x ∈ (World.entering (.int 5)).session.steps, x.RefersReadably := by
    intro x hx p hp s hs reference hreference
    have hnone := List.all_eq_true.mp hreferences x hx
    rw [hp, Option.all_some, List.isEmpty_iff, List.flatMap_eq_nil_iff] at hnone
    rw [hnone s hs] at hreference
    cases hreference
  have hlength : (World.entering (.int 5)).session.steps.length = 1 := by decide +kernel
  have hquery : (World.entering .null).session.steps.map (·.inputs.query) =
      [[("limit", .null)]] := by decide +kernel
  have hunfit : ∃ x ∈ (World.entering .null).session.steps, x.inputs.Unfit := by
    have hmem := List.mem_singleton_self [("limit", Value.null)]
    rw [← hquery] at hmem
    obtain ⟨x, hx, hown⟩ := List.mem_map.mp hmem
    have hnulled : ("limit", Value.null) ∈ x.inputs.query := by
      rw [hown]
      exact List.mem_singleton_self _
    exact ⟨x, hx, .query hnulled (.null nofun)⟩
  obtain ⟨d, hd⟩ := hdocument (hfit fun _ _ htakes => htakes)
  obtain ⟨hentries, himported⟩ := himport d hd
  have hread := hentries (hlength ▸ Nat.one_le_pow _ _ (by decide)) hreadable
  obtain ⟨text, hdump, himported⟩ := (himported fun _ => false).resolve_left fun ⟨_, hhalf⟩ =>
    Bool.false_ne_true (hhalf.symm.trans (Text.isEncodable_none d.text))
  refine ⟨hnumber, ⟨d, text, hd, hdump, ?_⟩, hnull, hrefused hunfit⟩
  rcases himported Environment.answering (World.entering (.int 5)) with
    ⟨-, report, w, hreported, hskipped, hloaded, -⟩ | ⟨⟨e, he, hnot⟩, -⟩
  · exact ⟨report, w, hreported, hskipped, hloaded.trans hlength⟩
  · exact absurd (hread e he) hnot

end CallChain
