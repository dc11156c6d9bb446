/-
# Loading a catalog

A text that is no API document, because it cannot be parsed or holds no mapping, is refused, and
so is a source without a text; the built-in endpoints are loaded then. Of every other document
the operations that can be read are listed, and a short list is completed.

What stops the reading of a text is neither: it is a problem of its own, and nothing is loaded.
`StopsReading` says what it is.

All of this holds for every loader of YAML: a text is one that the loader refuses, or for which
it fails in some other way, or it gives a document, which may be any.
-/

import CallChain.Catalog.Loading
import CallChain.Proofs.Catalog.Operations

namespace CallChain.Catalog

open Yaml (Loader Node Scalar nodeAt?)

namespace ApiDocument

section Reading

variable (yaml : Loader) (text : String)

/-- Whether a text is refused, since it is no API document. -/
inductive Refused : DocumentProblem → Prop
  /-- It cannot be parsed. -/
  | unparsed (h : yaml.load text = .error .malformed) : Refused .unreadable
  /-- It holds no mapping. -/
  | notMapping {document : Node} (h : yaml.load text = .ok document)
    (hmapping : ∀ entries, document ≠ .mapping entries) : Refused .notMapping

/-- What stops the reading of a text before it is known what it lists. -/
inductive StopsReading : DocumentProblem → Prop
  /-- A number is written that cannot be read. -/
  | number {problem : NumberProblem} (h : yaml.load text = .error (.number problem)) :
    StopsReading (.badNumber problem)
  /-- Lists and mappings are nested too deeply. -/
  | tooDeep (h : yaml.load text = .error .tooDeep) : StopsReading .tooDeep
  /-- The loader fails in a way of its own. -/
  | raised {kind : String} (h : yaml.load text = .error (.raised kind)) :
    StopsReading (.raised kind)
  /-- The entries of the document stop it. -/
  | entries {entries : List (Scalar × Node)} {problem : DocumentProblem}
    (h : yaml.load text = .ok (.mapping entries)) (hstops : Stops yaml.levels entries problem) :
    StopsReading problem

/-- Whether endpoints are those of the operations that can be read in the document that a text
writes, one for each and in the order of the document. -/
def Lists (endpoints : List Endpoint) : Prop :=
  ∃ entries, yaml.load text = .ok (.mapping entries) ∧
    ReadsAll (schemes (nodeAt? entries "security")) (listings entries) endpoints

end Reading

variable {yaml : Loader} {text : String} {problem : DocumentProblem} {es : List Endpoint}

theorem endpoints_of_not_mapping {document : Node} (h : ∀ entries, document ≠ .mapping entries)
    (levels : Nat) : endpoints levels document = .error .notMapping := by
  cases document with
  | mapping entries => exact absurd rfl (h entries)
  | _ => rfl

theorem ofText_of_load {document : Node} (h : yaml.load text = .ok document) :
    ofText text yaml = endpoints yaml.levels document := by
  rw [ofText, h]

/-- A text gives no endpoints exactly when it is refused or something stops its reading. -/
theorem ofText_eq_error_iff : ofText text yaml = .error problem ↔
    Refused yaml text problem ∨ StopsReading yaml text problem := by
  constructor
  · intro h
    cases hread : yaml.load text with
    | error trouble =>
        rw [ofText, hread] at h
        cases trouble <;> cases h
        · exact .inl (.unparsed hread)
        · exact .inr (.number hread)
        · exact .inr (.tooDeep hread)
        · exact .inr (.raised hread)
    | ok document =>
        rw [ofText_of_load hread] at h
        by_cases hmapping : ∃ entries, document = .mapping entries
        · obtain ⟨entries, rfl⟩ := hmapping
          exact .inr (.entries hread (endpoints_eq_error_iff.mp h))
        · rw [not_exists] at hmapping
          rw [endpoints_of_not_mapping hmapping _] at h
          cases h
          exact .inl (.notMapping hread hmapping)
  · intro h
    rcases h with h | h
    · cases h with
      | unparsed h => rw [ofText, h]; rfl
      | notMapping h hmapping => rw [ofText_of_load h, endpoints_of_not_mapping hmapping _]
    · cases h with
      | number h => rw [ofText, h]; rfl
      | tooDeep h => rw [ofText, h]; rfl
      | raised h => rw [ofText, h]; rfl
      | entries h hstops => rw [ofText_of_load h, endpoints_eq_error_iff.mpr hstops]

/-- A text gives endpoints exactly when it lists them and nothing stops its reading. -/
theorem ofText_eq_ok_iff :
    ofText text yaml = .ok es ↔
      Lists yaml text es ∧ ∀ problem, ¬ StopsReading yaml text problem := by
  constructor
  · intro h
    refine ⟨?_, fun problem hstops => ?_⟩
    · cases hread : yaml.load text with
      | error trouble => rw [ofText, hread] at h; cases h
      | ok document =>
          rw [ofText_of_load hread] at h
          by_cases hmapping : ∃ entries, document = .mapping entries
          · obtain ⟨entries, rfl⟩ := hmapping
            exact ⟨entries, hread, readsAll_of_endpoints h⟩
          · rw [endpoints_of_not_mapping (not_exists.mp hmapping) _] at h
            cases h
    · rw [ofText_eq_error_iff.mpr (.inr hstops)] at h
      cases h
  · rintro ⟨⟨entries, hread, hreads⟩, hstops⟩
    rw [ofText_of_load hread]
    exact endpoints_eq_ok_iff.mpr
      ⟨fun problem h => hstops problem (.entries hread h), hreads⟩

theorem Refused.caught (h : Refused yaml text problem) :
    problem = .unreadable ∨ problem = .notMapping := by
  cases h
  · exact .inl rfl
  · exact .inr rfl

theorem StopsReading.not_caught (h : StopsReading yaml text problem) :
    problem ≠ .unreadable ∧ problem ≠ .notMapping := by
  cases h with
  | entries _ h =>
      cases h with
      | paths => exact ⟨nofun, nofun⟩
      | @schemes problem => cases problem <;> exact ⟨nofun, nofun⟩
      | @operation problem => cases problem <;> exact ⟨nofun, nofun⟩
  | _ => exact ⟨nofun, nofun⟩

end ApiDocument

open ApiDocument

/-- Few endpoints are followed by the built-in ones whose method and path are not among theirs. -/
theorem complete_eq (es : List Endpoint) :
    complete es = es ++ builtin.filter fun e =>
      es.length < fullSize ∧ ∀ e' ∈ es, ¬ (e'.method = e.method ∧ e'.path = e.path) := by
  rw [complete]
  split
  · next hfew =>
    congr 2
    funext e
    rw [Bool.eq_iff_iff]
    simp only [Bool.not_eq_true', List.contains_eq_mem, decide_eq_false_iff_not, List.mem_map,
      not_exists, not_and, Endpoint.key, Prod.mk.injEq, hfew, true_and, decide_eq_true_eq]
  · next hmany => simp [hmany]

/-! ## What a source gives -/

section Source

variable {σ : Type} (client : Client σ) (peer : σ) (fs : Files) (timeout : Value) (yaml : Loader)

/-- Whether a text is what a source holds. -/
def Holds (source : Option String) (text : String) : Prop :=
  ∃ s, source = some s ∧ s ≠ "" ∧ (sourceText client peer fs timeout s).1 = .ok text

/-- Whether a source holds no API document. -/
inductive HoldsNone (source : Option String) : Prop
  /-- There is no source. -/
  | unasked (h : source = none ∨ source = some "")
  /-- It cannot be downloaded, or the file system reports that it cannot be read. -/
  | unread {s : String} {problem : SourceProblem} (h : source = some s) (hs : s ≠ "")
    (hproblem : (sourceText client peer fs timeout s).1 = .error problem)
    (hreported : ∀ name cause, problem = .unreadable name cause → cause.isReported = true)
  /-- Its text is refused. -/
  | refused {text : String} {problem : DocumentProblem}
    (h : Holds client peer fs timeout source text) (hrefused : Refused yaml text problem)

/-- What stops the loading of a source. -/
inductive StopsLoading (source : Option String) : DocumentProblem → Prop
  /-- It is not the name of any file, or of one that is not written in UTF-8. -/
  | file {s name : String} {cause : FileProblem} (h : source = some s) (hs : s ≠ "")
    (hproblem : (sourceText client peer fs timeout s).1 = .error (.unreadable name cause))
    (hunreported : cause.isReported = false) : StopsLoading source (.badFile cause)
  /-- Something stops the reading of its text. -/
  | text {text : String} {problem : DocumentProblem}
    (h : Holds client peer fs timeout source text) (hstops : StopsReading yaml text problem) :
    StopsLoading source problem

variable {source : Option String} {problem : DocumentProblem}

variable {client peer fs timeout yaml}

theorem load_some {s : String} (hs : s ≠ "") :
    (load client peer fs timeout (some s) yaml).1 =
      ofSource yaml (sourceText client peer fs timeout s).1 := by
  rw [load, Option.filter_some, if_pos (decide_eq_true hs)]

theorem load_of_holds {text : String} (h : Holds client peer fs timeout source text) :
    (load client peer fs timeout source yaml).1 = ofSource yaml (.ok text) := by
  obtain ⟨s, rfl, hs, htext⟩ := h
  rw [load_some hs, htext]

/-- What stops the loading is reported. -/
theorem load_of_stopsLoading (h : StopsLoading client peer fs timeout yaml source problem) :
    (load client peer fs timeout source yaml).1 = .error problem := by
  cases h with
  | file h hs hproblem hunreported =>
      rw [h, load_some hs, hproblem, ofSource, if_neg (by rw [hunreported]; decide)]
  | text h hstops =>
      obtain ⟨hunreadable, hmapping⟩ := hstops.not_caught
      rw [load_of_holds h, ofSource, ofText_eq_error_iff.mpr (.inr hstops)]
      cases problem <;> first | rfl | contradiction

/-- A source without an API document gives the built-in endpoints. -/
theorem load_of_holdsNone (h : HoldsNone client peer fs timeout yaml source) :
    (load client peer fs timeout source yaml).1 = .ok builtin := by
  cases h with
  | unasked h => rcases h with rfl | rfl <;> rfl
  | @unread s problem h hs hproblem hreported =>
      rw [h, load_some hs, hproblem]
      cases problem with
      | unreadable name cause => rw [ofSource, if_pos (hreported name cause rfl)]
      | notDownloaded _ _ => rfl
  | refused h hrefused =>
      rw [load_of_holds h, ofSource, ofText_eq_error_iff.mpr (.inl hrefused)]
      rcases hrefused.caught with rfl | rfl <;> rfl

/-- Of every other source the operations that can be read are listed, and completed. -/
theorem load_of_lists {text : String} {es : List Endpoint}
    (h : Holds client peer fs timeout source text) (hes : Lists yaml text es)
    (hstops : ∀ problem, ¬ StopsReading yaml text problem) :
    (load client peer fs timeout source yaml).1 = .ok (es ++ builtin.filter fun e =>
      es.length < fullSize ∧ ∀ e' ∈ es, ¬ (e'.method = e.method ∧ e'.path = e.path)) := by
  rw [load_of_holds h, ofSource, ofText_eq_ok_iff.mpr ⟨hes, hstops⟩]
  exact congrArg Except.ok (complete_eq es)

theorem source_cases (client : Client σ) (peer : σ) (fs : Files) (timeout : Value)
    (yaml : Loader) (source : Option String) :
    (∃ problem, StopsLoading client peer fs timeout yaml source problem) ∨
      HoldsNone client peer fs timeout yaml source ∨
      ∃ text es, Holds client peer fs timeout source text ∧ Lists yaml text es ∧
        ∀ problem, ¬ StopsReading yaml text problem := by
  by_cases hunasked : source = none ∨ source = some ""
  · exact .inr (.inl (.unasked hunasked))
  obtain ⟨s, rfl, hs⟩ : ∃ s, source = some s ∧ s ≠ "" := by
    cases source with
    | none => exact absurd (.inl rfl) hunasked
    | some s => exact ⟨s, rfl, fun h => hunasked (.inr (by rw [h]))⟩
  cases htext : (sourceText client peer fs timeout s).1 with
  | error problem =>
      by_cases hcause : ∃ name cause, problem = .unreadable name cause ∧ cause.isReported = false
      · obtain ⟨name, cause, rfl, hunreported⟩ := hcause
        exact .inl ⟨_, .file rfl hs htext hunreported⟩
      · simp only [not_exists, not_and, Bool.not_eq_false] at hcause
        exact .inr (.inl (.unread rfl hs htext hcause))
  | ok text =>
      have hholds : Holds client peer fs timeout (some s) text := ⟨s, rfl, hs, htext⟩
      cases hes : ofText text yaml with
      | ok es =>
          obtain ⟨hlists, hstops⟩ := ofText_eq_ok_iff.mp hes
          exact .inr (.inr ⟨text, es, hholds, hlists, hstops⟩)
      | error problem =>
          rcases ofText_eq_error_iff.mp hes with hrefused | hstops
          · exact .inr (.inl (.refused hholds hrefused))
          · exact .inl ⟨problem, .text hholds hstops⟩

/-- A source is not loaded only when something stops it. -/
theorem load_eq_error_iff : (load client peer fs timeout source yaml).1 = .error problem ↔
    StopsLoading client peer fs timeout yaml source problem := by
  refine ⟨fun h => ?_, load_of_stopsLoading⟩
  rcases source_cases client peer fs timeout yaml source with
    ⟨other, hstops⟩ | hnone | ⟨text, es, hholds, hlists, hstops⟩
  · rw [load_of_stopsLoading hstops] at h
    cases h
    exact hstops
  · rw [load_of_holdsNone hnone] at h
    cases h
  · rw [load_of_lists hholds hlists hstops] at h
    cases h

/-- Its catalog is the built-in one, or that of its document, completed. -/
theorem load_eq_ok_iff {catalog : List Endpoint} :
    (load client peer fs timeout source yaml).1 = .ok catalog ↔
      HoldsNone client peer fs timeout yaml source ∧ catalog = builtin ∨
      ∃ text es, Holds client peer fs timeout source text ∧ Lists yaml text es ∧
        (∀ problem, ¬ StopsReading yaml text problem) ∧ catalog = es ++ builtin.filter fun e =>
          es.length < fullSize ∧ ∀ e' ∈ es, ¬ (e'.method = e.method ∧ e'.path = e.path) := by
  constructor
  · intro h
    rcases source_cases client peer fs timeout yaml source with
      ⟨other, hstops⟩ | hnone | ⟨text, es, hholds, hlists, hstops⟩
    · rw [load_of_stopsLoading hstops] at h
      cases h
    · rw [load_of_holdsNone hnone] at h
      cases h
      exact .inl ⟨hnone, rfl⟩
    · rw [load_of_lists hholds hlists hstops] at h
      cases h
      exact .inr ⟨text, es, hholds, hlists, hstops, rfl⟩
  · rintro (⟨hnone, rfl⟩ | ⟨text, es, hholds, hlists, hstops, rfl⟩)
    · exact load_of_holdsNone hnone
    · exact load_of_lists hholds hlists hstops

end Source

/-- A document whose paths are written as a list stops the reading of its text. -/
example : ofText "paths:\n- /a\n" = .error .pathsNotMapping := by decide +kernel

end CallChain.Catalog
