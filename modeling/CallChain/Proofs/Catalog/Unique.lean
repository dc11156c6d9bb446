/-
# Catalogs that name each endpoint once

A document binds a key of a path once, and every path once. Two of its endpoints with one method
and path can therefore only come from one path under which the name of the method is written
twice, in different letters, or from two keys that are taken for one path. The built-in endpoints
are distinct, and completing a list adds none that it has.

Where no endpoint is listed twice, the first one with a method and path is the last one, too, so
that a call and an import choose the same.
-/

import CallChain.CommandLine.Perform
import CallChain.Document.Transfer
import CallChain.Proofs.Catalog.Loading
import CallChain.Proofs.Yaml.Keys
import Mathlib.Data.List.Pairwise

namespace CallChain.Catalog

open Yaml (Loader Node Scalar nodeAt?)

/-! ## Built-in endpoints -/

theorem nodup_builtin_keys : (builtin.map Endpoint.key).Nodup := by
  decide +kernel

/-- Completing a list adds no endpoint a second time. -/
theorem nodup_complete_iff {es : List Endpoint} :
    ((complete es).map Endpoint.key).Nodup ↔ (es.map Endpoint.key).Nodup := by
  rw [complete]
  split
  · rw [List.map_append, List.nodup_append']
    refine ⟨fun h => h.1, fun h => ⟨h, ?_, ?_⟩⟩
    · exact nodup_builtin_keys.sublist (List.filter_sublist.map _)
    · intro key hkey hadded
      obtain ⟨e, he, rfl⟩ := List.mem_map.mp hadded
      have hnew := (List.mem_filter.mp he).2
      rw [List.contains_eq_mem, decide_eq_true hkey] at hnew
      cases hnew
  · rfl

namespace ApiDocument

/-! ## Documents -/

/-- Whether a document writes each endpoint in one way: operations that are read as endpoints
with one method and path stand under the same keys. -/
def NamesEndpointsOnce (entries : List (Scalar × Node)) : Prop :=
  ∀ l ∈ listings entries, ∀ l' ∈ listings entries, ∀ e e' : Endpoint,
    l.IsReadAs (schemes (nodeAt? entries "security")) e →
      l'.IsReadAs (schemes (nodeAt? entries "security")) e' → e.key = e'.key →
        l.path = l'.path ∧ l.name = l'.name

/-- No two entries of the paths of a document have the same path and key, if these are names. -/
theorem pairwise_listings {entries : List (Scalar × Node)}
    (h : (Node.mapping entries).BindsNamesOnce) :
    (listings entries).Pairwise fun l l' =>
      l.path.isName = true → l.name.isName = true → l.path = l'.path → l.name ≠ l'.name := by
  cases hpaths : (nodeAt? entries "paths").bind Node.mapping? with
  | none => simp [listings, hpaths]
  | some paths =>
      have honce : (Node.mapping paths).BindsNamesOnce := by
        obtain ⟨node, hnode, hmapping⟩ := Option.bind_eq_some_iff.mp hpaths
        obtain ⟨entry, hentry, rfl⟩ := Option.map_eq_some_iff.mp hnode
        rw [← (mapping?_eq_some_iff _ _).mp hmapping]
        exact h.of_mem_entries (List.mem_of_find?_eq_some hentry)
      rw [listings, hpaths, Option.getD_some]
      refine List.pairwise_flatMap.mpr ⟨?_, ?_⟩
      · rintro ⟨path, methods⟩ hentry
        refine List.pairwise_map.mpr ?_
        cases hmethods : methods.mapping? with
        | none => exact .nil
        | some operations =>
            have hoperations : (Node.mapping operations).BindsNamesOnce :=
              (mapping?_eq_some_iff _ _).mp hmethods ▸ honce.of_mem_entries hentry
            exact hoperations.pairwise.imp fun hne _ hname _ => hne hname
      · refine honce.pairwise.imp fun hne l hl l' hl' hname _ hpath => ?_
        obtain ⟨entry, -, rfl⟩ := List.mem_map.mp hl
        obtain ⟨entry', -, rfl⟩ := List.mem_map.mp hl'
        exact absurd hpath (hne hname)

theorem isName_of_isText {s : Scalar} {text : String} (h : IsText (.scalar s) text) :
    s.isName = true := by
  cases h <;> rfl

/-- A document lists an endpoint twice only when it writes it in two ways. -/
theorem nodup_keys_iff {entries : List (Scalar × Node)} {es : List Endpoint}
    (h : (Node.mapping entries).BindsNamesOnce)
    (hes : ReadsAll (schemes (nodeAt? entries "security")) (listings entries) es) :
    (es.map Endpoint.key).Nodup ↔ NamesEndpointsOnce entries := by
  rw [readsAll_iff] at hes
  rw [← hes, List.Nodup, List.pairwise_map, List.pairwise_filterMap]
  constructor
  · intro hnodup l hl l' hl' e e' he he' hkey
    by_contra hkeys
    have hne : l ≠ l' := fun heq => hkeys ⟨congrArg Listing.path heq, congrArg Listing.name heq⟩
    have : Std.Symm fun l l' : Listing =>
        ∀ e, l.endpoint? (schemes (nodeAt? entries "security")) = some e →
          ∀ e', l'.endpoint? (schemes (nodeAt? entries "security")) = some e' →
            e.key ≠ e'.key :=
      { symm := fun _ _ h e he e' he' hkey => h e' he' e he hkey.symm }
    exact hnodup.forall hl hl' hne e (Listing.endpoint?_eq_some_iff.mpr he) e'
      (Listing.endpoint?_eq_some_iff.mpr he') hkey
  · intro honce
    refine (pairwise_listings h).imp_of_mem fun hl hl' hne e he e' he' hkey => ?_
    rw [Listing.endpoint?_eq_some_iff] at he he'
    obtain ⟨hpath, hname⟩ := honce _ hl _ hl' e e' he he' hkey
    obtain ⟨name, hl_name, -⟩ := he.method
    exact hne (isName_of_isText he.path) (by rw [hl_name]; rfl) hpath hname

end ApiDocument

/-! ## Choosing an endpoint -/

/-- Where endpoints are distinct, the last one with a method and path is the first one. -/
theorem find?_reverse {es : List Endpoint} (h : (es.map Endpoint.key).Nodup) (method : Method)
    (path : String) :
    es.reverse.find? (fun e => e.method = method && e.path = path) =
      es.find? fun e => e.method = method && e.path = path := by
  have hmem : ∀ {l : List Endpoint} {e : Endpoint},
      l.find? (fun e => e.method = method && e.path = path) = some e →
        e ∈ l ∧ e.key = (method, path) := by
    intro l e he
    have hkey := List.find?_some he
    rw [Bool.and_eq_true, decide_eq_true_eq, decide_eq_true_eq] at hkey
    exact ⟨List.mem_of_find?_eq_some he, Prod.ext hkey.1 hkey.2⟩
  cases hfirst : es.find? (fun e => e.method = method && e.path = path) with
  | none =>
      rw [List.find?_eq_none] at hfirst ⊢
      exact fun e he => hfirst e (List.mem_reverse.mp he)
  | some e =>
      cases hlast : es.reverse.find? (fun e => e.method = method && e.path = path) with
      | none =>
          rw [List.find?_eq_none] at hlast
          exact absurd (List.find?_some hfirst)
            (hlast e (List.mem_reverse.mpr (hmem hfirst).1))
      | some e' =>
          obtain ⟨he, hkey⟩ := hmem hfirst
          obtain ⟨he', hkey'⟩ := hmem hlast
          rw [List.inj_on_of_nodup_map h (List.mem_reverse.mp he') he (hkey'.trans hkey.symm)]

variable {σ : Type} {client : Client σ} {peer : σ} {fs : Files} {timeout : Value} {yaml : Loader}
  {source : Option String} {catalog : List Endpoint}

theorem Holds.unique {text text' : String} (h : Holds client peer fs timeout source text)
    (h' : Holds client peer fs timeout source text') : text = text' := by
  obtain ⟨s, rfl, -, htext⟩ := h
  obtain ⟨s', hs', -, htext'⟩ := h'
  cases hs'
  exact Except.ok.inj (htext.symm.trans htext')

theorem HoldsNone.load_ne_mapping (h : HoldsNone client peer fs timeout yaml source)
    {text : String} {entries : List (Scalar × Node)}
    (hholds : Holds client peer fs timeout source text) :
    yaml.load text ≠ .ok (.mapping entries) := by
  intro hread
  cases h with
  | unasked h =>
      obtain ⟨s, rfl, hs, -⟩ := hholds
      rcases h with h | h <;> cases h
      exact hs rfl
  | unread h _ hproblem _ =>
      obtain ⟨s, rfl, -, htext⟩ := hholds
      cases h
      rw [htext] at hproblem
      cases hproblem
  | refused h hrefused =>
      cases h.unique hholds
      cases hrefused with
      | unparsed h => rw [h] at hread; cases hread
      | notMapping h hmapping =>
          rw [h] at hread
          exact hmapping entries (Except.ok.inj hread)

/-- The catalog of a source lists an endpoint twice exactly when a document does that writes it in
two ways, with the name of its method in different letters or with keys that are taken for one
path. Where it lists every endpoint once, a call and an import choose the same one for each
method and path. -/
theorem nodup_keys_load_iff (hyaml : yaml.BindsNamesOnce)
    (h : (load client peer fs timeout source yaml).1 = .ok catalog) :
    ((catalog.map Endpoint.key).Nodup ↔
      ∀ text entries, Holds client peer fs timeout source text →
        yaml.load text = .ok (.mapping entries) → ApiDocument.NamesEndpointsOnce entries) ∧
    ((catalog.map Endpoint.key).Nodup → ∀ (e : Entry) (method : Method),
      Method.ofName? e.method = some method →
        CommandLine.endpointFor catalog method e.path =
          (e.known? catalog).getD { method, path := e.path }) := by
  refine ⟨?_, fun hnodup e method hmethod => ?_⟩
  · rcases load_eq_ok_iff.mp h with ⟨hnone, rfl⟩ | ⟨text, es, hholds, hlists, -, rfl⟩
    · exact iff_of_true nodup_builtin_keys fun text entries hholds hload =>
        absurd hload (hnone.load_ne_mapping hholds)
    · rw [← complete_eq]
      obtain ⟨entries, hload, hreads⟩ := hlists
      rw [nodup_complete_iff, ApiDocument.nodup_keys_iff (hyaml _ _ hload) hreads]
      refine ⟨fun honce text' entries' hholds' hload' => ?_, fun h => h text entries hholds hload⟩
      cases hholds.unique hholds'
      rw [hload] at hload'
      cases hload'
      exact honce
  · rw [CommandLine.endpointFor, Entry.known?, hmethod]
    exact congrArg (Option.getD · _) (find?_reverse hnodup method e.path).symm

/-- A document that writes one operation in small and in capital letters. -/
def spelledTwice : String := "paths:\n  /tags:\n    get: \x7b\x7d\n    GET: \x7b\x7d\n"

/-- The files with this document alone. -/
def spelledTwiceFiles : Files := { entries := [(.ofText "api.yaml", ⟨spelledTwice, .shared⟩)] }

/-- A client that gets no reply. -/
def unreachable : Client Unit := ⟨fun _ _ => (⟨[], .failed ""⟩, ())⟩

/-- The operation that is written twice is listed twice. -/
theorem nodup_keys_load_iff_spelledTwice :
    Loader.plain.BindsNamesOnce ∧
    (load unreachable () spelledTwiceFiles .null (some "api.yaml")).1 =
      .ok (complete [{ method := .get, path := "/tags" }, { method := .get, path := "/tags" }]) ∧
    ¬ ∀ text entries,
      Holds unreachable () spelledTwiceFiles .null (some "api.yaml") text →
      Loader.plain.load text = .ok (.mapping entries) →
        ApiDocument.NamesEndpointsOnce entries := by
  have hholds : Holds unreachable () spelledTwiceFiles .null (some "api.yaml") spelledTwice :=
    ⟨"api.yaml", rfl, by decide, by decide +kernel⟩
  have hes : ApiDocument.ofText spelledTwice =
      .ok [{ method := .get, path := "/tags" }, { method := .get, path := "/tags" }] := by
    decide +kernel
  have hload : (load unreachable () spelledTwiceFiles .null (some "api.yaml")).1 = .ok (complete
      [{ method := .get, path := "/tags" }, { method := .get, path := "/tags" }]) := by
    rw [load_of_holds hholds, ofSource, hes]
  refine ⟨Loader.plain_bindsNamesOnce, hload, fun honce => ?_⟩
  have hnodup := (nodup_keys_load_iff Loader.plain_bindsNamesOnce hload).1.mpr honce
  rw [nodup_complete_iff] at hnodup
  exact absurd hnodup (by decide)

end CallChain.Catalog
