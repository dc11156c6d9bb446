/-
# The operations of an API document

What a document lists under its paths is read entry by entry: an entry is an endpoint when its
key is the name of a method, it holds a mapping, and what the mapping says has the right shape
or is absent. `Listing.IsReadAs` says this member by member, and `ReadsAll` of a whole document,
in which all other entries are passed over.

Three things stop the reading of a document that is a mapping: paths that are something else
than a mapping, and a value whose text cannot be written, among the names of security schemes or
as the description of an operation. `Stops` lists them, and nothing else stops it.
-/

import CallChain.Catalog.ApiDocument
import Mathlib.Data.List.Basic
import Mathlib.Data.List.Forall2

namespace CallChain.Catalog

open Yaml (Foreign Node Scalar TextProblem nodeAt?)

/-! ## Entries of paths -/

/-- Whether a node is a text, or is taken for one. -/
inductive IsText : Node → String → Prop
  /-- It is a text. -/
  | text (s : String) : IsText (.scalar (.text s)) s
  /-- It is taken for one. -/
  | foreign {f : Foreign} {s : String} (h : f.text? = some s) : IsText (.scalar (.foreign f)) s

/-- Whether a node is a list of texts, or is taken for one. -/
inductive AreTexts : Node → List String → Prop
  /-- Its items are texts. -/
  | list {items : List Node} {texts : List String} (h : List.Forall₂ IsText items texts) :
    AreTexts (.list items) texts
  /-- It is taken for a list of texts. -/
  | foreign {f : Foreign} {texts : List String} (h : f.texts? = some texts) :
    AreTexts (.scalar (.foreign f)) texts

/-- What stands under a key of a path. -/
structure Listing where
  /-- The path. -/
  path : Scalar
  /-- The key. -/
  name : Scalar
  /-- What stands under it. -/
  node : Node

/-- Whether a member of a mapping gives a value: what is written for it has to be a way of
writing the value; a member that is absent or empty gives the default. -/
inductive Gives {α : Type} (entries : List (Scalar × Node)) (name : String) (default : α)
    (Writes : Node → α → Prop) : α → Prop
  /-- Nothing is written. -/
  | absent (h : ∀ node, nodeAt? entries name = some node → node.isTruthy = false) :
    Gives entries name default Writes default
  /-- The value is. -/
  | written {node : Node} {a : α} (h : nodeAt? entries name = some node)
    (htruthy : node.isTruthy = true) (ha : Writes node a) : Gives entries name default Writes a

/-- Whether a mapping says of an operation what an endpoint says, where `shared` are the
security schemes of an operation without its own. -/
structure Describes (shared : List String) (entries : List (Scalar × Node)) (e : Endpoint) :
    Prop where
  /-- The summary is a text. -/
  summary : Gives entries "summary" "" IsText e.summary
  /-- The description may be anything, and is written on one line. -/
  description : Gives entries "description" ""
    (fun node s => s = Text.oneLine node.display) e.description
  /-- The tags are a list of texts. -/
  tags : Gives entries "tags" [] AreTexts e.tags
  /-- The name in the document is a text. -/
  operationId : Gives entries "operationId" "" IsText e.operationId
  /-- The security schemes are those of the operation, if it has any. -/
  security : e.security = if ApiDocument.schemes (nodeAt? entries "security") = [] then shared
    else ApiDocument.schemes (nodeAt? entries "security")

/-- Whether an entry of a path is an operation that is read as an endpoint. -/
structure Listing.IsReadAs (shared : List String) (l : Listing) (e : Endpoint) : Prop where
  /-- The path is a text. -/
  path : IsText (.scalar l.path) e.path
  /-- The key is the name of the method, in capital or small letters. -/
  method : ∃ name, l.name = .text name ∧ e.method.name = Text.capital name
  /-- A mapping describes the endpoint. -/
  members : ∃ entries, l.node = .mapping entries ∧ Describes shared entries e

/-- Whether endpoints are those of the operations among some entries that can be read, one for
each and in order. -/
inductive ReadsAll (shared : List String) : List Listing → List Endpoint → Prop
  /-- There are no entries. -/
  | nil : ReadsAll shared [] []
  /-- The first entry can be read. -/
  | read {l : Listing} {e : Endpoint} {listings : List Listing} {endpoints : List Endpoint}
    (h : l.IsReadAs shared e) (hrest : ReadsAll shared listings endpoints) :
    ReadsAll shared (l :: listings) (e :: endpoints)
  /-- It cannot. -/
  | passedOver {l : Listing} {listings : List Listing} {endpoints : List Endpoint}
    (h : ∀ e, ¬ l.IsReadAs shared e) (hrest : ReadsAll shared listings endpoints) :
    ReadsAll shared (l :: listings) endpoints

namespace Listing

/-- The method and the members of an entry that is an operation of a known method. -/
def operation? (l : Listing) : Option (Method × List (Scalar × Node)) :=
  match l.name, l.node with
  | .text name, .mapping entries => (Method.ofName? name).map (·, entries)
  | _, _ => none

/-- The endpoint of an entry that can be read. -/
def endpoint? (shared : List String) (l : Listing) : Option Endpoint :=
  l.operation?.bind fun (method, entries) =>
    ApiDocument.endpoint? shared l.path method entries

/-- Why the texts that are made of an entry cannot be written. -/
def textProblem? (levels : Nat) (l : Listing) : Option TextProblem :=
  l.operation?.bind fun operation => ApiDocument.textProblem? levels operation.2

end Listing

namespace ApiDocument

/-- What a document lists under one of its paths, in order. -/
def pathListings (path : Scalar) (methods : Node) : List Listing :=
  (methods.mapping?.getD []).map fun (name, node) => ⟨path, name, node⟩

/-- What a document lists under all of its paths, in order. -/
def listings (entries : List (Scalar × Node)) : List Listing :=
  (((nodeAt? entries "paths").bind Node.mapping?).getD []).flatMap fun (path, methods) =>
    pathListings path methods

/-- What stops the reading of a document, given by its entries. -/
inductive Stops (levels : Nat) (entries : List (Scalar × Node)) : DocumentProblem → Prop
  /-- The name of a security scheme of the document cannot be written. -/
  | schemes {problem : TextProblem}
    (h : schemesProblem? levels (nodeAt? entries "security") = some problem) :
    Stops levels entries (.ofText problem)
  /-- The paths are something else than a mapping. -/
  | paths {node : Node} (hschemes : schemesProblem? levels (nodeAt? entries "security") = none)
    (h : nodeAt? entries "paths" = some node) (htruthy : node.isTruthy = true)
    (hnode : node.mapping? = none) : Stops levels entries .pathsNotMapping
  /-- A text of an operation cannot be written, and this is so of none before it. -/
  | operation {problem : TextProblem} {before after : List Listing} {l : Listing}
    (hschemes : schemesProblem? levels (nodeAt? entries "security") = none)
    (hlistings : listings entries = before ++ l :: after)
    (hbefore : ∀ l' ∈ before, l'.textProblem? levels = none)
    (h : l.textProblem? levels = some problem) : Stops levels entries (.ofText problem)

/-! ## Reading one entry -/

variable {shared : List String} {entries : List (Scalar × Node)}

theorem optional_eq_some_iff {α : Type} {name : String} {default a : α} {read : Node → Option α}
    {Writes : Node → α → Prop} (h : ∀ node a, read node = some a ↔ Writes node a) :
    optional entries name default read = some a ↔ Gives entries name default Writes a := by
  unfold optional
  cases hnode : nodeAt? entries name with
  | none =>
      refine ⟨fun heq => ?_, fun hgives => ?_⟩
      · cases heq
        exact .absent fun node hsome => by rw [hnode] at hsome; cases hsome
      · cases hgives with
        | absent _ => rfl
        | written hsome _ _ => rw [hnode] at hsome; cases hsome
  | some node =>
      cases htruthy : node.isTruthy with
      | false =>
          simp only [Option.filter_some, htruthy, Bool.false_eq_true, if_false]
          refine ⟨fun heq => ?_, fun hgives => ?_⟩
          · cases heq
            refine .absent fun other hsome => ?_
            rw [hnode] at hsome
            cases hsome
            exact htruthy
          · cases hgives with
            | absent _ => rfl
            | written hsome hother _ =>
                rw [hnode] at hsome
                cases hsome
                rw [htruthy] at hother
                cases hother
      | true =>
          simp only [Option.filter_some, htruthy, if_true, h]
          refine ⟨fun ha => .written hnode htruthy ha, fun hgives => ?_⟩
          cases hgives with
          | absent hfalse =>
              rw [hfalse node hnode] at htruthy
              cases htruthy
          | written hsome _ ha =>
              rw [hnode] at hsome
              cases hsome
              exact ha

theorem text?_eq_some_iff (node : Node) (s : String) : node.text? = some s ↔ IsText node s := by
  constructor
  · intro h
    cases node with
    | scalar value =>
        cases value with
        | text s =>
            cases h
            exact .text s
        | foreign f => exact .foreign h
        | _ => cases h
    | _ => cases h
  · rintro (s | h)
    · rfl
    · exact h

theorem mapping?_eq_some_iff (node : Node) (entries : List (Scalar × Node)) :
    node.mapping? = some entries ↔ node = .mapping entries := by
  cases node <;> simp [Node.mapping?]

theorem mapM_text?_eq_some_iff (items : List Node) (tags : List String) :
    items.mapM Node.text? = some tags ↔ List.Forall₂ IsText items tags := by
  induction items generalizing tags with
  | nil => cases tags <;> simp
  | cons item items ih =>
      cases tags with
      | nil => simp [List.mapM_cons, Option.bind_eq_some_iff]
      | cons tag tags =>
          simp [List.mapM_cons, Option.bind_eq_some_iff, text?_eq_some_iff, ih]

theorem texts?_eq_some_iff (node : Node) (tags : List String) :
    node.texts? = some tags ↔ AreTexts node tags := by
  constructor
  · intro h
    cases node with
    | list items => exact .list ((mapM_text?_eq_some_iff items tags).mp h)
    | scalar value =>
        cases value with
        | foreign f => exact .foreign h
        | _ => cases h
    | mapping entries => cases h
  · rintro (h | h)
    · exact (mapM_text?_eq_some_iff _ tags).mpr h
    · exact h

/-- An operation is read as an endpoint exactly when its members describe the endpoint. -/
theorem endpoint?_eq_some_iff {path : Scalar} {method : Method} {e : Endpoint} :
    endpoint? shared path method entries = some e ↔
      IsText (.scalar path) e.path ∧ e.method = method ∧ Describes shared entries e := by
  have hpath : ∀ s, path.text? = some s ↔ IsText (.scalar path) s :=
    text?_eq_some_iff (.scalar path)
  have hline : ∀ (node : Node) (s : String),
      some (Text.oneLine node.display) = some s ↔ s = Text.oneLine node.display :=
    fun node s => by rw [Option.some.injEq, eq_comm]
  simp only [endpoint?, Option.bind_eq_bind, Option.bind_eq_some_iff, Option.pure_def,
    Option.some.injEq]
  constructor
  · rintro ⟨template, htemplate, summary, hsummary, description, hdescription, tags, htags, id, hid,
      rfl⟩
    exact ⟨(hpath _).mp htemplate, rfl, (optional_eq_some_iff text?_eq_some_iff).mp hsummary,
      (optional_eq_some_iff hline).mp hdescription,
      (optional_eq_some_iff texts?_eq_some_iff).mp htags,
      (optional_eq_some_iff text?_eq_some_iff).mp hid, by simp only [List.isEmpty_iff]⟩
  · rintro ⟨htemplate, rfl, h⟩
    refine ⟨e.path, (hpath _).mpr htemplate,
      e.summary, (optional_eq_some_iff text?_eq_some_iff).mpr h.summary,
      e.description, (optional_eq_some_iff hline).mpr h.description,
      e.tags, (optional_eq_some_iff texts?_eq_some_iff).mpr h.tags,
      e.operationId, (optional_eq_some_iff text?_eq_some_iff).mpr h.operationId, ?_⟩
    simp only [List.isEmpty_iff, ← h.security]

end ApiDocument

/-! ## Reading all entries -/

namespace Listing

variable {shared : List String} {l : Listing} {e : Endpoint}

theorem operation?_eq_some_iff {method : Method} {entries : List (Scalar × Node)} :
    l.operation? = some (method, entries) ↔
      (∃ name, l.name = .text name ∧ Method.ofName? name = some method) ∧
        l.node = .mapping entries := by
  unfold operation?
  split
  · next name members hname hnode =>
    simp only [Option.map_eq_some_iff, Prod.mk.injEq, hname, hnode, Scalar.text.injEq,
      exists_eq_left', Node.mapping.injEq]
    exact ⟨fun ⟨a, hof, ha, hmembers⟩ => ⟨ha ▸ hof, hmembers⟩,
      fun ⟨hof, hmembers⟩ => ⟨method, hof, rfl, hmembers⟩⟩
  · next hnot =>
    refine iff_of_false nofun ?_
    rintro ⟨⟨name, hname, -⟩, hnode⟩
    exact hnot name entries hname hnode

theorem endpoint?_eq_some_iff : l.endpoint? shared = some e ↔ l.IsReadAs shared e := by
  have hmethod : ∀ name,
      Method.ofName? name = some e.method ↔ e.method.name = Text.capital name := by
    intro name
    refine ⟨fun h => by simpa using List.find?_some h, fun h => ?_⟩
    rw [Method.ofName?, ← h]
    cases e.method <;> decide
  unfold endpoint?
  simp only [Option.bind_eq_some_iff, Prod.exists, operation?_eq_some_iff,
    ApiDocument.endpoint?_eq_some_iff]
  constructor
  · rintro ⟨method, entries, ⟨⟨name, hname, hof⟩, hnode⟩, hpath, rfl, hdescribes⟩
    exact ⟨hpath, ⟨name, hname, (hmethod name).mp hof⟩, entries, hnode, hdescribes⟩
  · rintro ⟨hpath, ⟨name, hname, hof⟩, entries, hnode, hdescribes⟩
    exact ⟨e.method, entries, ⟨⟨name, hname, (hmethod name).mpr hof⟩, hnode⟩, hpath, rfl,
      hdescribes⟩

end Listing

/-- The endpoints of the operations that can be read are found by reading each entry. -/
theorem readsAll_iff {shared : List String} {listings : List Listing} {endpoints : List Endpoint} :
    ReadsAll shared listings endpoints ↔
      listings.filterMap (Listing.endpoint? shared) = endpoints := by
  induction listings generalizing endpoints with
  | nil =>
      refine ⟨fun h => by cases h; rfl, ?_⟩
      rintro rfl
      exact .nil
  | cons l listings ih =>
      cases hl : l.endpoint? shared with
      | none =>
          have hnot : ∀ e, ¬ l.IsReadAs shared e := by
            intro e he
            rw [← Listing.endpoint?_eq_some_iff, hl] at he
            cases he
          rw [List.filterMap_cons_none hl, ← ih]
          refine ⟨fun h => ?_, .passedOver hnot⟩
          cases h with
          | read he _ => exact absurd he (hnot _)
          | passedOver _ hrest => exact hrest
      | some e =>
          have he : l.IsReadAs shared e := Listing.endpoint?_eq_some_iff.mp hl
          rw [List.filterMap_cons_some hl]
          constructor
          · intro h
            cases h with
            | read he' hrest =>
                rw [← Listing.endpoint?_eq_some_iff, hl] at he'
                cases he'
                rw [ih.mp hrest]
            | passedOver hnot _ => exact absurd he (hnot e)
          · rintro rfl
            exact .read he (ih.mpr rfl)

/-! ## Reading a document -/

namespace ApiDocument

/-- A list is refused as a whole when one of its items is, for the problem of the first one. -/
theorem map_flatten_mapM {α β : Type} (problem? : α → Option TextProblem) (f : α → List β)
    (items : List α) :
    (items.mapM fun a => ifWritten (problem? a) (f a)).map List.flatten =
      ifWritten (items.findSome? problem?) (items.flatMap f) := by
  induction items with
  | nil => rfl
  | cons a items ih =>
      rw [List.mapM_cons, List.findSome?_cons, List.flatMap_cons]
      cases ha : problem? a with
      | some problem => rfl
      | none =>
          dsimp only
          generalize items.mapM (fun a => ifWritten (problem? a) (f a)) = images at ih ⊢
          cases hfirst : items.findSome? problem? with
          | some problem =>
              rw [hfirst] at ih
              cases images with
              | error other =>
                  cases ih
                  rfl
              | ok rest => cases ih
          | none =>
              rw [hfirst] at ih
              cases images with
              | error other => cases ih
              | ok rest =>
                  have hrest : rest.flatten = items.flatMap f := Except.ok.inj ih
                  simp [ifWritten, bind, Except.bind, pure, Except.pure, Except.map, hrest]

theorem findSome?_flatMap {α β : Type} (problem? : β → Option TextProblem) (f : α → List β)
    (items : List α) :
    (items.flatMap f).findSome? problem? = items.findSome? fun a => (f a).findSome? problem? := by
  induction items with
  | nil => rfl
  | cons a items ih =>
      rw [List.flatMap_cons, List.findSome?_append, ih, List.findSome?_cons]
      cases (f a).findSome? problem? <;> rfl

variable (levels : Nat)

theorem operationEndpoints_eq (shared : List String) (path name : Scalar) (node : Node) :
    operationEndpoints levels shared path (name, node) =
      ifWritten ((Listing.mk path name node).textProblem? levels)
        ((Listing.mk path name node).endpoint? shared).toList := by
  cases name with
  | text name =>
      cases node with
      | mapping entries =>
          rw [operationEndpoints, Listing.textProblem?, Listing.endpoint?, Listing.operation?]
          cases hmethod : Method.ofName? name <;> simp [Node.mapping?, hmethod, ifWritten]
      | _ =>
          rw [operationEndpoints]
          cases hmethod : Method.ofName? name <;> simp [Node.mapping?, hmethod] <;> rfl
  | _ => rfl

theorem pathEndpoints_eq (shared : List String) (path : Scalar) (methods : Node) :
    pathEndpoints levels shared path methods =
      ifWritten ((pathListings path methods).findSome? (Listing.textProblem? levels))
        ((pathListings path methods).filterMap (Listing.endpoint? shared)) := by
  have hentries : operationEndpoints levels shared path = fun entry =>
      ifWritten ((Listing.mk path entry.1 entry.2).textProblem? levels)
        ((Listing.mk path entry.1 entry.2).endpoint? shared).toList :=
    funext fun entry => operationEndpoints_eq levels shared path entry.1 entry.2
  rw [pathEndpoints, hentries, map_flatten_mapM, pathListings, List.findSome?_map,
    List.filterMap_map, List.filterMap_eq_flatMap_toList]
  rfl

/-- Every entry of a document is read, unless a text of one cannot be written. -/
theorem endpoints_mapping (entries : List (Scalar × Node)) :
    endpoints levels (.mapping entries) =
      match schemesProblem? levels (nodeAt? entries "security") with
      | some problem => .error (.ofText problem)
      | none =>
        if ((nodeAt? entries "paths").filter Node.isTruthy).any (·.mapping?.isNone) then
          .error .pathsNotMapping
        else ifWritten ((listings entries).findSome? (Listing.textProblem? levels))
          ((listings entries).filterMap
            (Listing.endpoint? (schemes (nodeAt? entries "security")))) := by
  have hpaths : ∀ (shared : List String) (paths : List (Scalar × Node)),
      (paths.mapM fun entry => pathEndpoints levels shared entry.1 entry.2).map List.flatten =
        ifWritten ((paths.flatMap fun entry => pathListings entry.1 entry.2).findSome?
            (Listing.textProblem? levels))
          ((paths.flatMap fun entry => pathListings entry.1 entry.2).filterMap
            (Listing.endpoint? shared)) := by
    intro shared paths
    simp only [pathEndpoints_eq]
    rw [map_flatten_mapM, findSome?_flatMap, List.filterMap_flatMap]
  simp only [endpoints, Node.mapping?, hpaths]
  cases hschemes : schemesProblem? levels (nodeAt? entries "security") with
  | some problem => rfl
  | none =>
      rw [listings]
      generalize schemes (nodeAt? entries "security") = shared
      cases nodeAt? entries "paths" with
      | none => rfl
      | some paths =>
          cases paths with
          | mapping methods =>
              cases methods with
              | nil => rfl
              | cons first rest => rfl
          | scalar s =>
              rw [Option.filter_some]
              cases (Node.scalar s).isTruthy <;> rfl
          | list items =>
              rw [Option.filter_some]
              cases (Node.list items).isTruthy <;> rfl

variable {levels}

theorem listings_of_not_mapping {node : Node} (h : nodeAt? entries "paths" = some node)
    (hnode : node.mapping? = none) : listings entries = [] := by
  rw [listings, h, Option.bind_some, hnode]
  rfl

theorem any_isNone_paths_iff :
    ((nodeAt? entries "paths").filter Node.isTruthy).any (·.mapping?.isNone) = true ↔
      ∃ node, nodeAt? entries "paths" = some node ∧ node.isTruthy = true ∧
        node.mapping? = none := by
  simp [Option.any_eq_true]

theorem stops_of_endpoints {problem : DocumentProblem}
    (h : endpoints levels (.mapping entries) = .error problem) : Stops levels entries problem := by
  rw [endpoints_mapping] at h
  split at h
  · next hschemes =>
    cases h
    exact .schemes hschemes
  · next hschemes =>
    split at h
    · next hpaths =>
      cases h
      obtain ⟨node, hnode, htruthy, hmapping⟩ := any_isNone_paths_iff.mp hpaths
      exact .paths hschemes hnode htruthy hmapping
    · cases hfirst : (listings entries).findSome? (Listing.textProblem? levels) with
      | none =>
          rw [hfirst] at h
          cases h
      | some problem =>
          rw [hfirst] at h
          cases h
          obtain ⟨before, l, after, hlistings, hl, hbefore⟩ :=
            List.findSome?_eq_some_iff.mp hfirst
          exact .operation hschemes hlistings hbefore hl

theorem Stops.endpoints_eq {problem : DocumentProblem} (h : Stops levels entries problem) :
    endpoints levels (.mapping entries) = .error problem := by
  rw [endpoints_mapping]
  cases h with
  | schemes h => rw [h]
  | paths hschemes h htruthy hmapping =>
      rw [hschemes]
      exact if_pos (any_isNone_paths_iff.mpr ⟨_, h, htruthy, hmapping⟩)
  | @operation problem before after l hschemes hlistings hbefore h =>
      have hpaths : ¬ ((nodeAt? entries "paths").filter Node.isTruthy).any
          (·.mapping?.isNone) = true := by
        rw [any_isNone_paths_iff]
        rintro ⟨node, hnode, -, hmapping⟩
        rw [listings_of_not_mapping hnode hmapping] at hlistings
        simp at hlistings
      have hfirst : (listings entries).findSome? (Listing.textProblem? levels) = some problem :=
        List.findSome?_eq_some_iff.mpr ⟨before, l, after, hlistings, h, hbefore⟩
      rw [hschemes]
      dsimp only
      rw [if_neg hpaths, hfirst]
      rfl

/-- What stops the reading of a document that is a mapping is what is reported. -/
theorem endpoints_eq_error_iff {problem : DocumentProblem} :
    endpoints levels (.mapping entries) = .error problem ↔ Stops levels entries problem :=
  ⟨stops_of_endpoints, Stops.endpoints_eq⟩

theorem readsAll_of_endpoints {es : List Endpoint}
    (h : endpoints levels (.mapping entries) = .ok es) :
    ReadsAll (schemes (nodeAt? entries "security")) (listings entries) es := by
  rw [readsAll_iff]
  rw [endpoints_mapping] at h
  split at h
  · cases h
  split at h
  · cases h
  · cases hfirst : (listings entries).findSome? (Listing.textProblem? levels) with
    | some problem =>
        rw [hfirst] at h
        cases h
    | none =>
        rw [hfirst] at h
        cases h
        rfl

/-- Of a document that is a mapping every operation that can be read is read, unless something
stops the reading. -/
theorem endpoints_eq_ok_iff {es : List Endpoint} :
    endpoints levels (.mapping entries) = .ok es ↔
      (∀ problem, ¬ Stops levels entries problem) ∧
        ReadsAll (schemes (nodeAt? entries "security")) (listings entries) es := by
  constructor
  · intro h
    refine ⟨fun problem hstops => ?_, readsAll_of_endpoints h⟩
    rw [endpoints_eq_error_iff.mpr hstops] at h
    cases h
  · rintro ⟨hstops, hread⟩
    cases hes : endpoints levels (.mapping entries) with
    | error problem => exact absurd (endpoints_eq_error_iff.mp hes) (hstops problem)
    | ok es' => rw [← readsAll_iff.mp hread, readsAll_iff.mp (readsAll_of_endpoints hes)]

end ApiDocument

end CallChain.Catalog
