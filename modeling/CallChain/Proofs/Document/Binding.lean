/-
# What imported references name

A document counts its entries, an import counts the steps that it has made so far. A
reference by place is renamed, and later read, with the second count. This module follows
every reference of an entry into the step that is made of it, whether it is renamed or
stays, and says which step it names there: the step with that number among the entries
that could be loaded.

So a reference to an entry that was loaded names the step of that entry exactly when no
entry before it was skipped; and a reference to an entry that was skipped names no step
only when its place lies behind all steps.
-/

import CallChain.Proofs.Document.FixedPoint
import CallChain.Proofs.Reference.Reading
import Mathlib.Data.List.Forall2

namespace CallChain

/-! ## The references that are read -/

namespace Expression

/-- The references that are read in the holes of a text. -/
def inHoles (s : String) : List String :=
  (Template.holes s.toList).map fun inner => (split (String.ofList inner)).reference

/-- The references that are read in an expression: its own, and those of its holes. -/
def readReferences (s : String) : List String :=
  (split s).reference :: inHoles (Renaming.wrapped s)

end Expression

/-- The references that are read in the source of an iteration. -/
def Iteration.readReferences (i : Iteration) : List String :=
  (Expression.split i.sourceExpression).reference :: Expression.inHoles (Renaming.wrapped i.source)

/-- The texts among entered parameters. -/
def Inputs.texts (i : Inputs) : List String :=
  (i.path.map Prod.snd ++ i.query.map Prod.snd ++ [i.body]).filterMap Value.text?

/-- The references that are read in a step. -/
def Step.readReferences (x : Step) : List String :=
  x.inputs.texts.flatMap Expression.inHoles ++
    (x.mappings.flatMap fun binding => Expression.readReferences binding.2) ++
    x.iteration.readReferences

/-- The references that are read in an entry. -/
def Entry.readReferences (e : Entry) : List String :=
  e.parameters.texts.flatMap Expression.inHoles ++
    (e.mappings.flatMap fun binding => Expression.readReferences binding.2) ++
    (e.iteration.getD {}).readReferences

theorem Inputs.texts_ofParameters (p : Parameters) : (Inputs.ofParameters p).texts = p.texts := by
  obtain ⟨path, query, body⟩ := p
  unfold texts ofParameters Parameters.texts Fields.mapValues
  rw [List.filterMap_append, List.filterMap_append]
  congr 1
  · congr 1
    · rw [List.map_map, List.filterMap_map]
      exact congrFun List.filterMap_eq_map path
    · rw [List.map_map, List.filterMap_map]
      apply List.filterMap_congr
      rintro ⟨name, value⟩ -
      cases value <;> rfl
  · cases body <;> rfl

/-! ## Following a reference into the step -/

namespace Renaming

variable {f : Renaming}

/-- Whether a reference by place is renamed or stays. -/
def Follows (f : Renaming) (reference image : String) : Prop :=
  ∀ n, Reference.place reference = .ok (some n) → f.Gives reference image

theorem follows_inHoles (hf : f.IntoWords) (s : String) :
    List.Forall₂ f.Follows (Expression.inHoles s) (Expression.inHoles (text f s)) := by
  rw [Expression.inHoles, Expression.inHoles, toList_text,
    Template.holes_mapHoles (keepsContent_inner hf), List.map_map, List.forall₂_map_left_iff,
    List.forall₂_map_right_iff, List.forall₂_same]
  intro inside _ n _
  obtain ⟨image, hgives, hsplit⟩ := split_inner hf inside
  rw [Function.comp_apply, hsplit]
  exact hgives

theorem follows_expression (hf : f.IntoWords) (s : String) :
    List.Forall₂ f.Follows (Expression.readReferences s)
      (Expression.readReferences (expression f s)) := by
  constructor
  · exact fun n hplace => gives_expression hf hplace
  · rw [← (text_wrapped hf s).1]
    exact follows_inHoles hf _

theorem follows_source (hf : f.IntoWords) (i : Iteration) :
    List.Forall₂ f.Follows i.readReferences
      ({ i with source := expression f i.source } : Iteration).readReferences := by
  constructor
  · exact fun n hplace => i.gives_source hf hplace
  · dsimp only
    rw [← (text_wrapped hf i.source).1]
    exact follows_inHoles hf _

end Renaming

/-- References that correspond item by item correspond as a whole. -/
theorem forall₂_flatMap_map {α β : Type} {R : β → β → Prop} {read : α → List β} {image : α → α}
    (items : List α) (h : ∀ item ∈ items, List.Forall₂ R (read item) (read (image item))) :
    List.Forall₂ R (items.flatMap read) ((items.map image).flatMap read) := by
  induction items with
  | nil => exact List.Forall₂.nil
  | cons item items ih =>
      rw [List.map_cons, List.flatMap_cons, List.flatMap_cons]
      exact List.rel_append (h item List.mem_cons_self)
        (ih fun other hother => h other (List.mem_cons_of_mem item hother))

/-- Every reference of an entry is followed into its step. -/
theorem Entry.follows_toStep {earlier : List String} {id : String}
    (hshape : ∀ x ∈ earlier ++ [id], Reference.IsGenerated x) (e : Entry) (endpoint : Endpoint)
    (isPlaceholder : Bool) :
    List.Forall₂ (Renaming.toId (earlier ++ [id]) earlier.length).Follows e.readReferences
      (e.toStep endpoint isPlaceholder earlier id).readReferences := by
  have hf := Renaming.intoWords_toId hshape earlier.length
  refine List.rel_append (List.rel_append ?_ ?_) ?_
  · simp only [toStep, Inputs.texts_ofParameters, Parameters.texts_mapText]
    exact forall₂_flatMap_map _ fun s _ => Renaming.follows_inHoles hf s
  · exact forall₂_flatMap_map _ fun binding _ => Renaming.follows_expression hf binding.2
  · cases hiteration : e.iteration with
    | none =>
        simp only [toStep, hiteration]
        exact List.forall₂_same.mpr fun reference _ n _ => Or.inl rfl
    | some i =>
        simp only [toStep, hiteration]
        exact Renaming.follows_source hf i

/-! ## Counting entries and counting steps -/

namespace LoadedEntry

variable {catalog : List Endpoint} {l : LoadedEntry}

/-- The steps are never ahead of the entries, and they keep up with them as long as every
entry becomes a step. -/
theorem index_listFrom {entries : List Value} {index position : Nat}
    (h : (listFrom catalog index entries)[position]? = some l) :
    index + position ≤ l.index ∧
      (index + position = l.index ↔ ∀ k, index ≤ k → k < l.index →
        ∃ other ∈ listFrom catalog index entries, other.index = k) := by
  induction entries generalizing index position l with
  | nil => simp [listFrom] at h
  | cons raw entries ih =>
      have hlater : ∀ other ∈ listFrom catalog (index + 1) entries, index < other.index := by
        intro other hother
        obtain ⟨n, hn⟩ := List.mem_iff_getElem?.mp hother
        have hle := (ih hn).1
        omega
      rw [ImportState.listFrom_cons] at h ⊢
      cases hload : ofValue? catalog raw index with
      | none =>
          rw [hload] at h
          dsimp only at h ⊢
          obtain ⟨hle, -⟩ := ih h
          refine ⟨by omega, fun heq => by omega, fun hall => ?_⟩
          obtain ⟨other, hother, hindex⟩ := hall index (Nat.le_refl index) (by omega)
          have hlt := hlater other hother
          omega
      | some first =>
          have hfirst : first.index = index := by
            obtain ⟨e, -, hendpoint⟩ := Option.bind_eq_some_iff.mp hload
            obtain ⟨found, -, rfl⟩ := Option.map_eq_some_iff.mp hendpoint
            rfl
          rw [hload] at h
          dsimp only at h ⊢
          cases position with
          | zero =>
              rw [List.getElem?_cons_zero, Option.some.injEq] at h
              subst h
              refine ⟨by omega, fun _ k hk hlt => by omega, fun _ => by omega⟩
          | succ position =>
              rw [List.getElem?_cons_succ] at h
              obtain ⟨hle, hiff⟩ := ih h
              refine ⟨by omega, fun heq k hk hlt => ?_, fun hall => ?_⟩
              · by_cases hkindex : k = index
                · exact ⟨first, List.mem_cons_self, by omega⟩
                · obtain ⟨other, hother, hindex⟩ := hiff.mp (by omega) k (by omega) hlt
                  exact ⟨other, List.mem_cons_of_mem first hother, hindex⟩
              · have hrest := hiff.mpr fun k hk hlt => by
                  obtain ⟨other, hother, hindex⟩ := hall k (by omega) hlt
                  rcases List.mem_cons.mp hother with rfl | hother
                  · omega
                  · exact ⟨other, hother, hindex⟩
                omega

end LoadedEntry

/-! ## What an imported reference names -/

/-- In a session without results, a reference that an import has followed is read as the
step with its number. -/
theorem Resolver.idOf_of_follows {r : Resolver} {earlier later : List String} {id : String}
    (hresults : r.results = []) (hids : r.stepIds = earlier ++ id :: later)
    (hshape : ∀ x ∈ r.stepIds, Reference.IsGenerated x) {reference image : String} {n : Nat}
    (hfollows : (Renaming.toId (earlier ++ [id]) earlier.length).Follows reference image)
    (hplace : Reference.place reference = .ok (some n)) :
    r.idOf image = .ok r.stepIds[n]? := by
  have hnone : r.results.has image = false := by
    rw [hresults]
    rfl
  rcases hfollows n hplace with rfl | himage
  · have hnew : r.stepIds.contains image = false := by
      rw [Bool.eq_false_iff, ne_eq, List.contains_iff_mem]
      intro hmem
      rw [(hshape image hmem).place_eq] at hplace
      cases hplace
    rw [idOf, hnone, hnew, hplace]
    rfl
  · have hget : r.stepIds[n]? = some image := by
      rw [Renaming.toId, hplace] at himage
      dsimp only at himage
      split at himage
      · next hlt =>
        have hn : n < earlier.length := by exact_mod_cast hlt
        rw [List.getElem?_append_left hn] at himage
        rw [hids, List.getElem?_append_left hn, himage]
      · cases himage
    have hmem : r.stepIds.contains image = true :=
      List.contains_iff_mem.mpr (List.mem_of_getElem? hget)
    rw [idOf, hmem, Bool.or_true, if_pos rfl, hget]

/-- The entries of a document that can be loaded, in order. -/
def loadedEntries (catalog : List Endpoint) (document : Value) : List LoadedEntry :=
  LoadedEntry.listFrom catalog 0 (documentEntries document)

/-- Every reference by place to an entry before the one that makes it: if that entry was
loaded, the reference names its step exactly when all entries before it were loaded; if it
was skipped, the reference names no step exactly when there are not that many steps. -/
theorem import_binds {s s' : Session} {catalog : List Endpoint} {stepId : Nat → String}
    {start created : Nat} {document : Value} {report : ImportReport}
    (hinjective : Function.Injective stepId) (hshape : ∀ n, Reference.IsGenerated (stepId n))
    (h : s.importDocument catalog stepId start document = .ok (.ok report, s', created))
    {position : Nat} {l : LoadedEntry} (hl : (loadedEntries catalog document)[position]? = some l) :
    ∃ x, s'.steps[position]? = some x ∧ x.id = stepId (start + position) ∧
      List.Forall₂ (fun reference image => ∀ n < l.index,
          Reference.place reference = .ok (some n) →
        (∀ target m, (loadedEntries catalog document)[target]? = some m → m.index = n →
          (s'.resolver.idOf image = .ok (some (stepId (start + target))) ↔
            ∀ k < n, ∃ other ∈ loadedEntries catalog document, other.index = k)) ∧
        ((∀ m ∈ loadedEntries catalog document, m.index ≠ n) →
          (s'.resolver.idOf image = .ok none ↔ (loadedEntries catalog document).length ≤ n)))
        l.entry.readReferences x.readReferences := by
  obtain ⟨fields, entries, -, hentries, himported, -, -⟩ := Session.importDocument_eq_ok h
  have hloaded : loadedEntries catalog document = LoadedEntry.listFrom catalog 0 entries := by
    rw [loadedEntries, documentEntries, hentries]
    rfl
  have hstepIds := himported.stepIds_eq
  rw [← hloaded] at hstepIds
  have hposition : position < (loadedEntries catalog document).length :=
    (List.getElem?_eq_some_iff.mp hl).1
  have hgenerated : ∀ x ∈ s'.stepIds, Reference.IsGenerated x := by
    rw [hstepIds]
    exact fun x => isGenerated_of_mem_idsFrom hshape
  have hsplit : s'.stepIds = _ := hstepIds.trans (idsFrom_split start hposition)
  refine ⟨l.step stepId start position, ?_, rfl, ?_⟩
  · rw [himported.steps_eq, List.getElem?_mapIdx, ← hloaded, hl]
    rfl
  · have hearlier : ∀ x ∈ idsFrom stepId start position ++ [stepId (start + position)],
        Reference.IsGenerated x := by
      intro x hx
      apply hgenerated
      rw [hsplit]
      exact (List.prefix_append_right_inj _).mpr ⟨_, rfl⟩ |>.subset hx
    have hfollows := Entry.follows_toStep hearlier l.entry l.endpoint l.isPlaceholder
    refine hfollows.imp fun reference image hfollows n _ hplace => ?_
    have hread : s'.resolver.idOf image = .ok s'.stepIds[n]? :=
      Resolver.idOf_of_follows himported.results_eq hsplit hgenerated hfollows hplace
    rw [hread, hstepIds]
    constructor
    · intro target m hm hindex
      have htarget : target < (loadedEntries catalog document).length :=
        (List.getElem?_eq_some_iff.mp hm).1
      have hcount := (LoadedEntry.index_listFrom hm).2
      rw [Nat.zero_add, hindex] at hcount
      have hnamed : (Except.ok (idsFrom stepId start (loadedEntries catalog document).length)[n]? =
          (Except.ok (some (stepId (start + target))) : Except NumberProblem _)) ↔ target = n := by
        rw [Except.ok.injEq]
        constructor
        · intro hget
          obtain ⟨hn, -⟩ := List.getElem?_eq_some_iff.mp hget
          rw [length_idsFrom] at hn
          rw [getElem?_idsFrom stepId start hn, Option.some.injEq] at hget
          have hsame := hinjective hget
          omega
        · rintro rfl
          exact getElem?_idsFrom stepId start htarget
      rw [hnamed, hcount]
      exact ⟨fun hall k hk => hall k (Nat.zero_le k) hk, fun hall k _ hk => hall k hk⟩
    · intro _
      rw [Except.ok.injEq, List.getElem?_eq_none_iff, length_idsFrom]

/-- A document whose first entry is malformed. Its last entry refers to the one after it. -/
def skippingFirst : Value :=
  .object [("sequence", .list [
    .null,
    .object [("method", .text "GET"), ("path", .text "/users")],
    .object [("method", .text "GET"), ("path", .text "/tags")],
    .object [("method", .text "GET"), ("path", .text "/tasks"), ("parameters", .object
      [("query", .object [("user", .text "\x7b\x7bstep1.gid\x7d\x7d")])])]])]

/-- The reference does not name the step of the entry that it was written for. -/
theorem import_binds_skippingFirst :
    (loadedEntries [] skippingFirst).map LoadedEntry.index = [1, 2, 3] ∧
    ∃ report s' created,
      Session.importDocument { baseUrl := defaultBaseUrl } [] Reference.countedId 0
        skippingFirst = .ok (.ok report, s', created) ∧
      ∃ x, s'.steps[2]? = some x ∧ ∃ image ∈ x.readReferences,
        s'.resolver.idOf image ≠ .ok (some (Reference.countedId 0)) := by
  have hindices : (loadedEntries [] skippingFirst).map LoadedEntry.index = [1, 2, 3] := by
    decide +kernel
  have hloads : (Session.reported? (Session.importDocument { baseUrl := defaultBaseUrl } []
      Reference.countedId 0 skippingFirst)).isSome = true := by decide +kernel
  have hlast : (loadedEntries [] skippingFirst)[2]?.map
      (fun l => (l.index, l.entry.readReferences)) = some (3, ["step1", ""]) := by decide +kernel
  have hfirst : (loadedEntries [] skippingFirst)[0]?.map LoadedEntry.index = some 1 := by
    decide +kernel
  have hplace : Reference.place "step1" = .ok (some 1) := by decide +kernel
  obtain ⟨⟨report, s'⟩, hreported⟩ := Option.isSome_iff_exists.mp hloads
  obtain ⟨created, himport⟩ := Session.exists_of_reported? hreported
  obtain ⟨l, hl, hparts⟩ := Option.map_eq_some_iff.mp hlast
  obtain ⟨m, hm, hindex⟩ := Option.map_eq_some_iff.mp hfirst
  obtain ⟨hlength, hreferences⟩ := Prod.mk.inj hparts
  obtain ⟨x, hx, -, hall⟩ := import_binds (fun _ _ h => Reference.countedId_injective h)
    Reference.isGenerated_countedId himport hl
  rw [hreferences] at hall
  obtain ⟨image, images, hbinds, -, himages⟩ := List.forall₂_cons_left_iff.mp hall
  refine ⟨hindices, report, s', created, himport, x, hx, image, ?_, fun hnamed => ?_⟩
  · rw [himages]
    exact List.mem_cons_self
  · have hbefore := ((hbinds 1 (by omega) hplace).1 0 m hm hindex).mp hnamed
    obtain ⟨other, hother, hzero⟩ := hbefore 0 (by omega)
    have hmem : 0 ∈ (loadedEntries [] skippingFirst).map LoadedEntry.index :=
      List.mem_map.mpr ⟨other, hother, hzero⟩
    rw [hindices] at hmem
    exact absurd hmem (by decide)

end CallChain
