/-
# What an exported document refers to

An export writes the ids of earlier steps as their places. This module follows every
reference that is read in a step into the entry that is written for it. The texts of the
parameters are made portable as a whole. So is the expression of a binding, or the source of
an iteration, unless it refers to an earlier step and holds a brace of its own before the
closing ones: there the id stays, and it names no step of the session that imports it.
-/

import CallChain.Proofs.Document.Carried
import CallChain.Proofs.Reference.Exported

namespace CallChain

open Renaming

/-- The reference that is read in an expression. -/
def Expression.reading (s : String) : String := (split s).reference

/-- Whether an entry is what an export writes for a step at a place, as far as references to
earlier steps go. -/
structure Step.ExportsAs (ids : List String) (place : Nat) (x : Step) (e : Entry) : Prop where
  /-- In the placeholders of the parameters, every reference is made portable. -/
  texts : ∃ p, x.inputs.parameters? = some p ∧
    List.Forall₂ (fun s image => List.Forall₂ (Ports ids place) (Expression.inHoles s)
      (Expression.inHoles image)) p.texts e.parameters.texts
  /-- The reference of a binding is made portable exactly when it is no earlier step or a
  placeholder starts at doubled braces in front of it. -/
  mappings : List.Forall₂ (fun binding image => image.1 = binding.1 ∧
    (Ports ids place (Expression.reading binding.2) (Expression.reading image.2) ↔
      (IsEarlier ids place (Expression.reading binding.2) → StartsHole binding.2.toList)))
    x.mappings e.mappings
  /-- The entry has an iteration when it is enabled. -/
  iterates : e.iteration.isSome = x.iteration.enabled
  /-- For its source the same holds as for a binding. -/
  source : ∀ i ∈ e.iteration,
    (Ports ids place (Expression.reading x.iteration.sourceExpression)
        (Expression.reading i.sourceExpression) ↔
      (IsEarlier ids place (Expression.reading x.iteration.sourceExpression) →
        StartsHole x.iteration.between))

theorem Step.exportsAs_entry {ids : List String} (hids : ids.Nodup)
    (hshape : ∀ id ∈ ids, Reference.IsGenerated id) (place : Nat) {x : Step} {p : Parameters}
    (hp : x.inputs.parameters? = some p) : x.ExportsAs ids place (x.entry ids place p) where
  texts := by
    refine ⟨p, hp, ?_⟩
    rw [entry, Parameters.texts_mapText, List.forall₂_map_right_iff, List.forall₂_same]
    exact fun s _ => ports_inHoles hids hshape s
  mappings := by
    rw [entry, Renaming.mappings, Fields.mapValues, List.forall₂_map_right_iff, List.forall₂_same]
    exact fun binding _ => ⟨rfl, ports_expression_iff hids hshape binding.2⟩
  iterates := by
    cases henabled : x.iteration.enabled <;> simp [entry, henabled]
  source := by
    intro i hi
    cases henabled : x.iteration.enabled with
    | false => simp [entry, henabled] at hi
    | true =>
        simp only [entry, henabled, if_true, Option.mem_some_iff] at hi
        exact ports_source_iff hids hshape (congrArg Iteration.source hi.symm)

/-- In an exported document, every entry is that of the step at its place; and no reference in
it is the id of an earlier step, other than in bindings and sources with braces of their
own. -/
theorem Session.document_exports {s : Session} {now today : String} {name : Option String}
    {d : SequenceDocument} (hids : s.stepIds.Nodup)
    (hshape : ∀ id ∈ s.stepIds, Reference.IsGenerated id)
    (h : s.document? now today name = some d) :
    ∀ (n : Nat) x, s.steps[n]? = some x →
      ∃ e, d.sequence[n]? = some e ∧ x.ExportsAs s.stepIds n e := by
  intro n x hx
  obtain ⟨p, hp, hget⟩ := (entries_of_document h).2 n x hx
  exact ⟨_, hget, Step.exportsAs_entry hids hshape n hp⟩

/-- A session whose second step refers to the first one in a text, by two bindings, one of them
with braces in its path, and as the source of its iteration. -/
def braceInPath : Session where
  baseUrl := defaultBaseUrl
  steps := [
    { id := Reference.countedId 0, endpoint := { method := .get, path := "/users" } },
    { id := Reference.countedId 1, endpoint := { method := .get, path := "/tasks" }
      inputs := { query := [("team", .text "\x7b\x7b seq_0_000000000.team \x7d\x7d")] }
      mappings := [("user", "seq_0_000000000.a\x7bb\x7d"), ("owner", "seq_0_000000000.gid")]
      iteration := { enabled := true, source := "seq_0_000000000.data" } }]

theorem Session.document_exports_braceInPath :
    braceInPath.stepIds.Nodup ∧ (∀ id ∈ braceInPath.stepIds, Reference.IsGenerated id) ∧
    ∃ d, braceInPath.document? "" "" none = some d ∧ ∃ x e, braceInPath.steps[1]? = some x ∧
      d.sequence[1]? = some e ∧ x.ExportsAs braceInPath.stepIds 1 e ∧
      e.parameters.query = [("team", .text "\x7b\x7b step0.team \x7d\x7d")] ∧
      e.mappings = [("user", "seq_0_000000000.a\x7bb\x7d"), ("owner", "step0.gid")] ∧
      e.iteration.map Iteration.source = some "step0.data" ∧
      IsEarlier braceInPath.stepIds 1 (Expression.reading "seq_0_000000000.a\x7bb\x7d") ∧
      ¬ StartsHole "seq_0_000000000.a\x7bb\x7d".toList := by
  have hids : braceInPath.stepIds.Nodup := by decide
  have hshape : ∀ id ∈ braceInPath.stepIds, Reference.IsGenerated id := by
    intro id hid
    have hgiven : id = Reference.countedId 0 ∨ id = Reference.countedId 1 := by
      simpa [braceInPath, Session.stepIds, Step.ids] using hid
    rcases hgiven with rfl | rfl <;> exact Reference.isGenerated_countedId _
  have hwritten : ((braceInPath.document? "" "" none).bind fun d => d.sequence[1]?).map
      (fun e => (e.parameters.query, e.mappings, e.iteration.map Iteration.source)) =
        some ([("team", .text "\x7b\x7b step0.team \x7d\x7d")],
          [("user", "seq_0_000000000.a\x7bb\x7d"), ("owner", "step0.gid")],
          some "step0.data") := by decide +kernel
  obtain ⟨e, he, hparts⟩ := Option.map_eq_some_iff.mp hwritten
  obtain ⟨d, hd, hget⟩ := Option.bind_eq_some_iff.mp he
  obtain ⟨own, hown, hexports⟩ := Session.document_exports hids hshape hd 1 _ rfl
  rw [hget, Option.some.injEq] at hown
  subst hown
  simp only [Prod.mk.injEq] at hparts
  refine ⟨hids, hshape, d, hd, _, e, rfl, hget, hexports, hparts.1, hparts.2.1, hparts.2.2, ?_, ?_⟩
  · exact ⟨0, Nat.one_pos, by decide +kernel⟩
  · rw [StartsHole]
    decide +kernel

end CallChain
