/-
# The items of a renamed source

The source of an iteration names a step before the iterated one, so its items are the same
in a sequence that has the same results. Where a source cannot be iterated over, the wording
of the failure may quote the expression or the reference; nothing else of the failure differs.
-/

import CallChain.Proofs.Reference.Mirrored
import CallChain.Session.Iterating

namespace CallChain

/-! ## Results that agree -/

/-- Whether two step errors differ at most in their wording. -/
structure StepError.SameKind (e e' : StepError) : Prop where
  /-- The status is the same. -/
  status_eq : e'.status? = e.status?
  /-- The kind is the same. -/
  kind_eq : e'.kind = e.kind

/-- Whether two results are the same, or step errors that are related. -/
inductive Except.Agree {α : Type} (E : StepError → StepError → Prop) :
    Except Fault α → Except Fault α → Prop
  /-- They are the same. -/
  | same (result : Except Fault α) : Agree E result result
  /-- Both are step errors. -/
  | failed {e e' : StepError} (h : E e e') : Agree E (.error (.step e)) (.error (.step e'))

/-! ## Where a reference leads in the sequence -/

namespace Resolver

variable {place : Nat} {r r' : Resolver} {reference : String} {n : Nat}

theorem Sound.placeOf_id (h : r.Sound) (hn : r.stepIds[n]? = some reference) :
    r.placeOf reference = .ok (some n) := by
  obtain ⟨hlength, rfl⟩ := List.getElem?_eq_some_iff.mp hn
  have hplace : r.stepIds.idxOf? r.stepIds[n] = some n := by
    rw [List.idxOf?_eq_some_iff]
    refine ⟨hlength, rfl, fun j hj heq => ?_⟩
    have hsame := (List.getElem_inj h.nodup).mp heq
    omega
  rw [placeOf, Sound.idOf_id hn]
  simp only [Except.map, Option.bind_some, hplace]

theorem Sound.placeOf_other (h : r.Sound) (hnot : reference ∉ r.stepIds) :
    r.placeOf reference = (Reference.place reference).map fun place =>
      place.filter (· < r.stepIds.length) := by
  rw [placeOf, h.idOf_other hnot]
  cases Reference.place reference with
  | error problem => rfl
  | ok place =>
      cases place with
      | none => rfl
      | some n =>
          by_cases hn : n < r.stepIds.length
          · have hid := h.placeOf_id (List.getElem?_eq_getElem hn)
            rw [placeOf, Sound.idOf_id (List.getElem?_eq_getElem hn)] at hid
            simpa [Except.map, Option.filter, hn] using hid
          · simp [Except.map, Option.filter, hn]

/-- What stands in a hole is read with the reference of its parts. -/
theorem split_inside {inside : List Char} {p : HoleParts}
    (hp : HoleParts.ofInner? inside = some p) :
    (Expression.split (String.ofList inside)).reference = String.ofList p.reference := by
  obtain ⟨hwell, rfl⟩ := HoleParts.ofInner?_eq_some_iff.mp hp
  rw [Expression.split_of_cut hwell.cut]

end Resolver

/-! ## Sources that are expressions or placeholders -/

namespace Iteration

/-- Whether the source of an iteration is an expression without braces or one
placeholder. -/
def HasPlainSource (i : Iteration) : Prop :=
  (∀ c ∈ i.source.toList, Template.isInner c = true) ∨ (Template.whole? i.source).isSome = true

/-- The iteration with its source renamed. -/
def renamed (f : Renaming) (i : Iteration) : Iteration :=
  { i with source := Renaming.expression f i.source }

variable {i : Iteration} {f : Renaming}

theorem isInner_inner (hf : f.IntoWords) {inside : List Char}
    (h : ∀ c ∈ inside, Template.isInner c = true) :
    ∀ c ∈ Renaming.inner f inside, Template.isInner c = true := by
  by_cases hempty : inside = []
  · rw [hempty]
    exact nofun
  · exact (Renaming.keepsContent_inner hf inside ⟨hempty, h⟩).2

theorem sourceExpression_of_isInner (h : ∀ c ∈ i.source.toList, Template.isInner c = true) :
    i.sourceExpression = String.ofList (Text.trimChars i.source.toList) := by
  apply sourceExpression_of_not
  rintro ⟨rest, hrest⟩
  obtain ⟨before, after, -, -, hsplit⟩ := Text.exists_trimChars i.source.toList
  have hbrace : Template.isInner '\x7b' = true := by
    apply h
    rw [hsplit, ← hrest]
    simp
  exact absurd hbrace (by decide)

/-- The expression of a plain source is found in a hole of the document, and is renamed as
what stands there. -/
theorem HasPlainSource.exists_inside (h : i.HasPlainSource) (hf : f.IntoWords) :
    ∃ inside, i.sourceExpression = String.ofList (Text.trimChars inside) ∧
      (i.renamed f).sourceExpression =
        String.ofList (Text.trimChars (Renaming.inner f inside)) ∧
      ∀ p, HoleParts.ofInner? inside = some p →
        String.ofList p.reference ∈ Renaming.references (Renaming.wrapped i.source) := by
  rcases h with hbare | hwhole
  · refine ⟨i.source.toList, sourceExpression_of_isInner hbare, ?_, fun p hp => ?_⟩
    · have hsource : (i.renamed f).source.toList = Renaming.inner f i.source.toList := by
        rw [renamed, Renaming.expression_of_isInner hf hbare, String.toList_ofList]
      rw [sourceExpression_of_isInner (hsource ▸ isInner_inner hf hbare), hsource]
    · exact Renaming.mem_references (Renaming.mem_holes_wrapped hbare hp) hp
  · obtain ⟨expression, hexpression⟩ := Option.isSome_iff_exists.mp hwhole
    obtain ⟨inside, hholes, htrim, -⟩ := Template.exists_of_whole? hexpression
    have hmem : inside ∈ Template.holes i.source.toList := by
      rw [hholes]
      exact List.mem_singleton_self inside
    have hcontent := (Template.mem_holes_iff.mp hmem).1
    have hnew := trimChars_expression hf htrim
    have hhole := Template.mapHoles_hole (Renaming.inner f) hcontent []
    rw [List.append_nil, Template.mapHoles_nil, List.append_nil] at hhole
    rw [htrim, hhole] at hnew
    refine ⟨inside, sourceExpression_of_braced i htrim,
      sourceExpression_of_braced (i.renamed f) hnew, fun p hp => ?_⟩
    apply Renaming.mem_references _ hp
    cases hopen : Renaming.startsOpen i.source with
    | true => rwa [Renaming.wrapped_of_open hopen]
    | false =>
        rw [Renaming.toList_wrapped_of_not hopen]
        exact Json.holes_subset_of_part ⟨['\x7b', '\x7b'], ['\x7d', '\x7d'], by simp⟩ hmem

theorem trimChars_inner_eq_nil_iff (hf : f.IntoWords) (inside : List Char) :
    Text.trimChars (Renaming.inner f inside) = [] ↔ Text.trimChars inside = [] := by
  cases hp : HoleParts.ofInner? inside with
  | none => rw [Renaming.inner_of_none hp]
  | some p =>
      obtain ⟨hwell, hinside⟩ := HoleParts.ofInner?_eq_some_iff.mp hp
      have hword := Renaming.isWord_getD hf hwell
      have hnew := (hword.cut hwell.cut).trimChars_eq
      rw [Renaming.inner_of_some hp, HoleParts.withReference, List.append_assoc, hnew, hinside,
        hwell.cut.trimChars_eq]
      obtain ⟨c, rest, hold, -⟩ := hwell.reference
      obtain ⟨d, others, himage, -⟩ := hword
      rw [himage, hold]
      exact iff_of_false (List.cons_ne_nil _ _) (List.cons_ne_nil _ _)

end Iteration

/-! ## The items -/

namespace Resolver

open Renaming (across Crosses)

variable {place : Nat} {r r' : Resolver} {i : Iteration}

theorem agree_listOf {e e' : String} (hresolve : r'.resolve [] e' = r.resolve [] e) :
    Except.Agree StepError.SameKind (Iteration.items.listOf r e)
      (Iteration.items.listOf r' e') := by
  unfold Iteration.items.listOf
  rw [hresolve]
  split
  · exact .same _
  · exact .same _
  · exact .failed ⟨rfl, rfl⟩

theorem agree_items_of {i' : Iteration}
    (hempty : i'.sourceExpression = "" ↔ i.sourceExpression = "")
    (hplace : r'.placeOf (Expression.split i'.sourceExpression).reference =
      r.placeOf (Expression.split i.sourceExpression).reference)
    (hresolve : r'.resolve [] i'.sourceExpression = r.resolve [] i.sourceExpression) :
    Except.Agree StepError.SameKind (i.items r place) (i'.items r' place) := by
  have hlist := agree_listOf hresolve
  unfold Iteration.items
  generalize i.sourceExpression = e at *
  generalize i'.sourceExpression = e' at *
  dsimp only
  by_cases he : e = ""
  · rw [if_pos he, if_pos (hempty.mpr he)]
    exact .same _
  · rw [if_neg he, if_neg fun he' => he (hempty.mp he'), hplace]
    split
    · exact .same _
    · split
      · -- the two references differ, but the kind of the error depends on neither
        generalize (Expression.split e).reference = reference
        generalize (Expression.split e').reference = reference'
        exact .failed ⟨rfl, rfl⟩
      · exact hlist
    · exact hlist

theorem agree_items_later {i' : Iteration} {n : Nat} (hn : place ≤ n)
    (hempty : i'.sourceExpression = "" ↔ i.sourceExpression = "")
    (hlater : r.placeOf (Expression.split i.sourceExpression).reference = .ok (some n))
    (hunknown : r'.placeOf (Expression.split i'.sourceExpression).reference = .ok none)
    (hnothing : r'.lookup [] (Expression.split i'.sourceExpression).reference = .ok none) :
    Except.Agree StepError.SameKind (i.items r place) (i'.items r' place) := by
  have hlist : Iteration.items.listOf r' i'.sourceExpression =
      .error (.step (.unknownReference (Expression.split i'.sourceExpression).reference)) := by
    rw [Iteration.items.listOf, resolve, hnothing]
  unfold Iteration.items
  generalize i.sourceExpression = e at *
  generalize i'.sourceExpression = e' at *
  dsimp only
  by_cases he : e = ""
  · rw [if_pos he, if_pos (hempty.mpr he)]
    exact .same _
  · rw [if_neg he, if_neg fun he' => he (hempty.mp he'), hlater, hunknown]
    dsimp only
    rw [if_pos hn, hlist]
    exact .failed ⟨rfl, rfl⟩

/-- Whether two references lead to the same place, or the first to a step that is not before
a place and the second to no result. -/
def LeadsAlike (place : Nat) (r r' : Resolver) (reference image : String) : Prop :=
  r'.placeOf image = r.placeOf reference ∨
    ∃ n, place ≤ n ∧ r.placeOf reference = .ok (some n) ∧ r'.placeOf image = .ok none ∧
      r'.lookup [] image = .ok none

theorem Mirrors.leadsAlike_kept (h : Mirrors place r r') {reference : String}
    (hnot : ∀ n < place, r.stepIds[n]? ≠ some reference) (hfresh : reference ∉ r'.stepIds) :
    LeadsAlike place r r' reference reference := by
  by_cases hmem : reference ∈ r.stepIds
  · obtain ⟨n, hn⟩ := List.mem_iff_getElem?.mp hmem
    have hplace := (h.sound.generated reference hmem).place_eq
    refine Or.inr ⟨n, Nat.le_of_not_lt fun hlt => hnot n hlt hn, h.sound.placeOf_id hn, ?_, ?_⟩
    · rw [h.sound'.placeOf_other hfresh, hplace]
      rfl
    · rw [h.sound'.lookup_other hfresh rfl, hplace]
      rfl
  · refine Or.inl ?_
    rw [h.sound'.placeOf_other hfresh, h.sound.placeOf_other hmem, h.length_eq]

theorem Mirrors.leadsAlike_across (h : Mirrors place r r') {reference : String}
    (hcross : Crosses r.stepIds r'.stepIds place reference) :
    LeadsAlike place r r' reference
      ((across r.stepIds r'.stepIds place reference).getD reference) := by
  rcases h.across_cases hcross.2 with ⟨hnone, hstay, hnot⟩ | ⟨n, hn, id', hid', himage, hold⟩
  · have hfresh := hcross.1
    rw [hstay, Option.getD_none] at hfresh
    rw [hnone, Option.getD_none]
    exact h.leadsAlike_kept hnot hfresh
  · rw [himage, Option.getD_some]
    refine Or.inl ?_
    rw [h.sound'.placeOf_id hid']
    rcases hold with hget | hplace
    · rw [h.sound.placeOf_id hget]
    · obtain ⟨id, -, -, hid, -⟩ := h.exists_stored hn
      have hlength := (List.getElem?_eq_some_iff.mp hid).1
      rw [h.sound.placeOf_other (h.sound.not_mem_of_place hplace), hplace]
      simp [Except.map, Option.filter, hlength]

/-- What stands in a hole leads to the same place. -/
theorem Mirrors.leadsAlike_inner (h : Mirrors place r r') {inside : List Char}
    (hcross : ∀ p, HoleParts.ofInner? inside = some p →
      Crosses r.stepIds r'.stepIds place (String.ofList p.reference)) :
    LeadsAlike place r r' (Expression.split (String.ofList inside)).reference
      (Expression.split (String.ofList
        (Renaming.inner (across r.stepIds r'.stepIds place) inside))).reference := by
  cases hp : HoleParts.ofInner? inside with
  | none =>
      rw [Renaming.inner_of_none hp]
      obtain ⟨before, reference, after, hcut, rfl⟩ := Expression.exists_cut inside
      have hword : ¬ Reference.IsWord (String.ofList reference).toList := by
        rcases HoleParts.ofInner?_of_cut hcut with ⟨-, hsome⟩ | ⟨hword, -⟩
        · rw [hsome] at hp
          cases hp
        · rwa [String.toList_ofList]
      rw [Expression.split_of_cut hcut]
      apply h.leadsAlike_kept
      · exact fun n _ hn => hword (h.sound.generated _ (List.mem_of_getElem? hn)).isWord
      · exact fun hmem => hword (h.sound'.generated _ hmem).isWord
  | some p =>
      have hparts := Renaming.ofInner?_inner h.intoWords_across inside
      rw [hp, Option.map_some] at hparts
      rw [split_inside hp, split_inside hparts, String.ofList_toList]
      exact h.leadsAlike_across (hcross p hp)

/-- The items of a renamed source are the same in a sequence with the same results. -/
theorem Mirrors.agree_items (h : Mirrors place r r') (hplain : i.HasPlainSource)
    (hcross : ∀ reference ∈ Renaming.references (Renaming.wrapped i.source),
      Crosses r.stepIds r'.stepIds place reference) :
    Except.Agree StepError.SameKind (i.items r place)
      ((i.renamed (across r.stepIds r'.stepIds place)).items r' place) := by
  have hf := h.intoWords_across
  obtain ⟨inside, hold, hnew, hmem⟩ := hplain.exists_inside hf
  have hinside : ∀ p, HoleParts.ofInner? inside = some p →
      Crosses r.stepIds r'.stepIds place (String.ofList p.reference) :=
    fun p hp => hcross _ (hmem p hp)
  have hresolve := h.resolve_inner (apart_nil r) (apart_nil r') hinside
  have hleads := h.leadsAlike_inner hinside
  rw [← resolve_trimChars, ← resolve_trimChars r, ← hold, ← hnew] at hresolve
  rw [← Expression.split_trimChars, ← Expression.split_trimChars (Renaming.inner _ _), ← hold,
    ← hnew] at hleads
  have hempty : (i.renamed (across r.stepIds r'.stepIds place)).sourceExpression = "" ↔
      i.sourceExpression = "" := by
    rw [hold, hnew, ← String.toList_inj, ← String.toList_inj, String.toList_ofList,
      String.toList_ofList (l := Text.trimChars inside)]
    exact Iteration.trimChars_inner_eq_nil_iff hf inside
  rcases hleads with hplace | ⟨n, hn, hlater, hunknown, hnothing⟩
  · exact agree_items_of hempty hplace hresolve
  · exact agree_items_later hn hempty hlater hunknown hnothing

end Resolver

end CallChain
