/-
# Two sequences with the same results

A sequence that has been saved and loaded again has other ids. `Resolver.Mirrors` says that
two sequences have the same results at the same places, and that those are the results of
all steps before a place. References go from one sequence to the other by way of the
document: an id becomes a place, and a place another id. What a reference names, and with it
the value of every hole and binding and the items of every source, is then the same in both.
-/

import CallChain.Proofs.Reference.Canonical
import CallChain.Proofs.Request.Building

namespace CallChain

/-! ## Places that are written and read -/

namespace Reference

/-- If the place that an export writes can be read at all, it is read as it was written. -/
theorem place_ofPlace_of_ok {n : Nat} {place? : Option Nat}
    (h : place (ofPlace n) = .ok place?) : place? = some n := by
  rw [place, placeDigits?_ofPlace] at h
  dsimp only at h
  cases hread : Text.readNumber (Nat.toDigits 10 n) with
  | error problem =>
      rw [hread] at h
      cases h
  | ok value =>
      rw [hread] at h
      cases h
      rw [← (Text.readNumber_eq_ok_iff.mp hread).2, Text.digitsValue_toDigits]

end Reference

namespace Renaming

/-- References to steps before a place, by way of a document from one sequence into
another. -/
def across (ids ids' : List String) (place : Nat) : Renaming :=
  (toPlace ids place).andThen (toId (ids'.take (place + 1)) place)

/-- Whether a reference can go from one sequence to another: what stands for it in the
document is no id of the other one and no place of too many digits. -/
def Crosses (ids ids' : List String) (place : Nat) (reference : String) : Prop :=
  (toPlace ids place reference).getD reference ∉ ids' ∧
    ∃ place?, Reference.place ((toPlace ids place reference).getD reference) = .ok place?

theorem intoWords_across (ids : List String) {ids' : List String}
    (h : ∀ id ∈ ids', Reference.IsGenerated id) (place : Nat) :
    (across ids ids' place).IntoWords :=
  (intoWords_toPlace ids place).andThen
    (intoWords_toId (fun id hid => h id (List.mem_of_mem_take hid)) place)

theorem toPlace_eq_none {ids : List String} {place : Nat} {reference : String}
    (h : ∀ n < place, ids[n]? ≠ some reference) : toPlace ids place reference = none := by
  rw [toPlace, Option.bind_eq_none_iff]
  intro n hn
  obtain ⟨hlength, hget, -⟩ := List.idxOf?_eq_some_iff.mp hn
  refine if_neg fun hlt => h n (by exact_mod_cast hlt) ?_
  rw [List.getElem?_eq_getElem hlength, hget]

/-- What stands in an expression, and holds a reference but no brace, is found in the text of
the expression as it stands in a hole. -/
theorem mem_holes_wrapped {e : String} {p : HoleParts}
    (he : ∀ c ∈ e.toList, Template.isInner c = true)
    (hp : HoleParts.ofInner? e.toList = some p) : e.toList ∈ Template.holes (wrapped e).toList := by
  have hne : e.toList ≠ [] := by
    intro hnil
    rw [hnil] at hp
    cases hp
  rw [Template.mem_holes_iff]
  rw [toList_wrapped_of_not (startsOpen_of_isInner he)]
  exact ⟨⟨hne, he⟩, [], [], by simp [Piece.render]⟩

end Renaming

namespace Resolver

/-! ## What references name -/

/-- The result that the step at a place has left. -/
def storedAt (r : Resolver) (n : Nat) : Option Value := r.stepIds[n]?.bind r.results.get?

/-- Whether the ids of a sequence are told apart and have their shape, and all results are
those of its steps. -/
structure Sound (r : Resolver) : Prop where
  /-- No two steps have one id. -/
  nodup : r.stepIds.Nodup
  /-- Ids have their shape. -/
  generated : ∀ id ∈ r.stepIds, Reference.IsGenerated id
  /-- Every result is that of a step. -/
  owned : ∀ id, r.results.has id = true → id ∈ r.stepIds

section Lookup

variable {r : Resolver} {scope : Fields Value} {reference : String} {n : Nat}

theorem Sound.idOf_id (hn : r.stepIds[n]? = some reference) :
    r.idOf reference = .ok (some reference) := by
  rw [idOf, if_pos]
  rw [Bool.or_eq_true, List.contains_iff_mem]
  exact Or.inr (List.mem_of_getElem? hn)

theorem Sound.idOf_other (h : r.Sound) (hnot : reference ∉ r.stepIds) :
    r.idOf reference =
      (Reference.place reference).map fun place => place.bind fun n => r.stepIds[n]? := by
  have hresult : r.results.has reference = false := by
    rw [Bool.eq_false_iff]
    exact fun hhas => hnot (h.owned reference hhas)
  rw [idOf, hresult, Bool.false_or, if_neg]
  rwa [List.contains_iff_mem]

theorem lookup_id (hn : r.stepIds[n]? = some reference) (hscope : scope.get? reference = none) :
    r.lookup scope reference = .ok (r.storedAt n) := by
  rw [lookup, hscope, Sound.idOf_id hn, storedAt, hn]
  rfl

theorem Sound.lookup_other (h : r.Sound) (hnot : reference ∉ r.stepIds)
    (hscope : scope.get? reference = none) :
    r.lookup scope reference = (Reference.place reference).map fun place =>
      place.bind r.storedAt := by
  rw [lookup, hscope, h.idOf_other hnot]
  cases Reference.place reference with
  | error problem => rfl
  | ok place => cases place <;> rfl

end Lookup

/-- Whether two sequences have the same results at the same places: those of all steps
before a place. -/
structure Mirrors (place : Nat) (r r' : Resolver) : Prop where
  /-- The one sequence is sound. -/
  sound : r.Sound
  /-- So is the other. -/
  sound' : r'.Sound
  /-- They have equally many steps. -/
  length_eq : r'.stepIds.length = r.stepIds.length
  /-- The results are the same. -/
  same : ∀ n, r'.storedAt n = r.storedAt n
  /-- Every step before the place has one. -/
  stored : ∀ n < place, (r.storedAt n).isSome = true
  /-- No other step has one. -/
  unstored : ∀ n, place ≤ n → r.storedAt n = none

/-- Whether local names are names of no steps, by id or by place. -/
def Apart (scope : Fields Value) (r : Resolver) : Prop :=
  ∀ name, (scope.get? name).isSome = true →
    name ∉ r.stepIds ∧ Reference.placeDigits? name = none

section Mirrors

open Renaming (across Crosses)

variable {place : Nat} {r r' : Resolver} {scope : Fields Value} {reference : String}

theorem apart_nil (r : Resolver) : Apart [] r :=
  fun _ hsome => absurd hsome Bool.false_ne_true

theorem Apart.get?_eq_none (h : Apart scope r) (hmem : reference ∈ r.stepIds) :
    scope.get? reference = none := by
  rw [← Option.not_isSome_iff_eq_none]
  exact fun hsome => (h reference hsome).1 hmem

theorem Apart.get?_place_eq_none (h : Apart scope r) {n : Nat}
    (hplace : Reference.place reference = .ok (some n)) : scope.get? reference = none := by
  rw [← Option.not_isSome_iff_eq_none]
  intro hsome
  rw [Reference.place, (h reference hsome).2] at hplace
  cases hplace

theorem Sound.not_mem_of_place (h : r.Sound) {n : Nat}
    (hplace : Reference.place reference = .ok (some n)) : reference ∉ r.stepIds := by
  intro hmem
  rw [(h.generated reference hmem).place_eq] at hplace
  cases hplace

/-- A reference to no step before the place names the same in both sequences, if it is no id
of the other one. -/
theorem Mirrors.lookup_kept (h : Mirrors place r r')
    (hnot : ∀ n < place, r.stepIds[n]? ≠ some reference) (hfresh : reference ∉ r'.stepIds) :
    r'.lookup scope reference = r.lookup scope reference := by
  cases hscope : scope.get? reference with
  | some v => rw [lookup, lookup, hscope]
  | none =>
      rw [h.sound'.lookup_other hfresh hscope]
      by_cases hmem : reference ∈ r.stepIds
      · obtain ⟨n, hn⟩ := List.mem_iff_getElem?.mp hmem
        have hle : place ≤ n := Nat.le_of_not_lt fun hlt => hnot n hlt hn
        rw [lookup_id hn hscope, h.unstored n hle, (h.sound.generated reference hmem).place_eq]
        rfl
      · rw [h.sound.lookup_other hmem hscope]
        have hsame : r'.storedAt = r.storedAt := funext h.same
        rw [hsame]

theorem Mirrors.exists_stored (h : Mirrors place r r') {n : Nat} (hn : n < place) :
    ∃ id id' v, r.stepIds[n]? = some id ∧ r'.stepIds[n]? = some id' ∧ r.storedAt n = some v ∧
      r'.storedAt n = some v := by
  obtain ⟨v, hv⟩ := Option.isSome_iff_exists.mp (h.stored n hn)
  have hv' := (h.same n).trans hv
  obtain ⟨id, hid, -⟩ := Option.bind_eq_some_iff.mp hv
  obtain ⟨id', hid', -⟩ := Option.bind_eq_some_iff.mp hv'
  exact ⟨id, id', v, hid, hid', hv, hv'⟩

theorem Mirrors.intoWords_across (h : Mirrors place r r') :
    (across r.stepIds r'.stepIds place).IntoWords :=
  Renaming.intoWords_across r.stepIds h.sound'.generated place

/-- A reference that is renamed names a step before the place, and the step at the same
place of the other sequence afterwards; any other reference stays. -/
theorem Mirrors.across_cases (h : Mirrors place r r')
    (hread : ∃ place?, Reference.place
      ((Renaming.toPlace r.stepIds place reference).getD reference) = .ok place?) :
    (across r.stepIds r'.stepIds place reference = none ∧
        Renaming.toPlace r.stepIds place reference = none ∧
        ∀ n < place, r.stepIds[n]? ≠ some reference) ∨
      ∃ n < place, ∃ id', r'.stepIds[n]? = some id' ∧
        across r.stepIds r'.stepIds place reference = some id' ∧
        (r.stepIds[n]? = some reference ∨ Reference.place reference = .ok (some n)) := by
  have hids : ∀ n < place, (r'.stepIds.take (place + 1))[n]? = r'.stepIds[n]? :=
    fun n hn => List.getElem?_take_of_lt (by omega)
  by_cases hid : ∃ n < place, r.stepIds[n]? = some reference
  · obtain ⟨n, hn, hget⟩ := hid
    obtain ⟨id, id', v, -, hget', -, -⟩ := h.exists_stored hn
    obtain ⟨hlength, rfl⟩ := List.getElem?_eq_some_iff.mp hget
    have hplace := Renaming.toPlace_getElem h.sound.nodup hlength hn
    rw [hplace, Option.getD_some] at hread
    obtain ⟨place?, hread⟩ := hread
    have hthere : Renaming.toId (r'.stepIds.take (place + 1)) place (Reference.ofPlace n) =
        (r'.stepIds.take (place + 1))[n]? :=
      Renaming.toId_of_place (Reference.place_ofPlace_of_ok hread ▸ hread) hn
    refine Or.inr ⟨n, hn, id', hget', ?_, Or.inl hget⟩
    simp only [across, Renaming.andThen, hplace, hthere, hids n hn, hget',
      Option.getD_some]
  · have hnot : ∀ n < place, r.stepIds[n]? ≠ some reference :=
      fun n hn hget => hid ⟨n, hn, hget⟩
    have hnone := Renaming.toPlace_eq_none hnot
    rcases Renaming.place_cases place reference with ⟨n, hn, hplace⟩ | hother
    · obtain ⟨id, id', v, -, hget', -, -⟩ := h.exists_stored hn
      refine Or.inr ⟨n, hn, id', hget', ?_, Or.inr hplace⟩
      simp only [across, Renaming.andThen, hnone, Renaming.toId_of_place hplace hn,
        hids n hn, hget']
    · refine Or.inl ⟨?_, hnone, hnot⟩
      simp only [across, Renaming.andThen, hnone, Renaming.toId_of_not_place hother]

/-- What becomes of a reference that is renamed, and what it names in both sequences. -/
theorem Mirrors.lookup_across (h : Mirrors place r r') (hscope : Apart scope r)
    (hscope' : Apart scope r') (hcross : Crosses r.stepIds r'.stepIds place reference) :
    (across r.stepIds r'.stepIds place reference = none ∧
        r'.lookup scope reference = r.lookup scope reference) ∨
      ∃ image v, across r.stepIds r'.stepIds place reference = some image ∧
        r.lookup scope reference = .ok (some v) ∧ r'.lookup scope image = .ok (some v) := by
  rcases h.across_cases hcross.2 with ⟨hnone, hstay, hnot⟩ | ⟨n, hn, id', hid', himage, hold⟩
  · have hfresh := hcross.1
    rw [hstay, Option.getD_none] at hfresh
    exact Or.inl ⟨hnone, h.lookup_kept hnot hfresh⟩
  · obtain ⟨id, -, v, hid, -, hv, hv'⟩ := h.exists_stored hn
    refine Or.inr ⟨id', v, himage, ?_, ?_⟩
    · rcases hold with hget | hplace
      · rw [lookup_id hget (hscope.get?_eq_none (List.mem_of_getElem? hget)), hv]
      · rw [h.sound.lookup_other (h.sound.not_mem_of_place hplace)
          (hscope.get?_place_eq_none hplace), hplace]
        simp only [Except.map, Option.bind_some, hv]
    · rw [lookup_id hid' (hscope'.get?_eq_none (List.mem_of_getElem? hid')), hv']

/-- What stands in a hole has the same value in both sequences. -/
theorem Mirrors.resolve_inner (h : Mirrors place r r') (hscope : Apart scope r)
    (hscope' : Apart scope r') {inside : List Char}
    (hcross : ∀ p, HoleParts.ofInner? inside = some p →
      Crosses r.stepIds r'.stepIds place (String.ofList p.reference)) :
    r'.resolve scope (String.ofList (Renaming.inner (across r.stepIds r'.stepIds place) inside)) =
      r.resolve scope (String.ofList inside) := by
  obtain ⟨before, reference, after, hcut, rfl⟩ := Expression.exists_cut inside
  rcases HoleParts.ofInner?_of_cut hcut with ⟨hword, hparts⟩ | ⟨hword, hnone⟩
  · have hinner := Renaming.inner_of_some (f := across r.stepIds r'.stepIds place) hparts
    rw [HoleParts.withReference, List.append_assoc] at hinner
    rcases h.lookup_across hscope hscope' (hcross _ hparts) with
      ⟨hstay, hlookup⟩ | ⟨image, v, himage, hold, hnew⟩
    · rw [hstay, Option.getD_none, String.toList_ofList] at hinner
      rw [hinner, resolve, resolve, Expression.split_of_cut hcut]
      dsimp only
      rw [hlookup]
    · have hcut' : Expression.Cut before image.toList after := by
        exact (h.intoWords_across _ image himage).cut hcut
      rw [himage, Option.getD_some] at hinner
      rw [hinner, resolve, resolve, Expression.split_of_cut hcut, Expression.split_of_cut hcut']
      dsimp only
      rw [String.ofList_toList, hold, hnew]
  · have hbare : ∀ n : Nat, r.stepIds[n]? ≠ some (String.ofList reference) := by
      intro n hn
      have hid := h.sound.generated _ (List.mem_of_getElem? hn)
      exact hword (by simpa using hid.isWord)
    have hfresh : String.ofList reference ∉ r'.stepIds := by
      intro hmem
      have hid := h.sound'.generated _ hmem
      exact hword (by simpa using hid.isWord)
    rw [Renaming.inner_of_none hnone, resolve, resolve, Expression.split_of_cut hcut]
    dsimp only
    rw [h.lookup_kept (fun n _ => hbare n) hfresh]

/-- The holes of a text have the same values in both sequences. -/
theorem Mirrors.holesAgree (h : Mirrors place r r') (hscope : Apart scope r)
    (hscope' : Apart scope r') {s : String}
    (hcross : ∀ reference ∈ Renaming.references s, Crosses r.stepIds r'.stepIds place reference) :
    HolesAgree r r' scope (across r.stepIds r'.stepIds place) s.toList :=
  fun _ hinside => h.resolve_inner hscope hscope' fun _ hp =>
    hcross _ (Renaming.mem_references hinside hp)

/-- A binding without braces has the same value in both sequences. -/
theorem Mirrors.resolve_binding (h : Mirrors place r r') (hscope : Apart scope r)
    (hscope' : Apart scope r') {e : String} (he : ∀ c ∈ e.toList, Template.isInner c = true)
    (hcross : ∀ reference ∈ Renaming.references (Renaming.wrapped e),
      Crosses r.stepIds r'.stepIds place reference) :
    r'.resolve scope (String.ofList (Renaming.inner (across r.stepIds r'.stepIds place) e.toList)) =
      r.resolve scope e := by
  have hvalue := h.resolve_inner hscope hscope' fun p (hp : HoleParts.ofInner? e.toList = some p) =>
    hcross _ (Renaming.mem_references (Renaming.mem_holes_wrapped he hp) hp)
  rw [hvalue, String.ofList_toList]

end Mirrors

end Resolver

end CallChain
