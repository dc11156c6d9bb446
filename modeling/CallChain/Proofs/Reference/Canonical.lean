/-
# The canonical form of references

Importing turns places into ids and exporting turns ids into places. A text that has
been through both has its references to earlier steps in canonical form: places, written
without leading zeros. Doing it again changes nothing, whatever the ids are.
-/

import CallChain.Proofs.Reference.Renamed

namespace CallChain

namespace Renaming

/-- References by place to steps before `before` are written without leading zeros. -/
def canonical (before : Nat) : Renaming := fun reference =>
  match Reference.place reference with
  | .ok (some place) => if place < before then some (Reference.ofPlace place) else none
  | _ => none

/-! ## Each renaming on each kind of reference -/

section Values

variable {ids : List String} {before n : Nat} {reference : String}

theorem toId_of_place (h : Reference.place reference = .ok (some n)) (hn : n < before) :
    toId ids before reference = ids[n]? := by
  have hcast : ((n : Int) < (before : Int)) := by exact_mod_cast hn
  rw [toId, h]
  dsimp only
  rw [if_pos hcast]

theorem toId_of_not_place (h : ∀ n < before, Reference.place reference ≠ .ok (some n)) :
    toId ids before reference = none := by
  rw [toId]
  split
  · next place hplace =>
    have hle : ¬ ((place : Int) < (before : Int)) := by
      intro hlt
      exact h place (by exact_mod_cast hlt) hplace
    rw [if_neg hle]
  · rfl

theorem toPlace_getElem (hids : ids.Nodup) (hn : n < ids.length) (hbefore : n < before) :
    toPlace ids before ids[n] = some (Reference.ofPlace n) := by
  have hplace : ids.idxOf? ids[n] = some n := by
    rw [List.idxOf?_eq_some_iff]
    refine ⟨hn, rfl, fun j hj heq => ?_⟩
    have hsame := (List.getElem_inj hids).mp heq
    omega
  have hcast : ((n : Int) < (before : Int)) := by exact_mod_cast hbefore
  rw [toPlace, hplace, Option.bind_some, if_pos hcast]

theorem toPlace_of_not_mem (h : reference ∉ ids) (before : Int) :
    toPlace ids before reference = none := by
  rw [toPlace, List.idxOf?_eq_none_iff.mpr h, Option.bind_none]

theorem canonical_of_place (h : Reference.place reference = .ok (some n)) (hn : n < before) :
    canonical before reference = some (Reference.ofPlace n) := by
  rw [canonical, h]
  dsimp only
  rw [if_pos hn]

theorem canonical_of_not_place (h : ∀ n < before, Reference.place reference ≠ .ok (some n)) :
    canonical before reference = none := by
  rw [canonical]
  split
  · next place hplace => exact if_neg fun hlt => h place hlt hplace
  · rfl

/-- A reference names an earlier step by its place, or it does not. -/
theorem place_cases (before : Nat) (reference : String) :
    (∃ n < before, Reference.place reference = .ok (some n)) ∨
      ∀ n < before, Reference.place reference ≠ .ok (some n) := by
  by_cases h : ∃ n < before, Reference.place reference = .ok (some n)
  · exact Or.inl h
  · exact Or.inr fun n hn hplace => h ⟨n, hn, hplace⟩

theorem intoWords_toPlace (ids : List String) (before : Int) : (toPlace ids before).IntoWords := by
  intro reference image h
  obtain ⟨place, -, himage⟩ := Option.bind_eq_some_iff.mp h
  split at himage
  · cases himage
    exact Reference.isWord_ofPlace place
  · cases himage

theorem intoWords_toId (hids : ∀ id ∈ ids, Reference.IsGenerated id) (before : Int) :
    (toId ids before).IntoWords := by
  intro reference image h
  rw [toId] at h
  split at h
  · split at h
    · exact (hids _ (List.mem_of_getElem? h)).isWord
    · cases h
  · cases h

theorem intoWords_canonical (before : Nat) : (canonical before).IntoWords := by
  intro reference image h
  rcases place_cases before reference with ⟨n, hn, hplace⟩ | hnot
  · rw [canonical_of_place hplace hn, Option.some.injEq] at h
    subst h
    exact Reference.isWord_ofPlace n
  · rw [canonical_of_not_place hnot] at h
    cases h

theorem IntoWords.andThen {f g : Renaming} (hf : f.IntoWords) (hg : g.IntoWords) :
    (f.andThen g).IntoWords := by
  intro reference image h
  rw [Renaming.andThen] at h
  cases hfirst : f reference with
  | none =>
      rw [hfirst] at h
      exact hg reference image h
  | some first =>
      rw [hfirst, Option.some.injEq] at h
      subst h
      cases hsecond : g first with
      | none => exact hf reference first hfirst
      | some second => exact hg first second hsecond

end Values

/-! ## Importing and exporting -/

section Cycle

variable {earlier later : List String} {id : String}

/-- An import followed by an export leaves the canonical form. -/
theorem toPlace_toId {reference : String} (hids : (earlier ++ id :: later).Nodup)
    (hfresh : reference ∉ earlier ++ id :: later) :
    ((toId (earlier ++ [id]) earlier.length).andThen
        (toPlace (earlier ++ id :: later) earlier.length)) reference =
      canonical earlier.length reference := by
  rcases place_cases earlier.length reference with ⟨n, hn, hplace⟩ | hnot
  · have hlength : n < (earlier ++ id :: later).length := by
      rw [List.length_append]
      omega
    have hget : (earlier ++ [id])[n]? = some (earlier ++ id :: later)[n] := by
      rw [List.getElem?_append_left hn, List.getElem_append_left hn, List.getElem?_eq_getElem hn]
    rw [andThen, toId_of_place hplace hn, hget, canonical_of_place hplace hn]
    dsimp only
    rw [toPlace_getElem hids hlength hn]
    rfl
  · rw [andThen, toId_of_not_place hnot, canonical_of_not_place hnot]
    exact toPlace_of_not_mem hfresh _

theorem canonical_canonical (before : Nat) (reference : String) :
    ((canonical before).andThen (canonical before)) reference = canonical before reference := by
  rcases place_cases before reference with ⟨n, hn, hplace⟩ | hnot
  · have hagain := Reference.place_ofPlace (Reference.place_lt hplace)
    rw [andThen, canonical_of_place hplace hn]
    dsimp only
    rw [canonical_of_place hagain hn]
    simp only [Option.getD_some]
  · rw [andThen, canonical_of_not_place hnot]

variable (hids : (earlier ++ id :: later).Nodup)
  (hshape : ∀ x ∈ earlier ++ id :: later, Reference.IsGenerated x)

include hshape

theorem isGenerated_of_mem_earlier : ∀ x ∈ earlier ++ [id], Reference.IsGenerated x := by
  intro x hx
  apply hshape x
  rcases List.mem_append.mp hx with hx | hx
  · exact List.mem_append_left _ hx
  · rw [List.mem_singleton.mp hx]
    simp

include hids

theorem text_toPlace_toId {s : String} (hfresh : ∀ x ∈ earlier ++ id :: later, x ∉ references s) :
    text (toPlace (earlier ++ id :: later) earlier.length)
        (text (toId (earlier ++ [id]) earlier.length) s) =
      text (canonical earlier.length) s := by
  rw [text_text (intoWords_toId (isGenerated_of_mem_earlier hshape) _)]
  apply text_congr
  intro r hr
  rw [toPlace_toId hids fun hmem => hfresh r hmem hr]

theorem expression_toPlace_toId {s : String}
    (hfresh : ∀ x ∈ earlier ++ id :: later, x ∉ references (wrapped s)) :
    expression (toPlace (earlier ++ id :: later) earlier.length)
        (expression (toId (earlier ++ [id]) earlier.length) s) =
      expression (canonical earlier.length) s := by
  rw [expression_expression (intoWords_toId (isGenerated_of_mem_earlier hshape) _)]
  apply expression_congr
  intro r hr
  rw [toPlace_toId hids fun hmem => hfresh r hmem hr]

end Cycle

/-! ## The canonical form is stable -/

section Stable

variable (before : Nat)

@[simp]
theorem text_canonical_canonical (s : String) :
    text (canonical before) (text (canonical before) s) = text (canonical before) s := by
  rw [text_text (intoWords_canonical before)]
  exact text_congr fun r _ => by rw [canonical_canonical]

@[simp]
theorem expression_canonical_canonical (s : String) :
    expression (canonical before) (expression (canonical before) s) =
      expression (canonical before) s := by
  rw [expression_expression (intoWords_canonical before)]
  exact expression_congr fun r _ => by rw [canonical_canonical]

/-- An id that is no reference of a text is none of its canonical form. -/
theorem not_mem_map_canonical {id : String} (hid : Reference.IsGenerated id)
    {references : List String} (h : id ∉ references) :
    id ∉ references.map fun r => (canonical before r).getD r := by
  intro hmem
  obtain ⟨r, hr, rfl⟩ := List.mem_map.mp hmem
  rcases place_cases before r with ⟨n, hn, hplace⟩ | hnot
  · rw [canonical_of_place hplace hn] at hid
    exact hid.ne_ofPlace n rfl
  · rw [canonical_of_not_place hnot] at h
    exact h hr

/-- The canonical form of references that can be read can be read. -/
theorem readable_map_canonical {references : List String}
    (h : ∀ r ∈ references, ∃ place, Reference.place r = .ok place) :
    ∀ r ∈ references.map fun r => (canonical before r).getD r,
      ∃ place, Reference.place r = .ok place := by
  intro image himage
  obtain ⟨r, hr, rfl⟩ := List.mem_map.mp himage
  rcases place_cases before r with ⟨n, hn, hplace⟩ | hnot
  · rw [canonical_of_place hplace hn]
    exact ⟨some n, Reference.place_ofPlace (Reference.place_lt hplace)⟩
  · rw [canonical_of_not_place hnot]
    exact h r hr

end Stable

end Renaming

end CallChain
