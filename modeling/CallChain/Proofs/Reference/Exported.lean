/-
# References that an export leaves

An export writes the ids of earlier steps as places. In a placeholder it does so wherever
resolving reads a reference. An expression outside of placeholders is put between doubled
braces first, and its reference is renamed exactly when a placeholder starts there: when
its first brace, if it has one, belongs to two closing ones. Otherwise the id stays.
-/

import CallChain.Proofs.Document.Binding
import CallChain.Proofs.Reference.Canonical
import CallChain.Proofs.Reference.Fronts

namespace CallChain

namespace Renaming

/-! ## References to earlier steps -/

/-- Whether a reference is the id of an earlier step. -/
def IsEarlier (ids : List String) (place : Nat) (reference : String) : Prop :=
  ∃ n < place, ids[n]? = some reference

/-- Whether a reference has been made portable: the id of an earlier step has become its
place, and nothing has become such an id. -/
structure Ports (ids : List String) (place : Nat) (reference image : String) : Prop where
  /-- The id of an earlier step is written as its place. -/
  renamed : ∀ n < place, ids[n]? = some reference → image = Reference.ofPlace n
  /-- No id of an earlier step is left. -/
  portable : ¬ IsEarlier ids place image

section Ports

variable {ids : List String} {place : Nat} (hids : ids.Nodup)
  (hshape : ∀ id ∈ ids, Reference.IsGenerated id)

include hids hshape

theorem ports_getD (reference : String) :
    Ports ids place reference ((toPlace ids place reference).getD reference) := by
  have hplace : ∀ n < place, ids[n]? = some reference →
      toPlace ids place reference = some (Reference.ofPlace n) := by
    intro n hn hget
    obtain ⟨hlength, rfl⟩ := List.getElem?_eq_some_iff.mp hget
    exact toPlace_getElem hids hlength hn
  constructor
  · intro n hn hget
    rw [hplace n hn hget, Option.getD_some]
  · rintro ⟨n, hn, hget⟩
    cases himage : toPlace ids place reference with
    | none =>
        rw [himage, Option.getD_none] at hget
        rw [hplace n hn hget] at himage
        cases himage
    | some image =>
        rw [himage, Option.getD_some] at hget
        obtain ⟨m, -, hm⟩ := Option.bind_eq_some_iff.mp himage
        split at hm
        · cases hm
          exact (hshape _ (List.mem_of_getElem? hget)).ne_ofPlace m rfl
        · cases hm

omit hids in
theorem not_isEarlier_of_not_isWord {reference : String}
    (h : ¬ Reference.IsWord reference.toList) : ¬ IsEarlier ids place reference := by
  rintro ⟨n, -, hget⟩
  exact h (hshape _ (List.mem_of_getElem? hget)).isWord

omit hids in
/-- What is no word is no id, so it may stay. -/
theorem ports_of_not_isWord {reference image : String}
    (h : ¬ Reference.IsWord reference.toList) (himage : ¬ Reference.IsWord image.toList) :
    Ports ids place reference image where
  renamed := fun n hn hget => absurd ⟨n, hn, hget⟩ (not_isEarlier_of_not_isWord hshape h)
  portable := not_isEarlier_of_not_isWord hshape himage

/-- In a placeholder, every reference is made portable. -/
theorem ports_inner (text : List Char) :
    Ports ids place (Expression.split (String.ofList text)).reference
      (Expression.split (String.ofList (inner (toPlace ids place) text))).reference := by
  obtain ⟨before, reference, after, hcut, rfl⟩ := Expression.exists_cut text
  rcases HoleParts.ofInner?_of_cut hcut with ⟨-, hparts⟩ | ⟨hnot, hnone⟩
  · obtain ⟨hwell, -⟩ := HoleParts.ofInner?_eq_some_iff.mp hparts
    have hnew := (isWord_getD (intoWords_toPlace ids place) hwell).cut hcut
    rw [inner_of_some hparts, HoleParts.withReference, List.append_assoc,
      Expression.split_of_cut hcut, Expression.split_of_cut hnew, String.ofList_toList]
    exact ports_getD hids hshape _
  · rw [inner_of_none hnone, Expression.split_of_cut hcut]
    rw [← String.toList_ofList (l := reference)] at hnot
    exact ports_of_not_isWord hshape hnot hnot

theorem ports_inHoles (s : String) :
    List.Forall₂ (Ports ids place) (Expression.inHoles s)
      (Expression.inHoles (text (toPlace ids place) s)) := by
  rw [Expression.inHoles, Expression.inHoles, toList_text,
    Template.holes_mapHoles (keepsContent_inner (intoWords_toPlace ids place)), List.map_map,
    List.forall₂_map_left_iff, List.forall₂_map_right_iff, List.forall₂_same]
  exact fun inside _ => ports_inner hids hshape inside

end Ports

/-! ## Expressions between doubled braces -/

/-- Renaming keeps where the reference of a hole ends. -/
theorem exists_stop_inner_iff {f : Renaming} (hf : f.IntoWords) (front : List Char) :
    (∃ c ∈ inner f front, Expression.isName c = false) ↔
      ∃ c ∈ front, Expression.isName c = false := by
  obtain ⟨before, reference, after, hcut, rfl⟩ := Expression.exists_cut front
  obtain ⟨image, hnew, -, himage⟩ := exists_cut_inner hf hcut
  rw [himage]
  constructor
  · rintro ⟨c, hc, hstop⟩
    obtain ⟨d, tail, rfl, hd⟩ := hnew.exists_stop hc hstop
    exact ⟨d, by simp, hd⟩
  · rintro ⟨c, hc, hstop⟩
    obtain ⟨d, tail, rfl, hd⟩ := hcut.exists_stop hc hstop
    exact ⟨d, by simp, hd⟩

section Braced

variable {ids : List String} {place : Nat} {expr image : List Char}

/-- Whether doubled braces around a text start a placeholder. -/
def StartsHole (expr : List Char) : Prop :=
  (Template.holeAt? ('\x7b' :: '\x7b' :: (expr ++ ['\x7d', '\x7d']))).isSome = true

/-- What an expression between doubled braces refers to is made portable exactly when it is no
earlier step or a placeholder starts there. -/
theorem ports_braced_iff (hids : ids.Nodup) (hshape : ∀ id ∈ ids, Reference.IsGenerated id)
    (h : Template.mapHoles (inner (toPlace ids place))
        ('\x7b' :: '\x7b' :: (expr ++ ['\x7d', '\x7d'])) =
      '\x7b' :: '\x7b' :: (image ++ ['\x7d', '\x7d'])) :
    Ports ids place (Expression.split (String.ofList expr)).reference
        (Expression.split (String.ofList image)).reference ↔
      (IsEarlier ids place (Expression.split (String.ofList expr)).reference →
        StartsHole expr) := by
  have hf := intoWords_toPlace ids place
  obtain ⟨front, rest, front', rest', rfl, rfl, habreast, hfronts⟩ :=
    Template.frontsAlike_of_mapHoles (keepsContent_inner hf) h
  have hend : Expression.EndsInFront front' rest' ↔ Expression.EndsInFront front rest := by
    apply Expression.endsInFront_iff habreast
    rcases hfronts with ⟨-, rfl⟩ | ⟨-, rfl⟩
    · exact exists_stop_inner_iff hf front
    · exact Iff.rfl
  have hword : ∀ {n : Nat} {id : String}, ids[n]? = some id → Reference.IsWord id.toList :=
    fun hget => (hshape _ (List.mem_of_getElem? hget)).isWord
  rcases hfronts with ⟨hhole, rfl⟩ | ⟨hnone, rfl⟩
  · -- the front is all of a hole, whose reference is made portable
    have hports : Ports ids place _ _ := ports_inner hids hshape front
    refine iff_of_true ⟨fun n hn hget => ?_, ?_⟩ fun _ => Option.isSome_of_eq_some hhole
    · obtain ⟨hfront, hends⟩ :=
        (Expression.reference_iff_of_isWord habreast.text (hword hget)).mp rfl
      rw [← hfront] at hget
      exact (Expression.reference_iff_of_isWord habreast.image (Reference.isWord_ofPlace n)).mpr
        ⟨hports.renamed n hn hget, hend.mpr hends⟩
    · rintro ⟨n, hn, hget⟩
      obtain ⟨hfront, -⟩ :=
        (Expression.reference_iff_of_isWord habreast.image (hword hget)).mp rfl
      exact hports.portable ⟨n, hn, by rw [hfront, hget]⟩
  · -- the front stays, and with it an id that is read in it
    have hsame : ∀ {n : Nat} {id : String}, ids[n]? = some id →
        ((Expression.split (String.ofList (front' ++ rest'))).reference = id ↔
          (Expression.split (String.ofList (front' ++ rest))).reference = id) := by
      intro n id hget
      rw [Expression.reference_iff_of_isWord habreast.image (hword hget),
        Expression.reference_iff_of_isWord habreast.text (hword hget), hend]
    have hnot : ¬ StartsHole (front' ++ rest) := by
      rw [StartsHole, hnone]
      exact Bool.false_ne_true
    constructor
    · rintro hports ⟨n, hn, hget⟩
      exact absurd ⟨n, hn, by rw [(hsame hget).mpr rfl, hget]⟩ hports.portable
    · intro h
      refine ⟨fun n hn hget => absurd (h ⟨n, hn, hget⟩) hnot, ?_⟩
      rintro ⟨n, hn, hget⟩
      exact hnot (h ⟨n, hn, by rw [(hsame hget).mp rfl, hget]⟩)

end Braced

/-! ## Expressions of bindings -/

/-- An expression that starts with an opening brace reads no word. -/
theorem not_isWord_of_open (rest : List Char) :
    ¬ Reference.IsWord
      (Expression.split (String.ofList ('\x7b' :: rest))).reference.toList := by
  intro hword
  have hfronted : Template.Fronted [] ('\x7b' :: rest) := .nil_left (by decide)
  obtain ⟨-, hnil | ⟨c, hc, -⟩⟩ :=
    (Expression.reference_iff_of_isWord hfronted hword).mp rfl
  · exact List.cons_ne_nil _ _ hnil
  · exact absurd hc List.not_mem_nil

section Expressions

variable {ids : List String} {place : Nat} (hids : ids.Nodup)
  (hshape : ∀ id ∈ ids, Reference.IsGenerated id)

include hids hshape

/-- The reference of a binding is made portable exactly when it is no earlier step or a
placeholder starts at doubled braces in front of it. -/
theorem ports_expression_iff (s : String) :
    Ports ids place (Expression.split s).reference
        (Expression.split (expression (toPlace ids place) s)).reference ↔
      (IsEarlier ids place (Expression.split s).reference → StartsHole s.toList) := by
  have hf := intoWords_toPlace ids place
  have hopened : ∀ {t : String}, startsOpen t = true →
      ¬ Reference.IsWord (Expression.split t).reference.toList := by
    intro t ht
    obtain ⟨rest, hrest⟩ := startsOpen_iff.mp ht
    rw [← String.ofList_toList (s := t), ← hrest]
    exact not_isWord_of_open ('\x7b' :: rest)
  cases hopen : startsOpen s with
  | true =>
      have himage := (text_wrapped hf s).2.trans hopen
      exact iff_of_true (ports_of_not_isWord hshape (hopened hopen) (hopened himage))
        fun hearlier => absurd hearlier (not_isEarlier_of_not_isWord hshape (hopened hopen))
  | false =>
      have hbraced := ports_braced_iff hids hshape (mapHoles_expression hf hopen)
      rwa [String.ofList_toList, String.ofList_toList] at hbraced

end Expressions

/-! ## Sources of iterations -/

/-- A source that has become a placeholder with blanks around it was one. -/
theorem exists_braced_of_expression {f : Renaming} (hf : f.IntoWords) {s : String}
    {inside : List Char} (h : Text.trimChars (expression f s).toList =
      '\x7b' :: '\x7b' :: (inside ++ ['\x7d', '\x7d'])) :
    ∃ own, Text.trimChars s.toList = '\x7b' :: '\x7b' :: (own ++ ['\x7d', '\x7d']) := by
  have hkeeps := keepsContent_inner hf
  cases hopen : startsOpen s with
  | true =>
      have himage := startsOpen_text hf (String.ofList (Text.trimChars s.toList))
      rw [expression_of_open hopen, toList_text, Template.trimChars_mapHoles] at h
      rw [Bool.eq_iff_iff, startsOpen_iff, startsOpen_iff, toList_text, String.toList_ofList,
        h] at himage
      apply Template.exists_inside (himage.mp ⟨inside ++ ['\x7d', '\x7d'], rfl⟩)
      apply Template.suffix_of_mapHoles hkeeps Template.close_ne_open
      rw [h]
      exact ⟨'\x7b' :: '\x7b' :: inside, rfl⟩
  | false =>
      obtain ⟨before, after, hbefore, hafter, hsplit⟩ :=
        Text.exists_trimChars (expression f s).toList
      have hwhole := mapHoles_expression hf hopen
      rw [hsplit, h] at hwhole
      obtain ⟨own, hown⟩ := Template.exists_braced_of_mapHoles hkeeps hbefore hafter hwhole
      exact ⟨own, by rw [hown, Template.trimChars_braced hbefore hafter]⟩

/-- The reference of a source is made portable exactly when it is no earlier step or a
placeholder starts at the doubled braces around it. -/
theorem ports_source_iff {ids : List String} {place : Nat} (hids : ids.Nodup)
    (hshape : ∀ id ∈ ids, Reference.IsGenerated id) {i image : Iteration}
    (himage : image.source = expression (toPlace ids place) i.source) :
    Ports ids place (Expression.split i.sourceExpression).reference
        (Expression.split image.sourceExpression).reference ↔
      (IsEarlier ids place (Expression.split i.sourceExpression).reference →
        StartsHole i.between) := by
  have hf := intoWords_toPlace ids place
  rw [i.split_sourceExpression, image.split_sourceExpression]
  by_cases hbraced : ∃ inside, Text.trimChars i.source.toList =
      '\x7b' :: '\x7b' :: (inside ++ ['\x7d', '\x7d'])
  · obtain ⟨inside, hinside⟩ := hbraced
    have hnew := Iteration.trimChars_expression hf hinside
    obtain ⟨own, hown, -⟩ := Template.mapHoles_braced (keepsContent_inner hf) inside
    rw [hinside, hown, ← himage] at hnew
    rw [i.between_of_braced hinside, image.between_of_braced hnew]
    exact ports_braced_iff hids hshape hown
  · have hnew : ¬ ∃ inside, Text.trimChars image.source.toList =
        '\x7b' :: '\x7b' :: (inside ++ ['\x7d', '\x7d']) := by
      rintro ⟨inside, hinside⟩
      rw [himage] at hinside
      exact hbraced (exists_braced_of_expression hf hinside)
    rw [i.between_of_not hbraced, image.between_of_not hnew, String.ofList_toList,
      String.ofList_toList, himage]
    exact ports_expression_iff hids hshape i.source

end Renaming

end CallChain
