/-
# What renamed references resolve to

Renaming writes another reference for the same step, so a text with placeholders and a bare
expression have the same value before and after it, against the same results. A reference
that names no result still names none, though the error reports it as it is written now.

A place of more digits than a whole number is read from is neither renamed nor resolved: it
is a problem wherever it is read. So is an index of that many digits at a list.
-/

import CallChain.Proofs.Reference.Mirrored

namespace CallChain

/-! ## Places that are too long -/

namespace Reference

/-- A place is read when it has no more digits than a whole number is read from. -/
theorem exists_place_iff {reference : String} :
    (∃ place?, place reference = .ok place?) ↔
      ∀ digits, placeDigits? reference = some digits → digits.length ≤ digitLimit := by
  rw [place]
  cases placeDigits? reference with
  | none => simp
  | some digits =>
      by_cases hlength : digits.length ≤ digitLimit
      · have hread := Text.readNumber_eq_ok_iff.mpr ⟨hlength, rfl⟩
        simp [hread, hlength, Except.map]
      · have hread : Text.readNumber digits = .error (.longText digits.length) :=
          if_pos (Nat.lt_of_not_le hlength)
        simp [hread, hlength, Except.map]

end Reference

namespace Renaming

theorem textProblem?_eq_none_iff_length {s : String} :
    textProblem? s = none ↔ ∀ reference ∈ references s, ∀ digits,
      Reference.placeDigits? reference = some digits → digits.length ≤ digitLimit := by
  rw [textProblem?_eq_none_iff]
  exact forall₂_congr fun reference _ => Reference.exists_place_iff

end Renaming

namespace Resolver

variable {r : Resolver} {scope : Fields Value} {f : Renaming}

/-! ## Readings that agree -/

/-- Whether two readings have the same value, or meet an unknown reference each, or the same
problem of a number. -/
inductive ReadAlike {α : Type} : Except Fault α → Except Fault α → Prop
  /-- Both have this value. -/
  | value (a : α) : ReadAlike (.ok a) (.ok a)
  /-- Both meet a reference that names no result, each as it is written there. -/
  | unknown (reference reference' : String) :
    ReadAlike (.error (.step (.unknownReference reference)))
      (.error (.step (.unknownReference reference')))
  /-- Both meet a number of too many digits. -/
  | beyondLimit (problem : NumberProblem) :
    ReadAlike (.error (.badNumber problem)) (.error (.badNumber problem))

theorem ReadAlike.map {α β : Type} {result result' : Except Fault α}
    (h : ReadAlike result result') (g : α → β) : ReadAlike (result.map g) (result'.map g) := by
  cases h with
  | value a => exact .value (g a)
  | unknown reference reference' => exact .unknown reference reference'
  | beyondLimit problem => exact .beyondLimit problem

/-- Expressions with one path read alike when their references name the same. -/
theorem readAlike_resolve {e e' : String}
    (hpath : (Expression.split e').path = (Expression.split e).path)
    (hlookup : r.lookup scope (Expression.split e').reference =
      r.lookup scope (Expression.split e).reference) :
    ReadAlike (r.resolve scope e) (r.resolve scope e') := by
  unfold resolve
  dsimp only
  rw [hlookup, hpath]
  cases r.lookup scope (Expression.split e).reference with
  | error problem => exact .beyondLimit problem
  | ok named =>
      cases named with
      | none =>
          dsimp only
          exact .unknown (Expression.split e).reference (Expression.split e').reference
      | some v =>
          dsimp only
          cases v.walk (Expression.split e).path with
          | error problem => exact .beyondLimit problem
          | ok found => exact .value found

/-! ## Renamings that keep what references name -/

/-- Whether a renaming writes for every reference another one of the same result. -/
def KeepsLookup (r : Resolver) (scope : Fields Value) (f : Renaming) : Prop :=
  ∀ reference image, f reference = some image → r.lookup scope image = r.lookup scope reference

/-- A place that is written for an id is read as the place of that id. -/
theorem Sound.keepsLookup_toPlace (h : r.Sound) (hlength : r.stepIds.length ≤ 10 ^ digitLimit)
    (hscope : Apart scope r) (before : Int) :
    KeepsLookup r scope (Renaming.toPlace r.stepIds before) := by
  intro reference image hrenamed
  obtain ⟨n, hn, himage⟩ := Option.bind_eq_some_iff.mp hrenamed
  obtain ⟨hlt, rfl, -⟩ := List.idxOf?_eq_some_iff.mp hn
  split at himage
  · cases himage
    have hget := List.getElem?_eq_getElem hlt
    have hplace := Reference.place_ofPlace (Nat.lt_of_lt_of_le hlt hlength)
    have hnot : Reference.ofPlace n ∉ r.stepIds :=
      fun hmem => (h.generated _ hmem).ne_ofPlace n rfl
    rw [lookup_id hget (hscope.get?_eq_none (List.getElem_mem hlt)),
      h.lookup_other hnot (hscope.get?_place_eq_none hplace), hplace]
    rfl
  · cases himage

/-- An id that is written for a place is the id of the step at that place. -/
theorem Sound.keepsLookup_toId (h : r.Sound) (hscope : Apart scope r) (before : Int) :
    KeepsLookup r scope (Renaming.toId r.stepIds before) := by
  intro reference image himage
  rw [Renaming.toId] at himage
  split at himage
  · next n hplace =>
    split at himage
    · rw [lookup_id himage (hscope.get?_eq_none (List.mem_of_getElem? himage)),
        h.lookup_other (h.not_mem_of_place hplace) (hscope.get?_place_eq_none hplace), hplace]
      rfl
    · cases himage
  · cases himage

/-! ## Holes, texts and expressions -/

/-- A text that is one placeholder has the value of what stands in it. -/
theorem interpolate_hole {inside : List Char} (h : Template.IsContent inside) :
    r.interpolate scope (String.ofList (Piece.hole inside).render) =
      r.resolve scope (String.ofList inside) := by
  have hnone : ∀ c ∈ ([] : List Char), Text.isBlank c = true := nofun
  have hstart : Text.StartsBare (Piece.hole inside).render := by
    intro c hc
    cases hc
    decide
  have hend : Text.EndsBare (Piece.hole inside).render := by
    intro c hc
    rw [Template.getLast?_render] at hc
    cases hc
    decide
  have htrim := Text.trimChars_eq hnone hnone hstart hend
  have hpieces := Template.pieces_hole h []
  rw [List.append_nil, List.nil_append] at htrim
  rw [List.append_nil, Template.pieces_nil] at hpieces
  rw [interpolate, Template.whole?, String.toList_ofList, htrim, hpieces]
  exact resolve_trimChars r scope inside

/-- What stands in a hole reads as it does after renaming. -/
theorem KeepsLookup.readAlike_inner (h : KeepsLookup r scope f) (hf : f.IntoWords)
    (inside : List Char) :
    ReadAlike (r.resolve scope (String.ofList inside))
      (r.resolve scope (String.ofList (Renaming.inner f inside))) := by
  obtain ⟨image, hgives, hsplit⟩ := Renaming.split_inner hf inside
  apply readAlike_resolve
  · rw [hsplit]
  · rw [hsplit]
    rcases hgives with rfl | himage
    · rfl
    · exact h _ _ himage

theorem KeepsLookup.readAlike_renderPieces (h : KeepsLookup r scope f) (hf : f.IntoWords)
    (ps : List Piece) :
    ReadAlike (r.renderPieces scope ps)
      (r.renderPieces scope (ps.map (Piece.mapInner (Renaming.inner f)))) := by
  induction ps with
  | nil => exact .value []
  | cons piece ps ih =>
      have hpiece : ReadAlike (r.renderPiece scope piece)
          (r.renderPiece scope (piece.mapInner (Renaming.inner f))) := by
        cases piece with
        | literal text => exact .value text
        | hole inside => exact (h.readAlike_inner hf inside).map _
      rw [List.map_cons, renderPieces, renderPieces]
      generalize r.renderPiece scope piece = front at hpiece
      generalize r.renderPiece scope (piece.mapInner (Renaming.inner f)) = front' at hpiece
      -- the first hole that has no value decides, and it is the same one in both texts
      cases hpiece with
      | value text => exact ih.map _
      | unknown reference reference' => exact .unknown reference reference'
      | beyondLimit problem => exact .beyondLimit problem

/-- A text reads as it does after renaming. -/
theorem KeepsLookup.readAlike_text (h : KeepsLookup r scope f) (hf : f.IntoWords) (s : String) :
    ReadAlike (r.interpolate scope s) (r.interpolate scope (Renaming.text f s)) := by
  have hkeeps := Renaming.keepsContent_inner hf
  have hpieces := h.readAlike_renderPieces hf (Template.pieces s.toList)
  unfold interpolate Template.whole?
  rw [Renaming.toList_text, Template.trimChars_mapHoles, Template.pieces_mapHoles hkeeps,
    Template.pieces_mapHoles hkeeps]
  generalize Template.pieces (Text.trimChars s.toList) = trimmed
  match trimmed with
  | [] => exact hpieces.map _
  | [.literal text] => exact hpieces.map _
  | [.hole inside] =>
      simp only [List.map_cons, List.map_nil, Piece.mapInner, Piece.expression?]
      rw [resolve_trimChars, resolve_trimChars]
      exact h.readAlike_inner hf inside
  | first :: second :: others => exact hpieces.map _

/-- An expression without braces reads as it does after renaming. -/
theorem KeepsLookup.readAlike_expression (h : KeepsLookup r scope f) (hf : f.IntoWords)
    {e : String} (he : ∀ c ∈ e.toList, Template.isInner c = true) :
    ReadAlike (r.resolve scope e) (r.resolve scope (Renaming.expression f e)) := by
  have hinside := h.readAlike_inner hf e.toList
  rwa [String.ofList_toList, ← Renaming.expression_of_isInner hf he] at hinside

/-! ## Both ways of writing references -/

/-- Texts, and expressions without braces, read alike as they are, with ids written as places
and with places written as ids. Places are not written as ids where one has more digits than
a whole number is read from. -/
theorem Sound.readAlike_renamed (h : r.Sound) (hlength : r.stepIds.length ≤ 10 ^ digitLimit)
    (hscope : Apart scope r) (before : Int) :
    (∀ s : String,
      ReadAlike (r.interpolate scope s)
        (r.interpolate scope (Renaming.text (Renaming.toPlace r.stepIds before) s)) ∧
      ReadAlike (r.interpolate scope s)
        (r.interpolate scope (Renaming.text (Renaming.toId r.stepIds before) s)) ∧
      (Renaming.textProblem? s = none ↔ ∀ reference ∈ Renaming.references s, ∀ digits,
        Reference.placeDigits? reference = some digits → digits.length ≤ digitLimit)) ∧
    (∀ e : String, (∀ c ∈ e.toList, Template.isInner c = true) →
      ReadAlike (r.resolve scope e)
        (r.resolve scope (Renaming.expression (Renaming.toPlace r.stepIds before) e)) ∧
      ReadAlike (r.resolve scope e)
        (r.resolve scope (Renaming.expression (Renaming.toId r.stepIds before) e)) ∧
      (Renaming.expressionProblem? e = none ↔
        ∀ reference ∈ Renaming.references (Renaming.wrapped e), ∀ digits,
          Reference.placeDigits? reference = some digits → digits.length ≤ digitLimit)) := by
  have hplace := h.keepsLookup_toPlace hlength hscope before
  have hid := h.keepsLookup_toId hscope before
  have hplaces := Renaming.intoWords_toPlace r.stepIds before
  have hids := Renaming.intoWords_toId h.generated before
  refine ⟨fun s => ⟨?_, ?_, ?_⟩, fun e he => ⟨?_, ?_, ?_⟩⟩
  · exact hplace.readAlike_text hplaces s
  · exact hid.readAlike_text hids s
  · exact Renaming.textProblem?_eq_none_iff_length
  · exact hplace.readAlike_expression hplaces he
  · exact hid.readAlike_expression hids he
  · rw [Renaming.expressionProblem?_eq]
    exact Renaming.textProblem?_eq_none_iff_length

/-- The results of two steps, of which the first has received a user. -/
def withUserStored : Resolver where
  results := [(Reference.countedId 0, .object [("gid", .text "u1")])]
  stepIds := [Reference.countedId 0, Reference.countedId 1]

theorem sound_withUserStored : withUserStored.Sound where
  nodup := by decide
  generated := by
    intro id hid
    rcases List.mem_pair.mp hid with rfl | rfl <;> exact Reference.isGenerated_countedId _
  owned := by
    intro id hid
    obtain rfl : Reference.countedId 0 = id := by
      simpa [withUserStored, Fields.has, Fields.get?] using hid
    exact List.mem_cons_self

theorem length_withUserStored : withUserStored.stepIds.length ≤ 10 ^ digitLimit :=
  Nat.le_trans (by decide : 2 ≤ 10 ^ 1) (Nat.pow_le_pow_right (by decide) (by decide))

/-- The place has a leading zero, and blanks stand around the reference; the expression names
the step by its id. -/
theorem readAlike_renamed_leadingZero :
    withUserStored.Sound ∧ withUserStored.stepIds.length ≤ 10 ^ digitLimit ∧
    Apart [("item", .int 3)] withUserStored ∧
    Renaming.text (Renaming.toId withUserStored.stepIds 1) "\x7b\x7b step00.gid \x7d\x7d/a" =
      "\x7b\x7b seq_0_000000000.gid \x7d\x7d/a" ∧
    ReadAlike (.ok (.text "u1/a")) (withUserStored.interpolate [("item", .int 3)]
      "\x7b\x7b seq_0_000000000.gid \x7d\x7d/a") ∧
    Renaming.expression (Renaming.toPlace withUserStored.stepIds 1) "seq_0_000000000.gid" =
      "step0.gid" ∧
    ReadAlike (.ok (.text "u1")) (withUserStored.resolve [("item", .int 3)] "step0.gid") := by
  have hscope : Apart [("item", .int 3)] withUserStored := by
    intro name hname
    obtain rfl : "item" = name := by simpa [Fields.get?] using hname
    decide
  obtain ⟨htexts, hexpressions⟩ :=
    sound_withUserStored.readAlike_renamed length_withUserStored hscope 1
  have htext : Renaming.text (Renaming.toId withUserStored.stepIds 1)
      "\x7b\x7b step00.gid \x7d\x7d/a" = "\x7b\x7b seq_0_000000000.gid \x7d\x7d/a" := by
    decide +kernel
  have hexpression : Renaming.expression (Renaming.toPlace withUserStored.stepIds 1)
      "seq_0_000000000.gid" = "step0.gid" := by decide +kernel
  have hvalue : withUserStored.interpolate [("item", .int 3)] "\x7b\x7b step00.gid \x7d\x7d/a" =
      .ok (.text "u1/a") := by decide +kernel
  have hvalue' : withUserStored.resolve [("item", .int 3)] "seq_0_000000000.gid" =
      .ok (.text "u1") := by decide +kernel
  have hread := (htexts "\x7b\x7b step00.gid \x7d\x7d/a").2.1
  have hread' := (hexpressions "seq_0_000000000.gid" (List.all_eq_true.mp (by decide))).1
  rw [htext, hvalue] at hread
  rw [hexpression, hvalue'] at hread'
  exact ⟨sound_withUserStored, length_withUserStored, hscope, htext, hread, hexpression, hread'⟩

end Resolver

end CallChain
