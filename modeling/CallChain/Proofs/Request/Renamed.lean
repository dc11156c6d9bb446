/-
# Filling in a renamed template

What is filled into a template depends on the values of its holes only. If every hole has
the same value before renaming as after it, for one resolver and for another, the template
makes the same text and the same body, or fails in the same way: as a text with holes, as
one that is a single hole, as JSON, and as a text that becomes JSON once it is filled in.
-/

import CallChain.Proofs.Json.Renamed
import CallChain.Proofs.Reference.Reading
import CallChain.Request.Basic

namespace CallChain

/-! ## Holes and renaming -/

namespace Template

theorem hasHole_eq_false_iff {s : String} : hasHole s = false ↔ holes s.toList = [] := by
  rw [hasHole, List.any_eq_false, holes, List.filterMap_eq_nil_iff]
  refine forall₂_congr fun piece _ => ?_
  cases piece <;> simp [Piece.isHole, Piece.inner?]

variable {f : Renaming}

@[simp]
theorem hasHole_text (hf : f.IntoWords) (s : String) :
    hasHole (Renaming.text f s) = hasHole s := by
  rw [hasHole, hasHole, Renaming.toList_text, pieces_mapHoles (Renaming.keepsContent_inner hf),
    List.any_map]
  congr 1
  funext piece
  cases piece <;> rfl

theorem text_of_not_hasHole {s : String} (h : hasHole s = false) : Renaming.text f s = s := by
  rw [Renaming.text_eq, mapHoles_eq_self, String.ofList_toList]
  rw [hasHole_eq_false_iff.mp h]
  exact nofun

end Template

namespace Resolver

variable {r r' : Resolver} {scope : Fields Value} {f : Renaming}

/-- Whether every hole of a text has the same value before and after renaming. -/
def HolesAgree (r r' : Resolver) (scope : Fields Value) (f : Renaming) (text : List Char) : Prop :=
  ∀ inside ∈ Template.holes text, r'.resolve scope (String.ofList (Renaming.inner f inside)) =
    r.resolve scope (String.ofList inside)

theorem HolesAgree.of_subset {text part : List Char} (h : HolesAgree r r' scope f text)
    (hpart : Template.holes part ⊆ Template.holes text) : HolesAgree r r' scope f part :=
  fun inside hinside => h inside (hpart hinside)

/-- Blanks around an expression do not count. -/
theorem resolve_trimChars (r : Resolver) (scope : Fields Value) (text : List Char) :
    r.resolve scope (String.ofList (Text.trimChars text)) =
      r.resolve scope (String.ofList text) := by
  rw [resolve, Expression.split_trimChars]
  rfl

/-! ## Texts with holes -/

theorem renderPieces_map (ps : List Piece)
    (h : ∀ inside, Piece.hole inside ∈ ps →
      r'.resolve scope (String.ofList (Renaming.inner f inside)) =
        r.resolve scope (String.ofList inside)) :
    r'.renderPieces scope (ps.map (Piece.mapInner (Renaming.inner f))) =
      r.renderPieces scope ps := by
  induction ps with
  | nil => rfl
  | cons piece ps ih =>
      have hpiece : r'.renderPiece scope (piece.mapInner (Renaming.inner f)) =
          r.renderPiece scope piece := by
        cases piece with
        | literal text => rfl
        | hole inside =>
            simp only [Piece.mapInner, renderPiece]
            rw [h inside List.mem_cons_self]
      rw [List.map_cons, renderPieces, renderPieces, hpiece,
        ih fun inside hinside => h inside (List.mem_cons_of_mem piece hinside)]

/-- A text has the same value before and after renaming when its holes have. -/
theorem interpolate_text (hf : f.IntoWords) {s : String}
    (h : HolesAgree r r' scope f s.toList) :
    r'.interpolate scope (Renaming.text f s) = r.interpolate scope s := by
  have hkeeps := Renaming.keepsContent_inner hf
  have hpieces : r'.renderPieces scope (Template.pieces (Renaming.text f s).toList) =
      r.renderPieces scope (Template.pieces s.toList) := by
    rw [Renaming.toList_text, Template.pieces_mapHoles hkeeps]
    exact renderPieces_map _ fun inside hinside =>
      h inside (List.mem_filterMap.mpr ⟨_, hinside, rfl⟩)
  have htrimmed : ∀ inside, Piece.hole inside ∈ Template.pieces (Text.trimChars s.toList) →
      inside ∈ Template.holes s.toList := by
    intro inside hinside
    obtain ⟨before, after, -, -, htext⟩ := Text.exists_trimChars s.toList
    apply Json.holes_subset_of_part ⟨before, after, by rw [List.append_assoc, ← htext]⟩
    exact List.mem_filterMap.mpr ⟨_, hinside, rfl⟩
  unfold interpolate Template.whole?
  rw [hpieces, Renaming.toList_text, Template.trimChars_mapHoles, Template.pieces_mapHoles hkeeps]
  generalize Template.pieces (Text.trimChars s.toList) = ps at htrimmed
  match ps with
  | [] => rfl
  | [.literal text] => rfl
  | [.hole inside] =>
      simp only [List.map_cons, List.map_nil, Piece.mapInner, Piece.expression?]
      rw [resolve_trimChars, resolve_trimChars, h inside (htrimmed inside List.mem_cons_self)]
  | first :: second :: others => rfl

end Resolver

/-! ## Bodies -/

namespace Body

open Resolver (HolesAgree)

variable {r r' : Resolver} {scope : Fields Value} {f : Renaming}

mutual
theorem fill_mapTexts (hf : f.IntoWords) : ∀ v : Value,
    (∀ s ∈ v.texts, HolesAgree r r' scope f s.toList) →
      fill r' scope (v.mapTexts (Renaming.text f)) = fill r scope v
  | .null, _ | .bool _, _ | .int _, _ | .float _, _ => rfl
  | .text s, h => by
      have hs := h s (by simp [Value.texts])
      rw [Value.mapTexts, fill, fill, Template.hasHole_text hf, Resolver.interpolate_text hf hs]
      split
      · rfl
      · next hnone => rw [Template.text_of_not_hasHole (Bool.not_eq_true _ ▸ hnone)]
  | .list items, h => by
      rw [Value.mapTexts, fill, fill, fillItems_mapTexts hf items h]
  | .object fields, h => by
      rw [Value.mapTexts, fill, fill, fillFields_mapTexts hf fields h]

theorem fillItems_mapTexts (hf : f.IntoWords) : ∀ items : List Value,
    (∀ s ∈ Value.itemTexts items, HolesAgree r r' scope f s.toList) →
      fillItems r' scope (Value.mapItemTexts (Renaming.text f) items) = fillItems r scope items
  | [], _ => rfl
  | item :: items, h => by
      rw [Value.itemTexts] at h
      rw [Value.mapItemTexts, fillItems, fillItems,
        fill_mapTexts hf item fun s hs => h s (List.mem_append_left _ hs),
        fillItems_mapTexts hf items fun s hs => h s (List.mem_append_right _ hs)]

theorem fillFields_mapTexts (hf : f.IntoWords) : ∀ fields : List (String × Value),
    (∀ s ∈ Value.fieldTexts fields, HolesAgree r r' scope f s.toList) →
      fillFields r' scope (Value.mapFieldTexts (Renaming.text f) fields) =
        fillFields r scope fields
  | [], _ => rfl
  | (name, item) :: fields, h => by
      rw [Value.fieldTexts] at h
      rw [Value.mapFieldTexts, fillFields, fillFields,
        fill_mapTexts hf item fun s hs => h s (List.mem_append_left _ hs),
        fillFields_mapTexts hf fields fun s hs => h s (List.mem_append_right _ hs)]
end

theorem fillPieces_map (ps : List Piece)
    (h : ∀ inside, Piece.hole inside ∈ ps →
      r'.resolve scope (String.ofList (Renaming.inner f inside)) =
        r.resolve scope (String.ofList inside)) (p : Place) :
    fillPieces r' scope p (ps.map (Piece.mapInner (Renaming.inner f))) =
      fillPieces r scope p ps := by
  induction ps generalizing p with
  | nil => rfl
  | cons piece ps ih =>
      have hothers := ih fun inside hinside => h inside (List.mem_cons_of_mem piece hinside)
      cases piece with
      | literal text =>
          simp only [List.map_cons, Piece.mapInner, fillPieces]
          rw [hothers]
      | hole inside =>
          simp only [List.map_cons, Piece.mapInner, fillPieces]
          rw [h inside List.mem_cons_self, hothers]

/-- Whether a template that is JSON reads as it is written: no name of a field in it holds a
hole, and renaming leaves alone what may run past the end of a literal. -/
structure ReadsAsWritten (f : Renaming) (s : String) : Prop where
  /-- Names are not filled in. -/
  names : ∀ v, Json.read s = .ok v → ∀ name ∈ v.names, Template.hasHole name = false
  /-- Holes with a quote stay as they are. -/
  quoted : ∀ v, Json.read s = .ok v → Json.KeepsQuoted f s.toList

/-- A template makes the same body before and after renaming when its holes have the same
values. -/
theorem ofTemplate_text (hf : f.IntoWords) {s : String} (hback : '\\' ∉ s.toList)
    (hwritten : ReadsAsWritten f s) (h : HolesAgree r r' scope f s.toList) :
    ofTemplate r' scope (Renaming.text f s) = ofTemplate r scope s := by
  unfold ofTemplate
  rw [Template.hasHole_text hf]
  by_cases hhole : Template.hasHole s = true
  · rw [if_pos hhole, if_pos hhole]
    have halike := Json.readAlike_text ⟨hf, hback⟩
    generalize hold : Json.read s = old at halike
    generalize Json.read (Renaming.text f s) = new at halike
    cases halike with
    | @ok v v' hfits =>
        have hnames : ∀ name ∈ v.names, Template.holes name.toList = [] := fun name hname =>
          Template.hasHole_eq_false_iff.mp (hwritten.names v hold name hname)
        obtain ⟨rfl, hholes⟩ := hfits (hwritten.quoted v hold) hnames
        dsimp only
        rw [Value.nesting_mapTexts, fill_mapTexts hf v fun t ht => h.of_subset (hholes t ht)]
    | malformed e e' =>
        dsimp only
        rw [Renaming.toList_text, Template.pieces_mapHoles (Renaming.keepsContent_inner hf),
          fillPieces_map _ fun inside hinside =>
            h inside (List.mem_filterMap.mpr ⟨_, hinside, rfl⟩)]
    | number p => rfl
    | tooDeep => rfl
  · rw [if_neg hhole, if_neg hhole, Template.text_of_not_hasHole (Bool.not_eq_true _ ▸ hhole)]

end Body

end CallChain
