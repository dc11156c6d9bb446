/-
# What renaming does to a text

A renaming changes the references in the holes of a text, and a text is the same
outside its holes afterwards. When new references are words again, the holes of the
new text hold the new references; so renaming twice is renaming once, and what a
renaming does depends on the references of the text only.

An expression is renamed as if it stood in a hole. The braces that are put around it
for that are found again afterwards, whatever the expression is.
-/

import CallChain.Proofs.Reference.Holes
import CallChain.Proofs.Reference.Naming

namespace CallChain

/-! ## Characters of references -/

namespace HoleParts

/-- A reference starts with a letter of the Latin alphabet or a low line. -/
theorem startsReference_cases {c : Char} (h : startsReference c = true) :
    (65 ≤ c.toNat ∧ c.toNat ≤ 90) ∨ (97 ≤ c.toNat ∧ c.toNat ≤ 122) ∨ c = '_' := by
  have hletter : (decide (65 ≤ c.val ∧ c.val ≤ 90) || c.isLower || decide (c = '_')) = true := h
  rw [Bool.or_eq_true, Bool.or_eq_true, decide_eq_true_eq, decide_eq_true_eq, or_assoc] at hletter
  exact hletter.imp id (Or.imp_left Reference.toNat_of_isLower)

theorem isBlank_of_startsReference {c : Char} (h : startsReference c = true) :
    Text.isBlank c = false := by
  rcases startsReference_cases h with hc | hc | rfl
  · simp [Text.isBlank, Text.inRanges, Text.blankRanges]
    omega
  · simp [Text.isBlank, Text.inRanges, Text.blankRanges]
    omega
  · decide

theorem continuesReference_of_isBlank {c : Char} (h : Text.isBlank c = true) :
    continuesReference c = false := by
  have hblank : ∀ range ∈ Text.blankRanges, ∀ point ∈ List.range' range.1 (range.2 + 1 - range.1),
      Text.inRanges Text.wordRanges point = false := by decide +kernel
  obtain ⟨range, hrange, hpoint⟩ := List.any_eq_true.mp h
  simp only [Bool.and_eq_true, decide_eq_true_eq] at hpoint
  have hword : Text.isWordChar c = false :=
    hblank range hrange c.toNat (List.mem_range'_1.mpr (by omega))
  have hhyphen : c ≠ '-' := by
    rintro rfl
    exact absurd h (by decide)
  simp [continuesReference, hword, hhyphen]

theorem isInner_of_continuesReference {c : Char} (h : continuesReference c = true) :
    Template.isInner c = true := by
  have hopen : c ≠ '\x7b' := by
    rintro rfl
    exact absurd h (by decide +kernel)
  have hclose : c ≠ '\x7d' := by
    rintro rfl
    exact absurd h (by decide +kernel)
  simp [Template.isInner, hopen, hclose]

theorem continuesReference_of_startsReference {c : Char} (h : startsReference c = true) :
    continuesReference c = true := by
  rcases startsReference_cases h with hc | hc | rfl
  · have hmem : (65, 90) ∈ Text.wordRanges := .tail _ (.head _)
    exact Reference.continuesReference_of_mem hmem hc.1 hc.2
  · have hmem : (97, 122) ∈ Text.wordRanges := .tail _ (.tail _ (.tail _ (.head _)))
    exact Reference.continuesReference_of_mem hmem hc.1 hc.2
  · have hmem : (95, 95) ∈ Text.wordRanges := .tail _ (.tail _ (.head _))
    exact Reference.continuesReference_of_mem hmem (by decide) (by decide)

end HoleParts

theorem Reference.IsWord.continues {word : List Char} (h : IsWord word) :
    ∀ c ∈ word, HoleParts.continuesReference c = true := by
  obtain ⟨c, rest, rfl, hc, hrest⟩ := h
  intro d hd
  rcases List.mem_cons.mp hd with rfl | hd
  · exact HoleParts.continuesReference_of_startsReference hc
  · exact hrest d hd

namespace HoleParts

/-! ## The parts of a hole -/

/-- Whether parts are those of a hole that starts with a reference. -/
structure WellFormed (p : HoleParts) : Prop where
  /-- Only blanks stand before the reference. -/
  before : ∀ c ∈ p.before, Text.isBlank c = true
  /-- The reference is a word. -/
  reference : Reference.IsWord p.reference
  /-- A path follows it, or only blanks. -/
  after : (∀ c ∈ p.after, Text.isBlank c = true) ∨ p.after.head? = some '.' ∨
    p.after.head? = some '['

theorem WellFormed.head_after {p : HoleParts} (h : p.WellFormed) {c : Char}
    (hc : p.after.head? = some c) : continuesReference c = false := by
  rcases h.after with hblank | hdot | hbracket
  · exact continuesReference_of_isBlank (hblank c (List.mem_of_mem_head? hc))
  · rw [hdot, Option.some.injEq] at hc
    subst hc
    decide +kernel
  · rw [hbracket, Option.some.injEq] at hc
    subst hc
    decide +kernel

/-- The parts of a hole are known from what stands in it, and the other way round. -/
theorem ofInner?_eq_some_iff {inner : List Char} {p : HoleParts} :
    ofInner? inner = some p ↔ p.WellFormed ∧ inner = p.before ++ (p.reference ++ p.after) := by
  constructor
  · intro h
    unfold ofInner? at h
    dsimp only at h
    split at h
    · cases h
    · next c rest hdrop =>
      split at h
      · next hparts =>
        cases h
        simp only [Bool.and_eq_true, Bool.or_eq_true, beq_iff_eq, List.all_eq_true] at hparts
        refine ⟨⟨fun d hd => List.all_eq_true.mp List.all_takeWhile d hd, ?_, ?_⟩, ?_⟩
        · exact ⟨c, _, rfl, hparts.1, fun d hd => List.all_eq_true.mp List.all_takeWhile d hd⟩
        · exact or_assoc.mp hparts.2
        · rw [List.cons_append, List.takeWhile_append_dropWhile, ← hdrop,
            List.takeWhile_append_dropWhile]
      · cases h
  · rintro ⟨h, rfl⟩
    obtain ⟨before, reference, after⟩ := p
    obtain ⟨c, rest, rfl, hc, hrest⟩ := h.reference
    have hbare : Text.isBlank c = false := isBlank_of_startsReference hc
    have htake : (before ++ (c :: rest ++ after)).takeWhile Text.isBlank = before := by
      rw [List.takeWhile_append_of_pos h.before, List.cons_append,
        List.takeWhile_cons_of_neg (by simp [hbare]), List.append_nil]
    have hdrop : (before ++ (c :: rest ++ after)).dropWhile Text.isBlank =
        c :: (rest ++ after) := by
      rw [List.dropWhile_append_of_pos h.before, List.cons_append,
        List.dropWhile_cons_of_neg (by simp [hbare])]
    have hword : (rest ++ after).takeWhile continuesReference = rest := by
      rw [List.takeWhile_append_of_pos hrest]
      cases after with
      | nil => simp
      | cons d after =>
          rw [List.takeWhile_cons_of_neg (by simp [h.head_after rfl]), List.append_nil]
    have hafter : (rest ++ after).dropWhile continuesReference = after := by
      rw [List.dropWhile_append_of_pos hrest]
      cases after with
      | nil => rfl
      | cons d after => rw [List.dropWhile_cons_of_neg (by simp [h.head_after rfl])]
    have hfollows : (after.all Text.isBlank || after.head? == some '.'
        || after.head? == some '[') = true := by
      simp only [Bool.or_eq_true, beq_iff_eq, List.all_eq_true]
      exact or_assoc.mpr h.after
    unfold ofInner?
    simp only [htake, hdrop, hword, hafter, hc, hfollows]
    rfl

end HoleParts

/-! ## Renaming in a hole -/

namespace Renaming

/-- Whether every reference that a renaming brings in is a word. -/
def IntoWords (f : Renaming) : Prop :=
  ∀ reference image, f reference = some image → Reference.IsWord image.toList

/-- One renaming after another. -/
def andThen (f g : Renaming) : Renaming := fun reference =>
  match f reference with
  | some image => some ((g image).getD image)
  | none => g reference

/-- What stands in a hole after its reference has been renamed. -/
def inner (f : Renaming) (text : List Char) : List Char :=
  match HoleParts.ofInner? text with
  | none => text
  | some parts => match f (String.ofList parts.reference) with
    | none => text
    | some image => parts.withReference image

/-- The references in the holes of a text that can be renamed. -/
def references (s : String) : List String :=
  (Template.holes s.toList).filterMap fun text =>
    (HoleParts.ofInner? text).map fun parts => String.ofList parts.reference

variable {f g : Renaming}

theorem inner_of_none {text : List Char} (h : HoleParts.ofInner? text = none) :
    inner f text = text := by
  rw [inner, h]

theorem inner_of_some {text : List Char} {p : HoleParts} (h : HoleParts.ofInner? text = some p) :
    inner f text = p.withReference ((f (String.ofList p.reference)).getD
      (String.ofList p.reference)) := by
  rw [inner, h]
  dsimp only
  cases f (String.ofList p.reference) with
  | none =>
      rw [(HoleParts.ofInner?_eq_some_iff.mp h).2]
      simp [HoleParts.withReference]
  | some image => rfl

theorem isWord_getD (hf : f.IntoWords) {p : HoleParts} (h : p.WellFormed) :
    Reference.IsWord ((f (String.ofList p.reference)).getD (String.ofList p.reference)).toList := by
  cases himage : f (String.ofList p.reference) with
  | none => simpa using h.reference
  | some image => exact hf _ _ himage

/-- The parts of a hole after its reference has been renamed. -/
theorem ofInner?_inner (hf : f.IntoWords) (text : List Char) :
    HoleParts.ofInner? (inner f text) = (HoleParts.ofInner? text).map fun p =>
      { p with reference := ((f (String.ofList p.reference)).getD
        (String.ofList p.reference)).toList } := by
  cases h : HoleParts.ofInner? text with
  | none => rw [inner_of_none h, h, Option.map_none]
  | some p =>
      obtain ⟨hp, -⟩ := HoleParts.ofInner?_eq_some_iff.mp h
      rw [inner_of_some h, Option.map_some, HoleParts.ofInner?_eq_some_iff]
      exact ⟨⟨hp.before, isWord_getD hf hp, hp.after⟩, by simp [HoleParts.withReference]⟩

theorem inner_inner (hf : f.IntoWords) (text : List Char) :
    inner g (inner f text) = inner (f.andThen g) text := by
  cases h : HoleParts.ofInner? text with
  | none => rw [inner_of_none h, inner_of_none h, inner_of_none h]
  | some p =>
      have himage := ofInner?_inner hf text
      rw [h, Option.map_some] at himage
      rw [inner_of_some himage, inner_of_some h]
      cases hp : f (String.ofList p.reference) with
      | none => simp [andThen, hp, HoleParts.withReference]
      | some image => simp [andThen, hp, HoleParts.withReference]

theorem keepsContent_inner (hf : f.IntoWords) : Template.KeepsContent (inner f) := by
  intro text htext
  cases h : HoleParts.ofInner? text with
  | none => rwa [inner_of_none h]
  | some p =>
      obtain ⟨hp, heq⟩ := HoleParts.ofInner?_eq_some_iff.mp h
      obtain ⟨c, rest, hword, hc, hrest⟩ := isWord_getD hf hp
      rw [inner_of_some h, HoleParts.withReference, hword]
      refine ⟨by simp, fun d hd => ?_⟩
      rw [heq] at htext
      simp only [List.mem_append, List.mem_cons] at hd
      rcases hd with (hd | rfl | hd) | hd
      · exact htext.2 d (List.mem_append_left _ hd)
      · exact HoleParts.isInner_of_continuesReference
          (HoleParts.continuesReference_of_startsReference hc)
      · exact HoleParts.isInner_of_continuesReference (hrest d hd)
      · exact htext.2 d (List.mem_append_right _ (List.mem_append_right _ hd))

/-! ## Renaming in a text -/

theorem renamePiece_eq (f : Renaming) : renamePiece f = Piece.mapInner (inner f) := by
  funext piece
  cases piece with
  | literal text => rfl
  | hole text =>
      cases hp : HoleParts.ofInner? text with
      | none => simp only [renamePiece, Piece.mapInner, inner, hp]
      | some p =>
          cases himage : f (String.ofList p.reference) with
          | none => simp only [renamePiece, Piece.mapInner, inner, hp, himage]
          | some image => simp only [renamePiece, Piece.mapInner, inner, hp, himage]

/-- Renaming changes the holes of a text and nothing else. -/
theorem text_eq (f : Renaming) (s : String) :
    text f s = String.ofList (Template.mapHoles (inner f) s.toList) := by
  rw [text, renamePiece_eq, Template.mapHoles]

theorem toList_text (f : Renaming) (s : String) :
    (text f s).toList = Template.mapHoles (inner f) s.toList := by
  rw [text_eq, String.toList_ofList]

/-- Renaming twice is renaming once. -/
theorem text_text (hf : f.IntoWords) (s : String) : text g (text f s) = text (f.andThen g) s := by
  rw [text_eq g, toList_text, Template.mapHoles_mapHoles (keepsContent_inner hf), text_eq]
  apply congrArg (fun change => String.ofList (Template.mapHoles change s.toList))
  funext inside
  exact inner_inner hf inside

theorem mem_references {s : String} {inside : List Char} {p : HoleParts}
    (hmem : inside ∈ Template.holes s.toList) (hp : HoleParts.ofInner? inside = some p) :
    String.ofList p.reference ∈ references s :=
  List.mem_filterMap.mpr ⟨inside, hmem, by rw [hp]; rfl⟩

/-- What renaming does to a text depends on the references of the text only. -/
theorem text_congr {s : String}
    (h : ∀ r ∈ references s, (f r).getD r = (g r).getD r) : text f s = text g s := by
  rw [text_eq, text_eq]
  apply congrArg
  apply Template.mapHoles_congr
  intro inside hinside
  cases hp : HoleParts.ofInner? inside with
  | none => rw [inner_of_none hp, inner_of_none hp]
  | some p => rw [inner_of_some hp, inner_of_some hp, h _ (mem_references hinside hp)]

theorem references_text (hf : f.IntoWords) (s : String) :
    references (text f s) = (references s).map fun r => (f r).getD r := by
  rw [references, toList_text, Template.holes_mapHoles (keepsContent_inner hf), references,
    List.filterMap_map, List.map_filterMap]
  apply congrArg (fun read => List.filterMap read (Template.holes s.toList))
  funext inside
  simp only [Function.comp, ofInner?_inner hf, Option.map_map]
  congr 1
  funext p
  simp

/-! ## Renaming nothing -/

/-- The renaming under which every reference stays. -/
def stay : Renaming := fun _ => none

theorem intoWords_stay : stay.IntoWords := nofun

theorem inner_stay (text : List Char) : inner stay text = text := by
  cases hp : HoleParts.ofInner? text with
  | none => exact inner_of_none hp
  | some p =>
      rw [inner, hp]
      rfl

theorem text_stay (s : String) : text stay s = s := by
  rw [text_eq, Template.mapHoles_eq_self fun inside _ => inner_stay inside, String.ofList_toList]

theorem map_inner_stay (ps : List Piece) : ps.map (Piece.mapInner (inner stay)) = ps := by
  apply List.map_id''
  intro piece
  cases piece with
  | literal text => rfl
  | hole inside => rw [Piece.mapInner, inner_stay]

/-! ## Renaming in an expression -/

/-- The text of an expression as it stands in a hole. -/
def wrapped (s : String) : String := if startsOpen s then s else "\x7b\x7b" ++ s ++ "\x7d\x7d"

theorem startsOpen_iff {s : String} : startsOpen s = true ↔ ['\x7b', '\x7b'] <+: s.toList :=
  List.isPrefixOf_iff_prefix

theorem startsOpen_text (hf : f.IntoWords) (s : String) : startsOpen (text f s) = startsOpen s := by
  have hopen : ∀ chars : List Char, ['\x7b', '\x7b'] <+: chars ↔
      2 ≤ (chars.takeWhile (· = '\x7b')).length := by
    intro chars
    match chars with
    | [] => simp
    | [c] => by_cases hc : c = '\x7b' <;> simp [hc]
    | c :: d :: rest =>
        by_cases hc : c = '\x7b'
        · by_cases hd : d = '\x7b' <;> simp [hc, hd, eq_comm]
        · simp [hc, Ne.symm hc]
  rw [Bool.eq_iff_iff, startsOpen_iff, startsOpen_iff, toList_text, hopen, hopen,
    Template.takeWhile_open_mapHoles (keepsContent_inner hf)]

theorem wrapped_of_open {s : String} (h : startsOpen s = true) : wrapped s = s := by
  rw [wrapped, if_pos h]

theorem wrapped_of_not {s : String} (h : startsOpen s = false) :
    wrapped s = "\x7b\x7b" ++ s ++ "\x7d\x7d" := by
  rw [wrapped, if_neg (Bool.not_eq_true _ ▸ h)]

theorem expression_of_open {s : String} (h : startsOpen s = true) :
    expression f s = text f s := by
  rw [expression, if_pos h]

theorem expression_of_not {s : String} (h : startsOpen s = false) :
    expression f s = withoutBraces (text f (wrapped s)) := by
  rw [expression, if_neg (Bool.not_eq_true _ ▸ h), wrapped_of_not h]

theorem toList_wrapped_of_not {s : String} (h : startsOpen s = false) :
    (wrapped s).toList = '\x7b' :: '\x7b' :: (s.toList ++ ['\x7d', '\x7d']) := by
  simp [wrapped_of_not h]

/-- Doubled braces that were put around characters are found again. -/
theorem withoutBraces_of_braced {s : String} {chars : List Char}
    (hlist : s.toList = '\x7b' :: '\x7b' :: (chars ++ ['\x7d', '\x7d'])) :
    withoutBraces s = String.ofList chars := by
  have hopen : startsOpen s = true := by
    rw [startsOpen_iff, hlist]
    exact ⟨chars ++ ['\x7d', '\x7d'], rfl⟩
  have hclose : ['\x7d', '\x7d'].isSuffixOf s.toList = true := by
    rw [List.isSuffixOf_iff_suffix, hlist]
    exact ⟨'\x7b' :: '\x7b' :: chars, by simp⟩
  have hlength : s.length - 4 = chars.length := by
    rw [← String.length_toList, hlist]
    simp
  rw [withoutBraces, hopen, hclose, hlength, hlist]
  simp

theorem withoutBraces_wrapped {s : String} (h : startsOpen s = false) :
    withoutBraces (wrapped s) = s := by
  rw [withoutBraces_of_braced (toList_wrapped_of_not h), String.ofList_toList]

/-- In a hole, the renamed expression is the hole renamed; and it starts with doubled
braces of its own if it did before. -/
theorem text_wrapped (hf : f.IntoWords) (s : String) :
    text f (wrapped s) = wrapped (expression f s) ∧
      startsOpen (expression f s) = startsOpen s := by
  cases hopen : startsOpen s with
  | true =>
      have himage : startsOpen (text f s) = true := by rw [startsOpen_text hf, hopen]
      rw [expression_of_open hopen, wrapped_of_open hopen, wrapped_of_open himage]
      exact ⟨rfl, himage⟩
  | false =>
      obtain ⟨image, himage, hiff⟩ :=
        Template.mapHoles_braced (keepsContent_inner hf) s.toList
      have hbare : startsOpen (String.ofList image) = false := by
        rw [Bool.eq_false_iff, ne_eq, startsOpen_iff, String.toList_ofList, hiff, ← startsOpen_iff,
          hopen]
        exact Bool.false_ne_true
      have htext : text f (wrapped s) = wrapped (String.ofList image) := by
        apply String.toList_injective
        rw [toList_text, toList_wrapped_of_not hopen, himage, toList_wrapped_of_not hbare,
          String.toList_ofList]
      rw [expression_of_not hopen, htext, withoutBraces_wrapped hbare]
      exact ⟨rfl, hbare⟩

/-- Renaming an expression twice is renaming it once. -/
theorem expression_expression (hf : f.IntoWords) (s : String) :
    expression g (expression f s) = expression (f.andThen g) s := by
  obtain ⟨htext, hopen⟩ := text_wrapped hf s
  cases hs : startsOpen s with
  | true =>
      rw [expression_of_open (hopen.trans hs), expression_of_open hs, expression_of_open hs,
        text_text hf]
  | false =>
      rw [expression_of_not (hopen.trans hs), expression_of_not (f := f.andThen g) hs, ← htext,
        text_text hf]

/-- What renaming does to an expression depends on the references of its hole only. -/
theorem expression_congr {s : String}
    (h : ∀ r ∈ references (wrapped s), (f r).getD r = (g r).getD r) :
    expression f s = expression g s := by
  cases hs : startsOpen s with
  | true =>
      rw [wrapped_of_open hs] at h
      rw [expression_of_open hs, expression_of_open hs, text_congr h]
  | false => rw [expression_of_not hs, expression_of_not hs, text_congr h]

theorem references_expression (hf : f.IntoWords) (s : String) :
    references (wrapped (expression f s)) =
      (references (wrapped s)).map fun r => (f r).getD r := by
  rw [← (text_wrapped hf s).1, references_text hf]

/-! ## Places that cannot be read -/

/-- A text can be read when every reference in it can. -/
theorem textProblem?_eq_none_iff {s : String} :
    textProblem? s = none ↔
      ∀ r ∈ references s, ∃ place, Reference.place r = .ok place := by
  rw [textProblem?, List.findSome?_eq_none_iff]
  constructor
  · intro h r hr
    obtain ⟨inside, hinside, hr⟩ := List.mem_filterMap.mp hr
    obtain ⟨piece, hpiece, hinner⟩ := List.mem_filterMap.mp hinside
    obtain ⟨p, hp, rfl⟩ := Option.map_eq_some_iff.mp hr
    have hnone := h piece hpiece
    cases piece with
    | literal text => cases hinner
    | hole text =>
        cases hinner
        rw [pieceProblem?, hp, Option.bind_some] at hnone
        cases hplace : Reference.place (String.ofList p.reference) with
        | ok place => exact ⟨place, rfl⟩
        | error problem =>
            rw [hplace] at hnone
            cases hnone
  · intro h piece hpiece
    cases piece with
    | literal text => rfl
    | hole text =>
        have hinside : text ∈ Template.holes s.toList := List.mem_filterMap.mpr ⟨_, hpiece, rfl⟩
        rw [pieceProblem?]
        cases hp : HoleParts.ofInner? text with
        | none => rfl
        | some p =>
            obtain ⟨place, hplace⟩ := h _ (mem_references hinside hp)
            rw [Option.bind_some, hplace]

theorem expressionProblem?_eq (s : String) : expressionProblem? s = textProblem? (wrapped s) := by
  cases hs : startsOpen s with
  | true => rw [expressionProblem?, if_pos hs, wrapped_of_open hs]
  | false => rw [expressionProblem?, if_neg (Bool.not_eq_true _ ▸ hs), wrapped_of_not hs]

end Renaming

end CallChain
