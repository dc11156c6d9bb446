/-
# Inserting values into a body

A body template that is no JSON is filled in as a text. A value outside of literals is inserted
as JSON, and leaves the spot where it stands as it is; a value inside of a literal is inserted
as escaped text. So a template is a text with slots once its placeholders outside of literals
are filled in, and its tokens are the same whatever is inserted into the slots. This needs that
no escape is pending at a placeholder, since one that is goes on with what is inserted.
-/

import CallChain.Proofs.Json.Slots
import CallChain.Proofs.Request.Sent

namespace CallChain

namespace Json

/-! ## What is written leaves the spot as it is -/

theorem foldl_after_digits {digits seen : List Char} (hlength : seen.length + digits.length = 4)
    (hne : digits ≠ []) (hhex : ∀ c ∈ digits, (Text.hexValue? c).isSome = true) :
    digits.foldl Spot.after (.inside (.unit seen)) = .inside (.ofDigits (seen ++ digits)) := by
  induction digits generalizing seen with
  | nil => exact absurd rfl hne
  | cons c digits ih =>
      obtain ⟨hc, hrest⟩ := List.forall_mem_cons.mp hhex
      have hplain : c ≠ '"' ∧ c ≠ '\\' := by
        constructor <;>
        · rintro rfl
          cases hc
      have hafter : Spot.after (.inside (.unit seen)) c = .inside (.ofDigits (seen ++ [c])) := by
        simp [Spot.after, Escape.after, hplain.1, hplain.2, hc]
      rw [List.foldl_cons, hafter]
      cases digits with
      | nil => rfl
      | cons d digits =>
          simp only [List.length_cons] at hlength
          have hshort : (seen ++ [c]).length < 4 := by
            rw [List.length_append, List.length_singleton]
            omega
          rw [Escape.ofDigits, if_pos hshort, ih (by simp; omega) (List.cons_ne_nil _ _) hrest,
            List.append_assoc]
          rfl

theorem foldl_after_unitEscape {unit : Nat} (h : unit < 0x10000) {e : Escape}
    (he : e = .finished ∨ e = .half) : (unitEscape unit).foldl Spot.after (.inside e) =
      .inside (if isHighHalf unit then .half else .finished) := by
  have hdigits := ofHex?_toHex 4 h
  have hlength : (Text.toHex 4 unit).length = 4 := by simp [Text.toHex]
  have hbegun : (unitEscape unit).foldl Spot.after (.inside e) =
      (Text.toHex 4 unit).foldl Spot.after (.inside (.unit [])) := by
    rcases he with rfl | rfl <;> rfl
  rw [hbegun, foldl_after_digits (by rw [hlength]; rfl) (by intro heq; simp [heq] at hlength)
    fun c hc => Option.isSome_iff_ne_none.mpr fun hnone => not_mem_of_ofHex? hdigits hnone hc,
    List.nil_append, Escape.ofDigits,
    if_neg (by omega), hdigits]

/-- What is written for a character of a literal leaves no escape pending. -/
theorem foldl_after_asciiChar (c : Char) :
    (asciiChar c).foldl Spot.after (.inside .finished) = .inside .finished := by
  unfold asciiChar
  split
  · next hescape =>
      unfold shortEscape? at hescape
      split_ifs at hescape
      all_goals
        cases hescape
        rfl
  · next hnone =>
      have hc := toNat_lt c
      unfold shortEscape? at hnone
      split_ifs at hnone with hquote hback
      split
      · simp [Spot.after, Escape.after, hquote, hback]
      split
      · next hunit =>
          have hhigh : isHighHalf c.toNat = false := by
            simp only [isHighHalf, Bool.and_eq_false_iff, decide_eq_false_iff_not]
            omega
          rw [foldl_after_unitEscape hunit (Or.inl rfl), hhigh]
          rfl
      · have hhigh : isHighHalf (0xd800 + (c.toNat - 0x10000) / 0x400) = true := by
          simp only [isHighHalf, Bool.and_eq_true, decide_eq_true_eq]
          omega
        have hlow : isHighHalf (0xdc00 + (c.toNat - 0x10000) % 0x400) = false := by
          simp only [isHighHalf, Bool.and_eq_false_iff, decide_eq_false_iff_not]
          omega
        rw [List.foldl_append, foldl_after_unitEscape (by omega) (Or.inl rfl), hhigh, if_pos rfl,
          foldl_after_unitEscape (by omega) (Or.inr rfl), hlow]
        rfl

theorem foldl_after_textWith (s : String) :
    (textWith asciiChar s).foldl Spot.after .outside = .outside := by
  have hchars : ∀ text : List Char,
      (text.flatMap asciiChar).foldl Spot.after (.inside .finished) = .inside .finished := by
    intro text
    induction text with
    | nil => rfl
    | cons c text ih => rw [List.flatMap_cons, List.foldl_append, foldl_after_asciiChar, ih]
  rw [textWith, List.cons_append, List.foldl_cons, List.foldl_append]
  change List.foldl Spot.after
    ((s.toList.flatMap asciiChar).foldl Spot.after (.inside .finished)) _ = _
  rw [hchars]
  rfl

/-- A word or a number holds no quote, where it would have ended. -/
theorem quote_not_mem_scalar {v : Value} (htext : ∀ s, v ≠ .text s) :
    '"' ∉ scalar asciiChar v := by
  have hread : IsScalar v → '"' ∉ scalar asciiChar v := by
    intro h hmem
    obtain ⟨front, back, heq⟩ := List.append_of_mem hmem
    have hwhole := readScalar?_scalar asciiChar h (show EndsNumber [] from nofun)
    have hstop := (readsBefore_readScalar? front ('"' :: back) fun c hc =>
      Or.inl (Option.some.inj hc).symm).1
    rw [List.append_nil, heq, hstop] at hwhole
    obtain ⟨found, -, hleft⟩ := Option.map_eq_some_iff.mp hwhole
    simp at hleft
  cases v with
  | null | bool _ | float _ => exact hread trivial
  | text s => exact absurd rfl (htext s)
  | list items => simp [scalar]
  | object fields => simp [scalar]
  | int n =>
      rw [scalar_int]
      have hdigits : '"' ∉ Nat.toDigits 10 n.natAbs := fun hmem =>
        absurd (Text.isDigit_of_mem_toDigits _ hmem) (by decide)
      simp [hdigits]

mutual
/-- The JSON text of a value leaves a spot outside of literals. -/
theorem foldl_after_compactChars (v : Value) :
    (compactChars v).foldl Spot.after .outside = .outside := by
  cases v with
  | list items =>
      rw [compactChars, List.cons_append, List.foldl_cons, List.foldl_append]
      change List.foldl Spot.after ((compactItems items).foldl Spot.after .outside) [']'] = _
      rw [foldl_after_compactItems]
      rfl
  | object fields =>
      rw [compactChars, List.cons_append, List.foldl_cons, List.foldl_append]
      change List.foldl Spot.after ((compactFields fields).foldl Spot.after .outside) ['\x7d'] = _
      rw [foldl_after_compactFields]
      rfl
  | text s => exact foldl_after_textWith s
  | null => exact foldl_after_outside (quote_not_mem_scalar (v := .null) nofun)
  | bool b => exact foldl_after_outside (quote_not_mem_scalar (v := .bool b) nofun)
  | int n => exact foldl_after_outside (quote_not_mem_scalar (v := .int n) nofun)
  | float x => exact foldl_after_outside (quote_not_mem_scalar (v := .float x) nofun)

theorem foldl_after_compactItems (items : List Value) :
    (compactItems items).foldl Spot.after .outside = .outside := by
  match items with
  | [] => rfl
  | [item] => exact foldl_after_compactChars item
  | item :: next :: items =>
      rw [compactItems, List.foldl_append, foldl_after_compactChars]
      exact foldl_after_compactItems (next :: items)
      exact nofun

theorem foldl_after_compactFields (fields : List (String × Value)) :
    (compactFields fields).foldl Spot.after .outside = .outside := by
  match fields with
  | [] => rfl
  | [(name, item)] =>
      rw [compactFields, List.foldl_append, foldl_after_textWith]
      exact foldl_after_compactChars item
  | (name, item) :: next :: fields =>
      rw [compactFields, List.append_assoc, List.foldl_append, foldl_after_textWith]
      change List.foldl Spot.after .outside (compactChars item ++ _) = _
      rw [List.foldl_append, foldl_after_compactChars]
      exact foldl_after_compactFields (next :: fields)
      exact nofun
end

end Json

namespace Body

open Json (Spot Part Token Settled Lexes chars)

/-! ## Templates as texts with slots -/

/-- The holes among pieces of a template, each with the spot where it stands, from a spot on. -/
def holesFrom : Spot → List Piece → List (Spot × List Char)
  | _, [] => []
  | spot, .literal text :: pieces => holesFrom (text.foldl Spot.after spot) pieces
  | spot, .hole inner :: pieces => (spot, inner) :: holesFrom spot pieces

/-- The holes of a template, each with the spot where it stands. -/
def holesAt (template : String) : List (Spot × List Char) :=
  holesFrom .outside (Template.pieces template.toList)

/-- The text of pieces of a template with values at its holes outside of literals, and slots at
those inside. -/
def halfFilledFrom (value : List Char → Value) : Spot → List Piece → List Part
  | _, [] => []
  | spot, .literal text :: pieces =>
    chars text ++ halfFilledFrom value (text.foldl Spot.after spot) pieces
  | .outside, .hole inner :: pieces =>
    chars (Json.compactChars (value inner)) ++ halfFilledFrom value .outside pieces
  | .inside e, .hole inner :: pieces => .slot inner :: halfFilledFrom value (.inside e) pieces

/-- A template with values at its holes outside of literals, and slots at those inside. -/
def halfFilled (value : List Char → Value) (template : String) : List Part :=
  halfFilledFrom value .outside (Template.pieces template.toList)

/-- The place of the scanner at a spot. -/
def placeOf : Spot → Place
  | .outside => ⟨false, false⟩
  | .inside e => ⟨true, e = .begun⟩

theorem after_eq_begun_iff (e : Json.Escape) (c : Char) :
    e.after c = .begun ↔ e ≠ .begun ∧ c = '\\' := by
  have hdigits : ∀ digits, Json.Escape.ofDigits digits ≠ .begun := by
    intro digits
    unfold Json.Escape.ofDigits
    split
    · exact nofun
    split
    · split <;> exact nofun
    · exact nofun
  unfold Json.Escape.after
  split
  · next he => split <;> simp [he]
  split
  · next he hc => simp [he, hc]
  · next he hc =>
      simp only [hc, and_false, iff_false]
      split
      · split
        · exact hdigits _
        · exact nofun
      · exact nofun

theorem placeOf_after (spot : Spot) (c : Char) :
    placeOf (spot.after c) = (placeOf spot).after c := by
  cases spot with
  | outside =>
      by_cases hc : c = '"' <;> simp [Spot.after, placeOf, Place.after, hc]
  | inside e =>
      by_cases he : e = .begun
      · simp [Spot.after, placeOf, Place.after, he, after_eq_begun_iff]
      by_cases hquote : c = '"'
      · simp [Spot.after, placeOf, Place.after, he, hquote]
      by_cases hback : c = '\\'
      · simp [Spot.after, placeOf, Place.after, he, hback, after_eq_begun_iff]
      · simp [Spot.after, placeOf, Place.after, he, hquote, hback, after_eq_begun_iff]

theorem placeOf_foldl (text : List Char) (spot : Spot) :
    placeOf (text.foldl Spot.after spot) = text.foldl Place.after (placeOf spot) := by
  induction text generalizing spot with
  | nil => rfl
  | cons c text ih => rw [List.foldl_cons, List.foldl_cons, ih, placeOf_after]

/-- What the pieces of a template make is the template half filled, with the text forms of the
values in its slots. -/
theorem fillPieces_eq {r : Resolver} {scope : Fields Value} {value : List Char → Value}
    {spot : Spot} {pieces : List Piece}
    (h : ∀ hole ∈ holesFrom spot pieces,
      r.resolve scope (String.ofList hole.2) = .ok (value hole.2)) :
    fillPieces r scope (placeOf spot) pieces =
      .ok (Json.written (fun inner => (value inner).stringify)
        (halfFilledFrom value spot pieces)) := by
  induction pieces generalizing spot with
  | nil => rfl
  | cons piece pieces ih =>
      cases piece with
      | literal text =>
          rw [fillPieces, ← placeOf_foldl, ih h, halfFilledFrom, Json.written_chars_append]
          rfl
      | hole inner =>
          obtain ⟨hinner, hrest⟩ := List.forall_mem_cons.mp h
          rw [fillPieces, hinner, ih hrest]
          cases spot with
          | outside =>
              rw [halfFilledFrom, Json.written_chars_append]
              rfl
          | inside e => rfl

/-- Slots of a template stand inside of literals, where no escape is pending. -/
theorem settled_halfFilledFrom (value : List Char → Value) {spot : Spot} {pieces : List Piece}
    (h : ∀ hole ∈ holesFrom spot pieces, hole.1 = .outside ∨ hole.1 = .inside .finished) :
    Settled spot (halfFilledFrom value spot pieces) := by
  induction pieces generalizing spot with
  | nil => trivial
  | cons piece pieces ih =>
      cases piece with
      | literal text =>
          rw [halfFilledFrom, Json.settled_chars_append]
          exact ih h
      | hole inner =>
          obtain ⟨hspot, hrest⟩ := List.forall_mem_cons.mp h
          have hothers := ih hrest
          rcases hspot with rfl | rfl
          · rw [halfFilledFrom, Json.settled_chars_append, Json.foldl_after_compactChars]
            exact hothers
          · exact ⟨rfl, hothers⟩

theorem halfFilledFrom_congr {value value' : List Char → Value} {spot : Spot}
    {pieces : List Piece}
    (h : ∀ hole ∈ holesFrom spot pieces, hole.1 = .outside → value hole.2 = value' hole.2) :
    halfFilledFrom value spot pieces = halfFilledFrom value' spot pieces := by
  induction pieces generalizing spot with
  | nil => rfl
  | cons piece pieces ih =>
      cases piece with
      | literal text => rw [halfFilledFrom, halfFilledFrom, ih h]
      | hole inner =>
          obtain ⟨hinner, hothers⟩ := List.forall_mem_cons.mp h
          have hrest := ih hothers
          cases spot with
          | outside => rw [halfFilledFrom, halfFilledFrom, hrest, hinner rfl]
          | inside e => rw [halfFilledFrom, halfFilledFrom, hrest]

/-! ## The tokens of a body -/

/-- A template that is no JSON makes no body whatever is inserted, or it is filled in as a
text. -/
theorem ofTemplate_cases {template : String} (h : ∀ v, Json.read template ≠ .ok v) :
    (∀ r scope, ∃ fault, ofTemplate r scope template = .error fault) ∨
    ∀ r scope, ofTemplate r scope template =
      (fillPieces r scope ⟨false, false⟩ (Template.pieces template.toList)).bind
        fun chars => checked (String.ofList chars) := by
  cases hread : Json.read template with
  | ok v => exact absurd hread (h v)
  | error refusal =>
      cases hhole : Template.hasHole template with
      | false =>
          refine Or.inl fun r scope =>
            ⟨.ofRefusal (fun error => .step (.invalidBody error)) refusal, ?_⟩
          simp only [ofTemplate, hhole, Bool.false_eq_true, if_false, checked, hread]
      | true =>
          cases refusal with
          | malformed error =>
              refine Or.inr fun r scope => ?_
              simp only [ofTemplate, hhole, if_true, hread]
              rfl
          | number problem =>
              refine Or.inl fun r scope => ⟨.badNumber problem, ?_⟩
              simp only [ofTemplate, hhole, if_true, hread]
          | tooDeep =>
              refine Or.inl fun r scope => ⟨.nestedTooDeep, ?_⟩
              simp only [ofTemplate, hhole, if_true, hread]

/-- A template that is filled in as a text makes a body if the text is JSON. -/
theorem ofTemplate_eq_ok_iff {r : Resolver} {scope : Fields Value} {template body : String}
    {value : List Char → Value}
    (hfill : ofTemplate r scope template =
      (fillPieces r scope ⟨false, false⟩ (Template.pieces template.toList)).bind
        fun chars => checked (String.ofList chars))
    (hresolve : ∀ hole ∈ holesAt template,
      r.resolve scope (String.ofList hole.2) = .ok (value hole.2)) :
    ofTemplate r scope template = .ok body ↔ body.toList =
      Json.written (fun inner => (value inner).stringify) (halfFilled value template) ∧
      ∃ v, Json.readAll body.toList = .ok v := by
  have hpieces : fillPieces r scope ⟨false, false⟩ (Template.pieces template.toList) = .ok _ :=
    fillPieces_eq hresolve
  rw [hfill, hpieces, halfFilled]
  generalize Json.written _ _ = chars
  change checked (String.ofList chars) = .ok body ↔ _
  rw [checked_eq_ok_iff, String.ext_iff, String.toList_ofList]
  refine and_congr_right fun hbody => exists_congr fun v => ?_
  rw [Json.read_eq_ok_iff, String.toList_ofList, hbody]

/-- A reply with a text and a number. -/
def replying (p : String) : Resolver where
  results := [("s0", .object [("p", .text p), ("n", .int 7)])]
  stepIds := ["s0", "s1"]

/-- The values of the two expressions on a reply. -/
def replied (p : String) (inner : List Char) : Value :=
  if inner = "s0.n".toList then .int 7 else .text p

/-- A lone backslash is an escape together with what is inserted behind it. -/
example : let template := "\x7b\"a\": \"\\\x7b\x7bs0.p\x7d\x7d\", \"n\": \x7b\x7bs0.n\x7d\x7d\x7d"
    ofTemplate (replying "n") [] template = .ok "\x7b\"a\": \"\\n\", \"n\": 7\x7d" ∧
      (ofTemplate (replying "x") [] template).toOption = none := by
  decide +kernel

end Body

end CallChain
