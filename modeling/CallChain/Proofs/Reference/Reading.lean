/-
# How references are read

What resolves an expression and what renames one cut it in different ways: resolving takes
everything up to a dot or a bracket as the reference, renaming wants a word in a hole. Where
renaming sees a reference at all, it is the one that resolving reads; and what it puts in
its place is read from the new text, before the same path.

Expressions outside of holes may hold braces anywhere. Whatever braces such an expression
has, the reference by place that it starts with is renamed like that of a hole, or stays.
-/

import CallChain.Proofs.Reference.Renamed
import CallChain.Session.Iterating

namespace CallChain

/-! ## Cutting and trimming -/

namespace Text

theorem trimEnd_append_of_endsBare {front : List Char} (hfront : EndsBare front)
    (rest : List Char) : trimEnd (front ++ rest) = front ++ trimEnd rest := by
  obtain ⟨blanks, hblanks, hrest⟩ := exists_trimEnd rest
  have hends : EndsBare (front ++ trimEnd rest) := by
    intro c hc
    rw [List.getLast?_append] at hc
    cases hlast : (trimEnd rest).getLast? with
    | none =>
        rw [hlast] at hc
        exact hfront c hc
    | some d =>
        rw [hlast] at hc
        cases hc
        exact endsBare_trimEnd rest _ hlast
  have hwhole : trimEnd (front ++ rest) = trimEnd (front ++ trimEnd rest) := by
    rw [← trimEnd_append hblanks (front ++ trimEnd rest), List.append_assoc, ← hrest]
  rw [hwhole, trimEnd_eq_self hends]

theorem trimEnd_eq_nil {blanks : List Char} (h : ∀ c ∈ blanks, isBlank c = true) :
    trimEnd blanks = [] := by
  have hnil := trimEnd_append h []
  rwa [List.nil_append] at hnil

theorem cutAt_append {separator : Char} {front : List Char} (hfront : ∀ c ∈ front, c ≠ separator)
    (rest : List Char) :
    cutAt separator (front ++ rest) =
      (front ++ (cutAt separator rest).1, (cutAt separator rest).2) := by
  induction front with
  | nil => rfl
  | cons c front ih =>
      rw [List.cons_append, cutAt, if_neg (hfront c List.mem_cons_self),
        ih fun d hd => hfront d (List.mem_cons_of_mem c hd)]
      rfl

end Text

/-! ## The parts that resolving reads -/

namespace Expression

/-- Whether a character may stand in the reference of an expression. -/
def isName (c : Char) : Bool := c ≠ '.' && c ≠ '['

/-- Whether parts are those of an expression: blanks, a reference, and what follows it. -/
structure Cut (before reference after : List Char) : Prop where
  /-- Only blanks stand before the reference. -/
  before : ∀ c ∈ before, Text.isBlank c = true
  /-- The reference starts with no blank. -/
  bare : Text.StartsBare reference
  /-- It holds no dot and no bracket. -/
  name : ∀ c ∈ reference, isName c = true
  /-- Only blanks follow it, or a dot or a bracket does. -/
  after : ((∀ c ∈ after, Text.isBlank c = true) ∧ Text.EndsBare reference) ∨
    ∃ c rest, after = c :: rest ∧ isName c = false

theorem eq_of_isName_eq_false {c : Char} (h : isName c = false) : c = '.' ∨ c = '[' := by
  by_cases hdot : c = '.'
  · exact Or.inl hdot
  · by_cases hbracket : c = '['
    · exact Or.inr hbracket
    · simp [isName, hdot, hbracket] at h

theorem isBlank_of_isName_eq_false {c : Char} (h : isName c = false) :
    Text.isBlank c = false := by
  rcases eq_of_isName_eq_false h with rfl | rfl <;> decide

theorem isInner_of_isName_eq_false {c : Char} (h : isName c = false) :
    Template.isInner c = true := by
  rcases eq_of_isName_eq_false h with rfl | rfl <;> decide

variable {before reference after : List Char}

/-- If no brace stands in the reference, none stands in front of what follows it. -/
theorem Cut.isInner_front (h : Cut before reference after)
    (hinner : ∀ c ∈ reference, Template.isInner c = true) :
    ∀ c ∈ before ++ reference, Template.isInner c = true := by
  intro c hc
  rcases List.mem_append.mp hc with hc | hc
  · exact Template.isInner_of_isBlank (h.before c hc)
  · exact hinner c hc

theorem Cut.trimChars_eq (h : Cut before reference after) :
    Text.trimChars (before ++ (reference ++ after)) = reference ++ Text.trimEnd after := by
  rw [Text.trimChars, Text.trimStart_append h.before]
  rcases h.after with ⟨hblank, hends⟩ | ⟨c, rest, rfl, hc⟩
  · rw [Text.trimEnd_eq_nil hblank, List.append_nil]
    cases reference with
    | nil =>
        have hnil := Text.trimStart_append hblank []
        rw [List.append_nil] at hnil
        rw [List.nil_append, hnil]
        rfl
    | cons d reference =>
        have hstart : Text.StartsBare (d :: reference ++ after) := fun e he => h.bare e he
        rw [Text.trimStart_eq_self hstart, Text.trimEnd_append hblank, Text.trimEnd_eq_self hends]
  · have hbare : Text.isBlank c = false := isBlank_of_isName_eq_false hc
    have hstart : Text.StartsBare (reference ++ c :: rest) := by
      cases reference with
      | nil =>
          intro d hd
          cases hd
          exact hbare
      | cons d reference => exact fun e he => h.bare e he
    have hends : ∀ front : List Char, Text.EndsBare (front ++ [c]) := by
      intro front d hd
      rw [List.getLast?_concat, Option.some.injEq] at hd
      rwa [← hd]
    have hfront := Text.trimEnd_append_of_endsBare (hends reference) rest
    have halone := Text.trimEnd_append_of_endsBare (hends []) rest
    rw [List.append_assoc, List.singleton_append] at hfront
    rw [List.nil_append, List.singleton_append] at halone
    rw [Text.trimStart_eq_self hstart, hfront, halone, List.append_assoc, List.singleton_append]

/-- The reference of an expression is read from its parts, and its path from what follows
the reference. -/
theorem split_of_cut (h : Cut before reference after) :
    split (String.ofList (before ++ (reference ++ after))) =
      ⟨String.ofList reference, (split (String.ofList after)).path⟩ := by
  have hnil : Cut [] [] after := by
    refine ⟨by simp, nofun, by simp, ?_⟩
    rcases h.after with ⟨hblank, -⟩ | hstop
    · exact Or.inl ⟨hblank, nofun⟩
    · exact Or.inr hstop
  have hdot : ∀ c ∈ reference, c ≠ '.' := by
    rintro c hc rfl
    exact absurd (h.name _ hc) (by decide)
  have hbracket : ∀ c ∈ reference, c ≠ '[' := by
    rintro c hc rfl
    exact absurd (h.name _ hc) (by decide)
  have hafter : Text.trimEnd after = [] ∨
      ∃ c rest, Text.trimEnd after = c :: rest ∧ (c = '.' ∨ c = '[') := by
    rcases h.after with ⟨hblank, -⟩ | ⟨c, rest, rfl, hc⟩
    · exact Or.inl (Text.trimEnd_eq_nil hblank)
    · have hends : Text.EndsBare [c] := by
        intro d hd
        cases hd
        exact isBlank_of_isName_eq_false hc
      exact Or.inr ⟨c, _, Text.trimEnd_append_of_endsBare hends rest, eq_of_isName_eq_false hc⟩
  have hpath := hnil.trimChars_eq
  have hwhole := Text.cutAt_append hbracket []
  simp only [List.nil_append] at hpath
  simp only [List.append_nil, Text.cutAt] at hwhole
  unfold split
  simp only [String.toList_ofList, h.trimChars_eq, hpath, Text.cutAt_append hdot]
  rcases hafter with hempty | ⟨c, rest, hcons, rfl | rfl⟩
  · rw [hempty]
    simp [Text.cutAt, hwhole]
  · rw [hcons]
    simp [Text.cutAt, hwhole]
  · rw [hcons]
    simp [Text.cutAt, Text.cutAt_append hbracket]

/-- Every expression has such parts. -/
theorem exists_cut (text : List Char) :
    ∃ before reference after, Cut before reference after ∧
      text = before ++ (reference ++ after) := by
  obtain ⟨before, blanks, hbefore, hblanks, htext⟩ := Text.exists_trimChars text
  have hstart := Text.startsBare_trimChars text
  have hends := Text.endsBare_trimChars text
  have hsplit := List.takeWhile_append_dropWhile (p := isName) (l := Text.trimChars text)
  refine ⟨before, (Text.trimChars text).takeWhile isName,
    (Text.trimChars text).dropWhile isName ++ blanks, ⟨hbefore, ?_, ?_, ?_⟩, ?_⟩
  · intro c hc
    apply hstart c
    rw [← hsplit, List.head?_append, hc]
    rfl
  · exact fun c hc => List.all_eq_true.mp List.all_takeWhile c hc
  · cases hdrop : (Text.trimChars text).dropWhile isName with
    | nil =>
        rw [hdrop, List.append_nil] at hsplit
        rw [hsplit]
        exact Or.inl ⟨hblanks, hends⟩
    | cons c rest =>
        have hnot := List.head?_dropWhile_not isName (Text.trimChars text)
        rw [hdrop] at hnot
        exact Or.inr ⟨c, rest ++ blanks, rfl, hnot⟩
  · rw [← List.append_assoc (List.takeWhile _ _), hsplit]
    exact htext

/-- The parts of an expression that has a reference are known from the expression. -/
theorem Cut.unique {before' reference' after' : List Char} (h : Cut before reference after)
    (h' : Cut before' reference' after') (hne : reference ≠ [])
    (heq : before ++ (reference ++ after) = before' ++ (reference' ++ after')) :
    before = before' ∧ reference = reference' ∧ after = after' := by
  have hsplit := split_of_cut h
  rw [heq, split_of_cut h', Expression.mk.injEq, String.ofList_inj] at hsplit
  obtain ⟨rfl, -⟩ := hsplit
  obtain ⟨c, rest, rfl⟩ := List.exists_cons_of_ne_nil hne
  have hc : Text.isBlank c = false := h.bare c rfl
  have htake : ∀ front back : List Char, (∀ d ∈ front, Text.isBlank d = true) →
      (front ++ (c :: rest ++ back)).takeWhile Text.isBlank = front := by
    intro front back hfront
    rw [List.takeWhile_append_of_pos hfront, List.cons_append,
      List.takeWhile_cons_of_neg (by simp [hc]), List.append_nil]
  have hbefore : before = before' := by
    rw [← htake before after h.before, heq, htake before' after' h'.before]
  subst hbefore
  exact ⟨rfl, rfl, List.append_cancel_left (List.append_cancel_left heq)⟩

end Expression

/-! ## Renaming the reference that is read -/

/-- A word can stand wherever another reference stands. -/
theorem Reference.IsWord.cut {word before reference after : List Char} (h : IsWord word)
    (hcut : Expression.Cut before reference after) : Expression.Cut before word after := by
  have hbare : ∀ c ∈ word, Text.isBlank c = false := by
    intro c hc
    rw [Bool.eq_false_iff]
    intro hblank
    have hnot := HoleParts.continuesReference_of_isBlank hblank
    rw [h.continues c hc] at hnot
    cases hnot
  constructor
  · exact hcut.before
  · exact fun c hc => hbare c (List.mem_of_mem_head? hc)
  · intro c hc
    rw [← Bool.not_eq_false]
    intro hstop
    have hcontinues := h.continues c hc
    rcases Expression.eq_of_isName_eq_false hstop with rfl | rfl
    · exact absurd hcontinues (by decide +kernel)
    · exact absurd hcontinues (by decide +kernel)
  · rcases hcut.after with ⟨hblank, -⟩ | hstop
    · exact Or.inl ⟨hblank, fun c hc => hbare c (List.mem_of_getLast? hc)⟩
    · exact Or.inr hstop

/-- What renaming takes apart, resolving takes apart in the same way. -/
theorem HoleParts.WellFormed.cut {p : HoleParts} (h : p.WellFormed) :
    Expression.Cut p.before p.reference p.after := by
  have hempty : Expression.Cut p.before [] p.after := by
    refine ⟨h.before, nofun, by simp, ?_⟩
    rcases h.after with hblank | hdot | hbracket
    · exact Or.inl ⟨hblank, nofun⟩
    · obtain ⟨others, hafter⟩ := List.head?_eq_some_iff.mp hdot
      exact Or.inr ⟨'.', others, hafter, by decide⟩
    · obtain ⟨others, hafter⟩ := List.head?_eq_some_iff.mp hbracket
      exact Or.inr ⟨'[', others, hafter, by decide⟩
  exact h.reference.cut hempty

/-- What resolving takes apart, renaming takes apart in the same way if the reference is a
word, and not at all if it is none. -/
theorem HoleParts.ofInner?_of_cut {before reference after : List Char}
    (h : Expression.Cut before reference after) :
    (Reference.IsWord reference ∧
        ofInner? (before ++ (reference ++ after)) = some ⟨before, reference, after⟩) ∨
      ¬ Reference.IsWord reference ∧ ofInner? (before ++ (reference ++ after)) = none := by
  by_cases hword : Reference.IsWord reference
  · refine Or.inl ⟨hword, ofInner?_eq_some_iff.mpr ⟨⟨h.before, hword, ?_⟩, rfl⟩⟩
    rcases h.after with ⟨hblank, -⟩ | ⟨c, rest, rfl, hstop⟩
    · exact Or.inl hblank
    · rcases Expression.eq_of_isName_eq_false hstop with rfl | rfl
      · exact Or.inr (Or.inl rfl)
      · exact Or.inr (Or.inr rfl)
  · refine Or.inr ⟨hword, ?_⟩
    cases hparts : ofInner? (before ++ (reference ++ after)) with
    | none => rfl
    | some p =>
        obtain ⟨hp, htext⟩ := ofInner?_eq_some_iff.mp hparts
        obtain ⟨c, rest, hcons, -, -⟩ := hp.reference
        have hne : p.reference ≠ [] := by
          rw [hcons]
          exact List.cons_ne_nil c rest
        obtain ⟨-, hsame, -⟩ := hp.cut.unique h hne htext.symm
        exact absurd (hsame ▸ hp.reference) hword

namespace Renaming

variable {f : Renaming} {before reference after : List Char}

/-- Whether a reference is another one, or what a renaming makes of it. -/
def Gives (f : Renaming) (reference image : String) : Prop :=
  image = reference ∨ f reference = some image

/-- What a reference by place becomes holds no brace either. -/
theorem Gives.isInner (hf : f.IntoWords) {reference image : String} (h : f.Gives reference image)
    {n : Nat} (hplace : Reference.place reference = .ok (some n)) :
    image.toList ≠ [] ∧ ∀ c ∈ image.toList, Template.isInner c = true := by
  rcases h with rfl | himage
  · exact Reference.isInner_of_place hplace
  · have hword := hf _ _ himage
    refine ⟨?_, fun c hc => HoleParts.isInner_of_continuesReference (hword.continues c hc)⟩
    obtain ⟨c, rest, hcons, -, -⟩ := hword
    rw [hcons]
    exact List.cons_ne_nil c rest

/-- In a hole, renaming changes the reference that is read, or nothing. -/
theorem exists_cut_inner (hf : f.IntoWords) (hcut : Expression.Cut before reference after) :
    ∃ image, Expression.Cut before image after ∧
      f.Gives (String.ofList reference) (String.ofList image) ∧
      inner f (before ++ (reference ++ after)) = before ++ (image ++ after) := by
  rcases HoleParts.ofInner?_of_cut hcut with ⟨hword, hparts⟩ | ⟨-, hnone⟩
  · rw [inner_of_some hparts, HoleParts.withReference, List.append_assoc]
    cases himage : f (String.ofList reference) with
    | none => exact ⟨reference, hcut, Or.inl rfl, by simp⟩
    | some image =>
        exact ⟨image.toList, (hf _ _ himage).cut hcut, Or.inr (by simpa using himage), rfl⟩
  · exact ⟨reference, hcut, Or.inl rfl, inner_of_none hnone⟩

/-- What is read in a hole after renaming: the new reference, and the old path. -/
theorem split_inner (hf : f.IntoWords) (text : List Char) :
    ∃ image, f.Gives (Expression.split (String.ofList text)).reference image ∧
      Expression.split (String.ofList (inner f text)) =
        ⟨image, (Expression.split (String.ofList text)).path⟩ := by
  obtain ⟨before, reference, after, hcut, rfl⟩ := Expression.exists_cut text
  obtain ⟨image, himage, hgives, hinner⟩ := exists_cut_inner hf hcut
  refine ⟨String.ofList image, ?_, ?_⟩
  · rw [Expression.split_of_cut hcut]
    exact hgives
  · rw [hinner, Expression.split_of_cut himage, Expression.split_of_cut hcut]

/-! ## Expressions with braces of their own -/

/-- The reference of an expression ends at the first dot or bracket, whatever stands between
that and the closing braces. -/
theorem exists_cut_of_close {c : Char} {tail back image : List Char}
    (hcut : Expression.Cut before reference (c :: tail)) (hstop : Expression.isName c = false)
    (hback : image ++ ['\x7d', '\x7d'] = (before ++ (reference ++ [c])) ++ back)
    (hclose : ['\x7d', '\x7d'] <:+ back) :
    ∃ after, Expression.Cut before reference after ∧ image = before ++ (reference ++ after) := by
  obtain ⟨others, -, himage⟩ := Template.eq_concat_close hback hclose
  refine ⟨c :: others, ⟨hcut.before, hcut.bare, hcut.name, ?_⟩, ?_⟩
  · exact Or.inr ⟨c, others, rfl, hstop⟩
  · simpa using himage

/-- Between doubled braces, renaming changes the reference that is read, or nothing of it;
and what follows the reference still does so. -/
theorem exists_cut_braced (hf : f.IntoWords) (hcut : Expression.Cut before reference after)
    (hne : reference ≠ []) (hinner : ∀ c ∈ reference, Template.isInner c = true)
    {image : List Char}
    (himage : Template.mapHoles (inner f)
        ('\x7b' :: '\x7b' :: (before ++ (reference ++ after) ++ ['\x7d', '\x7d'])) =
      '\x7b' :: '\x7b' :: (image ++ ['\x7d', '\x7d'])) :
    ∃ reference' after', Expression.Cut before reference' after' ∧
      f.Gives (String.ofList reference) (String.ofList reference') ∧
      image = before ++ (reference' ++ after') := by
  have hfront := hcut.isInner_front hinner
  rcases hcut.after with ⟨hblank, hends⟩ | ⟨c, rest, rfl, hstop⟩
  · -- nothing but the expression stands between the braces, so all of it is one hole
    have hcontent : Template.IsContent (before ++ (reference ++ after)) := by
      refine ⟨by simp [hne], fun c hc => ?_⟩
      rw [← List.append_assoc] at hc
      rcases List.mem_append.mp hc with hc | hc
      · exact hfront c hc
      · exact Template.isInner_of_isBlank (hblank c hc)
    obtain ⟨reference', hcut', hgives, hparts⟩ := exists_cut_inner hf hcut
    have hwhole := Template.mapHoles_hole (inner f) hcontent []
    simp only [Piece.render, List.append_nil, Template.mapHoles_nil, List.cons_append] at hwhole
    rw [hwhole, hparts] at himage
    simp only [List.cons.injEq, true_and] at himage
    exact ⟨reference', after, hcut', hgives, (List.append_cancel_right himage).symm⟩
  · have hfront' : ∀ d ∈ before ++ (reference ++ [c]), Template.isInner d = true := by
      intro d hd
      rw [← List.append_assoc] at hd
      rcases List.mem_append.mp hd with hd | hd
      · exact hfront d hd
      · rw [List.mem_singleton.mp hd]
        exact Expression.isInner_of_isName_eq_false hstop
    have hsame : before ++ (reference ++ c :: rest) ++ ['\x7d', '\x7d'] =
        (before ++ (reference ++ [c])) ++ (rest ++ ['\x7d', '\x7d']) := by simp
    rw [hsame] at himage
    rcases Template.holeAt?_cases ('\x7b' :: '\x7b' ::
        ((before ++ (reference ++ [c])) ++ (rest ++ ['\x7d', '\x7d']))) with
      ⟨inside, others, hinside, htext⟩ | hnone
    · -- the hole holds all that stands before the first brace
      obtain ⟨between, rfl⟩ := Template.exists_content_append hfront' htext
      have hcut' : Expression.Cut before reference (c :: between) :=
        ⟨hcut.before, hcut.bare, hcut.name, Or.inr ⟨c, between, rfl, hstop⟩⟩
      obtain ⟨reference', hnew, hgives, hinside'⟩ := exists_cut_inner hf hcut'
      have hregroup : before ++ (reference ++ [c]) ++ between =
          before ++ (reference ++ c :: between) := by simp
      rw [htext, Template.mapHoles_hole _ hinside, hregroup, hinside'] at himage
      simp only [Piece.render, List.cons_append, List.cons.injEq, true_and] at himage
      have hback : image ++ ['\x7d', '\x7d'] = (before ++ (reference' ++ [c])) ++
          (between ++ ('\x7d' :: '\x7d' :: Template.mapHoles (inner f) others)) := by
        rw [← himage]
        simp
      obtain ⟨after', hafter, himage⟩ := exists_cut_of_close hnew hstop hback
        (List.suffix_of_suffix_length_le ⟨image, hback⟩ (List.suffix_append _ _)
          (by simp; omega))
      exact ⟨reference', after', hafter, hgives, himage⟩
    · rw [Template.mapHoles_open_append (by simp) hfront' _ hnone] at himage
      simp only [List.cons.injEq, true_and] at himage
      obtain ⟨after', hafter, himage⟩ := exists_cut_of_close hcut hstop himage.symm
        (Template.close_suffix_mapHoles (inner f) (List.suffix_append rest _))
      exact ⟨reference, after', hafter, Or.inl rfl, himage⟩

/-- What an expression without braces at its start becomes stands between the braces that
are put around it. -/
theorem mapHoles_expression (hf : f.IntoWords) {s : String} (h : startsOpen s = false) :
    Template.mapHoles (inner f) ('\x7b' :: '\x7b' :: (s.toList ++ ['\x7d', '\x7d'])) =
      '\x7b' :: '\x7b' :: ((expression f s).toList ++ ['\x7d', '\x7d']) := by
  obtain ⟨htext, hopen⟩ := text_wrapped hf s
  rw [← toList_wrapped_of_not h, ← toList_text, htext, toList_wrapped_of_not (hopen.trans h)]

/-- An expression that starts with a reference by place still starts with it, or with what
it is renamed to. -/
theorem exists_cut_expression (hf : f.IntoWords) (hcut : Expression.Cut before reference after)
    {n : Nat} (hplace : Reference.place (String.ofList reference) = .ok (some n)) {s : String}
    (hs : s.toList = before ++ (reference ++ after)) :
    ∃ reference' after', Expression.Cut before reference' after' ∧
      f.Gives (String.ofList reference) (String.ofList reference') ∧
      (expression f s).toList = before ++ (reference' ++ after') := by
  obtain ⟨hne, hinner⟩ := Reference.isInner_of_place hplace
  rw [String.toList_ofList] at hne hinner
  have hopen : startsOpen s = false := by
    rw [Bool.eq_false_iff, ne_eq, startsOpen_iff, hs]
    rintro ⟨others, hothers⟩
    cases before with
    | nil =>
        obtain ⟨c, rest, rfl⟩ := List.exists_cons_of_ne_nil hne
        simp only [List.nil_append, List.cons_append, List.cons.injEq] at hothers
        have hc := hinner c List.mem_cons_self
        rw [← hothers.1] at hc
        exact absurd hc (by decide)
    | cons c before =>
        simp only [List.cons_append, List.cons.injEq] at hothers
        have hblank := hcut.before c List.mem_cons_self
        rw [← hothers.1] at hblank
        exact absurd hblank (by decide)
  have himage := mapHoles_expression hf hopen
  rw [hs] at himage
  exact exists_cut_braced hf hcut hne hinner himage

/-- Renaming an expression renames the reference by place that is read in it, or keeps it. -/
theorem gives_expression (hf : f.IntoWords) {s : String} {n : Nat}
    (hplace : Reference.place (Expression.split s).reference = .ok (some n)) :
    f.Gives (Expression.split s).reference (Expression.split (expression f s)).reference := by
  obtain ⟨before, reference, after, hcut, hs⟩ := Expression.exists_cut s.toList
  have hsplit := Expression.split_of_cut hcut
  rw [← hs, String.ofList_toList] at hsplit
  rw [hsplit] at hplace ⊢
  obtain ⟨reference', after', hcut', hgives, himage⟩ := exists_cut_expression hf hcut hplace hs
  have hsplit' := Expression.split_of_cut hcut'
  rw [← himage, String.ofList_toList] at hsplit'
  rw [hsplit']
  exact hgives

end Renaming

/-- Between doubled opening braces at the start of a text and closing ones towards its end, a
text stands. -/
theorem Template.exists_inside {text back : List Char} (hopen : ['\x7b', '\x7b'] <+: text)
    (hclose : '\x7d' :: '\x7d' :: back <:+ text) :
    ∃ inside, text = '\x7b' :: '\x7b' :: (inside ++ '\x7d' :: '\x7d' :: back) := by
  obtain ⟨rest, rfl⟩ := hopen
  obtain ⟨front, hfront⟩ := hclose
  rcases List.append_eq_append_iff.mp hfront with ⟨between, hbraces, hback⟩ |
    ⟨between, -, hrest⟩
  · -- the closing braces would start among the opening ones
    cases between with
    | nil => exact ⟨[], by rw [hback]; rfl⟩
    | cons c between =>
        rw [List.cons_append, List.cons.injEq] at hback
        have hmem : '\x7d' ∈ ['\x7b', '\x7b'] := by
          rw [hbraces, hback.1]
          simp
        exact absurd hmem (by decide)
  · exact ⟨between, by rw [hrest]; rfl⟩

/-! ## The source of an iteration -/

theorem Expression.split_trimChars (text : List Char) :
    split (String.ofList (Text.trimChars text)) = split (String.ofList text) := by
  unfold split
  simp only [String.toList_ofList, Text.trimChars_trimChars]

namespace Iteration

variable {i : Iteration} {inside : List Char}

/-- The text of a source that is put between doubled braces, or stands between them. -/
def between (i : Iteration) : List Char :=
  let chars := Text.trimChars i.source.toList
  if ['\x7b', '\x7b'].isPrefixOf chars && ['\x7d', '\x7d'].isSuffixOf chars then
    (chars.drop 2).take (chars.length - 4)
  else i.source.toList

theorem sourceExpression_eq_between (i : Iteration) :
    i.sourceExpression = String.ofList (Text.trimChars i.between) := by
  rw [sourceExpression, between]
  split
  · rfl
  · rfl

theorem between_of_braced (i : Iteration)
    (h : Text.trimChars i.source.toList = '\x7b' :: '\x7b' :: (inside ++ ['\x7d', '\x7d'])) :
    i.between = inside := by
  have hclose : ['\x7d', '\x7d'].isSuffixOf ('\x7b' :: '\x7b' :: (inside ++ ['\x7d', '\x7d'])) =
      true := List.isSuffixOf_iff_suffix.mpr ⟨'\x7b' :: '\x7b' :: inside, by simp⟩
  have hopen : ['\x7b', '\x7b'].isPrefixOf ('\x7b' :: '\x7b' :: (inside ++ ['\x7d', '\x7d'])) =
      true := List.isPrefixOf_iff_prefix.mpr ⟨inside ++ ['\x7d', '\x7d'], rfl⟩
  simp only [between, h, hopen, hclose]
  simp

theorem between_of_not (i : Iteration)
    (h : ¬ ∃ inside, Text.trimChars i.source.toList =
      '\x7b' :: '\x7b' :: (inside ++ ['\x7d', '\x7d'])) :
    i.between = i.source.toList := by
  have hnot : ¬ (['\x7b', '\x7b'].isPrefixOf (Text.trimChars i.source.toList) &&
      ['\x7d', '\x7d'].isSuffixOf (Text.trimChars i.source.toList)) = true := by
    rw [Bool.and_eq_true, List.isPrefixOf_iff_prefix, List.isSuffixOf_iff_suffix]
    rintro ⟨hopen, hclose⟩
    exact h (Template.exists_inside hopen hclose)
  simp only [between, if_neg hnot]

theorem split_sourceExpression (i : Iteration) :
    Expression.split i.sourceExpression = Expression.split (String.ofList i.between) := by
  rw [sourceExpression_eq_between, Expression.split_trimChars]

theorem sourceExpression_of_braced (i : Iteration)
    (h : Text.trimChars i.source.toList = '\x7b' :: '\x7b' :: (inside ++ ['\x7d', '\x7d'])) :
    i.sourceExpression = String.ofList (Text.trimChars inside) := by
  rw [sourceExpression_eq_between, i.between_of_braced h]

theorem sourceExpression_of_not (i : Iteration)
    (h : ¬ ['\x7b', '\x7b'] <+: Text.trimChars i.source.toList) :
    i.sourceExpression = String.ofList (Text.trimChars i.source.toList) := by
  rw [sourceExpression_eq_between, i.between_of_not]
  rintro ⟨inside, hinside⟩
  exact h ⟨inside ++ ['\x7d', '\x7d'], hinside.symm⟩

/-- A source is a placeholder with blanks around it, or is read as it is. -/
theorem sourceExpression_cases (i : Iteration) :
    (∃ inside, Text.trimChars i.source.toList =
        '\x7b' :: '\x7b' :: (inside ++ ['\x7d', '\x7d'])) ∨
      i.sourceExpression = String.ofList (Text.trimChars i.source.toList) := by
  by_cases h : ∃ inside, Text.trimChars i.source.toList =
      '\x7b' :: '\x7b' :: (inside ++ ['\x7d', '\x7d'])
  · exact Or.inl h
  · right
    rw [sourceExpression_eq_between, i.between_of_not h]

/-- What the source of an iteration becomes is the text in its braces, renamed. -/
theorem trimChars_expression {f : Renaming} (hf : f.IntoWords)
    (h : Text.trimChars i.source.toList = '\x7b' :: '\x7b' :: (inside ++ ['\x7d', '\x7d'])) :
    Text.trimChars (Renaming.expression f i.source).toList =
      Template.mapHoles (Renaming.inner f) (Text.trimChars i.source.toList) := by
  cases hopen : Renaming.startsOpen i.source with
  | true =>
      rw [Renaming.expression_of_open hopen, Renaming.toList_text, Template.trimChars_mapHoles]
  | false =>
      obtain ⟨before, blanks, hbefore, hblanks, hsource⟩ := Text.exists_trimChars i.source.toList
      rw [h] at hsource ⊢
      have hne : before ≠ [] := by
        rintro rfl
        rw [Bool.eq_false_iff, ne_eq, Renaming.startsOpen_iff, hsource] at hopen
        exact hopen ⟨inside ++ ['\x7d', '\x7d'] ++ blanks, rfl⟩
      have hfront : ∀ c ∈ before, Template.isInner c = true :=
        fun c hc => Template.isInner_of_isBlank (hbefore c hc)
      have hback : ∀ c ∈ blanks ++ ['\x7d', '\x7d'], c ≠ '\x7b' := by
        rintro c hc rfl
        rcases List.mem_append.mp hc with hc | hc
        · exact absurd (hblanks _ hc) (by decide)
        · simp at hc
      have hclose : ['\x7d', '\x7d'] <:+ '\x7b' :: '\x7b' :: (inside ++ ['\x7d', '\x7d']) :=
        ⟨'\x7b' :: '\x7b' :: inside, by simp⟩
      have himage := Renaming.mapHoles_expression hf hopen
      rw [hsource, List.append_assoc, List.append_assoc, Template.mapHoles_open_append hne hfront
          ('\x7b' :: '\x7b' :: (inside ++ ['\x7d', '\x7d']) ++ (blanks ++ ['\x7d', '\x7d']))
          (Template.holeAt?_open_open hfront _),
        Template.mapHoles_append_of_close hclose, Template.mapHoles_eq_self_of_ne _ hback] at himage
      simp only [List.cons.injEq, true_and, ← List.append_assoc] at himage
      rw [← List.append_cancel_right himage, List.append_assoc]
      have hbare := Text.startsBare_trimChars i.source.toList
      have hends := Text.endsBare_trimChars i.source.toList
      rw [h] at hbare hends
      exact Text.trimChars_eq hbefore hblanks (Template.startsBare_mapHoles _ hbare)
        (Template.endsBare_mapHoles _ hends)

/-- Renaming the source of an iteration renames the reference by place that is read in it,
or keeps it. -/
theorem gives_source {f : Renaming} (hf : f.IntoWords) (i : Iteration) {n : Nat}
    (hplace : Reference.place (Expression.split i.sourceExpression).reference = .ok (some n)) :
    f.Gives (Expression.split i.sourceExpression).reference
      (Expression.split ({ i with
        source := Renaming.expression f i.source } : Iteration).sourceExpression).reference := by
  rcases i.sourceExpression_cases with ⟨inside, htrim⟩ | hbare
  · have hnew := trimChars_expression hf htrim
    obtain ⟨image, himage, -⟩ := Template.mapHoles_braced (Renaming.keepsContent_inner hf) inside
    rw [htrim, himage] at hnew
    obtain ⟨before, reference, after, hcut, rfl⟩ := Expression.exists_cut inside
    rw [sourceExpression_of_braced i htrim, Expression.split_trimChars,
      Expression.split_of_cut hcut] at hplace ⊢
    dsimp only at hplace ⊢
    obtain ⟨hne, hinner⟩ := Reference.isInner_of_place hplace
    rw [String.toList_ofList] at hne hinner
    obtain ⟨reference', after', hcut', hgives, rfl⟩ :=
      Renaming.exists_cut_braced hf hcut hne hinner himage
    rw [sourceExpression_of_braced { i with source := Renaming.expression f i.source } hnew,
      Expression.split_trimChars, Expression.split_of_cut hcut']
    exact hgives
  · rw [hbare, Expression.split_trimChars] at hplace ⊢
    obtain ⟨before, reference, after, hcut, hsource⟩ := Expression.exists_cut i.source.toList
    rw [hsource, Expression.split_of_cut hcut] at hplace ⊢
    dsimp only at hplace ⊢
    obtain ⟨reference', after', hcut', hgives, himage⟩ :=
      Renaming.exists_cut_expression hf hcut hplace hsource
    have hopen : ¬ ['\x7b', '\x7b'] <+: Text.trimChars (Renaming.expression f i.source).toList := by
      rw [himage, hcut'.trimChars_eq]
      rintro ⟨others, hothers⟩
      obtain ⟨hne, hinner⟩ := hgives.isInner hf hplace
      rw [String.toList_ofList] at hne hinner
      obtain ⟨c, rest, rfl⟩ := List.exists_cons_of_ne_nil hne
      simp only [List.cons_append, List.nil_append, List.cons.injEq] at hothers
      have hc := hinner c List.mem_cons_self
      rw [← hothers.1] at hc
      exact absurd hc (by decide)
    rw [sourceExpression_of_not { i with source := Renaming.expression f i.source } hopen,
      Expression.split_trimChars, himage, Expression.split_of_cut hcut']
    exact hgives

end Iteration

end CallChain
