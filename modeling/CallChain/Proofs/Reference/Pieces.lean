/-
# The one way to cut a text

`Template.pieces` reads a text from the left. What it finds can be said without reading: the
pieces make the text, every hole is a placeholder, no placeholder stands within a literal
stretch, and no two literal stretches stand side by side. A text is cut like that in exactly
one way, because two placeholders never overlap.
-/

import CallChain.Proofs.Reference.Holes

namespace CallChain

namespace Template

/-- Whether pieces are a text cut at its placeholders. -/
structure IsCutInto (text : List Char) (ps : List Piece) : Prop where
  /-- The pieces make the text. -/
  render_eq : render ps = text
  /-- Some characters without braces stand in every hole. -/
  content : ∀ inner, .hole inner ∈ ps → IsContent inner
  /-- Literal stretches are not empty, and no placeholder stands within one. -/
  bare : ∀ stretch, .literal stretch ∈ ps → stretch ≠ [] ∧
    ∀ inner, IsContent inner → ¬ (Piece.hole inner).render <:+: stretch
  /-- No two literal stretches stand side by side. -/
  apart : ∀ first second, ¬ [.literal first, .literal second] <:+: ps

variable {text rest stretch inner : List Char} {ps : List Piece}

theorem isCutInto_nil : IsCutInto [] [] where
  render_eq := rfl
  content := nofun
  bare := nofun
  apart := by simp

theorem IsCutInto.hole (h : IsCutInto rest ps) (hinner : IsContent inner) :
    IsCutInto ((Piece.hole inner).render ++ rest) (.hole inner :: ps) where
  render_eq := by rw [← h.render_eq]; rfl
  content := by
    intro other hother
    rcases List.mem_cons.mp hother with heq | hother
    · cases heq
      exact hinner
    · exact h.content other hother
  bare := by
    intro stretch hstretch
    rcases List.mem_cons.mp hstretch with heq | hstretch
    · cases heq
    · exact h.bare stretch hstretch
  apart := by
    intro first second hwithin
    rcases List.infix_cons_iff.mp hwithin with hstart | hwithin
    · cases (List.cons_prefix_cons.mp hstart).1
    · exact h.apart first second hwithin

theorem IsCutInto.literal (h : IsCutInto rest ps) (hne : stretch ≠ [])
    (hbare : ∀ inner, IsContent inner → ¬ (Piece.hole inner).render <:+: stretch)
    (hps : ∀ other others, ps ≠ .literal other :: others) :
    IsCutInto (stretch ++ rest) (.literal stretch :: ps) where
  render_eq := by rw [← h.render_eq]; rfl
  content := by
    intro inner hinner
    rcases List.mem_cons.mp hinner with heq | hinner
    · cases heq
    · exact h.content inner hinner
  bare := by
    intro other hother
    rcases List.mem_cons.mp hother with heq | hother
    · cases heq
      exact ⟨hne, hbare⟩
    · exact h.bare other hother
  apart := by
    intro first second hwithin
    rcases List.infix_cons_iff.mp hwithin with hstart | hwithin
    · obtain ⟨others, hothers⟩ := (List.cons_prefix_cons.mp hstart).2
      exact hps second others hothers.symm
    · exact h.apart first second hwithin

/-- What stands behind the first piece is cut into the others. -/
theorem IsCutInto.tail {p : Piece} (h : IsCutInto text (p :: ps)) :
    text = p.render ++ render ps ∧ IsCutInto (render ps) ps where
  left := by rw [← h.render_eq]; rfl
  right :=
    { render_eq := rfl
      content := fun inner hinner => h.content inner (List.mem_cons_of_mem p hinner)
      bare := fun other hother => h.bare other (List.mem_cons_of_mem p hother)
      apart := fun first second hwithin => h.apart first second (List.infix_cons hwithin) }

theorem IsCutInto.ne_literal (h : IsCutInto text (.literal stretch :: ps)) (other : List Char)
    (others : List Piece) : ps ≠ .literal other :: others := by
  rintro rfl
  exact h.apart stretch other ⟨[], others, rfl⟩

/-! ## What is read from the left is such a cut -/

/-- No placeholder starts where none is read. -/
theorem not_prefix_of_holeAt? (h : holeAt? text = none) (hinner : IsContent inner) :
    ¬ (Piece.hole inner).render <+: text := by
  rintro ⟨rest, rfl⟩
  rw [holeAt?_render hinner] at h
  cases h

/-- A character at which no placeholder starts becomes part of the literal stretch behind it,
or a stretch of its own. -/
theorem IsCutInto.char {c : Char} (h : IsCutInto rest ps) (hnone : holeAt? (c :: rest) = none) :
    IsCutInto (c :: rest) (consLiteral c ps) := by
  have hbare : ∀ stretch, stretch <+: rest →
      (∀ inner, IsContent inner → ¬ (Piece.hole inner).render <:+: stretch) →
      ∀ inner, IsContent inner → ¬ (Piece.hole inner).render <:+: c :: stretch := by
    intro stretch hfirst hstretch inner hinner hwithin
    rcases List.infix_cons_iff.mp hwithin with hstart | hwithin
    · have hwhole : c :: stretch <+: c :: rest := List.cons_prefix_cons.mpr ⟨rfl, hfirst⟩
      exact not_prefix_of_holeAt? hnone hinner (hstart.trans hwhole)
    · exact hstretch inner hinner hwithin
  have halone : (∀ other others, ps ≠ .literal other :: others) →
      IsCutInto (c :: rest) (.literal [c] :: ps) := by
    refine fun hps => h.literal (List.cons_ne_nil c []) ?_ hps
    exact hbare [] (List.nil_prefix) fun inner _ hwithin => by simp [Piece.render] at hwithin
  cases ps with
  | nil => exact halone (by simp)
  | cons p others =>
      cases p with
      | hole inner => exact halone (by simp)
      | literal stretch =>
          obtain ⟨rfl, hothers⟩ := h.tail
          obtain ⟨-, hstretch⟩ := h.bare stretch List.mem_cons_self
          exact hothers.literal (List.cons_ne_nil c stretch)
            (hbare stretch (List.prefix_append _ _) hstretch) h.ne_literal

theorem isCutInto_pieces (text : List Char) : IsCutInto text (pieces text) := by
  induction text using Template.induction with
  | nil => exact isCutInto_nil
  | hole inner rest hinner ih =>
      rw [pieces_hole hinner]
      exact ih.hole hinner
  | char c rest hnone ih =>
      rw [pieces_char hnone]
      exact ih.char hnone

/-! ## There is no other cut -/

/-- A placeholder behind a stretch that holds none is read where it starts: none that started
earlier could reach into it. -/
theorem pieces_literal (hne : stretch ≠ [])
    (hbare : ∀ inner, IsContent inner → ¬ (Piece.hole inner).render <:+: stretch)
    (hrest : rest = [] ∨ ∃ inner tail, IsContent inner ∧ rest = (Piece.hole inner).render ++ tail) :
    pieces (stretch ++ rest) = .literal stretch :: pieces rest := by
  induction stretch with
  | nil => exact absurd rfl hne
  | cons c stretch ih =>
      have hnone : holeAt? (c :: (stretch ++ rest)) = none := by
        rcases holeAt?_cases (c :: stretch ++ rest) with ⟨inner, tail, hinner, htext⟩ | hnone
        · exfalso
          rcases List.append_eq_append_iff.mp htext with
            ⟨between, hsplit, hrest'⟩ | ⟨between, hsplit, -⟩
          · by_cases hempty : between = []
            · rw [hempty, List.append_nil] at hsplit
              exact hbare inner hinner ⟨[], [], by simpa using hsplit⟩
            · -- it would reach into what follows, which starts with doubled braces
              rcases hrest with rfl | ⟨next, others, -, rfl⟩
              · exact hempty (List.append_eq_nil_iff.mp hrest'.symm).1
              · exact List.cons_ne_nil c stretch
                  (eq_nil_of_render_eq hinner hsplit hempty hrest'.symm)
          · exact hbare inner hinner ⟨[], between, hsplit.symm⟩
        · exact hnone
      have hbare' : ∀ inner, IsContent inner → ¬ (Piece.hole inner).render <:+: stretch :=
        fun inner hinner hwithin => hbare inner hinner (List.infix_cons hwithin)
      rw [List.cons_append, pieces_char hnone]
      by_cases hempty : stretch = []
      · subst hempty
        rcases hrest with rfl | ⟨inner, tail, hinner, rfl⟩
        · rfl
        · rw [List.nil_append, pieces_hole hinner]
          rfl
      · rw [ih hempty hbare']
        rfl

theorem IsCutInto.eq_pieces (h : IsCutInto text ps) : ps = pieces text := by
  induction ps generalizing text with
  | nil =>
      obtain rfl : text = [] := h.render_eq.symm
      rfl
  | cons p ps ih =>
      obtain ⟨rfl, hps⟩ := h.tail
      have hrest := ih hps
      cases p with
      | hole inner =>
          rw [pieces_hole (h.content inner List.mem_cons_self), ← hrest]
      | literal stretch =>
          obtain ⟨hne, hbare⟩ := h.bare stretch List.mem_cons_self
          have hnext : render ps = [] ∨
              ∃ inner tail, IsContent inner ∧ render ps = (Piece.hole inner).render ++ tail := by
            match ps with
            | [] => exact Or.inl rfl
            | .literal other :: others => exact absurd rfl (h.ne_literal other others)
            | .hole inner :: others =>
                exact Or.inr ⟨inner, render others, hps.content inner List.mem_cons_self, rfl⟩
          rw [Piece.render, pieces_literal hne hbare hnext, ← hrest]

/-- A text is cut at its placeholders in one way only, the one in which it is read. -/
theorem isCutInto_iff : IsCutInto text ps ↔ ps = pieces text := by
  constructor
  · exact IsCutInto.eq_pieces
  · rintro rfl
    exact isCutInto_pieces text

end Template

end CallChain
