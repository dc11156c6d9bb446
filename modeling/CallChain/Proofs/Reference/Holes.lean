/-
# Holes of a text

A text is read from the left: at each place either a hole starts or a character
stands for itself. This module turns that reading into an induction principle and
derives what is needed to change the contents of holes. Changing them changes
nothing else: the new text has the same pieces, with the new contents in their
holes. Holes do not depend on what stands around them, so a text that is cut where
no hole is cut has the holes of its two parts.

Nothing here knows what the contents of a hole mean.
-/

import CallChain.Proofs.Text.Scanning
import CallChain.Proofs.Text.Trimming
import CallChain.Reference.Template

namespace CallChain

/-- A piece with the contents of a hole replaced by their image. -/
def Piece.mapInner (g : List Char → List Char) : Piece → Piece
  | literal text => literal text
  | hole inner => hole (g inner)

/-- What stands in a hole. -/
def Piece.inner? : Piece → Option (List Char)
  | literal _ => none
  | hole inner => some inner

namespace Template

/-- Whether characters can stand in a hole: there is at least one, and no brace. -/
def IsContent (inner : List Char) : Prop := inner ≠ [] ∧ ∀ c ∈ inner, isInner c = true

/-- The contents of the holes of a text, in order. -/
def holes (text : List Char) : List (List Char) := (pieces text).filterMap Piece.inner?

theorem mem_holes_iff_mem_pieces {inner text : List Char} :
    inner ∈ holes text ↔ Piece.hole inner ∈ pieces text := by
  rw [holes, List.mem_filterMap]
  constructor
  · rintro ⟨piece, hpiece, hinner⟩
    cases piece with
    | literal text => cases hinner
    | hole other =>
        cases hinner
        exact hpiece
  · exact fun h => ⟨_, h, rfl⟩

/-- A text with the contents of its holes replaced by their images. -/
def mapHoles (g : List Char → List Char) (text : List Char) : List Char :=
  render ((pieces text).map (Piece.mapInner g))

/-! ## Reading from the left -/

theorem isInner_close : isInner '\x7d' = false := by decide

theorem IsContent.ne_open {inner : List Char} (h : IsContent inner) {c : Char} (hc : c ∈ inner) :
    c ≠ '\x7b' := by
  rintro rfl
  exact absurd (h.2 _ hc) (by decide)

theorem IsContent.ne_close {inner : List Char} (h : IsContent inner) {c : Char} (hc : c ∈ inner) :
    c ≠ '\x7d' := by
  rintro rfl
  exact absurd (h.2 _ hc) (by decide)

/-- A hole is read where it stands, whatever follows it. -/
theorem holeAt?_render {inner : List Char} (h : IsContent inner) (rest : List Char) :
    holeAt? ((Piece.hole inner).render ++ rest) = some inner := by
  have htake : (inner ++ '\x7d' :: '\x7d' :: rest).takeWhile isInner = inner := by
    rw [List.takeWhile_append_of_pos h.2]
    simp [isInner_close]
  have hdrop : (inner ++ '\x7d' :: '\x7d' :: rest).dropWhile isInner
      = '\x7d' :: '\x7d' :: rest := by
    rw [List.dropWhile_append_of_pos h.2]
    simp [isInner_close]
  simp only [Piece.render, List.cons_append, List.append_assoc, List.nil_append, holeAt?]
  rw [hdrop, htake]
  simp [h.1]

theorem getLast?_render (inner : List Char) :
    (Piece.hole inner).render.getLast? = some '\x7d' := by
  simp [Piece.render, List.getLast?_cons, List.getLast?_append]

theorem isContent_of_holeAt? {text inner : List Char} (h : holeAt? text = some inner) :
    IsContent inner := by
  unfold holeAt? at h
  split at h
  · next rest =>
    dsimp only at h
    split at h
    · split at h
      · cases h
      · next hne =>
        cases h
        refine ⟨by simpa using hne, fun c hc => ?_⟩
        exact List.all_eq_true.mp List.all_takeWhile c hc
    · cases h
  · cases h

/-- A text starts with a hole, or no hole starts at its first character. -/
theorem holeAt?_cases (text : List Char) :
    (∃ inner rest, IsContent inner ∧ text = (Piece.hole inner).render ++ rest) ∨
      holeAt? text = none := by
  cases h : holeAt? text with
  | none => exact Or.inr rfl
  | some inner =>
      obtain ⟨rest, hrest⟩ := eq_of_holeAt? h
      exact Or.inl ⟨inner, rest, isContent_of_holeAt? h, hrest⟩

@[simp]
theorem pieces_nil : pieces [] = [] := rfl

theorem pieces_hole {inner : List Char} (h : IsContent inner) (rest : List Char) :
    pieces ((Piece.hole inner).render ++ rest) = .hole inner :: pieces rest := by
  have hread := holeAt?_render h rest
  have hskip := Text.skip_append piecesFrom (fun _ _ _ => rfl)
    ('\x7b' :: inner ++ ['\x7d', '\x7d']) rest
  have hlength : ('\x7b' :: inner ++ ['\x7d', '\x7d']).length = inner.length + 3 := by simp
  rw [hlength] at hskip
  rw [Piece.render, List.cons_append, List.cons_append] at hread ⊢
  rw [pieces, piecesFrom, hread]
  exact congrArg (Piece.hole inner :: ·) hskip

theorem pieces_char {c : Char} {rest : List Char} (h : holeAt? (c :: rest) = none) :
    pieces (c :: rest) = consLiteral c (pieces rest) := by
  rw [pieces, piecesFrom, h]
  rfl

/-- Induction on a text as it is read: it is empty, or starts with a hole, or with a
character at which no hole starts. -/
theorem induction {P : List Char → Prop} (nil : P [])
    (hole : ∀ inner rest, IsContent inner → P rest → P ((Piece.hole inner).render ++ rest))
    (char : ∀ c rest, holeAt? (c :: rest) = none → P rest → P (c :: rest)) :
    ∀ text, P text :=
  Text.induction_of_pieces (fun _ => List.cons_ne_nil _ _) holeAt?_cases nil hole char

/-! ## Changing the contents of holes -/

section MapHoles

variable (g : List Char → List Char)

@[simp]
theorem mapHoles_nil : mapHoles g [] = [] := rfl

theorem mapHoles_hole {inner : List Char} (h : IsContent inner) (rest : List Char) :
    mapHoles g ((Piece.hole inner).render ++ rest) =
      (Piece.hole (g inner)).render ++ mapHoles g rest := by
  rw [mapHoles, pieces_hole h]
  rfl

theorem mapHoles_char {c : Char} {rest : List Char} (h : holeAt? (c :: rest) = none) :
    mapHoles g (c :: rest) = c :: mapHoles g rest := by
  have hmap : ∀ ps : List Piece,
      (consLiteral c ps).map (Piece.mapInner g) = consLiteral c (ps.map (Piece.mapInner g)) := by
    intro ps
    match ps with
    | [] => rfl
    | .literal text :: others => rfl
    | .hole inner :: others => rfl
  rw [mapHoles, pieces_char h, hmap, render_consLiteral]
  rfl

theorem holeAt?_eq_none_of_ne {c : Char} (hc : c ≠ '\x7b') (rest : List Char) :
    holeAt? (c :: rest) = none := by
  unfold holeAt?
  split
  · next heq =>
    cases heq
    exact absurd rfl hc
  · rfl

theorem mapHoles_cons_of_ne {c : Char} (hc : c ≠ '\x7b') (rest : List Char) :
    mapHoles g (c :: rest) = c :: mapHoles g rest :=
  mapHoles_char g (holeAt?_eq_none_of_ne hc rest)

/-- A stretch without an opening brace is left alone. -/
theorem mapHoles_append_of_ne {front : List Char} (hfront : ∀ c ∈ front, c ≠ '\x7b')
    (rest : List Char) : mapHoles g (front ++ rest) = front ++ mapHoles g rest := by
  induction front with
  | nil => rfl
  | cons c front ih =>
      have hc : c ≠ '\x7b' := hfront c List.mem_cons_self
      rw [List.cons_append, mapHoles_cons_of_ne g hc,
        ih fun d hd => hfront d (List.mem_cons_of_mem c hd), List.cons_append]

theorem mapHoles_eq_self_of_ne {text : List Char} (h : ∀ c ∈ text, c ≠ '\x7b') :
    mapHoles g text = text := by
  have hwhole := mapHoles_append_of_ne g h []
  rwa [List.append_nil, mapHoles_nil, List.append_nil] at hwhole

/-- What follows a character of the new text, other than an opening brace, comes from
what follows the same character of the old one. -/
theorem eq_cons_of_mapHoles {text tail : List Char} {c : Char} (hc : c ≠ '\x7b')
    (h : mapHoles g text = c :: tail) : ∃ rest, text = c :: rest ∧ mapHoles g rest = tail := by
  cases text with
  | nil => simp at h
  | cons d rest =>
      rcases holeAt?_cases (d :: rest) with ⟨inner, others, hinner, htext⟩ | hnone
      · rw [htext, mapHoles_hole g hinner] at h
        simp only [Piece.render, List.cons_append, List.cons.injEq] at h
        exact absurd h.1.symm hc
      · rw [mapHoles_char g hnone, List.cons.injEq] at h
        obtain ⟨rfl, h⟩ := h
        exact ⟨rest, rfl, h⟩

theorem eq_append_of_mapHoles {text front tail : List Char} (hfront : ∀ c ∈ front, c ≠ '\x7b')
    (h : mapHoles g text = front ++ tail) :
    ∃ rest, text = front ++ rest ∧ mapHoles g rest = tail := by
  induction front generalizing text with
  | nil => exact ⟨text, rfl, h⟩
  | cons c front ih =>
      obtain ⟨rest, rfl, hrest⟩ :=
        eq_cons_of_mapHoles g (hfront c List.mem_cons_self) (by simpa using h)
      obtain ⟨others, rfl, hothers⟩ :=
        ih (fun d hd => hfront d (List.mem_cons_of_mem c hd)) hrest
      exact ⟨others, rfl, hothers⟩

/-- Whether the images of contents of holes can stand in holes again. -/
def KeepsContent : Prop := ∀ inner, IsContent inner → IsContent (g inner)

variable {g}

/-- Changing the holes behind a character makes no hole start at it. -/
theorem holeAt?_cons_mapHoles {c : Char} {rest : List Char}
    (h : holeAt? (c :: rest) = none) : holeAt? (c :: mapHoles g rest) = none := by
  rcases holeAt?_cases (c :: mapHoles g rest) with ⟨inner, tail, hinner, htext⟩ | hnone
  · exfalso
    simp only [Piece.render, List.cons_append, List.append_assoc, List.cons.injEq,
      List.nil_append] at htext
    obtain ⟨rfl, htext⟩ := htext
    cases rest with
    | nil => simp at htext
    | cons d rest =>
        rcases holeAt?_cases (d :: rest) with ⟨first, others, hfirst, hrest⟩ | hnone
        · -- two more braces would follow the first one, and no brace stands in a hole
          rw [hrest, mapHoles_hole g hfirst] at htext
          simp only [Piece.render, List.cons_append, List.cons.injEq] at htext
          cases inner with
          | nil => exact hinner.1 rfl
          | cons e inner =>
              simp only [List.cons_append, List.cons.injEq, true_and] at htext
              exact hinner.ne_open List.mem_cons_self htext.1.symm
        · rw [mapHoles_char g hnone, List.cons.injEq] at htext
          obtain ⟨rfl, htext⟩ := htext
          obtain ⟨closed, rfl, hclosed⟩ :=
            eq_append_of_mapHoles g (fun e he => hinner.ne_open he) htext
          obtain ⟨half, rfl, hhalf⟩ := eq_cons_of_mapHoles g (by decide) hclosed
          obtain ⟨others, rfl, -⟩ := eq_cons_of_mapHoles g (by decide) hhalf
          have hread := holeAt?_render hinner others
          simp only [Piece.render, List.cons_append, List.append_assoc, List.nil_append] at hread
          rw [hread] at h
          cases h
  · exact hnone

/-- The new text has the old pieces, with the new contents in its holes. -/
theorem pieces_mapHoles (hg : KeepsContent g) (text : List Char) :
    pieces (mapHoles g text) = (pieces text).map (Piece.mapInner g) := by
  induction text using Template.induction with
  | nil => rfl
  | hole inner rest hinner ih =>
      rw [mapHoles_hole g hinner, pieces_hole (hg inner hinner), pieces_hole hinner, ih]
      rfl
  | char c rest hnone ih =>
      rw [mapHoles_char g hnone, pieces_char (holeAt?_cons_mapHoles hnone), pieces_char hnone, ih]
      match pieces rest with
      | [] => rfl
      | .literal text :: others => rfl
      | .hole inner :: others => rfl

theorem holes_mapHoles (hg : KeepsContent g) (text : List Char) :
    holes (mapHoles g text) = (holes text).map g := by
  rw [holes, pieces_mapHoles hg, holes, List.filterMap_map, List.map_filterMap]
  apply congrArg (fun f => List.filterMap f (pieces text))
  funext p
  cases p <;> rfl

theorem mapHoles_mapHoles (hg : KeepsContent g) (k : List Char → List Char) (text : List Char) :
    mapHoles k (mapHoles g text) = mapHoles (k ∘ g) text := by
  rw [mapHoles, pieces_mapHoles hg, mapHoles, List.map_map]
  apply congrArg (fun f => render ((pieces text).map f))
  funext p
  cases p <;> rfl

theorem mapHoles_congr {k : List Char → List Char} {text : List Char}
    (h : ∀ inner ∈ holes text, g inner = k inner) : mapHoles g text = mapHoles k text := by
  rw [mapHoles, mapHoles]
  apply congrArg render
  apply List.map_congr_left
  intro p hp
  cases p with
  | literal text => rfl
  | hole inner =>
      have hmem : inner ∈ holes text := List.mem_filterMap.mpr ⟨_, hp, rfl⟩
      exact congrArg Piece.hole (h inner hmem)

theorem mapHoles_id (text : List Char) : mapHoles id text = text := by
  have hid : Piece.mapInner id = id := by
    funext p
    cases p <;> rfl
  rw [mapHoles, hid, List.map_id, render_pieces]

theorem mapHoles_eq_self {text : List Char} (h : ∀ inner ∈ holes text, g inner = inner) :
    mapHoles g text = text := by
  rw [mapHoles_congr (k := id) h, mapHoles_id]

end MapHoles

/-! ## Holes do not depend on what stands around them -/

theorem holes_hole {inner : List Char} (h : IsContent inner) (rest : List Char) :
    holes ((Piece.hole inner).render ++ rest) = inner :: holes rest := by
  rw [holes, pieces_hole h]
  rfl

theorem holes_char {c : Char} {rest : List Char} (h : holeAt? (c :: rest) = none) :
    holes (c :: rest) = holes rest := by
  rw [holes, pieces_char h, holes]
  match pieces rest with
  | [] => rfl
  | .literal text :: others => rfl
  | .hole inner :: others => rfl

theorem holes_append_of_ne {front : List Char} (hfront : ∀ c ∈ front, c ≠ '\x7b')
    (rest : List Char) : holes (front ++ rest) = holes rest := by
  induction front with
  | nil => rfl
  | cons c front ih =>
      rw [List.cons_append, holes_char (holeAt?_eq_none_of_ne (hfront c List.mem_cons_self) _),
        ih fun d hd => hfront d (List.mem_cons_of_mem c hd)]

/-- Doubled opening braces stand in a hole at its start only. -/
theorem eq_nil_of_render_eq {inner front between others tail : List Char} (h : IsContent inner)
    (hsplit : (Piece.hole inner).render = front ++ between) (hne : between ≠ [])
    (hopen : between ++ others = '\x7b' :: '\x7b' :: tail) : front = [] := by
  have htail : ∀ c ∈ inner ++ ['\x7d', '\x7d'], c ≠ '\x7b' := by
    intro c hc
    rcases List.mem_append.mp hc with hc | hc
    · exact h.ne_open hc
    · rintro rfl
      simp at hc
  cases between with
  | nil => exact absurd rfl hne
  | cons c between =>
      simp only [List.cons_append, List.cons.injEq] at hopen
      obtain ⟨rfl, hopen⟩ := hopen
      simp only [Piece.render, List.cons_append] at hsplit
      rcases front with _ | ⟨d, _ | ⟨e, front⟩⟩
      · rfl
      · simp only [List.cons_append, List.nil_append, List.cons.injEq, true_and] at hsplit
        obtain ⟨rfl, hsplit⟩ := hsplit
        have hnonempty : inner ++ ['\x7d', '\x7d'] ≠ [] := by simp
        obtain ⟨e, rest, he⟩ := List.exists_cons_of_ne_nil hnonempty
        rw [← hsplit, he, List.cons_append, List.cons.injEq] at hopen
        exact absurd hopen.1 (htail e (he ▸ List.mem_cons_self))
      · simp only [List.cons_append, List.cons.injEq] at hsplit
        have hmem : '\x7b' ∈ inner ++ ['\x7d', '\x7d'] := by
          rw [hsplit.2.2]
          simp
        exact absurd rfl (htail _ hmem)

/-- A text has a hole wherever doubled braces enclose what can stand in one. -/
theorem mem_holes_iff {inner text : List Char} :
    inner ∈ holes text ↔
      IsContent inner ∧ ∃ front rest, text = front ++ ((Piece.hole inner).render ++ rest) := by
  induction text using Template.induction with
  | nil =>
      constructor
      · intro h
        simp [holes] at h
      · rintro ⟨-, front, rest, h⟩
        simp [Piece.render] at h
  | hole first others hfirst ih =>
      rw [holes_hole hfirst, List.mem_cons, ih]
      constructor
      · rintro (rfl | ⟨hinner, front, rest, rfl⟩)
        · exact ⟨hfirst, [], others, rfl⟩
        · exact ⟨hinner, (Piece.hole first).render ++ front, rest, by simp⟩
      · rintro ⟨hinner, front, rest, htext⟩
        rcases List.append_eq_append_iff.mp htext with
          ⟨between, hfront, hrest⟩ | ⟨between, hfront, hrest⟩
        · exact Or.inr ⟨hinner, between, rest, hrest⟩
        · -- the hole starts within the first one: at its start, or where it ends
          by_cases hne : between = []
          · subst hne
            exact Or.inr ⟨hinner, [], rest, hrest.symm⟩
          · have hnil : front = [] := eq_nil_of_render_eq hfirst hfront hne hrest.symm
            subst hnil
            have hread := holeAt?_render hfirst others
            rw [htext, List.nil_append, holeAt?_render hinner, Option.some.injEq] at hread
            exact Or.inl hread
  | char c others hnone ih =>
      rw [holes_char hnone, ih]
      constructor
      · rintro ⟨hinner, front, rest, rfl⟩
        exact ⟨hinner, c :: front, rest, rfl⟩
      · rintro ⟨hinner, front, rest, htext⟩
        cases front with
        | nil =>
            rw [htext, List.nil_append, holeAt?_render hinner] at hnone
            cases hnone
        | cons d front =>
            rw [List.cons_append, List.cons.injEq] at htext
            exact ⟨hinner, front, rest, htext.2⟩

/-! ## Cutting a text -/

section Cut

variable {g : List Char → List Char}

theorem holes_eq_nil {text : List Char} (h : '\x7d' ∉ text) : holes text = [] := by
  rw [List.eq_nil_iff_forall_not_mem]
  intro inner hmem
  obtain ⟨-, front, rest, rfl⟩ := mem_holes_iff.mp hmem
  exact h (by simp [Piece.render])

/-- What stands in a hole that a cut goes through, when the second part starts with no
brace. -/
theorem exists_content_of_cut {inner front back : List Char}
    (hsplit : (Piece.hole inner).render = front ++ back) (hfront : front ≠ []) (hback : back ≠ [])
    (hhead : ∀ c, back.head? = some c → isInner c = true) :
    ∃ first second, inner = first ++ second ∧ front = '\x7b' :: '\x7b' :: first ∧
      back = second ++ ['\x7d', '\x7d'] := by
  cases back with
  | nil => exact absurd rfl hback
  | cons c back =>
      have hc : isInner c = true := hhead c rfl
      simp only [Piece.render, List.cons_append] at hsplit
      rcases front with _ | ⟨d, _ | ⟨e, first⟩⟩
      · exact absurd rfl hfront
      · simp only [List.cons_append, List.nil_append, List.cons.injEq] at hsplit
        rw [← hsplit.2.1] at hc
        exact absurd hc (by decide)
      · simp only [List.cons_append, List.cons.injEq] at hsplit
        obtain ⟨rfl, rfl, hrest⟩ := hsplit
        rcases List.append_eq_append_iff.mp hrest with
          ⟨between, hfirst, hends⟩ | ⟨between, hinner, hends⟩
        · -- the cut would lie between the closing braces
          exfalso
          rcases between with _ | ⟨x, _ | ⟨y, others⟩⟩
          · simp only [List.nil_append, List.cons.injEq] at hends
            rw [← hends.1] at hc
            exact absurd hc (by decide)
          · simp only [List.cons_append, List.nil_append, List.cons.injEq] at hends
            rw [← hends.2.1] at hc
            exact absurd hc (by decide)
          · simp at hends
        · exact ⟨first, between, hinner, rfl, hends⟩

/-- A text may be cut anywhere, if this holds of the stretches that a hole through the cut
starts. -/
theorem mapHoles_append_of_through {front back : List Char}
    (hthrough : ∀ inner before first second after, IsContent inner →
      (Piece.hole inner).render = first ++ second → first ≠ [] → second ≠ [] →
      front = before ++ first → back = second ++ after →
      mapHoles g (first ++ back) = mapHoles g first ++ mapHoles g back) :
    mapHoles g (front ++ back) = mapHoles g front ++ mapHoles g back := by
  induction front using Template.induction with
  | nil => rfl
  | hole inner rest hinner ih =>
      rw [List.append_assoc, mapHoles_hole g hinner, mapHoles_hole g hinner, List.append_assoc,
        ih fun other before first second after hother hsplit hfirst hsecond hrest hback =>
          hthrough other ((Piece.hole inner).render ++ before) first second after hother hsplit
            hfirst hsecond (by simp [hrest]) hback]
  | char c rest hnone ih =>
      have hrest : mapHoles g (rest ++ back) = mapHoles g rest ++ mapHoles g back :=
        ih fun other before first second after hother hsplit hfirst hsecond hbefore hback =>
          hthrough other (c :: before) first second after hother hsplit hfirst hsecond
            (by simp [hbefore]) hback
      rcases holeAt?_cases (c :: rest ++ back) with ⟨inner, others, hinner, htext⟩ | hwhole
      · rcases List.append_eq_append_iff.mp htext with
          ⟨between, hrender, hback⟩ | ⟨between, hfront, -⟩
        · have hne : between ≠ [] := by
            rintro rfl
            have hread := holeAt?_render hinner []
            rw [hrender, List.append_nil, List.append_nil, hnone] at hread
            cases hread
          exact hthrough inner [] (c :: rest) between others hinner hrender (by simp) hne rfl hback
        · rw [hfront, holeAt?_render hinner] at hnone
          cases hnone
      · rw [List.cons_append] at hwhole ⊢
        rw [mapHoles_char g hwhole, mapHoles_char g hnone, hrest, List.cons_append]

/-- A text may be cut where the second part starts with no brace, if a hole that the cut
goes through keeps its contents. -/
theorem mapHoles_append {front back : List Char}
    (hhead : ∀ c, back.head? = some c → isInner c = true)
    (hcut : ∀ first second before after, IsContent (first ++ second) →
      front = before ++ '\x7b' :: '\x7b' :: first → back = second ++ '\x7d' :: '\x7d' :: after →
      g (first ++ second) = first ++ second) :
    mapHoles g (front ++ back) = mapHoles g front ++ mapHoles g back := by
  apply mapHoles_append_of_through
  intro inner before opened closed after hinner hrender hopened hclosed hfront hback
  have hstart : ∀ d, closed.head? = some d → isInner d = true := by
    intro d hd
    apply hhead
    rw [hback, List.head?_append, hd]
    rfl
  obtain ⟨first, second, rfl, rfl, rfl⟩ :=
    exists_content_of_cut hrender hopened hclosed hstart
  have hkeep : g (first ++ second) = first ++ second :=
    hcut first second before after hinner hfront (by simp [hback])
  -- before the cut the hole is not closed yet, and behind it none is opened
  have hfirst : mapHoles g ('\x7b' :: '\x7b' :: first) = '\x7b' :: '\x7b' :: first := by
    apply mapHoles_eq_self
    rw [holes_eq_nil fun hclose => ?_]
    · nofun
    · simp only [List.mem_cons] at hclose
      rcases hclose with hclose | hclose | hclose
      · cases hclose
      · cases hclose
      · exact hinner.ne_close (List.mem_append_left second hclose) rfl
  have hsecond : mapHoles g back = second ++ '\x7d' :: '\x7d' :: mapHoles g after := by
    rw [hback, mapHoles_append_of_ne]
    · simp
    · intro d hd
      rcases List.mem_append.mp hd with hd | hd
      · exact hinner.ne_open (List.mem_append_right first hd)
      · rintro rfl
        simp at hd
  have hwhole : ('\x7b' :: '\x7b' :: first) ++ back =
      (Piece.hole (first ++ second)).render ++ after := by
    rw [hback, hrender]
    exact (List.append_assoc _ _ _).symm
  rw [hwhole, mapHoles_hole g hinner, hkeep, hfirst, hsecond]
  simp [Piece.render]

/-- What follows a text and holds no brace is left alone. -/
theorem mapHoles_append_of_isInner {front back : List Char} (hback : ∀ c ∈ back, isInner c = true) :
    mapHoles g (front ++ back) = mapHoles g front ++ back := by
  have hclose : '\x7d' ∉ back := fun hmem => absurd (hback _ hmem) (by decide)
  have hself : mapHoles g back = back := by
    apply mapHoles_eq_self
    rw [holes_eq_nil hclose]
    intro inner hmem
    cases hmem
  rw [mapHoles_append, hself]
  · intro c hc
    exact hback c (List.mem_of_mem_head? hc)
  · rintro first second before after - - rfl
    exact absurd (by simp) hclose

theorem eq_concat_close {front back image closing : List Char}
    (h : image ++ closing = front ++ back) (hclose : closing <:+ back) :
    ∃ rest, back = rest ++ closing ∧ image = front ++ rest := by
  obtain ⟨rest, rfl⟩ := hclose
  rw [← List.append_assoc] at h
  exact ⟨rest, rfl, List.append_cancel_right h⟩

/-- A hole holds all that stands between its opening braces and the next brace. -/
theorem exists_content_append {front back inner rest : List Char}
    (hfront : ∀ c ∈ front, isInner c = true)
    (h : '\x7b' :: '\x7b' :: (front ++ back) = (Piece.hole inner).render ++ rest) :
    ∃ between, inner = front ++ between := by
  simp only [Piece.render, List.cons_append, List.cons.injEq, true_and] at h
  rw [List.append_assoc inner] at h
  rcases List.append_eq_append_iff.mp h with
    ⟨between, hbetween, -⟩ | ⟨between, hbetween, htail⟩
  · exact ⟨between, hbetween⟩
  · cases between with
    | nil => exact ⟨[], by rw [hbetween, List.append_nil, List.append_nil]⟩
    | cons c between =>
        simp only [List.cons_append, List.cons.injEq] at htail
        have hc := hfront c (by rw [hbetween]; simp)
        rw [← htail.1] at hc
        exact absurd hc (by decide)

/-- No hole starts at a brace that no other opening brace follows. -/
theorem holeAt?_open_cons {c : Char} (hc : c ≠ '\x7b') (rest : List Char) :
    holeAt? ('\x7b' :: c :: rest) = none := by
  rcases holeAt?_cases ('\x7b' :: c :: rest) with ⟨inner, others, -, htext⟩ | hnone
  · simp only [Piece.render, List.cons_append, List.cons.injEq, true_and] at htext
    exact absurd htext.1 hc
  · exact hnone

/-- What stands between doubled opening braces and the next brace is left alone where no hole
starts. -/
theorem mapHoles_open_append {front : List Char} (hne : front ≠ [])
    (hfront : ∀ c ∈ front, isInner c = true) (rest : List Char)
    (hnone : holeAt? ('\x7b' :: '\x7b' :: (front ++ rest)) = none) :
    mapHoles g ('\x7b' :: '\x7b' :: (front ++ rest)) =
      '\x7b' :: '\x7b' :: (front ++ mapHoles g rest) := by
  have hopen : ∀ c ∈ front, c ≠ '\x7b' := by
    rintro c hc rfl
    exact absurd (hfront _ hc) (by decide)
  obtain ⟨c, others, rfl⟩ := List.exists_cons_of_ne_nil hne
  have hsecond := holeAt?_open_cons (hopen c List.mem_cons_self) (others ++ rest)
  rw [← mapHoles_append_of_ne g hopen, mapHoles_char g hnone]
  exact congrArg (List.cons '\x7b') (mapHoles_char g hsecond)

/-- No hole starts at doubled braces when the next brace opens again. -/
theorem holeAt?_open_open {front : List Char} (hfront : ∀ c ∈ front, isInner c = true)
    (rest : List Char) : holeAt? ('\x7b' :: '\x7b' :: (front ++ '\x7b' :: rest)) = none := by
  have hdrop : (front ++ '\x7b' :: rest).dropWhile isInner = '\x7b' :: rest := by
    rw [List.dropWhile_append_of_pos hfront, List.dropWhile_cons_of_neg (by decide)]
  simp only [holeAt?]
  rw [hdrop]
  rfl

/-- A text may be cut where no hole goes through the cut. -/
theorem mapHoles_append_of_uncut {front : List Char}
    (hcut : ∀ inner first second, IsContent inner → (Piece.hole inner).render = first ++ second →
      first ≠ [] → second ≠ [] → ¬ first <:+ front) (back : List Char) :
    mapHoles g (front ++ back) = mapHoles g front ++ mapHoles g back := by
  apply mapHoles_append_of_through
  rintro inner before first second - hinner hrender hfirst hsecond rfl -
  exact absurd (List.suffix_append before first)
    (hcut inner first second hinner hrender hfirst hsecond)

/-- A text may be cut after doubled closing braces: only the end of a hole has them. -/
theorem mapHoles_append_of_close {front : List Char} (hclose : ['\x7d', '\x7d'] <:+ front)
    (back : List Char) : mapHoles g (front ++ back) = mapHoles g front ++ mapHoles g back := by
  apply mapHoles_append_of_uncut
  intro inner first second hinner hsplit hfirst hsecond hsuffix
  have hnone : inner.count '\x7d' = 0 :=
    List.count_eq_zero.mpr fun hmem => hinner.ne_close hmem rfl
  have hcount : first.count '\x7d' + second.count '\x7d' = 2 := by
    rw [← List.count_append, ← hsplit]
    simp [Piece.render, List.count_append, hnone]
  have hlast : 0 < second.count '\x7d' := by
    rw [List.count_pos_iff]
    have hend := getLast?_render inner
    rw [hsplit, List.getLast?_append, List.getLast?_eq_some_getLast hsecond, Option.some_or,
      Option.some.injEq] at hend
    rw [← hend]
    exact List.getLast_mem hsecond
  rcases first with _ | ⟨c, _ | ⟨d, tail⟩⟩
  · exact hfirst rfl
  · obtain ⟨before, rfl⟩ := hsuffix
    obtain ⟨others, hothers⟩ := hclose
    have hsame := congrArg List.getLast? hothers
    simp only [Piece.render, List.cons_append, List.nil_append, List.cons.injEq] at hsplit
    rw [List.getLast?_concat, ← hsplit.1] at hsame
    simp at hsame
  · have htwo : ['\x7d', '\x7d'] <:+ c :: d :: tail :=
      List.suffix_of_suffix_length_le hclose hsuffix (by simp)
    have hle := htwo.sublist.count_le '\x7d'
    simp only [List.count_cons_self, List.count_nil] at hle
    omega

end Cut

/-! ## What the first and last characters become -/

section Ends

variable (g : List Char → List Char)

@[simp]
theorem head?_mapHoles (text : List Char) : (mapHoles g text).head? = text.head? := by
  rcases holeAt?_cases text with ⟨inner, rest, hinner, rfl⟩ | hnone
  · rw [mapHoles_hole g hinner]
    rfl
  · cases text with
    | nil => rfl
    | cons c rest => rw [mapHoles_char g hnone, List.head?_cons, List.head?_cons]

@[simp]
theorem mapHoles_eq_nil_iff {text : List Char} : mapHoles g text = [] ↔ text = [] := by
  rw [← List.head?_eq_none_iff, head?_mapHoles, List.head?_eq_none_iff]

@[simp]
theorem getLast?_mapHoles (text : List Char) : (mapHoles g text).getLast? = text.getLast? := by
  induction text using Template.induction with
  | nil => rfl
  | hole inner rest hinner ih =>
      rw [mapHoles_hole g hinner, List.getLast?_append, List.getLast?_append, ih,
        getLast?_render, getLast?_render]
  | char c rest hnone ih =>
      rw [mapHoles_char g hnone, List.getLast?_cons, List.getLast?_cons, ih]

theorem exists_mapHoles_cons (c : Char) (rest : List Char) :
    ∃ tail, mapHoles g (c :: rest) = c :: tail :=
  List.head?_eq_some_iff.mp (head?_mapHoles g (c :: rest))

/-- What stands before the first brace is found again. -/
theorem takeWhile_mapHoles {p : Char → Bool} (hp : p '\x7b' = false) (text : List Char) :
    (mapHoles g text).takeWhile p = text.takeWhile p ∧
      (mapHoles g text).dropWhile p = mapHoles g (text.dropWhile p) := by
  induction text with
  | nil => exact ⟨rfl, rfl⟩
  | cons c rest ih =>
      by_cases hc : p c = true
      · have hne : c ≠ '\x7b' := by
          rintro rfl
          rw [hp] at hc
          cases hc
        rw [mapHoles_cons_of_ne g hne, List.takeWhile_cons_of_pos hc, List.takeWhile_cons_of_pos hc,
          List.dropWhile_cons_of_pos hc, List.dropWhile_cons_of_pos hc, ih.1, ih.2]
        exact ⟨rfl, rfl⟩
      · obtain ⟨tail, htail⟩ := exists_mapHoles_cons g c rest
        rw [List.takeWhile_cons_of_neg hc, List.dropWhile_cons_of_neg hc, htail,
          List.takeWhile_cons_of_neg hc, List.dropWhile_cons_of_neg hc]
        exact ⟨rfl, rfl⟩

/-- Closing braces at the end stay there. -/
theorem close_suffix_mapHoles {text : List Char} (h : ['\x7d', '\x7d'] <:+ text) :
    ['\x7d', '\x7d'] <:+ mapHoles g text := by
  induction text using Template.induction with
  | nil => simp at h
  | hole inner rest hinner ih =>
      rw [mapHoles_hole g hinner]
      rcases rest with _ | ⟨c, _ | ⟨d, others⟩⟩
      · exact ⟨'\x7b' :: '\x7b' :: g inner, by simp [Piece.render]⟩
      · have hlast : ((Piece.hole inner).render ++ [c]).getLast? = some '\x7d' := by
          obtain ⟨front, hfront⟩ := h
          rw [← hfront]
          simp
        rw [List.getLast?_concat, Option.some.injEq] at hlast
        subst hlast
        exact ⟨'\x7b' :: '\x7b' :: g inner ++ ['\x7d'], by
          rw [mapHoles_cons_of_ne g (by decide)]
          simp [Piece.render]⟩
      · have hrest : ['\x7d', '\x7d'] <:+ c :: d :: others :=
          List.suffix_of_suffix_length_le h (List.suffix_append _ _) (by simp)
        exact List.suffix_append_of_suffix (ih hrest)
  | char c rest hnone ih =>
      rw [mapHoles_char g hnone]
      rcases rest with _ | ⟨d, _ | ⟨e, others⟩⟩
      · exact absurd h.length_le (by simp)
      · have heq : ['\x7d', '\x7d'] = [c, d] := h.eq_of_length rfl
        simp only [List.cons.injEq, and_true] at heq
        obtain ⟨rfl, rfl⟩ := heq
        rw [mapHoles_cons_of_ne g (by decide)]
        exact List.suffix_rfl
      · have hrest : ['\x7d', '\x7d'] <:+ d :: e :: others :=
          List.suffix_of_suffix_length_le h (List.suffix_cons _ _) (by simp)
        exact List.suffix_cons_iff.mpr (Or.inr (ih hrest))

/-- A text between doubled braces stays between doubled braces. -/
theorem exists_mapHoles_braced (text : List Char) :
    ∃ image, mapHoles g ('\x7b' :: '\x7b' :: (text ++ ['\x7d', '\x7d'])) =
      '\x7b' :: '\x7b' :: (image ++ ['\x7d', '\x7d']) := by
  have hopen : ['\x7b', '\x7b'] <+:
      mapHoles g ('\x7b' :: '\x7b' :: (text ++ ['\x7d', '\x7d'])) := by
    rcases holeAt?_cases ('\x7b' :: '\x7b' :: (text ++ ['\x7d', '\x7d'])) with
      ⟨inner, rest, hinner, htext⟩ | hnone
    · rw [htext, mapHoles_hole g hinner]
      exact ⟨g inner ++ ['\x7d', '\x7d'] ++ mapHoles g rest, by simp [Piece.render]⟩
    · rw [mapHoles_char g hnone]
      obtain ⟨tail, htail⟩ := exists_mapHoles_cons g '\x7b' (text ++ ['\x7d', '\x7d'])
      exact ⟨tail, by rw [htail]; rfl⟩
  have hclose : ['\x7d', '\x7d'] <:+
      mapHoles g ('\x7b' :: '\x7b' :: (text ++ ['\x7d', '\x7d'])) :=
    close_suffix_mapHoles g ⟨'\x7b' :: '\x7b' :: text, by simp⟩
  obtain ⟨front, hfront⟩ := hclose
  rw [← hfront] at hopen ⊢
  rcases front with _ | ⟨c, _ | ⟨d, image⟩⟩
  · simp at hopen
  · simp at hopen
  · simp only [List.cons_append, List.cons_prefix_cons, List.nil_prefix, and_true] at hopen
    obtain ⟨rfl, rfl⟩ := hopen
    exact ⟨image, rfl⟩

variable {g}

/-- As many opening braces stand at the start as before. -/
theorem takeWhile_open_mapHoles (hg : KeepsContent g) (text : List Char) :
    (mapHoles g text).takeWhile (· = '\x7b') = text.takeWhile (· = '\x7b') := by
  have hstop : ∀ {inner : List Char} (rest : List Char), IsContent inner →
      ((Piece.hole inner).render ++ rest).takeWhile (· = '\x7b') = ['\x7b', '\x7b'] := by
    intro inner rest hinner
    obtain ⟨c, others, rfl⟩ := List.exists_cons_of_ne_nil hinner.1
    have hc : c ≠ '\x7b' := hinner.ne_open List.mem_cons_self
    simp [Piece.render, hc]
  induction text using Template.induction with
  | nil => rfl
  | hole inner rest hinner ih =>
      rw [mapHoles_hole g hinner, hstop _ hinner, hstop _ (hg inner hinner)]
  | char c rest hnone ih =>
      rw [mapHoles_char g hnone, List.takeWhile_cons, List.takeWhile_cons, ih]

/-- Doubled opening braces at the start of a text are seen from how many there are. -/
theorem open_prefix_iff (text : List Char) :
    ['\x7b', '\x7b'] <+: text ↔
      2 ≤ ((text ++ ['\x7d', '\x7d']).takeWhile (· = '\x7b')).length := by
  match text with
  | [] => simp
  | [c] => by_cases hc : c = '\x7b' <;> simp [hc]
  | c :: d :: rest =>
      by_cases hc : c = '\x7b'
      · by_cases hd : d = '\x7b'
        · simp [hc, hd]
        · simp [hc, hd, Ne.symm hd]
      · simp [hc, Ne.symm hc]

/-- A text between doubled braces starts with doubled braces of its own afterwards if it did
before. -/
theorem mapHoles_braced (hg : KeepsContent g) (text : List Char) :
    ∃ image, mapHoles g ('\x7b' :: '\x7b' :: (text ++ ['\x7d', '\x7d'])) =
        '\x7b' :: '\x7b' :: (image ++ ['\x7d', '\x7d']) ∧
      (['\x7b', '\x7b'] <+: image ↔ ['\x7b', '\x7b'] <+: text) := by
  obtain ⟨image, himage⟩ := exists_mapHoles_braced g text
  have hopen := takeWhile_open_mapHoles hg ('\x7b' :: '\x7b' :: (text ++ ['\x7d', '\x7d']))
  simp only [himage, List.takeWhile_cons, decide_true, if_true, List.cons.injEq,
    true_and] at hopen
  exact ⟨image, himage, by rw [open_prefix_iff, open_prefix_iff, hopen]⟩

end Ends

/-! ## Trimming around holes -/

section Trim

variable (g : List Char → List Char)

theorem isInner_of_isBlank {c : Char} (h : Text.isBlank c = true) : isInner c = true := by
  have hopen : c ≠ '\x7b' := by
    rintro rfl
    exact absurd h (by decide)
  have hclose : c ≠ '\x7d' := by
    rintro rfl
    exact absurd h (by decide)
  simp [isInner, hopen, hclose]

theorem startsBare_mapHoles {text : List Char} (h : Text.StartsBare text) :
    Text.StartsBare (mapHoles g text) := by
  intro c hc
  rw [head?_mapHoles] at hc
  exact h c hc

theorem endsBare_mapHoles {text : List Char} (h : Text.EndsBare text) :
    Text.EndsBare (mapHoles g text) := by
  intro c hc
  rw [getLast?_mapHoles] at hc
  exact h c hc

/-- Blanks around a text stand around what it becomes. -/
theorem mapHoles_blanks {before after : List Char} (hbefore : ∀ c ∈ before, Text.isBlank c = true)
    (hafter : ∀ c ∈ after, Text.isBlank c = true) (text : List Char) :
    mapHoles g (before ++ (text ++ after)) = before ++ (mapHoles g text ++ after) := by
  rw [mapHoles_append_of_ne, mapHoles_append_of_isInner]
  · intro c hc
    exact isInner_of_isBlank (hafter c hc)
  · rintro c hc rfl
    exact absurd (isInner_of_isBlank (hbefore _ hc)) (by decide)

@[simp]
theorem trimChars_mapHoles (text : List Char) :
    Text.trimChars (mapHoles g text) = mapHoles g (Text.trimChars text) := by
  obtain ⟨before, after, hbefore, hafter, htext⟩ := Text.exists_trimChars text
  have hself := Text.trimChars_eq hbefore hafter
    (startsBare_mapHoles g (Text.startsBare_trimChars text))
    (endsBare_mapHoles g (Text.endsBare_trimChars text))
  rw [← hself, ← mapHoles_blanks g hbefore hafter, ← htext]

end Trim

/-- A text that is one placeholder has one hole, and its expression is what stands there. -/
theorem exists_of_whole? {s expression : String} (h : whole? s = some expression) :
    ∃ inner, holes s.toList = [inner] ∧ Text.trimChars s.toList = (Piece.hole inner).render ∧
      expression = String.ofList (Text.trimChars inner) := by
  have hrender := render_pieces (Text.trimChars s.toList)
  unfold whole? at h
  split at h
  · next piece hpieces =>
    cases piece with
    | literal text => cases h
    | hole inner =>
        have hmem : inner ∈ holes (Text.trimChars s.toList) := by
          rw [holes, hpieces]
          exact List.mem_singleton_self inner
        have hcontent := (mem_holes_iff.mp hmem).1
        have htrim : Text.trimChars s.toList = (Piece.hole inner).render := by
          rw [← hrender, hpieces, render, List.flatMap_singleton]
        obtain ⟨before, after, hbefore, hafter, hsplit⟩ := Text.exists_trimChars s.toList
        have hopen : ∀ c ∈ before, c ≠ '\x7b' := by
          rintro c hc rfl
          exact absurd (isInner_of_isBlank (hbefore _ hc)) (by decide)
        have hclose : '\x7d' ∉ after :=
          fun hc => absurd (isInner_of_isBlank (hafter _ hc)) (by decide)
        refine ⟨inner, ?_, htrim, (Option.some.inj h).symm⟩
        rw [hsplit, htrim, holes_append_of_ne hopen, holes_hole hcontent,
          holes_eq_nil hclose]
  · cases h

end Template

end CallChain
