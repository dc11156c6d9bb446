/-
# In front of the first brace

What resolving reads of a text with braces anywhere is decided in front of its first
brace: the reference ends there, or a brace is part of it. Renaming keeps where that
front ends and what kind of brace stands there, and it changes the front only when the
front is all that stands in a hole.
-/

import CallChain.Proofs.Reference.Reading

namespace CallChain

namespace Template

/-- Whether a text is cut in two in front of its first brace. -/
structure Fronted (front rest : List Char) : Prop where
  /-- No brace stands in front. -/
  front : ∀ c ∈ front, isInner c = true
  /-- The rest starts with a brace, if there is one. -/
  rest : ∀ c, rest.head? = some c → isInner c = false

theorem fronted_takeWhile (text : List Char) :
    Fronted (text.takeWhile isInner) (text.dropWhile isInner) where
  front := fun _ hc => List.all_eq_true.mp List.all_takeWhile _ hc
  rest := by
    intro c hc
    have hnot := List.head?_dropWhile_not isInner text
    rw [hc] at hnot
    exact hnot

theorem Fronted.nil_left {c : Char} {rest : List Char} (hc : isInner c = false) :
    Fronted [] (c :: rest) where
  front := by simp
  rest := by
    intro d hd
    cases hd
    exact hc

/-- A text is cut in only one way. -/
theorem Fronted.unique {front rest front' rest' : List Char} (h : Fronted front rest)
    (h' : Fronted front' rest') (heq : front ++ rest = front' ++ rest') :
    front = front' ∧ rest = rest' := by
  have htake : ∀ {front rest : List Char}, Fronted front rest →
      (front ++ rest).takeWhile isInner = front := by
    intro front rest h
    rw [List.takeWhile_append_of_pos h.front]
    cases rest with
    | nil => simp
    | cons c rest => rw [List.takeWhile_cons_of_neg (by simp [h.rest c rfl]), List.append_nil]
  have hfront : front = front' := by rw [← htake h, heq, htake h']
  subst hfront
  exact ⟨rfl, List.append_cancel_left heq⟩

section Braced

variable {g : List Char → List Char} {text image : List Char}

/-- How a text and its image start that stand between the same doubled braces: at the first
brace of each, the same kind of brace stands. -/
structure Abreast (front rest front' rest' : List Char) : Prop where
  /-- The text is cut at its first brace. -/
  text : Fronted front rest
  /-- So is the image. -/
  image : Fronted front' rest'
  /-- Both go on with the same brace. -/
  head : rest'.head? = rest.head?
  /-- If the image goes on with doubled braces, so does the text. -/
  doubled : ['\x7b', '\x7b'] <+: rest' → ['\x7b', '\x7b'] <+: rest

theorem head?_of_append_close {rest others : List Char}
    (h : rest ++ ['\x7d', '\x7d'] = '\x7d' :: '\x7d' :: others) :
    rest.head? = if others = [] then none else some '\x7d' := by
  cases rest with
  | nil =>
      simp only [List.nil_append, List.cons.injEq, true_and] at h
      simp [← h]
  | cons c rest =>
      simp only [List.cons_append, List.cons.injEq] at h
      have hne : others ≠ [] := by
        rintro rfl
        have hlength := congrArg List.length h.2
        simp at hlength
      simp [h.1, hne]

theorem exists_of_append_close {text others : List Char}
    (h : text ++ ['\x7d', '\x7d'] = '\x7b' :: others) : ∃ tail, text = '\x7b' :: tail := by
  cases text with
  | nil => simp at h
  | cons c tail =>
      simp only [List.cons_append, List.cons.injEq] at h
      exact ⟨tail, by rw [h.1]⟩

theorem Fronted.append_close {front rest : List Char} (h : Fronted front rest) :
    Fronted front (rest ++ ['\x7d', '\x7d']) where
  front := h.front
  rest := by
    intro c hc
    cases rest with
    | nil =>
        cases hc
        decide
    | cons d rest => exact h.rest c hc

/-- Closing braces at its end do not change where a text is cut. -/
theorem span_append_close (text : List Char) :
    (text ++ ['\x7d', '\x7d']).takeWhile isInner = text.takeWhile isInner ∧
      (text ++ ['\x7d', '\x7d']).dropWhile isInner =
        text.dropWhile isInner ++ ['\x7d', '\x7d'] := by
  apply (fronted_takeWhile (text ++ ['\x7d', '\x7d'])).unique (fronted_takeWhile text).append_close
  rw [List.takeWhile_append_dropWhile, ← List.append_assoc, List.takeWhile_append_dropWhile]

theorem close_ne_open : ∀ c ∈ ['\x7d', '\x7d'], c ≠ '\x7b' := by simp

/-- Before closing braces, a text and its image start with the same character. -/
theorem head?_of_mapHoles {rest rest' : List Char}
    (h : mapHoles g (rest ++ ['\x7d', '\x7d']) = rest' ++ ['\x7d', '\x7d']) :
    rest'.head? = rest.head? := by
  cases rest' with
  | nil =>
      obtain ⟨tail, htail, hempty⟩ := eq_append_of_mapHoles g close_ne_open
        (h.trans (List.append_nil _).symm)
      rw [mapHoles_eq_nil_iff] at hempty
      rw [hempty, List.append_nil] at htail
      rw [List.append_left_eq_self.mp htail]
  | cons c rest' =>
      cases rest with
      | nil =>
          rw [List.nil_append, mapHoles_eq_self_of_ne g close_ne_open] at h
          exact absurd (congrArg List.length h) (by simp)
      | cons d rest =>
          have hhead := congrArg List.head? h
          rw [head?_mapHoles] at hhead
          exact hhead.symm

/-- Whether a text and its image between doubled braces are cut abreast at their first braces. The
front of the text is all of a hole, and that of the image what it becomes; or no hole starts at
the doubled braces, and the front stays. -/
def FrontsAlike (g : List Char → List Char) (text image : List Char) : Prop :=
  ∃ front rest front' rest', text = front ++ rest ∧ image = front' ++ rest' ∧
    Abreast front rest front' rest' ∧
    (holeAt? ('\x7b' :: '\x7b' :: (text ++ ['\x7d', '\x7d'])) = some front ∧ front' = g front ∨
      holeAt? ('\x7b' :: '\x7b' :: (text ++ ['\x7d', '\x7d'])) = none ∧ front' = front)

theorem frontsAlike_of_hole (hg : KeepsContent g) {inside others : List Char}
    (hinside : IsContent inside)
    (htext : '\x7b' :: '\x7b' :: (text ++ ['\x7d', '\x7d']) =
      (Piece.hole inside).render ++ others)
    (h : mapHoles g ('\x7b' :: '\x7b' :: (text ++ ['\x7d', '\x7d'])) =
      '\x7b' :: '\x7b' :: (image ++ ['\x7d', '\x7d'])) : FrontsAlike g text image := by
  have hhole := holeAt?_render hinside others
  rw [← htext] at hhole
  rw [htext, mapHoles_hole g hinside] at h
  simp only [Piece.render, List.cons_append, List.cons.injEq, true_and, List.append_assoc,
    List.nil_append] at htext h
  obtain ⟨rest, hrest, rfl⟩ := eq_concat_close htext
    (List.suffix_of_suffix_length_le ⟨text, htext⟩ (List.suffix_append _ _) (by simp))
  obtain ⟨rest', hrest', rfl⟩ := eq_concat_close h.symm
    (List.suffix_of_suffix_length_le ⟨image, h.symm⟩ (List.suffix_append _ _) (by simp))
  have hhead := head?_of_append_close hrest.symm
  have hhead' := head?_of_append_close hrest'.symm
  simp only [mapHoles_eq_nil_iff] at hhead'
  have hstops : ∀ {r : List Char}, r.head? = (if others = [] then none else some '\x7d') →
      ∀ c, r.head? = some c → c = '\x7d' := by
    intro r hr c hc
    rw [hc] at hr
    split at hr
    · cases hr
    · exact Option.some.inj hr
  refine ⟨inside, rest, g inside, rest', rfl, rfl, ⟨⟨hinside.2, fun c hc => ?_⟩,
    ⟨(hg inside hinside).2, fun c hc => ?_⟩, hhead'.trans hhead.symm, ?_⟩, Or.inl ⟨hhole, rfl⟩⟩
  · rw [hstops hhead c hc]
    decide
  · rw [hstops hhead' c hc]
    decide
  · rintro ⟨tail, rfl⟩
    exact absurd (hstops hhead' '\x7b' rfl) (by decide)

/-- A text that opens a hole of its own has a brace in front, and so has its image. -/
theorem frontsAlike_of_open (hg : KeepsContent g) {inside others : List Char}
    (hinside : IsContent inside)
    (hnone : holeAt? ('\x7b' :: '\x7b' :: (text ++ ['\x7d', '\x7d'])) = none)
    (htext : '\x7b' :: (text ++ ['\x7d', '\x7d']) = (Piece.hole inside).render ++ others)
    (h : mapHoles g ('\x7b' :: (text ++ ['\x7d', '\x7d'])) =
      '\x7b' :: (image ++ ['\x7d', '\x7d'])) : FrontsAlike g text image := by
  rw [htext, mapHoles_hole g hinside] at h
  simp only [Piece.render, List.cons_append, List.cons.injEq, true_and, List.append_assoc,
    List.nil_append] at htext h
  obtain ⟨tail, rfl⟩ := exists_of_append_close htext
  obtain ⟨tail', rfl⟩ := exists_of_append_close h.symm
  refine ⟨[], '\x7b' :: tail, [], '\x7b' :: tail', rfl, rfl, ⟨.nil_left (by decide),
    .nil_left (by decide), rfl, ?_⟩, Or.inr ⟨hnone, rfl⟩⟩
  rintro ⟨others', hothers⟩
  simp only [List.cons_append, List.nil_append, List.cons.injEq, true_and] at hothers h
  obtain ⟨c, content, hcontent⟩ := List.exists_cons_of_ne_nil (hg inside hinside).1
  rw [← hothers, hcontent] at h
  simp only [List.cons_append, List.cons.injEq] at h
  exact absurd h.1 ((hg inside hinside).ne_open (hcontent ▸ List.mem_cons_self))

/-- Where no hole takes part of the doubled braces, the front stays. -/
theorem frontsAlike_of_none (hg : KeepsContent g)
    (hnone : holeAt? ('\x7b' :: '\x7b' :: (text ++ ['\x7d', '\x7d'])) = none)
    (h : mapHoles g (text ++ ['\x7d', '\x7d']) = image ++ ['\x7d', '\x7d']) :
    FrontsAlike g text image := by
  obtain ⟨htake, hdrop⟩ := takeWhile_mapHoles g (p := isInner) rfl (text ++ ['\x7d', '\x7d'])
  rw [h, (span_append_close _).1, (span_append_close _).1] at htake
  rw [h, (span_append_close _).2, (span_append_close _).2] at hdrop
  refine ⟨_, _, _, _, List.takeWhile_append_dropWhile.symm,
    List.takeWhile_append_dropWhile.symm, ⟨fronted_takeWhile text, fronted_takeWhile image,
      head?_of_mapHoles hdrop.symm, fun hdoubled => ?_⟩, Or.inr ⟨hnone, htake⟩⟩
  rw [open_prefix_iff, hdrop, takeWhile_open_mapHoles hg, ← open_prefix_iff] at hdoubled
  exact hdoubled

/-- Between doubled braces, a text that is all of a hole up to its first brace has an image
that is so too, and any other text keeps what stands in front of its first brace. -/
theorem frontsAlike_of_mapHoles (hg : KeepsContent g)
    (h : mapHoles g ('\x7b' :: '\x7b' :: (text ++ ['\x7d', '\x7d'])) =
      '\x7b' :: '\x7b' :: (image ++ ['\x7d', '\x7d'])) : FrontsAlike g text image := by
  rcases holeAt?_cases ('\x7b' :: '\x7b' :: (text ++ ['\x7d', '\x7d'])) with
    ⟨inside, others, hinside, htext⟩ | hnone
  · exact frontsAlike_of_hole hg hinside htext h
  · -- the first brace is passed by, and the second one may start a hole
    rw [mapHoles_char g hnone, List.cons.injEq] at h
    rcases holeAt?_cases ('\x7b' :: (text ++ ['\x7d', '\x7d'])) with
      ⟨inside, others, hinside, htext⟩ | hnext
    · exact frontsAlike_of_open hg hinside hnone htext h.2
    · rw [mapHoles_char g hnext, List.cons.injEq] at h
      exact frontsAlike_of_none hg hnone h.2.2

/-- A part of a text without opening braces is its own image. -/
theorem eq_of_mapHoles_of_ne {rest back : List Char} (hback : ∀ c ∈ back, c ≠ '\x7b')
    (h : mapHoles g rest = back) : rest = back := by
  obtain ⟨tail, htail, hempty⟩ := eq_append_of_mapHoles g hback
    (h.trans (List.append_nil _).symm)
  rw [mapHoles_eq_nil_iff] at hempty
  rw [htail, hempty, List.append_nil]

/-- An end of a hole that starts with a closing brace is made of closing braces. -/
theorem suffix_close_of_render {inside back : List Char} (h : IsContent inside)
    (hback : '\x7d' :: back <:+ (Piece.hole inside).render) :
    '\x7d' :: back <:+ ['\x7d', '\x7d'] := by
  obtain ⟨front, hfront⟩ := hback
  have hsplit : front ++ '\x7d' :: back = ('\x7b' :: '\x7b' :: inside) ++ ['\x7d', '\x7d'] :=
    hfront
  rcases List.append_eq_append_iff.mp hsplit with ⟨between, hcontent, hends⟩ | ⟨between, -, hends⟩
  · cases between with
    | nil => rw [hends]; exact List.suffix_rfl
    | cons d between =>
        rw [List.cons_append, List.cons.injEq] at hends
        have hmem : '\x7d' ∈ '\x7b' :: '\x7b' :: inside := by
          rw [hcontent, ← hends.1]
          simp
        simp only [List.mem_cons] at hmem
        rcases hmem with heq | heq | hmem
        · exact absurd heq (by decide)
        · exact absurd heq (by decide)
        · exact absurd rfl (h.ne_close hmem)
  · exact ⟨between, hends.symm⟩

/-- An end of the image that starts with a closing brace, and opens none, is an end of the
text. -/
theorem suffix_of_mapHoles (hg : KeepsContent g) {back : List Char}
    (hback : ∀ c ∈ '\x7d' :: back, c ≠ '\x7b') {text : List Char}
    (h : '\x7d' :: back <:+ mapHoles g text) : '\x7d' :: back <:+ text := by
  induction text using Template.induction with
  | nil => exact h
  | hole inside rest hinside ih =>
      rw [mapHoles_hole g hinside] at h
      obtain ⟨front, hfront⟩ := h
      rcases List.append_eq_append_iff.mp hfront with ⟨between, hrender, hends⟩ |
        ⟨between, -, hends⟩
      · -- the end starts in the hole, so at one of its closing braces
        have hrest : rest = mapHoles g rest := by
          apply eq_of_mapHoles_of_ne (fun c hc => hback c ?_) rfl
          rw [hends]
          exact List.mem_append_right _ hc
        rw [← hrest] at hends
        cases between with
        | nil => exact ⟨(Piece.hole inside).render, by rw [hends]; rfl⟩
        | cons d between =>
            rw [List.cons_append, List.cons.injEq] at hends
            obtain ⟨rfl, rfl⟩ := hends
            obtain ⟨closing, hclosing⟩ := suffix_close_of_render (hg inside hinside)
              ⟨front, hrender.symm⟩
            refine ⟨'\x7b' :: '\x7b' :: inside ++ closing, ?_⟩
            rw [List.append_assoc, ← List.cons_append, ← List.append_assoc closing, hclosing]
            simp [Piece.render]
      · exact (ih ⟨between, hends.symm⟩).trans (List.suffix_append _ _)
  | char c rest hnone ih =>
      rw [mapHoles_char g hnone, List.suffix_cons_iff] at h
      rcases h with heq | hsuffix
      · obtain ⟨rfl, htail⟩ := List.cons.inj heq
        have hrest : rest = back :=
          eq_of_mapHoles_of_ne (fun c hc => hback c (List.mem_cons_of_mem _ hc)) htail.symm
        exact hrest ▸ List.suffix_rfl
      · exact List.suffix_cons_iff.mpr (Or.inr (ih hsuffix))

/-- An end that opens no brace lies behind every opening brace. -/
theorem suffix_of_open_mem {back front rest : List Char} (hback : ∀ c ∈ back, c ≠ '\x7b')
    (hopen : '\x7b' ∈ rest) (h : back <:+ front ++ rest) : back <:+ rest := by
  rcases List.suffix_or_suffix_of_suffix h (List.suffix_append front rest) with hsuffix | hlonger
  · exact hsuffix
  · exact absurd rfl (hback _ (hlonger.subset hopen))

theorem trimChars_braced {before after : List Char} (hbefore : ∀ c ∈ before, Text.isBlank c = true)
    (hafter : ∀ c ∈ after, Text.isBlank c = true) (inside : List Char) :
    Text.trimChars (before ++ ('\x7b' :: '\x7b' :: (inside ++ ['\x7d', '\x7d']) ++ after)) =
      '\x7b' :: '\x7b' :: (inside ++ ['\x7d', '\x7d']) := by
  apply Text.trimChars_eq hbefore hafter
  · intro c hc
    cases hc
    decide
  · intro c hc
    have hlast : ('\x7b' :: '\x7b' :: (inside ++ ['\x7d', '\x7d'])).getLast? = some '\x7d' := by
      simp [List.getLast?_cons, List.getLast?_append]
    rw [hlast] at hc
    cases hc
    decide

/-- Where a text goes on with opening braces and its image is a placeholder there, the closing
braces of that are of the text as well: they lie behind the opening ones. -/
theorem close_suffix_of_mapHoles (hg : KeepsContent g) {before rest inside after : List Char}
    (hafter : ∀ c ∈ after, Text.isBlank c = true) (hopen : ['\x7b', '\x7b'] <+: rest)
    (h : mapHoles g ('\x7b' :: '\x7b' :: (before ++ rest ++ ['\x7d', '\x7d'])) =
      '\x7b' :: '\x7b' :: (before ++ ('\x7b' :: '\x7b' :: (inside ++ ['\x7d', '\x7d']) ++ after) ++
        ['\x7d', '\x7d'])) :
    '\x7d' :: '\x7d' :: after <:+ rest := by
  have hback : ∀ c ∈ '\x7d' :: ('\x7d' :: (after ++ ['\x7d', '\x7d'])), c ≠ '\x7b' := by
    rintro c hc rfl
    simp only [List.mem_cons, List.mem_append] at hc
    rcases hc with hc | hc | hc | hc
    · cases hc
    · cases hc
    · exact absurd (hafter _ hc) (by decide)
    · simp at hc
  have hsuffix : '\x7d' :: ('\x7d' :: (after ++ ['\x7d', '\x7d'])) <:+
      mapHoles g ('\x7b' :: '\x7b' :: (before ++ rest ++ ['\x7d', '\x7d'])) := by
    rw [h]
    exact ⟨'\x7b' :: '\x7b' :: (before ++ '\x7b' :: '\x7b' :: inside), by simp⟩
  have hends : '\x7d' :: ('\x7d' :: (after ++ ['\x7d', '\x7d'])) <:+
      ('\x7b' :: '\x7b' :: before) ++ (rest ++ ['\x7d', '\x7d']) := by
    have hown := suffix_of_mapHoles hg hback hsuffix
    rwa [List.append_assoc] at hown
  obtain ⟨others, hothers⟩ := suffix_of_open_mem hback
    (List.mem_append_left _ (hopen.subset List.mem_cons_self)) hends
  rw [← List.cons_append, ← List.cons_append, ← List.append_assoc] at hothers
  exact ⟨others, List.append_cancel_right hothers⟩

/-- What becomes a placeholder with blanks around it, between doubled braces, was one. -/
theorem exists_braced_of_mapHoles (hg : KeepsContent g) {before inside after : List Char}
    (hbefore : ∀ c ∈ before, Text.isBlank c = true) (hafter : ∀ c ∈ after, Text.isBlank c = true)
    (h : mapHoles g ('\x7b' :: '\x7b' :: (text ++ ['\x7d', '\x7d'])) =
      '\x7b' :: '\x7b' :: (before ++ ('\x7b' :: '\x7b' :: (inside ++ ['\x7d', '\x7d']) ++ after) ++
        ['\x7d', '\x7d'])) :
    ∃ own, text = before ++ ('\x7b' :: '\x7b' :: (own ++ ['\x7d', '\x7d']) ++ after) := by
  obtain ⟨front, rest, front', rest', rfl, himage, habreast, hfronts⟩ :=
    frontsAlike_of_mapHoles hg h
  -- in front of the first brace the image has blanks only, and there the text has a brace too
  have hcut : Fronted before ('\x7b' :: '\x7b' :: (inside ++ ['\x7d', '\x7d']) ++ after) := by
    refine ⟨fun c hc => isInner_of_isBlank (hbefore c hc), fun c hc => ?_⟩
    cases hc
    decide
  obtain ⟨rfl, rfl⟩ := hcut.unique habreast.image himage
  have hrest := habreast.doubled ⟨inside ++ ['\x7d', '\x7d'] ++ after, rfl⟩
  have hfront : before = front := by
    rcases hfronts with ⟨hhole, -⟩ | ⟨-, hfront⟩
    · obtain ⟨tail, rfl⟩ := hrest
      have hnone := holeAt?_open_open habreast.text.front
        ('\x7b' :: (tail ++ ['\x7d', '\x7d']))
      rw [List.append_assoc] at hhole
      exact absurd (hhole.symm.trans hnone) (by simp)
    · exact hfront
  subst hfront
  obtain ⟨own, rfl⟩ := exists_inside hrest (close_suffix_of_mapHoles hg hafter hrest h)
  exact ⟨own, by simp⟩

end Braced

end Template

namespace Expression

variable {before reference after front rest : List Char}

/-- The parts of an expression whose reference has no braces, when it is cut at its first
brace: that lies behind the reference. -/
theorem Cut.exists_fronted (hcut : Cut before reference after)
    (hinner : ∀ c ∈ reference, Template.isInner c = true) (hfronted : Template.Fronted front rest)
    (heq : front ++ rest = before ++ (reference ++ after)) :
    ∃ between, front = before ++ (reference ++ between) ∧ after = between ++ rest := by
  have hfront := hcut.isInner_front hinner
  rw [← List.append_assoc] at heq
  rcases List.append_eq_append_iff.mp heq with ⟨between, hlonger, hrest⟩ |
    ⟨between, hfront', hafter⟩
  · cases between with
    | nil => exact ⟨[], by simpa using hlonger.symm, by simpa using hrest.symm⟩
    | cons c between =>
        have hc : Template.isInner c = true := hfront c (by rw [hlonger]; simp)
        rw [hfronted.rest c (by rw [hrest]; rfl)] at hc
        cases hc
  · exact ⟨between, by rw [hfront', List.append_assoc], hafter⟩

/-- Where an expression has a dot or a bracket, one follows its reference. -/
theorem Cut.exists_stop (hcut : Cut before reference after) {c : Char}
    (hc : c ∈ before ++ (reference ++ after)) (hstop : isName c = false) :
    ∃ d tail, after = d :: tail ∧ isName d = false := by
  rcases hcut.after with ⟨hblank, -⟩ | hafter
  · have hbare := isBlank_of_isName_eq_false hstop
    simp only [List.mem_append] at hc
    rcases hc with hc | hc | hc
    · rw [hcut.before c hc] at hbare
      cases hbare
    · rw [hcut.name c hc] at hstop
      cases hstop
    · rw [hblank c hc] at hbare
      cases hbare
  · exact hafter

/-- Whether the reference of a text that is cut at its first brace ends in front of it. -/
def EndsInFront (front rest : List Char) : Prop := rest = [] ∨ ∃ c ∈ front, isName c = false

/-- A reference without braces is read in a text exactly when it is read in front of the first
brace and ends there. -/
theorem reference_iff_of_fronted (hfronted : Template.Fronted front rest)
    (hne : reference ≠ []) (hinner : ∀ c ∈ reference, Template.isInner c = true) :
    (split (String.ofList (front ++ rest))).reference = String.ofList reference ↔
      (split (String.ofList front)).reference = String.ofList reference ∧
        EndsInFront front rest := by
  constructor
  · intro h
    obtain ⟨before, own, after, hcut, heq⟩ := exists_cut (front ++ rest)
    rw [heq, split_of_cut hcut, String.ofList_inj] at h
    subst h
    obtain ⟨between, rfl, rfl⟩ := hcut.exists_fronted hinner hfronted heq
    rcases hcut.after with ⟨hblank, hends⟩ | ⟨c, tail, hafter, hstop⟩
    · -- only blanks follow the reference, and no brace is blank
      have hnil : rest = [] := by
        cases rest with
        | nil => rfl
        | cons c rest =>
            have hc := Template.isInner_of_isBlank (hblank c (by simp))
            rw [hfronted.rest c rfl] at hc
            cases hc
      subst hnil
      rw [List.append_nil] at hcut
      rw [split_of_cut hcut]
      exact ⟨rfl, Or.inl rfl⟩
    · -- a dot or a bracket follows it, and neither is a brace
      cases between with
      | nil =>
          have hc := hfronted.rest c (by rw [← List.nil_append rest, hafter]; rfl)
          rw [isInner_of_isName_eq_false hstop] at hc
          cases hc
      | cons d between =>
          rw [List.cons_append, List.cons.injEq] at hafter
          obtain ⟨rfl, -⟩ := hafter
          have hfront : Cut before own (d :: between) :=
            ⟨hcut.before, hcut.bare, hcut.name, Or.inr ⟨d, between, rfl, hstop⟩⟩
          rw [split_of_cut hfront]
          exact ⟨rfl, Or.inr ⟨d, by simp, hstop⟩⟩
  · rintro ⟨h, hnil | ⟨c, hc, hstop⟩⟩
    · rw [hnil, List.append_nil]
      exact h
    · obtain ⟨before, own, after, hcut, rfl⟩ := exists_cut front
      rw [split_of_cut hcut, String.ofList_inj] at h
      subst h
      obtain ⟨d, tail, rfl, hd⟩ := hcut.exists_stop hc hstop
      have hwhole : Cut before own (d :: tail ++ rest) :=
        ⟨hcut.before, hcut.bare, hcut.name, Or.inr ⟨d, tail ++ rest, rfl, hd⟩⟩
      rw [List.append_assoc, List.append_assoc, split_of_cut hwhole]

/-- The same for a word, and so for an id and for a place. -/
theorem reference_iff_of_isWord (hfronted : Template.Fronted front rest) {word : String}
    (hword : Reference.IsWord word.toList) :
    (split (String.ofList (front ++ rest))).reference = word ↔
      (split (String.ofList front)).reference = word ∧ EndsInFront front rest := by
  have hne : word.toList ≠ [] := by
    obtain ⟨c, tail, hcons, -, -⟩ := hword
    rw [hcons]
    exact List.cons_ne_nil c tail
  have h := reference_iff_of_fronted hfronted hne fun c hc =>
    HoleParts.isInner_of_continuesReference (hword.continues c hc)
  rwa [String.ofList_toList] at h

theorem endsInFront_iff {front' rest' : List Char}
    (h : Template.Abreast front rest front' rest')
    (hstop : (∃ c ∈ front', isName c = false) ↔ ∃ c ∈ front, isName c = false) :
    EndsInFront front' rest' ↔ EndsInFront front rest := by
  rw [EndsInFront, EndsInFront, hstop, ← List.head?_eq_none_iff, h.head, List.head?_eq_none_iff]

end Expression

end CallChain
