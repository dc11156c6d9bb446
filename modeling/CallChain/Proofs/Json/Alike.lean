/-
# Two JSON texts side by side

What renames references in a JSON template knows nothing of JSON. It changes words that
stand after two braces and blanks, so outside of text literals it changes nothing that a
reader would accept, and inside of one it changes characters that stand for themselves. The
reader therefore makes its way through the old and the new text side by side: this module
has what it reads on the way, literals, words and numbers.

A literal with backslashes does not read as it is written, so no text here has one.
-/

import CallChain.Proofs.Json.Reading
import CallChain.Proofs.Json.Scalars
import CallChain.Proofs.Reference.Renamed

namespace CallChain

open Template (mapHoles)

/-- Whether a character of a text literal stands for itself. -/
def Json.IsPlain (c : Char) : Prop := c ≠ '"' ∧ c ≠ '\\' ∧ 0x20 ≤ c.toNat

/-- Whether images of contents of holes are contents again, and differ in one run of plain
characters after blanks at most. -/
structure Template.ChangesWords (g : List Char → List Char) : Prop where
  /-- Images are contents of holes. -/
  content : KeepsContent g
  /-- They differ in one run of plain characters. -/
  changes : ∀ inner, g inner = inner ∨ ∃ before word word' after,
    inner = before ++ (word ++ after) ∧ g inner = before ++ (word' ++ after) ∧
      (∀ c ∈ before, Text.isBlank c = true) ∧ (∀ c ∈ word, Json.IsPlain c) ∧
      ∀ c ∈ word', Json.IsPlain c

theorem Json.isPlain_of_continuesReference {c : Char}
    (h : HoleParts.continuesReference c = true) : IsPlain c := by
  have hquote : c ≠ '"' := by
    rintro rfl
    exact absurd h (by decide +kernel)
  have hback : c ≠ '\\' := by
    rintro rfl
    exact absurd h (by decide +kernel)
  refine ⟨hquote, hback, ?_⟩
  have hranges : Text.wordRanges.all (fun range => 0x20 ≤ range.1) = true := by decide +kernel
  rw [HoleParts.continuesReference, Bool.or_eq_true, decide_eq_true_eq] at h
  rcases h with hword | rfl
  · obtain ⟨range, hrange, hpoint⟩ := List.any_eq_true.mp hword
    have hfirst := List.all_eq_true.mp hranges range hrange
    simp only [Bool.and_eq_true, decide_eq_true_eq] at hpoint hfirst
    omega
  · decide

theorem Renaming.changesWords_inner {f : Renaming} (hf : f.IntoWords) :
    Template.ChangesWords (inner f) := by
  refine ⟨keepsContent_inner hf, fun text => ?_⟩
  cases hparts : HoleParts.ofInner? text with
  | none => exact Or.inl (inner_of_none hparts)
  | some p =>
      obtain ⟨hp, htext⟩ := HoleParts.ofInner?_eq_some_iff.mp hparts
      have hword := isWord_getD hf hp
      have hplain : ∀ {word : List Char}, Reference.IsWord word → ∀ c ∈ word, Json.IsPlain c :=
        fun h c hc => Json.isPlain_of_continuesReference (h.continues c hc)
      refine Or.inr ⟨p.before, p.reference, _, p.after, htext, ?_, hp.before, hplain hp.reference,
        hplain hword⟩
      rw [inner_of_some hparts, HoleParts.withReference, List.append_assoc]

/-- No change of a word brings a backslash in. -/
theorem Template.ChangesWords.not_mem_mapHoles {g : List Char → List Char} (hg : ChangesWords g)
    {text : List Char} (h : '\\' ∉ text) : '\\' ∉ mapHoles g text := by
  induction text using Template.induction with
  | nil => exact h
  | char c rest hnone ih =>
      rw [List.mem_cons, not_or] at h
      rw [mapHoles_char g hnone, List.mem_cons, not_or]
      exact ⟨h.1, ih h.2⟩
  | hole inner rest hinner ih =>
      rw [List.mem_append, not_or] at h
      rw [mapHoles_hole g hinner, List.mem_append, not_or]
      refine ⟨?_, ih h.2⟩
      rcases hg.changes inner with hsame | ⟨before, word, word', after, hold, himage, -, -, hword'⟩
      · rw [hsame]
        exact h.1
      · have hnot : '\\' ∉ word' := fun hmem => (hword' _ hmem).2.1 rfl
        have hinside := h.1
        rw [hold] at hinside
        simp only [Piece.render, List.cons_append, List.mem_cons, List.mem_append, not_or]
          at hinside
        rw [himage]
        simp [Piece.render, hnot, hinside]

namespace Json

/-! ## Text literals -/

theorem readChars_append {front : List Char} (h : ∀ c ∈ front, IsPlain c) (rest : List Char) :
    readChars 0 (front ++ rest) = (readChars 0 rest).map fun (cs, left) => (front ++ cs, left) := by
  induction front with
  | nil =>
      rw [List.nil_append]
      cases readChars 0 rest <;> rfl
  | cons c front ih =>
      obtain ⟨hquote, hback, hcontrol⟩ := h c List.mem_cons_self
      have hnot : ¬ c.toNat < 0x20 := by omega
      rw [List.cons_append, readChars_char hquote hback hnot,
        ih fun d hd => h d (List.mem_cons_of_mem c hd)]
      cases readChars 0 rest <;> rfl

/-- Characters without a backslash are plain up to a quote or a control character. -/
theorem plain_cases {text : List Char} (h : '\\' ∉ text) :
    (∀ c ∈ text, IsPlain c) ∨ ∃ front c back, text = front ++ c :: back ∧
      (∀ d ∈ front, IsPlain d) ∧ (c = '"' ∨ c.toNat < 0x20) := by
  induction text with
  | nil => exact Or.inl nofun
  | cons c rest ih =>
      by_cases hstop : c = '"' ∨ c.toNat < 0x20
      · exact Or.inr ⟨[], c, rest, rfl, nofun, hstop⟩
      · have hback : c ≠ '\\' := fun heq => h (heq ▸ List.mem_cons_self)
        have hc : IsPlain c := ⟨fun heq => hstop (Or.inl heq), hback, by omega⟩
        rcases ih fun hmem => h (List.mem_cons_of_mem c hmem) with
          hrest | ⟨front, d, back, rfl, hfront, hd⟩
        · exact Or.inl (List.forall_mem_cons.mpr ⟨hc, hrest⟩)
        · exact Or.inr ⟨c :: front, d, back, rfl, List.forall_mem_cons.mpr ⟨hc, hfront⟩, hd⟩

/-- A literal is what stands before its closing quote. -/
theorem eq_of_readChars {text cs left : List Char} (hback : '\\' ∉ text)
    (h : readChars 0 text = .ok (cs, left)) : text = cs ++ '"' :: left := by
  rcases plain_cases hback with hplain | ⟨front, c, back, rfl, hfront, rfl | hcontrol⟩
  · have hread := readChars_append hplain []
    rw [List.append_nil, h] at hread
    cases hread
  · rw [readChars_append hfront, readChars_quote] at h
    cases h
    rw [List.append_nil]
  · rw [readChars_append hfront, readChars_control hcontrol] at h
    cases h

/-! ## Two readings side by side -/

/-- Whether what is left of a text stands at its end, before and after the change. -/
structure LeftOf (g : List Char → List Char) (left text : List Char) : Prop where
  /-- It does so before. -/
  old : left <:+ text
  /-- It does so afterwards. -/
  new : mapHoles g left <:+ mapHoles g text

/-- Whether two readings of a text and of its changed form read alike: both fail for the same
cause, or they read values that correspond, and leave a text and its changed form. -/
inductive Alike {α : Type} (g : List Char → List Char) (R : α → α → Prop) (text : List Char) :
    Reading α → Reading α → Prop where
  /-- Both read a value. -/
  | ok {x y : α} {left : List Char} (h : R x y) (hleft : LeftOf g left text) :
    Alike g R text (.ok (x, left)) (.ok (y, mapHoles g left))
  /-- Both texts are malformed. -/
  | malformed (p q : Problem × Nat) :
    Alike g R text (.error (.malformed p)) (.error (.malformed q))
  /-- Both texts hold the same number that is not read. -/
  | number (p : NumberProblem) : Alike g R text (.error (.number p)) (.error (.number p))
  /-- Both texts are nested too deeply. -/
  | tooDeep : Alike g R text (.error .tooDeep) (.error .tooDeep)

section SideBySide

variable {g : List Char → List Char}

theorem LeftOf.trans {first second third : List Char} (h : LeftOf g first second)
    (h' : LeftOf g second third) : LeftOf g first third :=
  ⟨h.old.trans h'.old, h.new.trans h'.new⟩

theorem LeftOf.length_le {left text : List Char} (h : LeftOf g left text) :
    left.length ≤ text.length ∧ (mapHoles g left).length ≤ (mapHoles g text).length :=
  ⟨h.old.length_le, h.new.length_le⟩

theorem LeftOf.append (front : List Char) (hfront : ∀ c ∈ front, c ≠ '\x7b')
    (rest : List Char) : LeftOf g rest (front ++ rest) := by
  refine ⟨List.suffix_append front rest, ?_⟩
  rw [Template.mapHoles_append_of_ne g hfront]
  exact List.suffix_append front _

theorem LeftOf.char {c : Char} {rest : List Char} (h : Template.holeAt? (c :: rest) = none) :
    LeftOf g rest (c :: rest) := by
  refine ⟨List.suffix_cons c rest, ?_⟩
  rw [Template.mapHoles_char g h]
  exact List.suffix_cons c _

/-- Two readings that fail alike end whatever they are part of alike; otherwise both have
read something. -/
theorem Alike.error_or_ok {α : Type} {R : α → α → Prop} {text : List Char} {a b : Reading α}
    (h : Alike g R text a b) :
    (∃ trouble trouble', a = .error trouble ∧ b = .error trouble' ∧
      ∀ {β : Type} (S : β → β → Prop) (text' : List Char),
        Alike g S text' (.error trouble) (.error trouble')) ∨
    ∃ x y left, a = .ok (x, left) ∧ b = .ok (y, mapHoles g left) ∧ R x y ∧
      LeftOf g left text := by
  cases h with
  | ok h hleft => exact Or.inr ⟨_, _, _, rfl, rfl, h, hleft⟩
  | malformed p q => exact Or.inl ⟨_, _, rfl, rfl, fun _ _ => .malformed p q⟩
  | number p => exact Or.inl ⟨_, _, rfl, rfl, fun _ _ => .number p⟩
  | tooDeep => exact Or.inl ⟨_, _, rfl, rfl, fun _ _ => .tooDeep⟩

theorem Alike.map {α β : Type} {R : α → α → Prop} {S : β → β → Prop} {text rest : List Char}
    {a b : Reading α} (h : Alike g R rest a b) (hrest : LeftOf g rest text) {f f' : α → β}
    (hS : ∀ x y, R x y → S (f x) (f' y)) :
    Alike g S text (a.map fun (x, left) => (f x, left)) (b.map fun (x, left) => (f' x, left)) := by
  rcases h.error_or_ok with ⟨_, _, rfl, rfl, herror⟩ | ⟨x, y, left, rfl, rfl, h, hleft⟩
  · exact herror S text
  · exact .ok (hS x y h) (hleft.trans hrest)

/-- A literal is read alike past characters that are the same but for a plain run. -/
theorem alike_readChars_parts (before word word' after : List Char) {rest : List Char}
    (hquote : '"' ∉ before) (hback : '\\' ∉ before ++ after) (hword : ∀ c ∈ word, IsPlain c)
    (hword' : ∀ c ∈ word', IsPlain c)
    (hafter : ∀ front back, after = front ++ '"' :: back → '\x7b' ∉ back)
    (hnew : mapHoles g (before ++ (word ++ (after ++ rest))) =
      before ++ (word' ++ (after ++ mapHoles g rest)))
    (hrest : Alike g (fun _ _ => True) rest (readChars 0 rest) (readChars 0 (mapHoles g rest))) :
    Alike g (fun _ _ => True) (before ++ (word ++ (after ++ rest)))
      (readChars 0 (before ++ (word ++ (after ++ rest))))
      (readChars 0 (before ++ (word' ++ (after ++ mapHoles g rest)))) := by
  have hleft : LeftOf g rest (before ++ (word ++ (after ++ rest))) := by
    refine ⟨?_, ?_⟩
    · exact (List.suffix_append _ rest).trans ((List.suffix_append word _).trans
        (List.suffix_append before _))
    · rw [hnew]
      exact (List.suffix_append _ _).trans ((List.suffix_append word' _).trans
        (List.suffix_append before _))
  rcases plain_cases fun hmem => hback (List.mem_append_left after hmem) with
    hplain | ⟨front, c, back, rfl, hfront, rfl | hcontrol⟩
  · rw [readChars_append hplain, readChars_append hplain, readChars_append hword,
      readChars_append hword']
    rcases plain_cases fun hmem => hback (List.mem_append_right before hmem) with
      hplain' | ⟨front, c, back, rfl, hfront, rfl | hcontrol⟩
    · rw [readChars_append hplain', readChars_append hplain']
      rcases hrest.error_or_ok with
        ⟨_, _, hold, hnew, herror⟩ | ⟨_, _, left, hold, hnew, -, hrest⟩
      · rw [hold, hnew]
        exact herror _ _
      · rw [hold, hnew]
        exact .ok trivial (hrest.trans hleft)
    · have hopen : ∀ d ∈ back, d ≠ '\x7b' := by
        rintro d hd rfl
        exact hafter front back rfl hd
      have hsame := Template.mapHoles_append_of_ne g hopen rest
      simp only [List.append_assoc, List.cons_append, readChars_append hfront, readChars_quote,
        ← hsame]
      simp only [List.append_assoc, List.cons_append] at hnew
      refine .ok trivial ⟨⟨before ++ (word ++ (front ++ ['"'])), by simp⟩, ?_⟩
      rw [hnew, hsame]
      exact ⟨before ++ (word' ++ (front ++ ['"'])), by simp⟩
    · simp only [List.append_assoc, List.cons_append, readChars_append hfront,
        readChars_control hcontrol]
      exact .malformed _ _
  · exact absurd (by simp) hquote
  · simp only [List.append_assoc, List.cons_append, readChars_append hfront,
      readChars_control hcontrol]
    exact .malformed _ _

/-- A literal is read alike past a hole, whatever of it is changed. -/
theorem alike_readChars_hole (hg : Template.ChangesWords g) {inner rest : List Char}
    (hinner : Template.IsContent inner) (hback : '\\' ∉ inner)
    (hrest : Alike g (fun _ _ => True) rest (readChars 0 rest) (readChars 0 (mapHoles g rest))) :
    Alike g (fun _ _ => True) ((Piece.hole inner).render ++ rest)
      (readChars 0 ((Piece.hole inner).render ++ rest))
      (readChars 0 (mapHoles g ((Piece.hole inner).render ++ rest))) := by
  have hnew := Template.mapHoles_hole g hinner rest
  have hopen : ∀ c ∈ inner ++ ['\x7d', '\x7d'], c ≠ '\x7b' := by
    intro c hc
    rcases List.mem_append.mp hc with hc | hc
    · exact hinner.ne_open hc
    · rintro rfl
      simp at hc
  rcases hg.changes inner with hsame | ⟨before, word, word', after, hold, himage, hbefore,
    hword, hword'⟩
  · have hclose : ∀ front back, inner ++ ['\x7d', '\x7d'] = front ++ '"' :: back →
        '\x7b' ∉ back := by
      intro front back heq hmem
      exact hopen '\x7b' (by rw [heq]; simp [hmem]) rfl
    rw [hsame] at hnew
    have halike := alike_readChars_parts ['\x7b', '\x7b'] [] [] (inner ++ ['\x7d', '\x7d'])
      (by simp) (by simpa using hback) nofun nofun hclose hnew hrest
    rwa [hnew]
  · have hclose : ∀ front back, after ++ ['\x7d', '\x7d'] = front ++ '"' :: back →
        '\x7b' ∉ back := by
      intro front back heq hmem
      refine hopen '\x7b' ?_ rfl
      rw [hold, List.append_assoc, List.append_assoc, heq]
      simp [hmem]
    have hblank : '"' ∉ before := fun hmem => absurd (hbefore _ hmem) (by decide)
    have hold' : (Piece.hole inner).render ++ rest = '\x7b' :: '\x7b' :: before ++
        (word ++ (after ++ ['\x7d', '\x7d'] ++ rest)) := by
      simp [Piece.render, hold]
    have himage' : (Piece.hole (g inner)).render ++ mapHoles g rest =
        '\x7b' :: '\x7b' :: before ++
          (word' ++ (after ++ ['\x7d', '\x7d'] ++ mapHoles g rest)) := by
      simp [Piece.render, himage]
    have hnone : '\\' ∉ '\x7b' :: '\x7b' :: before ++ (after ++ ['\x7d', '\x7d']) := by
      rw [hold] at hback
      simp only [List.mem_append, not_or] at hback
      simp [hback.1, hback.2.2]
    rw [himage', hold'] at hnew
    rw [hold', hnew]
    exact alike_readChars_parts ('\x7b' :: '\x7b' :: before) word word'
      (after ++ ['\x7d', '\x7d']) (by simpa using hblank) hnone hword hword' hclose hnew hrest

/-- Literals of a text without backslashes are read alike. -/
theorem alike_readChars (hg : Template.ChangesWords g) (text : List Char) (hback : '\\' ∉ text) :
    Alike g (fun _ _ => True) text (readChars 0 text) (readChars 0 (mapHoles g text)) := by
  induction text using Template.induction with
  | nil => exact .malformed _ _
  | char c rest hnone ih =>
      have hrest := ih fun hmem => hback (List.mem_cons_of_mem c hmem)
      have hnew := Template.mapHoles_char g hnone
      by_cases hquote : c = '"'
      · subst hquote
        rw [hnew, readChars_quote, readChars_quote]
        exact .ok trivial (LeftOf.char hnone)
      · have hone : '\\' ∉ [c] ++ [] := by
          intro hmem
          rw [List.append_nil, List.mem_singleton] at hmem
          exact hback (hmem ▸ List.mem_cons_self)
        rw [hnew]
        exact alike_readChars_parts [c] [] [] [] (by simpa using Ne.symm hquote) hone nofun nofun
          (by simp) hnew hrest
  | hole inner rest hinner ih =>
      have hrest := ih fun hmem => hback (List.mem_append_right _ hmem)
      exact alike_readChars_hole hg hinner (fun hmem => hback (by simp [Piece.render, hmem])) hrest

end SideBySide

/-! ## Words and numbers -/

section Scalars

variable {g : List Char → List Char}

theorem skipSpace_mapHoles (text : List Char) :
    skipSpace (mapHoles g text) = mapHoles g (skipSpace text) ∧ LeftOf g (skipSpace text) text := by
  refine ⟨(Template.takeWhile_mapHoles g (by decide) text).2, ?_⟩
  have hsplit := List.takeWhile_append_dropWhile (p := isSpace) (l := text)
  have hspace : ∀ c ∈ text.takeWhile isSpace, c ≠ '\x7b' := by
    rintro c hc rfl
    exact absurd (List.all_eq_true.mp List.all_takeWhile _ hc) (by decide)
  have hleft := LeftOf.append (g := g) _ hspace (text.dropWhile isSpace)
  rwa [hsplit] at hleft

/-- Whether what may read something at the start of a text reads the same of its changed
form, and leaves a text and its changed form. -/
def ReadsAlike {α : Type} (g : List Char → List Char)
    (read : List Char → Option (α × List Char)) : Prop :=
  ∀ text, read (mapHoles g text) = (read text).map (fun (a, left) => (a, mapHoles g left)) ∧
    ∀ a left, read text = some (a, left) → LeftOf g left text

/-- A word or a number ends before the first hole, whatever is changed from there on. -/
theorem readsAlike_readScalar? : ReadsAlike g readScalar? := by
  intro text
  obtain ⟨front, rest, rfl, hopen, hrest⟩ := exists_cut_open text
  have hfront : ∀ c ∈ front, c ≠ '\x7b' := fun c hc heq => hopen (heq ▸ hc)
  have hold := readsBefore_readScalar? front rest hrest
  have hnew := readsBefore_readScalar? front (mapHoles g rest) fun c hc =>
    hrest c (by rwa [Template.head?_mapHoles] at hc)
  rw [Template.mapHoles_append_of_ne g hfront, hold.1, hnew.1]
  cases hread : readScalar? front with
  | none => exact ⟨rfl, nofun⟩
  | some found =>
      obtain ⟨a, left⟩ := found
      obtain ⟨before, rfl⟩ := hold.2 a left hread
      have hbefore : ∀ c ∈ before, c ≠ '\x7b' := fun c hc => hfront c (List.mem_append_left left hc)
      have hleft : ∀ c ∈ left, c ≠ '\x7b' := fun c hc => hfront c (List.mem_append_right before hc)
      refine ⟨by simp [Template.mapHoles_append_of_ne g hleft], fun b other h => ?_⟩
      cases h
      rw [List.append_assoc]
      exact LeftOf.append before hbefore (left ++ rest)

end Scalars

end Json

end CallChain
