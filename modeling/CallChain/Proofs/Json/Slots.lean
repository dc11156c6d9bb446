/-
# Reading a text with slots

A text whose slots stand inside of literals only, where no escape is pending, is read whatever
the texts in the slots are, or not read whatever they are. If it is read, it has one sequence
of tokens, and filled in it has the same tokens with the texts in their slots.

The readers go on from one place of the text to another, past the same tokens for all texts in
the slots. The induction is on the length of the text with its slots; the amount of fuel is that
of the text filled in, and any amount will do that is enough.
-/

import CallChain.Proofs.Json.Literals

namespace CallChain.Json

/-! ## From one place to another -/

/-- Whether tokens stand between two places of a text, and the same tokens where its slots are
filled in. -/
structure Passes (parts : List Part) (tokens : List Token) (left : List Part) : Prop where
  /-- The tokens of the text with its slots. -/
  unfilled : Lexes parts tokens left
  /-- The tokens of the text filled in. -/
  filled : ∀ text, Lexes (chars (written text parts)) (tokens.map (Token.filled text))
    (chars (written text left))
  /-- Slots that are left stand inside of literals. -/
  settled : Settled .outside left

section Places

variable {c : Char} {parts rest middle left cs : List Part} {tokens others : List Token}

theorem Passes.refl (h : Settled .outside parts) : Passes parts [] parts :=
  ⟨.done, fun _ => .done, h⟩

theorem Passes.trans (h : Passes parts tokens middle) (h' : Passes middle others left) :
    Passes parts (tokens ++ others) left := by
  refine ⟨h.unfilled.append h'.unfilled, fun text => ?_, h'.settled⟩
  rw [List.map_append]
  exact (h.filled text).append (h'.filled text)

theorem Passes.length_le (h : Passes parts tokens left) : left.length ≤ parts.length ∧
    ∀ text, (written text left).length ≤ (written text parts).length := by
  refine ⟨h.unfilled.suffix.length_le, fun text => ?_⟩
  have hfilled := (h.filled text).suffix.length_le
  rwa [chars, chars, List.length_map, List.length_map] at hfilled

theorem Passes.blank (hc : isSpace c = true) (h : Passes rest tokens left) :
    Passes (.char c :: rest) tokens left :=
  ⟨.blank hc h.unfilled, fun text => .blank hc (h.filled text), h.settled⟩

theorem Passes.mark (hc : c ∈ marks) (h : Settled .outside rest) :
    Passes (.char c :: rest) [.mark c] rest :=
  ⟨.mark hc .done, fun _ => .mark hc .done, h⟩

theorem ReadsLiteral.passes (h : ReadsLiteral rest cs left) :
    Passes (.char '"' :: rest) [.text cs] left := by
  refine ⟨.text h.content .done, fun text => ?_, h.settled⟩
  have hcontent : Json.content 0 (chars (written text rest)) =
      some (chars (decoded text cs), chars (written text left)) := by
    rw [content_chars, h.reads text]
    rfl
  exact .text hcontent .done

theorem lexes_scalar (front : List Char) {v : Value} (hparts : parts = chars front ++ rest)
    (hread : readScalar? (ahead parts) = some (.ok v, ahead rest)) :
    Lexes parts [.scalar v] rest :=
  .scalar hparts hread .done

/-- Outside of literals no slot comes next. -/
theorem Settled.eq_nil_or_char (h : Settled .outside parts) :
    parts = [] ∨ ∃ c rest, parts = .char c :: rest := by
  cases parts with
  | nil => exact Or.inl rfl
  | cons part rest =>
      cases part with
      | slot inner => cases h.1
      | char c => exact Or.inr ⟨c, rest, rfl⟩

theorem Settled.of_char (h : Settled .outside (.char c :: rest)) (hc : c ≠ '"') :
    Settled .outside rest := by
  simpa [Settled, Spot.after, hc] using h

/-- Outside of literals there are characters up to the next quote. -/
theorem Settled.exists_run (h : Settled .outside parts) : ∃ run tail, parts = chars run ++ tail ∧
    '"' ∉ run ∧ Settled .outside tail ∧ (tail = [] ∨ ∃ rest, tail = .char '"' :: rest) := by
  induction parts with
  | nil => exact ⟨[], [], rfl, List.not_mem_nil, trivial, Or.inl rfl⟩
  | cons part parts ih =>
      cases part with
      | slot inner => cases h.1
      | char c =>
          by_cases hc : c = '"'
          · subst hc
            exact ⟨[], _, rfl, List.not_mem_nil, h, Or.inr ⟨parts, rfl⟩⟩
          · obtain ⟨run, tail, rfl, hrun, htail⟩ := ih (h.of_char hc)
            exact ⟨c :: run, tail, rfl, by simp [hrun, Ne.symm hc], htail⟩

/-- Blanks are passed before the next character. -/
theorem Settled.exists_skipSpace (h : Settled .outside parts) : ∃ start, Passes parts [] start ∧
    ∀ text, skipSpace (written text parts) = written text start := by
  induction parts with
  | nil => exact ⟨[], .refl h, fun _ => rfl⟩
  | cons part rest ih =>
      cases part with
      | slot inner => cases h.1
      | char c =>
          cases hc : isSpace c with
          | false => exact ⟨_, .refl h, fun text => skipSpace_cons hc (written text rest)⟩
          | true =>
              have hquote : c ≠ '"' := by
                rintro rfl
                cases hc
              obtain ⟨start, hpass, hskip⟩ := ih (h.of_char hquote)
              refine ⟨start, hpass.blank hc, fun text => ?_⟩
              rw [← hskip, written_char, skipSpace, List.dropWhile_cons_of_pos hc]
              rfl

/-- Whether a word or a number comes next does not depend on the texts in the slots. -/
theorem Settled.scalarReading_cases (h : Settled .outside parts) :
    (∀ text, ∃ trouble, scalarReading (written text parts) = .error trouble) ∨
    ∃ v left, Passes parts [.scalar v] left ∧
      ∀ text, scalarReading (written text parts) = .ok (v, written text left) := by
  obtain ⟨run, tail, rfl, hrun, htail, hstop⟩ := h.exists_run
  have hread : ∀ rest, (∀ c ∈ rest.head?, c = '"') → readScalar? (run ++ rest) =
      (readScalar? run).map fun (a, left) => (a, left ++ rest) :=
    fun rest hrest => (readsBefore_readScalar? run rest fun c hc => Or.inl (hrest c hc)).1
  have hahead := hread (ahead tail) (by rcases hstop with rfl | ⟨rest, rfl⟩ <;> simp [ahead])
  have hwritten := fun text =>
    hread (written text tail) (by rcases hstop with rfl | ⟨rest, rfl⟩ <;> simp)
  simp only [written_chars_append, scalarReading, hwritten]
  cases hscalar : readScalar? run with
  | none => exact Or.inl fun text => ⟨_, rfl⟩
  | some found =>
      obtain ⟨result, more⟩ := found
      cases result with
      | error problem => exact Or.inl fun text => ⟨_, rfl⟩
      | ok v =>
          obtain ⟨front, rfl⟩ := (readsBefore_readScalar? run [] stopsScalar_nil).2 _ more hscalar
          rw [hscalar] at hahead
          simp only [hscalar] at hwritten
          have hmore : '"' ∉ more := fun hmem => hrun (List.mem_append_right front hmem)
          refine Or.inr ⟨v, chars more ++ tail, ⟨?_, fun text => ?_, ?_⟩, fun text => by simp⟩
          · refine lexes_scalar front (by rw [chars_append, List.append_assoc]) ?_
            simpa using hahead
          · refine lexes_scalar front (by simp [chars_append]) ?_
            simpa using hwritten text
          · rwa [settled_chars_append, foldl_after_outside hmore]

end Places

/-! ## Reading uniformly -/

/-- Whether readings of a text, one for each choice of texts in its slots, all fail, or all read
up to the same place. -/
def Uniform {α : Type} (parts : List Part) (reading : (List Char → String) → Reading α) : Prop :=
  (∀ text, ∃ trouble, reading text = .error trouble) ∨
    ∃ tokens left, Passes parts tokens left ∧
      ∀ text, ∃ a, reading text = .ok (a, written text left)

/-- Readings go on uniformly from a place up to which they have come. -/
theorem Uniform.map {α β : Type} {parts rest : List Part} {tokens : List Token}
    {reading : (List Char → String) → Reading α} {reading' : (List Char → String) → Reading β}
    (h : Uniform rest reading) (hpass : Passes parts tokens rest)
    (hmap : ∀ text, ∃ f : α → β,
      reading' text = (reading text).map fun (a, left) => (f a, left)) :
    Uniform parts reading' := by
  rcases h with hnone | ⟨others, left, hrest, hread⟩
  · refine Or.inl fun text => ?_
    obtain ⟨f, hf⟩ := hmap text
    obtain ⟨trouble, htrouble⟩ := hnone text
    exact ⟨trouble, by rw [hf, htrouble]; rfl⟩
  · refine Or.inr ⟨tokens ++ others, left, hpass.trans hrest, fun text => ?_⟩
    obtain ⟨f, hf⟩ := hmap text
    obtain ⟨a, ha⟩ := hread text
    exact ⟨f a, by rw [hf, ha]; rfl⟩

/-- Whether values, items and fields are read uniformly in texts up to a length, with any
amounts of fuel that are enough. -/
structure UniformUpTo (bound : Nat) : Prop where
  /-- Values. -/
  value : ∀ (fuel : (List Char → String) → Nat) levels parts, Settled .outside parts →
    2 * parts.length + 1 ≤ bound →
    (∀ text, 2 * (written text parts).length + 1 ≤ fuel text) →
    Uniform parts fun text => readValue (fuel text) levels (written text parts)
  /-- Items. -/
  items : ∀ (fuel : (List Char → String) → Nat) levels parts, Settled .outside parts →
    2 * parts.length + 2 ≤ bound →
    (∀ text, 2 * (written text parts).length + 2 ≤ fuel text) →
    Uniform parts fun text => readItems (fuel text) levels (written text parts)
  /-- Fields. -/
  fields : ∀ (fuel : (List Char → String) → Nat) levels parts, Settled .outside parts →
    2 * parts.length + 2 ≤ bound →
    (∀ text, 2 * (written text parts).length + 2 ≤ fuel text) →
    Uniform parts fun text => readFields (fuel text) levels (written text parts)

section Readers

variable {bound levels : Nat} {fuel : (List Char → String) → Nat} {c : Char}
  {parts rest left : List Part}

/-- What starts with another character starts with it in none of its fillings. -/
theorem Settled.head_ne (h : Settled .outside parts) (hne : ∀ rest, parts ≠ .char c :: rest)
    (text : List Char → String) : (written text parts).head? ≠ some c := by
  rcases h.eq_nil_or_char with rfl | ⟨d, rest, rfl⟩
  · exact nofun
  · rintro hd
    cases hd
    exact hne rest rfl

theorem uniform_readText (h : Settled (.inside .finished) rest) :
    Uniform (.char '"' :: rest) fun text => readText (written text rest) := by
  rcases readsUniformly_literal rest h with hnone | ⟨cs, left, hread⟩
  · exact Or.inl fun text => exists_readText_error (hnone text)
  · exact Or.inr ⟨_, left, hread.passes, fun text => ⟨_, readText_of_ok (hread.reads text)⟩⟩

theorem UniformUpTo.list (hup : UniformUpTo bound) (h : Settled .outside rest)
    (hbound : 2 * (rest.length + 1) ≤ bound)
    (hfuel : ∀ text, 2 * ((written text rest).length + 1) ≤ fuel text) :
    Uniform (.char '[' :: rest)
      fun text => readValue (fuel text + 1) (levels + 1) ('[' :: written text rest) := by
  obtain ⟨start, hblank, hskip⟩ := h.exists_skipSpace
  have hopen := (Passes.mark (by decide : '[' ∈ marks) h).trans hblank
  have hlength := hblank.length_le
  by_cases hclose : ∃ left, start = .char ']' :: left
  · obtain ⟨left, rfl⟩ := hclose
    have hpass := hopen.trans (.mark (by decide) (hblank.settled.of_char (by decide)))
    exact Or.inr ⟨_, left, hpass, fun text => ⟨_, readValue_emptyList (hskip text) _ _⟩⟩
  · rw [not_exists] at hclose
    refine (hup.items fuel levels start hblank.settled (by omega) fun text => ?_).map hopen
      fun text => ⟨.list, ?_⟩
    · have hshorter := hlength.2 text
      have henough := hfuel text
      omega
    · rw [readValue_list (by rw [hskip]; exact hblank.settled.head_ne hclose text), hskip]

theorem UniformUpTo.object (hup : UniformUpTo bound) (h : Settled .outside rest)
    (hbound : 2 * (rest.length + 1) ≤ bound)
    (hfuel : ∀ text, 2 * ((written text rest).length + 1) ≤ fuel text) :
    Uniform (.char '\x7b' :: rest)
      fun text => readValue (fuel text + 1) (levels + 1) ('\x7b' :: written text rest) := by
  obtain ⟨start, hblank, hskip⟩ := h.exists_skipSpace
  have hopen := (Passes.mark (by decide : '\x7b' ∈ marks) h).trans hblank
  have hlength := hblank.length_le
  by_cases hclose : ∃ left, start = .char '\x7d' :: left
  · obtain ⟨left, rfl⟩ := hclose
    have hpass := hopen.trans (.mark (by decide) (hblank.settled.of_char (by decide)))
    exact Or.inr ⟨_, left, hpass, fun text => ⟨_, readValue_emptyObject (hskip text) _ _⟩⟩
  · rw [not_exists] at hclose
    refine (hup.fields fuel levels start hblank.settled (by omega) fun text => ?_).map hopen
      fun text => ⟨fun fields => .object (Fields.ofEntries fields), ?_⟩
    · have hshorter := hlength.2 text
      have henough := hfuel text
      omega
    · rw [readValue_object (by rw [hskip]; exact hblank.settled.head_ne hclose text), hskip]

theorem UniformUpTo.value_succ (hup : UniformUpTo bound) (h : Settled .outside parts)
    (hbound : 2 * parts.length ≤ bound)
    (hfuel : ∀ text, 2 * (written text parts).length ≤ fuel text) :
    Uniform parts fun text => readValue (fuel text + 1) levels (written text parts) := by
  by_cases hquote : ∃ rest, parts = .char '"' :: rest
  · obtain ⟨rest, rfl⟩ := hquote
    exact (uniform_readText h).map (.refl h) fun text => ⟨.text, readValue_quote _ _ _⟩
  by_cases hlist : ∃ rest, parts = .char '[' :: rest
  · obtain ⟨rest, rfl⟩ := hlist
    cases levels with
    | zero => exact Or.inl fun text => ⟨.tooDeep, rfl⟩
    | succ levels => exact hup.list (h.of_char (by decide)) hbound hfuel
  by_cases hobject : ∃ rest, parts = .char '\x7b' :: rest
  · obtain ⟨rest, rfl⟩ := hobject
    cases levels with
    | zero => exact Or.inl fun text => ⟨.tooDeep, rfl⟩
    | succ levels => exact hup.object (h.of_char (by decide)) hbound hfuel
  · rw [not_exists] at hquote hlist hobject
    have hscalar : ∀ text, readValue (fuel text + 1) levels (written text parts) =
        scalarReading (written text parts) := fun text =>
      readValue_scalar (h.head_ne hquote text) (h.head_ne hlist text) (h.head_ne hobject text) _ _
    simp only [hscalar]
    rcases h.scalarReading_cases with hnone | ⟨v, left, hpass, hread⟩
    · exact Or.inl hnone
    · exact Or.inr ⟨_, left, hpass, fun text => ⟨v, hread text⟩⟩

/-- A mark is passed after blanks, or something else comes next in every filling. -/
theorem Settled.mark_cases (h : Settled .outside parts) (hc : c ∈ marks) :
    (∃ more, Passes parts [.mark c] more ∧ more.length < parts.length ∧
      ∀ text, skipSpace (written text parts) = c :: written text more ∧
        (written text more).length < (written text parts).length) ∨
    ∀ text, (skipSpace (written text parts)).head? ≠ some c := by
  obtain ⟨start, hblank, hskip⟩ := h.exists_skipSpace
  by_cases hstart : ∃ more, start = .char c :: more
  · obtain ⟨more, rfl⟩ := hstart
    have hmark := Passes.mark hc (hblank.settled.of_char (isSpace_of_mem_marks hc).2)
    have hlength := hblank.length_le
    exact Or.inl ⟨more, hblank.trans hmark, hlength.1, fun text => ⟨hskip text, hlength.2 text⟩⟩
  · rw [not_exists] at hstart
    refine Or.inr fun text => ?_
    rw [hskip]
    exact hblank.settled.head_ne hstart text

theorem UniformUpTo.items_succ (hup : UniformUpTo bound) (h : Settled .outside parts)
    (hbound : 2 * parts.length + 1 ≤ bound)
    (hfuel : ∀ text, 2 * (written text parts).length + 1 ≤ fuel text) :
    Uniform parts fun text => readItems (fuel text + 1) levels (written text parts) := by
  rcases hup.value fuel levels parts h hbound hfuel with hnone | ⟨tokens, after, hvalue, hread⟩
  · refine Or.inl fun text => ?_
    obtain ⟨trouble, htrouble⟩ := hnone text
    exact ⟨trouble, readItems_error htrouble⟩
  have hlength := hvalue.length_le
  rcases hvalue.settled.mark_cases (by decide : ']' ∈ marks) with
    ⟨left, hmark, -, hleft⟩ | hclose
  · refine Or.inr ⟨_, left, hvalue.trans hmark, fun text => ?_⟩
    obtain ⟨item, hitem⟩ := hread text
    exact ⟨[item], readItems_close hitem (hleft text).1⟩
  rcases hvalue.settled.mark_cases (by decide : ',' ∈ marks) with
    ⟨more, hmark, hshorter, hmore⟩ | hcomma
  · obtain ⟨start, hblank, hskip⟩ := hmark.settled.exists_skipSpace
    have hlength' := hblank.length_le
    refine (hup.items fuel levels start hblank.settled (by omega) fun text => ?_).map
      ((hvalue.trans hmark).trans hblank) fun text => ?_
    · have hvalue' := hlength.2 text
      have hmark' := (hmore text).2
      have hblank' := hlength'.2 text
      have henough := hfuel text
      omega
    · obtain ⟨item, hitem⟩ := hread text
      exact ⟨(item :: ·), by rw [readItems_comma hitem (hmore text).1, hskip]⟩
  · refine Or.inl fun text => ?_
    obtain ⟨item, hitem⟩ := hread text
    exact ⟨_, readItems_other hitem (hclose text) (hcomma text)⟩

theorem UniformUpTo.fields_succ (hup : UniformUpTo bound) (h : Settled .outside parts)
    (hbound : 2 * parts.length + 1 ≤ bound)
    (hfuel : ∀ text, 2 * (written text parts).length + 1 ≤ fuel text) :
    Uniform parts fun text => readFields (fuel text + 1) levels (written text parts) := by
  by_cases hquote : ∃ rest, parts = .char '"' :: rest
  case neg =>
    rw [not_exists] at hquote
    exact Or.inl fun text => ⟨_, readFields_noName (h.head_ne hquote text)⟩
  obtain ⟨quoted, rfl⟩ := hquote
  rcases uniform_readText h with hnone | ⟨tokens, afterName, hname, hreadName⟩
  · refine Or.inl fun text => ?_
    obtain ⟨trouble, htrouble⟩ := hnone text
    exact ⟨trouble, readFields_nameError htrouble⟩
  have hlengthName := hname.length_le
  rcases hname.settled.mark_cases (by decide : ':' ∈ marks) with
    ⟨colon, hmark, hshorter, hcolon⟩ | hnoColon
  case inr =>
    refine Or.inl fun text => ?_
    obtain ⟨name, hname⟩ := hreadName text
    exact ⟨_, readFields_noColon hname (hnoColon text)⟩
  obtain ⟨start, hblank, hskip⟩ := hmark.settled.exists_skipSpace
  have hlengthStart := hblank.length_le
  have hstart : ∀ text,
      (written text start).length < (written text (.char '"' :: quoted)).length := fun text =>
    (hlengthStart.2 text).trans_lt ((hcolon text).2.trans_le (hlengthName.2 text))
  rcases hup.value fuel levels start hblank.settled (by omega) (fun text => by
    have hless := hstart text
    have henough := hfuel text
    omega) with hnone | ⟨others, after, hvalue, hread⟩
  · refine Or.inl fun text => ?_
    obtain ⟨name, hname⟩ := hreadName text
    obtain ⟨trouble, htrouble⟩ := hnone text
    exact ⟨trouble, readFields_valueError hname (hcolon text).1 (by rwa [hskip])⟩
  have hpass := ((hname.trans hmark).trans hblank).trans hvalue
  have hitem : ∀ text, ∃ item, readValue (fuel text) levels (skipSpace (written text colon)) =
      .ok (item, written text after) := by
    intro text
    rw [hskip]
    exact hread text
  have hlength := hvalue.length_le
  rcases hvalue.settled.mark_cases (by decide : '\x7d' ∈ marks) with
    ⟨left, hmark', -, hleft⟩ | hclose
  · refine Or.inr ⟨_, left, hpass.trans hmark', fun text => ?_⟩
    obtain ⟨name, hname⟩ := hreadName text
    obtain ⟨item, hitem⟩ := hitem text
    exact ⟨[(name, item)], readFields_close hname (hcolon text).1 hitem (hleft text).1⟩
  rcases hvalue.settled.mark_cases (by decide : ',' ∈ marks) with
    ⟨more, hmark', hshorter', hmore⟩ | hcomma
  · obtain ⟨next, hblank', hskip'⟩ := hmark'.settled.exists_skipSpace
    have hlengthNext := hblank'.length_le
    refine (hup.fields fuel levels next hblank'.settled (by omega) fun text => ?_).map
      ((hpass.trans hmark').trans hblank') fun text => ?_
    · have hless := hstart text
      have hvalue' := hlength.2 text
      have hmark'' := (hmore text).2
      have hblank'' := hlengthNext.2 text
      have henough := hfuel text
      omega
    · obtain ⟨name, hname⟩ := hreadName text
      obtain ⟨item, hitem⟩ := hitem text
      exact ⟨((name, item) :: ·), by
        rw [written_char, readFields_comma hname (hcolon text).1 hitem (hmore text).1, hskip']⟩
  · refine Or.inl fun text => ?_
    obtain ⟨name, hname⟩ := hreadName text
    obtain ⟨item, hitem⟩ := hitem text
    exact ⟨_, readFields_other hname (hcolon text).1 hitem (hclose text) (hcomma text)⟩

/-- Values, items and fields are read uniformly in texts of any length. -/
theorem uniformUpTo (bound : Nat) : UniformUpTo bound := by
  induction bound with
  | zero => constructor <;> intros <;> omega
  | succ bound ih =>
      have hsucc : ∀ {least : (List Char → String) → Nat} {fuel : (List Char → String) → Nat},
          (∀ text, least text + 1 ≤ fuel text) →
            ∃ less : (List Char → String) → Nat, (fuel = fun text => less text + 1) ∧
              ∀ text, least text ≤ less text := by
        intro least fuel hfuel
        exact ⟨fun text => fuel text - 1,
          funext fun text => (Nat.sub_add_cancel (Nat.zero_lt_of_lt (hfuel text))).symm,
          fun text => Nat.le_sub_one_of_lt (hfuel text)⟩
      constructor
      · intro fuel levels parts h hbound hfuel
        obtain ⟨less, rfl, hless⟩ := hsucc hfuel
        exact ih.value_succ h (by omega) hless
      · intro fuel levels parts h hbound hfuel
        obtain ⟨less, rfl, hless⟩ := hsucc hfuel
        exact ih.items_succ h (by omega) hless
      · intro fuel levels parts h hbound hfuel
        obtain ⟨less, rfl, hless⟩ := hsucc hfuel
        exact ih.fields_succ h (by omega) hless

end Readers

/-- A text with settled slots is JSON whatever the texts in the slots are, or no JSON whatever
they are; if it is, it has tokens, and filled in it has the same tokens with the texts in their
slots. -/
theorem readAll_written {parts : List Part} (h : Settled .outside parts) :
    (∀ text, ∃ trouble, readAll (written text parts) = .error trouble) ∨
    ∃ tokens, Lexes parts tokens [] ∧ ∀ text, (∃ v, readAll (written text parts) = .ok v) ∧
      Lexes (chars (written text parts)) (tokens.map (Token.filled text)) [] := by
  by_cases hmark : ∃ rest, parts = .char '\ufeff' :: rest
  · obtain ⟨rest, rfl⟩ := hmark
    exact Or.inl fun text => ⟨_, rfl⟩
  rw [not_exists] at hmark
  obtain ⟨start, hblank, hskip⟩ := h.exists_skipSpace
  have hlength := hblank.length_le
  have hhead := h.head_ne hmark
  rcases (uniformUpTo (2 * start.length + 1)).value
    (fun text => 2 * (written text parts).length + 1) nestingLimit start hblank.settled
    (Nat.le_refl _) (fun text => Nat.succ_le_succ (Nat.mul_le_mul_left 2 (hlength.2 text))) with
    hnone | ⟨tokens, after, hvalue, hread⟩
  · refine Or.inl fun text => ?_
    obtain ⟨trouble, htrouble⟩ := hnone text
    exact ⟨trouble, readAll_error (hhead text) (by rw [hskip]; exact htrouble)⟩
  have hvalue' : ∀ text, ∃ v, readValue (2 * (written text parts).length + 1) nestingLimit
      (skipSpace (written text parts)) = .ok (v, written text after) := by
    intro text
    rw [hskip]
    exact hread text
  obtain ⟨last, hlast, hend⟩ := hvalue.settled.exists_skipSpace
  rcases hlast.settled.eq_nil_or_char with rfl | ⟨c, rest, rfl⟩
  · have hpass := (hblank.trans hvalue).trans hlast
    refine Or.inr ⟨_, hpass.unfilled, fun text => ⟨?_, hpass.filled text⟩⟩
    obtain ⟨v, hv⟩ := hvalue' text
    exact ⟨v, readAll_ok (hhead text) hv (hend text)⟩
  · refine Or.inl fun text => ?_
    obtain ⟨v, hv⟩ := hvalue' text
    exact ⟨_, readAll_extra (hhead text) hv (hend text)⟩

end CallChain.Json
