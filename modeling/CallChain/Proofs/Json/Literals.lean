/-
# Literals with slots

A slot inside of a text literal is a place of its own as long as no escape is pending there: a
backslash alone, `\u` with fewer than four digits behind it, or the first half of a pair, which
is waiting for the second one. Then no text in the slot makes a difference to how the rest of
the literal is read. Either the literal is read whatever the texts are, as its content with the
texts in the slots, or it is not read whatever they are.
-/

import CallChain.Proofs.Json.Compact
import CallChain.Proofs.Json.Tokens

namespace CallChain.Json

/-! ## Pending escapes -/

/-- What of an escape has been seen. -/
inductive Escape where
  /-- No escape is pending. -/
  | finished
  /-- A backslash. -/
  | begun
  /-- The first digits of a code unit, fewer than four. -/
  | unit (digits : List Char)
  /-- The first half of a pair. -/
  | half
  deriving DecidableEq

/-- What digits of a code unit leave pending. -/
def Escape.ofDigits (digits : List Char) : Escape :=
  if digits.length < 4 then .unit digits
  else match Text.ofHex? digits with
    | some value => if isHighHalf value then .half else .finished
    | none => .finished

/-- What is pending after one more character of a literal. -/
def Escape.after (e : Escape) (c : Char) : Escape :=
  if e = .begun then (if c = 'u' then .unit [] else .finished)
  else if c = '\\' then .begun
  else match e with
    | .unit digits => if (Text.hexValue? c).isSome then .ofDigits (digits ++ [c]) else .finished
    | _ => .finished

/-- Where a place of a JSON text is. -/
inductive Spot where
  /-- Outside of literals. -/
  | outside
  /-- Inside of a literal. -/
  | inside (e : Escape)
  deriving DecidableEq

/-- The spot after one more character. -/
def Spot.after : Spot → Char → Spot
  | .outside, c => if c = '"' then .inside .finished else .outside
  | .inside e, c => if c = '"' ∧ e ≠ .begun then .outside else .inside (e.after c)

/-- Whether slots stand inside of literals only, where no escape is pending. -/
def Settled : Spot → List Part → Prop
  | _, [] => True
  | spot, .char c :: rest => Settled (spot.after c) rest
  | spot, .slot _ :: rest => spot = .inside .finished ∧ Settled spot rest

theorem settled_chars_append {spot : Spot} (text : List Char) (rest : List Part) :
    Settled spot (chars text ++ rest) ↔ Settled (text.foldl Spot.after spot) rest := by
  induction text generalizing spot with
  | nil => rfl
  | cons c text ih => exact ih

/-- Without a quote no literal begins. -/
theorem foldl_after_outside {text : List Char} (h : '"' ∉ text) :
    text.foldl Spot.after .outside = .outside := by
  induction text with
  | nil => rfl
  | cons c text ih =>
      rw [List.mem_cons, not_or] at h
      have hstay : Spot.outside.after c = .outside := by simp [Spot.after, Ne.symm h.1]
      rw [List.foldl_cons, hstay, ih h.2]

/-- Digits that are missing at a code unit come next, or something else comes that is no
digit, or the text ends. -/
theorem settled_unit {missing : Nat} {digits : List Char} {parts : List Part}
    (hmissing : digits.length + missing = 4) (hne : missing ≠ 0)
    (h : Settled (.inside (.unit digits)) parts) :
    (∃ front, parts = chars front ∧ front.length < missing) ∨
    (∃ front c rest, parts = chars front ++ .char c :: rest ∧ front.length < missing ∧
      Text.hexValue? c = none) ∨
    ∃ front rest, parts = chars front ++ rest ∧ front.length = missing ∧
      Settled (.inside (.ofDigits (digits ++ front))) rest := by
  induction missing generalizing digits parts with
  | zero => exact absurd rfl hne
  | succ missing ih =>
      cases parts with
      | nil => exact Or.inl ⟨[], rfl, Nat.zero_lt_succ _⟩
      | cons part rest =>
      cases part with
      | slot inner => cases h.1
      | char c =>
          cases hhex : Text.hexValue? c with
          | none => exact Or.inr (Or.inl ⟨[], c, rest, rfl, Nat.zero_lt_succ _, hhex⟩)
          | some digit =>
              have hc : c ≠ '"' ∧ c ≠ '\\' := by
                constructor <;>
                · rintro rfl
                  cases hhex
              have hnext : Settled (.inside (.ofDigits (digits ++ [c]))) rest := by
                simpa [Settled, Spot.after, Escape.after, hc.1, hc.2, hhex] using h
              cases missing with
              | zero => exact Or.inr (Or.inr ⟨[c], rest, rfl, rfl, hnext⟩)
              | succ missing =>
                  have hshort : (digits ++ [c]).length < 4 := by
                    rw [List.length_append, List.length_singleton]
                    omega
                  rw [Escape.ofDigits, if_pos hshort] at hnext
                  have hlength : (digits ++ [c]).length + (missing + 1) = 4 := by
                    rw [List.length_append, List.length_singleton]
                    omega
                  rcases ih hlength (Nat.succ_ne_zero _) hnext with
                    ⟨front, rfl, hfront⟩ | ⟨front, d, others, rfl, hfront, hd⟩ |
                      ⟨front, others, rfl, hfront, hothers⟩
                  · exact Or.inl ⟨c :: front, rfl, Nat.succ_lt_succ hfront⟩
                  · exact Or.inr (Or.inl ⟨c :: front, d, others, rfl, Nat.succ_lt_succ hfront, hd⟩)
                  · refine Or.inr (Or.inr ⟨c :: front, others, rfl, congrArg (· + 1) hfront, ?_⟩)
                    rwa [List.append_assoc, List.singleton_append] at hothers

/-! ## Code units -/

theorem ofHex?_of_none (front rest : List Char) {c : Char} (h : Text.hexValue? c = none) :
    Text.ofHex? (front ++ c :: rest) = none := by
  rw [Text.ofHex?, List.foldlM_append]
  cases front.foldlM (fun value c => (Text.hexValue? c).map (16 * value + ·)) 0 with
  | none => rfl
  | some value => simp [h]

theorem not_mem_of_ofHex? {digits : List Char} {value : Nat}
    (h : Text.ofHex? digits = some value) {c : Char} (hc : Text.hexValue? c = none) :
    c ∉ digits := by
  intro hmem
  obtain ⟨front, rest, rfl⟩ := List.append_of_mem hmem
  rw [ofHex?_of_none front rest hc] at h
  cases h

theorem codeUnit?_short {text : List Char} (h : text.length ≤ 4) : codeUnit? text = none := by
  rw [codeUnit?_eq, if_neg (by omega)]

theorem codeUnit?_of_none {front : List Char} (hfront : front.length < 4) {c : Char}
    (h : Text.hexValue? c = none) (rest : List Char) : codeUnit? (front ++ c :: rest) = none := by
  obtain ⟨more, hmore⟩ : ∃ more, 4 - front.length = more + 1 := ⟨3 - front.length, by omega⟩
  rw [codeUnit?_eq, List.take_append, List.take_of_length_le (by omega), hmore, List.take_succ_cons,
    ofHex?_of_none front _ h, ite_self]

/-- Whether four digits come next does not depend on the slots, and neither does their value. -/
theorem codeUnit?_cases {parts : List Part} (h : Settled (.inside (.unit [])) parts) :
    (codeUnit? (ahead parts) = none ∧ ∀ text, codeUnit? (written text parts) = none) ∨
    ∃ digits rest value, parts = chars digits ++ rest ∧ rest ≠ [] ∧ digits.length = 4 ∧
      Text.ofHex? digits = some value ∧
      Settled (.inside (if isHighHalf value then .half else .finished)) rest := by
  rcases settled_unit (rfl : ([] : List Char).length + 4 = 4) (by decide) h with
    ⟨front, rfl, hfront⟩ | ⟨front, c, rest, rfl, hfront, hc⟩ | ⟨digits, rest, rfl, hdigits, hrest⟩
  · have hnone := codeUnit?_short (Nat.le_of_lt hfront)
    exact Or.inl ⟨by rwa [ahead_chars], fun text => by rwa [written_chars]⟩
  · refine Or.inl ⟨?_, fun text => ?_⟩
    · rw [ahead_chars_append]
      exact codeUnit?_of_none hfront hc (ahead rest)
    · rw [written_chars_append]
      exact codeUnit?_of_none hfront hc (written text rest)
  · by_cases hend : rest = []
    · subst hend
      have hnone := codeUnit?_digits hdigits []
      rw [if_pos rfl, List.append_nil] at hnone
      exact Or.inl ⟨by simpa using hnone, fun text => by simpa using hnone⟩
    cases hvalue : Text.ofHex? digits with
    | none =>
        have hnone : ∀ more, codeUnit? (digits ++ more) = none := by
          intro more
          rw [codeUnit?_digits hdigits, hvalue, ite_self]
        exact Or.inl ⟨by rw [ahead_chars_append, hnone],
          fun text => by rw [written_chars_append, hnone]⟩
    | some value =>
        refine Or.inr ⟨digits, rest, value, rfl, hend, hdigits, hvalue, ?_⟩
        rwa [List.nil_append, Escape.ofDigits, if_neg (by omega), hvalue] at hrest

/-! ## Escapes -/

/-- Whether the second half of a pair comes next does not depend on the slots. -/
theorem lowHalfAt?_cases {parts : List Part} (h : Settled (.inside .half) parts) :
    (lowHalfAt? (ahead parts) = none ∧ ∀ text, lowHalfAt? (written text parts) = none) ∨
    ∃ digits rest low, parts = chars ('\\' :: 'u' :: digits) ++ rest ∧ rest ≠ [] ∧
      digits.length = 4 ∧ Text.ofHex? digits = some low ∧ isLowHalf low = true ∧
      Settled (.inside .finished) rest := by
  have hneither : ∀ {front : List Char} {rest : List Part}, parts = chars front ++ rest →
      (∀ more digits, front ++ more ≠ '\\' :: 'u' :: digits) →
      lowHalfAt? (ahead parts) = none ∧ ∀ text, lowHalfAt? (written text parts) = none := by
    rintro front rest rfl hne
    refine ⟨?_, fun text => ?_⟩
    · rw [ahead_chars_append]
      exact lowHalfAt?_of_ne (hne _)
    · rw [written_chars_append]
      exact lowHalfAt?_of_ne (hne _)
  cases parts with
  | nil => exact Or.inl ⟨rfl, fun _ => rfl⟩
  | cons part rest =>
  cases part with
  | slot inner => cases h.1
  | char c =>
      by_cases hc : c = '\\'
      case neg => exact Or.inl (hneither (rfl : _ = chars [c] ++ rest) (by simp [hc]))
      subst hc
      cases rest with
      | nil => exact Or.inl ⟨rfl, fun _ => rfl⟩
      | cons part others =>
      cases part with
      | slot inner => cases h.1
      | char d =>
          by_cases hd : d = 'u'
          case neg => exact Or.inl (hneither (rfl : _ = chars ['\\', d] ++ others) (by simp [hd]))
          subst hd
          rcases codeUnit?_cases (show Settled (.inside (.unit [])) others from h) with
            ⟨hahead, hwritten⟩ | ⟨digits, rest, low, rfl, hne, hdigits, hlow, hrest⟩
          · exact Or.inl ⟨by simp [ahead, lowHalfAt?, hahead],
              fun text => by simp [lowHalfAt?, hwritten]⟩
          cases hhalf : isLowHalf low with
          | false =>
              have hnone : ∀ more, lowHalfAt? ('\\' :: 'u' :: (digits ++ more)) = none := by
                intro more
                rw [lowHalfAt?, codeUnit?_digits hdigits, hlow]
                split
                · rfl
                · simp [Option.filter, hhalf]
              exact Or.inl ⟨by simp [ahead, hnone], fun text => by simp [hnone]⟩
          | true =>
              refine Or.inr ⟨digits, rest, low, rfl, hne, hdigits, hlow, hhalf, ?_⟩
              have hhigh : isHighHalf low = false := by
                simp only [isLowHalf, isHighHalf, Bool.and_eq_true, decide_eq_true_eq,
                  Bool.and_eq_false_iff, decide_eq_false_iff_not] at hhalf ⊢
                omega
              rwa [hhigh] at hrest

/-- A pending half is no more than nothing pending, as long as no slot comes next. -/
theorem Settled.of_half {parts : List Part} (h : Settled (.inside .half) parts) :
    Settled (.inside .finished) parts := by
  cases parts with
  | nil => trivial
  | cons part rest =>
      cases part with
      | slot inner => cases h.1
      | char c => simpa [Settled, Spot.after, Escape.after] using h

/-- An escape other than that of a code unit is one character. -/
theorem escapeAt_of_ne {c : Char} (h : c ≠ 'u') :
    (∃ d, ∀ rest, escapeAt (c :: rest) = .ok (d, 1)) ∨
      ∀ rest, ∃ trouble, escapeAt (c :: rest) = .error trouble := by
  by_cases hknown : c ∈ ['"', '\\', '/', 'b', 'f', 'n', 'r', 't']
  · simp only [List.mem_cons, List.not_mem_nil, or_false] at hknown
    rcases hknown with rfl | rfl | rfl | rfl | rfl | rfl | rfl | rfl <;>
      exact Or.inl ⟨_, fun rest => rfl⟩
  · refine Or.inr fun rest => ?_
    simp only [List.mem_cons, List.not_mem_nil, or_false, not_or] at hknown
    unfold escapeAt
    split
    all_goals first
      | exact ⟨_, rfl⟩
      | next heq => exact absurd (List.cons.inj heq).1 (by simp [hknown, h])

theorem exists_readChars_error {text : List Char} (h : '"' ∉ text) (skip : Nat) :
    ∃ trouble, readChars skip text = .error trouble := by
  induction text generalizing skip with
  | nil => cases skip <;> exact ⟨_, rfl⟩
  | cons c text ih =>
      rw [List.mem_cons, not_or] at h
      have hrest := ih h.2
      cases skip with
      | succ skip => exact hrest skip
      | zero =>
          rw [readChars, if_neg (Ne.symm h.1)]
          split
          · split
            · exact ⟨_, rfl⟩
            · cases escapeAt text with
              | error trouble => exact ⟨trouble, rfl⟩
              | ok found =>
                  obtain ⟨trouble, hread⟩ := hrest found.2
                  exact ⟨trouble, by simp only [hread]; rfl⟩
          · split
            · exact ⟨_, rfl⟩
            · obtain ⟨trouble, hread⟩ := hrest 0
              exact ⟨trouble, by rw [hread]; rfl⟩

/-- Whether an escape after a backslash is read as one character, whatever the texts in the
slots after it are, unless the text ends right there. -/
structure ReadsEscape (parts : List Part) (d : Char) (front : List Char) (rest : List Part) :
    Prop where
  /-- The characters of the escape come first. -/
  splits : parts = chars front ++ rest
  /-- There are some. -/
  ne_nil : front ≠ []
  /-- They are the escape where no slot is filled. -/
  unfilled : escapeAt (ahead parts) = .ok (d, front.length)
  /-- No escape is pending after them. -/
  settled : Settled (.inside .finished) rest
  /-- They are the escape where the slots are filled. -/
  filled : ∀ text, escapeAt (written text parts) = .ok (d, front.length) ∨
    '"' ∉ written text parts

theorem ahead_ne_nil {parts : List Part} (h : parts ≠ []) : ahead parts ≠ [] := by
  cases parts with
  | nil => exact absurd rfl h
  | cons part rest => cases part <;> exact List.cons_ne_nil _ _

section CodeUnits

variable {digits : List Char} {rest : List Part} {value : Nat}

/-- A code unit by itself, where no second half is taken in. -/
theorem readsEscape_alone (h : digits.length = 4) (hvalue : Text.ofHex? digits = some value)
    (hne : rest ≠ []) (hsettled : Settled (.inside .finished) rest)
    (hread : isHighHalf value = true →
      lowHalfAt? (ahead rest) = none ∧ ∀ text, lowHalfAt? (written text rest) = none) :
    ReadsEscape (chars ('u' :: digits) ++ rest) (unitChar value) ('u' :: digits) rest := by
  have hlength : ('u' :: digits).length = 5 := congrArg (· + 1) h
  have halone : ∀ more, more ≠ [] → (isHighHalf value = true → lowHalfAt? more = none) →
      escapeAt ('u' :: (digits ++ more)) = .ok (unitChar value, 5) := by
    intro more hmore hnone
    rw [escapeAt_codeUnit h hvalue hmore]
    split
    · next hhigh => rw [hnone hhigh]
    · rfl
  refine ⟨rfl, List.cons_ne_nil _ _, ?_, hsettled, fun text => ?_⟩
  · rw [hlength, ahead_chars_append]
    exact halone _ (ahead_ne_nil hne) fun hhigh => (hread hhigh).1
  · rw [hlength, written_chars_append]
    by_cases hwritten : written text rest = []
    · exact Or.inr (by simp [hwritten, not_mem_of_ofHex? hvalue (c := '"') rfl])
    · exact Or.inl (halone _ hwritten fun hhigh => (hread hhigh).2 text)

/-- Both halves of a pair. -/
theorem readsEscape_pair {digits' : List Char} {low : Nat} (h : digits.length = 4)
    (hvalue : Text.ofHex? digits = some value) (hhigh : isHighHalf value = true)
    (h' : digits'.length = 4) (hlow : Text.ofHex? digits' = some low)
    (hhalf : isLowHalf low = true) (hne : rest ≠ []) (hsettled : Settled (.inside .finished) rest) :
    ReadsEscape (chars ('u' :: digits) ++ (chars ('\\' :: 'u' :: digits') ++ rest))
      (Char.ofNat (0x10000 + (value - 0xd800) * 0x400 + (low - 0xdc00)))
      ('u' :: digits ++ '\\' :: 'u' :: digits') rest := by
  have hlength : ('u' :: digits ++ '\\' :: 'u' :: digits').length = 11 := by simp [h, h']
  have hpair : ∀ more, more ≠ [] →
      escapeAt ('u' :: (digits ++ '\\' :: 'u' :: (digits' ++ more))) =
        .ok (Char.ofNat (0x10000 + (value - 0xd800) * 0x400 + (low - 0xdc00)), 11) := by
    intro more hmore
    rw [escapeAt_codeUnit h hvalue (List.cons_ne_nil _ _), if_pos hhigh]
    simp [lowHalfAt?, codeUnit?_digits h', hmore, hlow, hhalf, Option.filter]
  refine ⟨by simp [chars], List.cons_ne_nil _ _, ?_, hsettled, fun text => ?_⟩
  · rw [hlength, ahead_chars_append, ahead_chars_append]
    exact hpair _ (ahead_ne_nil hne)
  · rw [hlength, written_chars_append, written_chars_append]
    by_cases hwritten : written text rest = []
    · exact Or.inr (by simp [hwritten, not_mem_of_ofHex? hvalue (c := '"') rfl,
        not_mem_of_ofHex? hlow (c := '"') rfl])
    · exact Or.inl (hpair _ hwritten)

theorem exists_readsEscape_codeUnit (h : digits.length = 4)
    (hvalue : Text.ofHex? digits = some value) (hne : rest ≠ [])
    (hrest : Settled (.inside (if isHighHalf value then .half else .finished)) rest) :
    ∃ d front left, ReadsEscape (chars ('u' :: digits) ++ rest) d front left := by
  cases hhigh : isHighHalf value with
  | false =>
      rw [hhigh] at hrest
      exact ⟨_, _, _, readsEscape_alone h hvalue hne hrest fun htrue => by
        rw [hhigh] at htrue
        cases htrue⟩
  | true =>
      rw [hhigh] at hrest
      rcases lowHalfAt?_cases hrest with
        hnone | ⟨digits', left, low, rfl, hne', h', hlow, hhalf, hleft⟩
      · exact ⟨_, _, _, readsEscape_alone h hvalue hne (Settled.of_half hrest) fun _ => hnone⟩
      · exact ⟨_, _, _, readsEscape_pair h hvalue hhigh h' hlow hhalf hne' hleft⟩

end CodeUnits

/-- What follows a backslash is an escape, or it is none, whatever the texts in the slots
are. -/
theorem escape_cases {parts : List Part} (h : Settled (.inside .begun) parts) :
    (∀ text, ∃ trouble, readChars 0 ('\\' :: written text parts) = .error trouble) ∨
      ∃ d front rest, ReadsEscape parts d front rest := by
  have hfails : ∀ (c : Char) (rest : List Char),
      (∃ trouble, escapeAt (c :: rest) = .error trouble) →
      ∃ trouble, readChars 0 ('\\' :: c :: rest) = .error trouble := by
    rintro c rest ⟨trouble, htrouble⟩
    exact ⟨trouble, by simp [readChars, htrouble]⟩
  cases parts with
  | nil => exact Or.inl fun _ => ⟨_, rfl⟩
  | cons part rest =>
  cases part with
  | slot inner => cases h.1
  | char c =>
      by_cases hc : c = 'u'
      · subst hc
        rcases codeUnit?_cases (show Settled (.inside (.unit [])) rest from h) with
          ⟨-, hnone⟩ | ⟨digits, left, value, rfl, hne, hdigits, hvalue, hleft⟩
        · refine Or.inl fun text => hfails 'u' (written text rest) ?_
          simp only [escapeAt, hnone text]
          exact ⟨_, rfl⟩
        · exact Or.inr (exists_readsEscape_codeUnit hdigits hvalue hne hleft)
      · have hrest : Settled (.inside .finished) rest := by
          simpa [Settled, Spot.after, Escape.after, hc] using h
        rcases escapeAt_of_ne hc with ⟨d, hd⟩ | hnone
        · exact Or.inr ⟨d, [c], rest, rfl, List.cons_ne_nil _ _, hd (ahead rest), hrest,
            fun text => Or.inl (hd (written text rest))⟩
        · exact Or.inl fun text => hfails c (written text rest) (hnone (written text rest))

/-! ## The text in a slot -/

theorem quote_not_mem_unitEscape (unit : Nat) : '"' ∉ unitEscape unit :=
  not_mem_unitEscape (by decide) (by decide) unit

/-- What is written for a character ends no literal. -/
theorem exists_readChars_asciiChar (c : Char) :
    ∃ trouble, readChars 0 (asciiChar c) = .error trouble := by
  unfold asciiChar
  split
  · next hescape =>
      unfold shortEscape? at hescape
      split_ifs at hescape
      all_goals
        cases hescape
        exact ⟨_, rfl⟩
  · next hnone =>
      apply exists_readChars_error
      split
      · intro hmem
        rw [← List.mem_singleton.mp hmem] at hnone
        cases hnone
      split
      · exact quote_not_mem_unitEscape _
      · rw [List.mem_append, not_or]
        exact ⟨quote_not_mem_unitEscape _, quote_not_mem_unitEscape _⟩

/-- The text in a slot comes before what is read after it. -/
theorem readChars_textBody {text : List Char} {rest cs left : List Char}
    (h : readChars 0 rest = .ok (cs, left)) :
    readChars 0 (text.flatMap asciiChar ++ rest) = .ok (text ++ cs, left) := by
  induction text with
  | nil => exact h
  | cons c text ih =>
      rw [List.flatMap_cons, List.append_assoc]
      cases hnext : text.flatMap asciiChar ++ rest with
      | nil =>
          rw [hnext] at ih
          cases ih
      | cons d others =>
          rw [readsChar_asciiChar, ← hnext, ih]
          rfl

theorem exists_readChars_textBody {text : List Char} {rest : List Char}
    (h : ∃ trouble, readChars 0 rest = .error trouble) :
    ∃ trouble, readChars 0 (text.flatMap asciiChar ++ rest) = .error trouble := by
  induction text with
  | nil => exact h
  | cons c text ih =>
      rw [List.flatMap_cons, List.append_assoc]
      cases hnext : text.flatMap asciiChar ++ rest with
      | nil =>
          rw [List.append_nil]
          exact exists_readChars_asciiChar c
      | cons d others =>
          obtain ⟨trouble, htrouble⟩ := ih
          exact ⟨trouble, by rw [readsChar_asciiChar, ← hnext, htrouble]; rfl⟩

/-! ## Whole literals -/

/-- Whether the rest of a literal has a content, and is read as that content with texts in its
slots whatever the texts are. -/
structure ReadsLiteral (parts cs left : List Part) : Prop where
  /-- The content. -/
  content : content 0 parts = some (cs, left)
  /-- Slots after the literal stand inside of later ones. -/
  settled : Settled .outside left
  /-- At least the closing quote is passed. -/
  shorter : left.length < parts.length
  /-- The literal is read up to the same place. -/
  reads : ∀ text, readChars 0 (written text parts) = .ok (decoded text cs, written text left)

theorem content_passed (front : List Char) (rest : List Part) :
    content front.length (chars front ++ rest) = content 0 rest := by
  induction front with
  | nil => rfl
  | cons c front ih => exact ih

/-- Whether the rest of a literal is read whatever the texts in its slots are, or not read
whatever they are. -/
def ReadsUniformly (parts : List Part) : Prop :=
  (∀ text, ∃ trouble, readChars 0 (written text parts) = .error trouble) ∨
    ∃ cs left, ReadsLiteral parts cs left

theorem readsUniformly_slot {rest : List Part} (inner : List Char) (h : ReadsUniformly rest) :
    ReadsUniformly (.slot inner :: rest) := by
  rcases h with hnone | ⟨cs, left, hread⟩
  · exact Or.inl fun text => exists_readChars_textBody (hnone text)
  · refine Or.inr ⟨.slot inner :: cs, left, ?_, hread.settled, Nat.lt_succ_of_lt hread.shorter,
      fun text => readChars_textBody (hread.reads text)⟩
    rw [content, hread.content]
    rfl

theorem readsUniformly_char {c : Char} {rest : List Part} (hquote : c ≠ '"') (hback : c ≠ '\\')
    (h : ReadsUniformly rest) : ReadsUniformly (.char c :: rest) := by
  by_cases hcontrol : c.toNat < 0x20
  · exact Or.inl fun text => ⟨_, readChars_control hcontrol (written text rest)⟩
  have hplain := readChars_char hquote hback hcontrol
  rcases h with hnone | ⟨cs, left, hread⟩
  · refine Or.inl fun text => ?_
    obtain ⟨trouble, htrouble⟩ := hnone text
    exact ⟨trouble, by rw [written_char, hplain, htrouble]; rfl⟩
  · refine Or.inr ⟨.char c :: cs, left, ?_, hread.settled, Nat.lt_succ_of_lt hread.shorter,
      fun text => ?_⟩
    · rw [content, if_neg hquote, if_neg hback, if_neg hcontrol, hread.content]
      rfl
    · rw [written_char, hplain, hread.reads]
      rfl

theorem ReadsEscape.readsUniformly {d : Char} {front : List Char} {parts rest : List Part}
    (hescape : ReadsEscape parts d front rest) (h : ReadsUniformly rest) :
    ReadsUniformly (.char '\\' :: parts) := by
  have hread := hescape.filled
  have hunfilled := hescape.unfilled
  obtain rfl := hescape.splits
  simp only [written_chars_append] at hread
  rcases h with hnone | ⟨cs, left, hliteral⟩
  · refine Or.inl fun text => ?_
    rw [written_char, written_chars_append]
    rcases hread text with hread | hend
    · obtain ⟨trouble, htrouble⟩ := hnone text
      exact ⟨trouble, by rw [readChars_escape front hread rfl hescape.ne_nil, htrouble]; rfl⟩
    · exact exists_readChars_error (by simpa using hend) 0
  · refine Or.inr ⟨.char d :: cs, left, ?_, hliteral.settled, ?_, fun text => ?_⟩
    · rw [content, if_neg (by decide), if_pos rfl, hunfilled]
      dsimp only
      rw [content_passed, hliteral.content]
      rfl
    · have hshorter := hliteral.shorter
      simp only [List.length_cons, List.length_append]
      omega
    · rw [written_char, written_chars_append]
      rcases hread text with hread | hend
      · rw [readChars_escape front hread rfl hescape.ne_nil, hliteral.reads]
        rfl
      · -- the literal would have no closing quote
        have hnone : '"' ∉ written text rest := fun hmem => hend (List.mem_append_right front hmem)
        obtain ⟨trouble, htrouble⟩ := exists_readChars_error hnone 0
        rw [hliteral.reads] at htrouble
        cases htrouble

/-- No text in the slots of a literal makes a difference to whether it is read and where it
ends. -/
theorem readsUniformly_literal (parts : List Part) (h : Settled (.inside .finished) parts) :
    ReadsUniformly parts := by
  match parts, h with
  | [], _ => exact Or.inl fun _ => ⟨_, rfl⟩
  | .slot inner :: rest, h => exact readsUniformly_slot inner (readsUniformly_literal rest h.2)
  | .char c :: rest, h =>
      by_cases hquote : c = '"'
      · subst hquote
        exact Or.inr ⟨[], rest, rfl, h, Nat.lt_succ_self _, fun _ => rfl⟩
      by_cases hback : c = '\\'
      · subst hback
        rcases escape_cases h with hnone | ⟨d, front, left, hescape⟩
        · exact Or.inl hnone
        · have hlength : rest.length = front.length + left.length := by
            rw [hescape.splits, List.length_append, chars, List.length_map]
          exact hescape.readsUniformly (readsUniformly_literal left hescape.settled)
      · have hrest : Settled (.inside .finished) rest := by
          simpa [Settled, Spot.after, Escape.after, hquote, hback] using h
        exact readsUniformly_char hquote hback (readsUniformly_literal rest hrest)
termination_by parts.length

end CallChain.Json
