/-
# The tokens of a text with slots

A template that is no JSON has placeholders outside of its text literals. When those are
filled in, what is left are characters and slots, a slot for each placeholder inside of a
literal. Such a text has tokens as a text without slots has: marks, words and numbers, and
literals with their contents decoded, in which a slot counts as one piece. A text has at most
one sequence of tokens.
-/

import CallChain.Json.Writer
import CallChain.Proofs.Json.Scalars

namespace CallChain.Json

/-- A part of a text that is filled in later. -/
inductive Part where
  /-- A character. -/
  | char (c : Char)
  /-- A place for the text of a placeholder. -/
  | slot (inner : List Char)
  deriving DecidableEq

/-- The parts of a text without slots. -/
def chars (text : List Char) : List Part := text.map .char

/-- The characters that a part becomes. A slot is filled as inside of a literal. -/
def Part.written (text : List Char → String) : Part → List Char
  | .char c => [c]
  | .slot inner => textBody (text inner)

/-- What a part of a decoded literal becomes. -/
def Part.decoded (text : List Char → String) : Part → List Char
  | .char c => [c]
  | .slot inner => (text inner).toList

/-- A text with its slots filled in. -/
def written (text : List Char → String) (parts : List Part) : List Char :=
  parts.flatMap (Part.written text)

/-- A decoded literal with its slots filled in. -/
def decoded (text : List Char → String) (parts : List Part) : List Char :=
  parts.flatMap (Part.decoded text)

/-- The characters up to the first slot, and a blank for the slot, which no escape, no word
and no number takes in. -/
def ahead : List Part → List Char
  | [] => []
  | .slot _ :: _ => [' ']
  | .char c :: rest => c :: ahead rest

/-- The content of a literal up to its closing quote, decoded, and the parts after it. `skip`
counts the parts of an escape still to be passed. -/
def content : Nat → List Part → Option (List Part × List Part)
  | _, [] => none
  | skip + 1, _ :: rest => content skip rest
  | 0, .slot inner :: rest => (content 0 rest).map fun (cs, left) => (.slot inner :: cs, left)
  | 0, .char c :: rest =>
    if c = '"' then some ([], rest)
    else if c = '\\' then
      match escapeAt (ahead rest) with
      | .error _ => none
      | .ok (d, taken) => (content taken rest).map fun (cs, left) => (.char d :: cs, left)
    else if c.toNat < 0x20 then none
    else (content 0 rest).map fun (cs, left) => (.char c :: cs, left)

/-- A token of a text. -/
inductive Token where
  /-- A bracket, a brace, a comma or a colon. -/
  | mark (c : Char)
  /-- A word or a number. -/
  | scalar (v : Value)
  /-- A text literal with its content decoded. -/
  | text (content : List Part)
  deriving DecidableEq

/-- A token with the slots of its content filled in. -/
def Token.filled (text : List Char → String) : Token → Token
  | .text content => .text (chars (decoded text content))
  | other => other

/-- The tokens at the start of a text, up to what is left. -/
inductive Lexes : List Part → List Token → List Part → Prop
  /-- No token. -/
  | done {parts : List Part} : Lexes parts [] parts
  /-- A blank is no token. -/
  | blank {c : Char} {rest left : List Part} {tokens : List Token} (hc : isSpace c = true)
    (h : Lexes rest tokens left) : Lexes (.char c :: rest) tokens left
  /-- A mark. -/
  | mark {c : Char} {rest left : List Part} {tokens : List Token} (hc : c ∈ marks)
    (h : Lexes rest tokens left) : Lexes (.char c :: rest) (.mark c :: tokens) left
  /-- A word or a number, as far as it goes. -/
  | scalar {front : List Char} {parts rest left : List Part} {v : Value} {tokens : List Token}
    (hparts : parts = chars front ++ rest)
    (hread : readScalar? (ahead parts) = some (.ok v, ahead rest))
    (h : Lexes rest tokens left) : Lexes parts (.scalar v :: tokens) left
  /-- A text literal. -/
  | text {rest after left : List Part} {cs : List Part} {tokens : List Token}
    (hread : content 0 rest = some (cs, after)) (h : Lexes after tokens left) :
    Lexes (.char '"' :: rest) (.text cs :: tokens) left

/-! ## Texts without slots -/

theorem chars_append (front back : List Char) : chars (front ++ back) = chars front ++ chars back :=
  List.map_append

@[simp]
theorem ahead_chars_append (front : List Char) (parts : List Part) :
    ahead (chars front ++ parts) = front ++ ahead parts := by
  induction front with
  | nil => rfl
  | cons c front ih => exact congrArg (c :: ·) ih

@[simp]
theorem ahead_chars (text : List Char) : ahead (chars text) = text := by
  have h := ahead_chars_append text []
  rwa [List.append_nil, ahead, List.append_nil] at h

@[simp]
theorem written_chars_append (text : List Char → String) (front : List Char) (rest : List Part) :
    written text (chars front ++ rest) = front ++ written text rest := by
  induction front with
  | nil => rfl
  | cons c front ih => exact congrArg (c :: ·) ih

@[simp]
theorem written_nil (text : List Char → String) : written text [] = [] := rfl

@[simp]
theorem written_char (text : List Char → String) (c : Char) (rest : List Part) :
    written text (.char c :: rest) = c :: written text rest := rfl

@[simp]
theorem written_slot (text : List Char → String) (inner : List Char) (rest : List Part) :
    written text (.slot inner :: rest) = textBody (text inner) ++ written text rest := rfl

@[simp]
theorem written_chars (text : List Char → String) (front : List Char) :
    written text (chars front) = front := by
  have h := written_chars_append text front []
  rwa [List.append_nil, written_nil, List.append_nil] at h

/-- A literal without slots has the content that the reader reads. -/
theorem content_chars (skip : Nat) (text : List Char) :
    content skip (chars text) =
      (readChars skip text).toOption.map fun (cs, left) => (chars cs, chars left) := by
  induction text generalizing skip with
  | nil => cases skip <;> rfl
  | cons c text ih =>
      cases skip with
      | succ skip => exact ih skip
      | zero =>
          change content 0 (.char c :: chars text) = _
          rw [readChars, content, ahead_chars]
          split
          · rfl
          split
          · cases text with
            | nil => rfl
            | cons d text =>
                simp only [List.isEmpty_cons, Bool.false_eq_true, if_false]
                cases escapeAt (d :: text) with
                | error trouble => rfl
                | ok found =>
                    simp only [ih]
                    cases readChars found.2 (d :: text) <;> rfl
          split
          · rfl
          · rw [ih]
            cases readChars 0 text <;> rfl

/-! ## Tokens one after another -/

theorem suffix_of_content {skip : Nat} {parts cs left : List Part}
    (h : content skip parts = some (cs, left)) : left <:+ parts := by
  induction parts generalizing skip cs with
  | nil => cases skip <;> cases h
  | cons part rest ih =>
      have hrest : ∀ {skip : Nat} {part : Part}, (content skip rest).map
          (fun (cs, left) => (part :: cs, left)) = some (cs, left) → left <:+ rest := by
        intro skip part hmap
        obtain ⟨⟨_, _⟩, hread, heq⟩ := Option.map_eq_some_iff.mp hmap
        cases heq
        exact ih hread
      refine List.IsSuffix.trans ?_ (List.suffix_cons part rest)
      cases skip with
      | succ skip => exact ih h
      | zero =>
          cases part with
          | slot inner => exact hrest h
          | char c =>
              rw [content] at h
              split at h
              · cases h
                exact List.suffix_rfl
              split at h
              · split at h
                · cases h
                · exact hrest h
              split at h
              · cases h
              · exact hrest h

/-- What is left stands at the end. -/
theorem Lexes.suffix {parts left : List Part} {tokens : List Token} (h : Lexes parts tokens left) :
    left <:+ parts := by
  induction h with
  | done => exact List.suffix_rfl
  | blank _ _ ih => exact ih.trans (List.suffix_cons _ _)
  | mark _ _ ih => exact ih.trans (List.suffix_cons _ _)
  | @scalar front parts rest _ _ _ hparts _ _ ih =>
      rw [hparts]
      exact ih.trans (List.suffix_append (chars front) rest)
  | text hread _ ih => exact ih.trans ((suffix_of_content hread).trans (List.suffix_cons _ _))

theorem Lexes.append {parts middle left : List Part} {tokens others : List Token}
    (h : Lexes parts tokens middle) (h' : Lexes middle others left) :
    Lexes parts (tokens ++ others) left := by
  induction h with
  | done => exact h'
  | blank hc _ ih => exact .blank hc (ih h')
  | mark hc _ ih => exact .mark hc (ih h')
  | scalar hparts hread _ ih => exact .scalar hparts hread (ih h')
  | text hread _ ih => exact .text hread (ih h')


/-! ## One sequence of tokens -/

theorem isSpace_of_mem_marks {c : Char} (hc : c ∈ marks) : isSpace c = false ∧ c ≠ '"' := by
  simp only [marks, List.mem_cons, List.not_mem_nil, or_false] at hc
  rcases hc with rfl | rfl | rfl | rfl | rfl | rfl <;> decide

/-- What is left where a word or a number is read is known by its characters. -/
theorem eq_of_chars_append {front front' : List Char} {rest rest' : List Part}
    (h : chars front ++ rest = chars front' ++ rest') (hahead : ahead rest = ahead rest') :
    rest = rest' := by
  have hlength : front.length = front'.length := by
    have hall := congrArg (fun parts => (ahead parts).length) h
    simp only [ahead_chars_append, List.length_append, hahead] at hall
    omega
  exact (List.append_inj h (by simpa [chars] using hlength)).2

/-- A text has at most one sequence of tokens. -/
theorem Lexes.unique {parts left : List Part} {tokens tokens' : List Token}
    (h : Lexes parts tokens left) (hleft : left = []) (h' : Lexes parts tokens' []) :
    tokens = tokens' := by
  have hstart : ∀ {c : Char} {rest : List Part} {found : Except NumberProblem Value × List Char},
      readScalar? (ahead (.char c :: rest)) = some found → StartsScalar c := by
    intro c rest found hread
    obtain ⟨d, others, heq, hd⟩ := startsScalar_of_readScalar? hread
    rwa [(List.cons.inj heq).1]
  induction h generalizing tokens' with
  | done =>
      subst hleft
      cases h' with
      | done => rfl
      | scalar _ hread _ => cases hread
  | blank hc _ ih =>
      cases h' with
      | blank _ h' => exact ih hleft h'
      | mark hmark _ =>
          rw [(isSpace_of_mem_marks hmark).1] at hc
          cases hc
      | scalar _ hread _ =>
          rw [(hstart hread).not_mem.1] at hc
          cases hc
      | text _ _ => cases hc
  | mark hc _ ih =>
      cases h' with
      | blank hspace _ =>
          rw [(isSpace_of_mem_marks hc).1] at hspace
          cases hspace
      | mark _ h' => rw [ih hleft h']
      | scalar _ hread _ =>
          exact absurd (List.mem_cons_of_mem _ (List.mem_cons_of_mem _ hc)) (hstart hread).not_mem.2
      | text _ _ => exact absurd rfl (isSpace_of_mem_marks hc).2
  | scalar hparts hread _ ih =>
      cases h' with
      | done => cases hread
      | blank hspace _ =>
          rw [(hstart hread).not_mem.1] at hspace
          cases hspace
      | mark hmark _ =>
          exact absurd (List.mem_cons_of_mem _ (List.mem_cons_of_mem _ hmark))
            (hstart hread).not_mem.2
      | scalar hparts' hread' h' =>
          rw [hread, Option.some.injEq, Prod.mk.injEq, Except.ok.injEq] at hread'
          obtain ⟨rfl, hahead⟩ := hread'
          obtain rfl := eq_of_chars_append (hparts.symm.trans hparts') hahead
          rw [ih hleft h']
      | text _ _ => exact absurd List.mem_cons_self (hstart hread).not_mem.2
  | text hread _ ih =>
      cases h' with
      | blank hspace _ => cases hspace
      | mark hmark _ => exact absurd rfl (isSpace_of_mem_marks hmark).2
      | scalar _ hread' _ => exact absurd List.mem_cons_self (hstart hread').not_mem.2
      | text hread' h' =>
          rw [hread, Option.some.injEq, Prod.mk.injEq] at hread'
          obtain ⟨rfl, rfl⟩ := hread'
          rw [ih hleft h']

end CallChain.Json
