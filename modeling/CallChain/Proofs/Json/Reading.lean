/-
# The steps of the JSON readers

What each reader does next depends on the first character that is left, blanks aside. There
is an equation for each way on, so that proofs about the readers follow the characters of a
text and open no reader. Where a reader has succeeded, `ReadsValue`, `ReadsItems` and
`ReadsFields` say in which of its ways it went on.
-/

import CallChain.Json.Reader

namespace CallChain

/-! ## Results that may fail -/

theorem exists_ok_of_map {ε α β : Type} {result : Except ε α} {f : α → β} {b : β}
    (h : result.map f = .ok b) : ∃ a, result = .ok a ∧ f a = b := by
  cases result with
  | error e => cases h
  | ok a => exact ⟨a, rfl, Except.ok.inj h⟩

theorem exists_ok_of_bind {ε α β : Type} {result : Except ε α} {next : α → Except ε β} {b : β}
    (h : result >>= next = .ok b) : ∃ a, result = .ok a ∧ next a = .ok b := by
  cases result with
  | error e => cases h
  | ok a => exact ⟨a, rfl, h⟩

namespace Json

section Steps

variable {text after left more : List Char} {item : Value} {trouble : Trouble}

/-! ## One turn of each reader -/

theorem readValue_succ_list (fuel levels : Nat) :
    readValue (fuel + 1) (levels + 1) ('[' :: text) =
      match skipSpace text with
      | ']' :: left => .ok (.list [], left)
      | start => (readItems fuel levels start).map fun (items, left) => (.list items, left) := rfl

theorem readValue_succ_object (fuel levels : Nat) :
    readValue (fuel + 1) (levels + 1) ('\x7b' :: text) =
      match skipSpace text with
      | '\x7d' :: left => .ok (.object [], left)
      | start => (readFields fuel levels start).map fun (fields, left) =>
          (.object (Fields.ofEntries fields), left) := rfl

theorem readItems_succ (fuel levels : Nat) :
    readItems (fuel + 1) levels text =
      match readValue fuel levels text with
      | .error problem => .error problem
      | .ok (item, after) =>
        match skipSpace after with
        | ']' :: left => .ok ([item], left)
        | ',' :: more =>
          (readItems fuel levels (skipSpace more)).map fun (items, left) => (item :: items, left)
        | other => .error (.malformed (.comma, other.length)) := rfl

theorem readFields_succ_quote (fuel levels : Nat) :
    readFields (fuel + 1) levels ('"' :: text) =
      match readText text with
      | .error problem => .error problem
      | .ok (name, afterName) =>
        match skipSpace afterName with
        | ':' :: colon =>
          match readValue fuel levels (skipSpace colon) with
          | .error problem => .error problem
          | .ok (item, after) =>
            match skipSpace after with
            | '\x7d' :: left => .ok ([(name, item)], left)
            | ',' :: more =>
              (readFields fuel levels (skipSpace more)).map fun (fields, left) =>
                ((name, item) :: fields, left)
            | other => .error (.malformed (.comma, other.length))
        | other => .error (.malformed (.colon, other.length)) := rfl

/-! ## Code units -/

theorem codeUnit?_eq (text : List Char) :
    codeUnit? text = if 4 < text.length then Text.ofHex? (text.take 4) else none := by
  match text with
  | [] | [_] | [_, _] | [_, _, _] | [_, _, _, _] => rfl
  | a :: b :: c :: d :: e :: rest => simp [codeUnit?]

/-- Four digits make a code unit if something follows them. -/
theorem codeUnit?_digits {digits : List Char} (h : digits.length = 4) (rest : List Char) :
    codeUnit? (digits ++ rest) = if rest = [] then none else Text.ofHex? digits := by
  rw [codeUnit?_eq, List.take_left' h, List.length_append, h]
  cases rest with
  | nil => rfl
  | cons c rest => simp

/-- The second half of a pair, if its escape comes next. -/
def lowHalfAt? : List Char → Option Nat
  | '\\' :: 'u' :: digits => (codeUnit? digits).filter isLowHalf
  | _ => none

theorem lowHalfAt?_of_ne {text : List Char} (h : ∀ digits, text ≠ '\\' :: 'u' :: digits) :
    lowHalfAt? text = none := by
  unfold lowHalfAt?
  split
  · exact absurd rfl (h _)
  · rfl

/-- The escape of a code unit takes the second half of a pair in if that comes next. -/
theorem escapeAt_codeUnit {digits rest : List Char} {value : Nat} (h : digits.length = 4)
    (hvalue : Text.ofHex? digits = some value) (hrest : rest ≠ []) :
    escapeAt ('u' :: (digits ++ rest)) = .ok (
      if isHighHalf value then
        match lowHalfAt? rest with
        | some low => (Char.ofNat (0x10000 + (value - 0xd800) * 0x400 + (low - 0xdc00)), 11)
        | none => (unitChar value, 5)
      else (unitChar value, 5)) := by
  unfold escapeAt
  simp only [codeUnit?_digits h, if_neg hrest, hvalue, List.drop_left' h]
  split
  · split
    · next others =>
        simp only [lowHalfAt?]
        cases codeUnit? others with
        | none => rfl
        | some low => cases hlow : isLowHalf low <;> simp [Option.filter, hlow]
    · next hother => rw [lowHalfAt?_of_ne fun digits heq => hother digits heq]
  · rfl

/-! ## Literals -/

theorem readChars_char {c : Char} (hquote : c ≠ '"') (hback : c ≠ '\\') (hcontrol : ¬c.toNat < 0x20)
    (rest : List Char) :
    readChars 0 (c :: rest) = (readChars 0 rest).map fun (cs, left) => (c :: cs, left) := by
  rw [readChars, if_neg hquote, if_neg hback, if_neg hcontrol]

theorem readChars_quote (rest : List Char) : readChars 0 ('"' :: rest) = .ok ([], rest) := rfl

theorem readChars_control {c : Char} (h : c.toNat < 0x20) (rest : List Char) :
    readChars 0 (c :: rest) = .error (.malformed (.control, rest.length + 1)) := by
  have hquote : c ≠ '"' := by
    rintro rfl
    exact absurd h (by decide)
  have hback : c ≠ '\\' := by
    rintro rfl
    exact absurd h (by decide)
  rw [readChars, if_neg hquote, if_neg hback, if_pos h]

theorem readText_of_ok {text cs left : List Char} (h : readChars 0 text = .ok (cs, left)) :
    readText text = .ok (String.ofList cs, left) := by
  rw [readText, h]

theorem exists_readChars_of_readText {text left : List Char} {s : String}
    (h : readText text = .ok (s, left)) :
    ∃ cs, readChars 0 text = .ok (cs, left) ∧ s = String.ofList cs := by
  unfold readText at h
  split at h
  · next hread =>
    cases h
    exact ⟨_, hread, rfl⟩
  · cases h
  · cases h

theorem exists_readText_error {text : List Char}
    (h : ∃ trouble, readChars 0 text = .error trouble) :
    ∃ trouble, readText text = .error trouble := by
  obtain ⟨trouble, htrouble⟩ := h
  rw [readText, htrouble]
  split
  · next heq => cases heq
  · exact ⟨_, rfl⟩
  · exact ⟨_, rfl⟩

/-! ## Values -/

/-- What a text that starts with a word or a number is read as. -/
def scalarReading (text : List Char) : Reading Value :=
  match readScalar? text with
  | some (.ok v, left) => .ok (v, left)
  | some (.error problem, _) => .error (.number problem)
  | none => .error (.malformed (.value, text.length))

theorem readValue_scalar (hquote : text.head? ≠ some '"') (hlist : text.head? ≠ some '[')
    (hobject : text.head? ≠ some '\x7b') (fuel levels : Nat) :
    readValue (fuel + 1) levels text = scalarReading text := by
  unfold readValue
  split
  · exact absurd rfl hquote
  · exact absurd rfl hlist
  · exact absurd rfl hobject
  · exact absurd rfl hlist
  · exact absurd rfl hobject
  · rfl

theorem readValue_quote (fuel levels : Nat) (rest : List Char) :
    readValue (fuel + 1) levels ('"' :: rest) =
      (readText rest).map fun (s, left) => (.text s, left) := rfl

theorem readValue_emptyList (h : skipSpace text = ']' :: left) (fuel levels : Nat) :
    readValue (fuel + 1) (levels + 1) ('[' :: text) = .ok (.list [], left) := by
  rw [readValue_succ_list]
  simp only [h]

theorem readValue_emptyObject (h : skipSpace text = '\x7d' :: left) (fuel levels : Nat) :
    readValue (fuel + 1) (levels + 1) ('\x7b' :: text) = .ok (.object [], left) := by
  rw [readValue_succ_object]
  simp only [h]

/-- A list that is not empty is read item by item. -/
theorem readValue_list (h : (skipSpace text).head? ≠ some ']')
    (fuel levels : Nat) :
    readValue (fuel + 1) (levels + 1) ('[' :: text) =
      (readItems fuel levels (skipSpace text)).map fun (items, left) => (.list items, left) := by
  rw [readValue_succ_list]
  dsimp only
  split
  · next heq =>
    rw [heq] at h
    exact absurd rfl h
  · rfl

/-- An object that is not empty is read field by field. -/
theorem readValue_object (h : (skipSpace text).head? ≠ some '\x7d')
    (fuel levels : Nat) :
    readValue (fuel + 1) (levels + 1) ('\x7b' :: text) =
      (readFields fuel levels (skipSpace text)).map fun (fields, left) =>
        (.object (Fields.ofEntries fields), left) := by
  rw [readValue_succ_object]
  dsimp only
  split
  · next heq =>
    rw [heq] at h
    exact absurd rfl h
  · rfl

/-! ## Items -/

variable {fuel levels : Nat}

theorem readItems_error (h : readValue fuel levels text = .error trouble) :
    readItems (fuel + 1) levels text = .error trouble := by
  rw [readItems_succ, h]

theorem readItems_close (h : readValue fuel levels text = .ok (item, after))
    (hclose : skipSpace after = ']' :: left) :
    readItems (fuel + 1) levels text = .ok ([item], left) := by
  rw [readItems_succ, h]
  simp only [hclose]

theorem readItems_comma (h : readValue fuel levels text = .ok (item, after))
    (hcomma : skipSpace after = ',' :: more) :
    readItems (fuel + 1) levels text =
      (readItems fuel levels (skipSpace more)).map fun (items, left) => (item :: items, left) := by
  rw [readItems_succ, h]
  simp only [hcomma]

theorem readItems_other (h : readValue fuel levels text = .ok (item, after))
    (hclose : (skipSpace after).head? ≠ some ']') (hcomma : (skipSpace after).head? ≠ some ',') :
    readItems (fuel + 1) levels text =
      .error (.malformed (.comma, (skipSpace after).length)) := by
  rw [readItems_succ, h]
  dsimp only
  split
  · next heq =>
    rw [heq] at hclose
    exact absurd rfl hclose
  · next heq =>
    rw [heq] at hcomma
    exact absurd rfl hcomma
  · rfl

/-! ## Fields -/

theorem readFields_noName (h : text.head? ≠ some '"') :
    readFields (fuel + 1) levels text = .error (.malformed (.name, text.length)) := by
  unfold readFields
  split
  · exact absurd rfl h
  · rfl

variable {quoted afterName colon : List Char} {name : String}

theorem readFields_nameError (h : readText quoted = .error trouble) :
    readFields (fuel + 1) levels ('"' :: quoted) = .error trouble := by
  rw [readFields_succ_quote]
  simp only [h]

theorem readFields_noColon (hname : readText quoted = .ok (name, afterName))
    (hcolon : (skipSpace afterName).head? ≠ some ':') :
    readFields (fuel + 1) levels ('"' :: quoted) =
      .error (.malformed (.colon, (skipSpace afterName).length)) := by
  rw [readFields_succ_quote]
  simp only [hname]
  split
  · next heq =>
    rw [heq] at hcolon
    exact absurd rfl hcolon
  · rfl

theorem readFields_valueError (hname : readText quoted = .ok (name, afterName))
    (hcolon : skipSpace afterName = ':' :: colon)
    (h : readValue fuel levels (skipSpace colon) = .error trouble) :
    readFields (fuel + 1) levels ('"' :: quoted) = .error trouble := by
  rw [readFields_succ_quote]
  simp only [hname, hcolon, h]

theorem readFields_close (hname : readText quoted = .ok (name, afterName))
    (hcolon : skipSpace afterName = ':' :: colon)
    (h : readValue fuel levels (skipSpace colon) = .ok (item, after))
    (hclose : skipSpace after = '\x7d' :: left) :
    readFields (fuel + 1) levels ('"' :: quoted) = .ok ([(name, item)], left) := by
  rw [readFields_succ_quote]
  simp only [hname, hcolon, h, hclose]

theorem readFields_comma (hname : readText quoted = .ok (name, afterName))
    (hcolon : skipSpace afterName = ':' :: colon)
    (h : readValue fuel levels (skipSpace colon) = .ok (item, after))
    (hcomma : skipSpace after = ',' :: more) :
    readFields (fuel + 1) levels ('"' :: quoted) =
      (readFields fuel levels (skipSpace more)).map fun (fields, left) =>
        ((name, item) :: fields, left) := by
  rw [readFields_succ_quote]
  simp only [hname, hcolon, h, hcomma]

theorem readFields_other (hname : readText quoted = .ok (name, afterName))
    (hcolon : skipSpace afterName = ':' :: colon)
    (h : readValue fuel levels (skipSpace colon) = .ok (item, after))
    (hclose : (skipSpace after).head? ≠ some '\x7d')
    (hcomma : (skipSpace after).head? ≠ some ',') :
    readFields (fuel + 1) levels ('"' :: quoted) =
      .error (.malformed (.comma, (skipSpace after).length)) := by
  rw [readFields_succ_quote]
  simp only [hname, hcolon, h]
  split
  · next heq =>
    rw [heq] at hclose
    exact absurd rfl hclose
  · next heq =>
    rw [heq] at hcomma
    exact absurd rfl hcomma
  · rfl

/-! ## What has been read -/

/-- How the reader of values has read one: the ways that it can go on, with what the other
readers have read there. -/
inductive ReadsValue (fuel : Nat) : Nat → List Char → Value → List Char → Prop
  /-- A literal. -/
  | text {levels : Nat} {quoted left : List Char} {s : String}
    (h : readText quoted = .ok (s, left)) : ReadsValue fuel levels ('"' :: quoted) (.text s) left
  /-- A word or a number. -/
  | scalar {levels : Nat} {text left : List Char} {v : Value}
    (h : readScalar? text = some (.ok v, left)) : ReadsValue fuel levels text v left
  /-- A list without items. -/
  | emptyList {levels : Nat} {inside left : List Char} (h : skipSpace inside = ']' :: left) :
    ReadsValue fuel (levels + 1) ('[' :: inside) (.list []) left
  /-- A list with items. -/
  | list {levels : Nat} {inside left : List Char} {items : List Value}
    (h : readItems fuel levels (skipSpace inside) = .ok (items, left)) :
    ReadsValue fuel (levels + 1) ('[' :: inside) (.list items) left
  /-- An object without fields. -/
  | emptyObject {levels : Nat} {inside left : List Char} (h : skipSpace inside = '\x7d' :: left) :
    ReadsValue fuel (levels + 1) ('\x7b' :: inside) (.object []) left
  /-- An object with fields, of which equal names are merged. -/
  | object {levels : Nat} {inside left : List Char} {fields : List (String × Value)}
    (h : readFields fuel levels (skipSpace inside) = .ok (fields, left)) :
    ReadsValue fuel (levels + 1) ('\x7b' :: inside) (.object (Fields.ofEntries fields)) left

/-- How the reader of items has read some. -/
inductive ReadsItems (fuel levels : Nat) (text left : List Char) : List Value → Prop
  /-- The last one. -/
  | last {after : List Char} {item : Value} (h : readValue fuel levels text = .ok (item, after))
    (hclose : skipSpace after = ']' :: left) : ReadsItems fuel levels text left [item]
  /-- One before others. -/
  | next {after more : List Char} {item : Value} {items : List Value}
    (h : readValue fuel levels text = .ok (item, after)) (hcomma : skipSpace after = ',' :: more)
    (hmore : readItems fuel levels (skipSpace more) = .ok (items, left)) :
    ReadsItems fuel levels text left (item :: items)

/-- How the reader of fields has read some. -/
inductive ReadsFields (fuel levels : Nat) (left : List Char) :
    List Char → List (String × Value) → Prop
  /-- The last one. -/
  | last {quoted afterName colon after : List Char} {name : String} {item : Value}
    (hname : readText quoted = .ok (name, afterName))
    (hcolon : skipSpace afterName = ':' :: colon)
    (h : readValue fuel levels (skipSpace colon) = .ok (item, after))
    (hclose : skipSpace after = '\x7d' :: left) :
    ReadsFields fuel levels left ('"' :: quoted) [(name, item)]
  /-- One before others. -/
  | next {quoted afterName colon after more : List Char} {name : String} {item : Value}
    {fields : List (String × Value)} (hname : readText quoted = .ok (name, afterName))
    (hcolon : skipSpace afterName = ':' :: colon)
    (h : readValue fuel levels (skipSpace colon) = .ok (item, after))
    (hcomma : skipSpace after = ',' :: more)
    (hmore : readFields fuel levels (skipSpace more) = .ok (fields, left)) :
    ReadsFields fuel levels left ('"' :: quoted) ((name, item) :: fields)

theorem readsValue_of_ok (h : readValue (fuel + 1) levels text = .ok (item, left)) :
    ReadsValue fuel levels text item left := by
  unfold readValue at h
  split at h
  · obtain ⟨⟨s, rest⟩, hread, heq⟩ := exists_ok_of_map h
    cases heq
    exact .text hread
  · cases h
  · cases h
  · split at h
    · next hclose =>
      cases h
      exact .emptyList hclose
    · obtain ⟨⟨items, rest⟩, hread, heq⟩ := exists_ok_of_map h
      cases heq
      exact .list hread
  · split at h
    · next hclose =>
      cases h
      exact .emptyObject hclose
    · obtain ⟨⟨fields, rest⟩, hread, heq⟩ := exists_ok_of_map h
      cases heq
      exact .object hread
  · split at h
    · next hread =>
      cases h
      exact .scalar hread
    · cases h
    · cases h

theorem readsItems_of_ok {items : List Value}
    (h : readItems (fuel + 1) levels text = .ok (items, left)) :
    ReadsItems fuel levels text left items := by
  rw [readItems_succ] at h
  split at h
  · cases h
  · next item after hitem =>
    split at h
    · next hclose =>
      cases h
      exact .last hitem hclose
    · next hcomma =>
      obtain ⟨⟨others, rest⟩, hmore, heq⟩ := exists_ok_of_map h
      cases heq
      exact .next hitem hcomma hmore
    · cases h

theorem readsFields_of_ok {fields : List (String × Value)}
    (h : readFields (fuel + 1) levels text = .ok (fields, left)) :
    ReadsFields fuel levels left text fields := by
  unfold readFields at h
  split at h
  · split at h
    · cases h
    · next hname =>
      split at h
      · next hcolon =>
        split at h
        · cases h
        · next item after hitem =>
          split at h
          · next hclose =>
            cases h
            exact .last hname hcolon hitem hclose
          · next hcomma =>
            obtain ⟨⟨others, rest⟩, hmore, heq⟩ := exists_ok_of_map h
            cases heq
            exact .next hname hcolon hitem hcomma hmore
          · cases h
      · cases h
  · cases h

/-! ## Whole texts -/

theorem readAll_error (hmark : text.head? ≠ some '\ufeff')
    (h : readValue (2 * text.length + 1) nestingLimit (skipSpace text) = .error trouble) :
    readAll text = .error trouble := by
  rw [readAll, if_neg (by simpa using hmark), h]

theorem readAll_ok (hmark : text.head? ≠ some '\ufeff')
    (h : readValue (2 * text.length + 1) nestingLimit (skipSpace text) = .ok (item, after))
    (hend : skipSpace after = []) : readAll text = .ok item := by
  rw [readAll, if_neg (by simpa using hmark), h]
  simp only [hend]

theorem readAll_extra (hmark : text.head? ≠ some '\ufeff')
    (h : readValue (2 * text.length + 1) nestingLimit (skipSpace text) = .ok (item, after))
    {c : Char} (hmore : skipSpace after = c :: more) :
    readAll text = .error (.malformed (.extra, (c :: more).length)) := by
  rw [readAll, if_neg (by simpa using hmark), h]
  simp only [hmore]

theorem exists_of_readAll (h : readAll text = .ok item) :
    ∃ after, readValue (2 * text.length + 1) nestingLimit (skipSpace text) = .ok (item, after) ∧
      skipSpace after = [] := by
  unfold readAll at h
  split at h
  · cases h
  · split at h
    · cases h
    · next after hread =>
      split at h
      · next hend =>
        cases h
        exact ⟨after, hread, hend⟩
      · cases h

theorem read_eq_ok_iff {text : String} : read text = .ok item ↔ readAll text.toList = .ok item := by
  unfold read
  cases readAll text.toList with
  | ok v =>
      exact ⟨fun h => congrArg _ (Except.ok.inj h), fun h => congrArg _ (Except.ok.inj h)⟩
  | error trouble => exact iff_of_false (fun h => by cases h) (fun h => by cases h)

end Steps

end Json

end CallChain
