/-
# Reading what has been written

Every value that can be written is read back from its text over several lines: its numbers, its
texts with the escapes of their characters, and its lists and objects with the blanks of their
lines. Objects have to have distinct names, since of equal names the last one counts; and lists
and objects must not be nested deeper than the reader allows. `ReadsChar` is all that is asked
of the way characters are written, so that one proof covers texts in ASCII and others.

A plain value is one without numbers, as the documents of sequences are.
-/

import CallChain.Proofs.Json.Numbers
import CallChain.Proofs.Json.Reading
import CallChain.Proofs.Json.Scalars
import Mathlib.Tactic.SplitIfs

namespace CallChain.Json

/-- Whether a value has no whole number too long to be written and only distinct names, and
lists and objects in it are at most `levels` deep inside each other. -/
inductive Writable : Nat → Value → Prop
  /-- A word or a number. -/
  | scalar {levels : Nat} {v : Value} (h : IsScalar v) : Writable levels v
  /-- A text. -/
  | text {levels : Nat} (s : String) : Writable levels (.text s)
  /-- A list, which opens one level. -/
  | list {levels : Nat} {items : List Value} (h : ∀ item ∈ items, Writable levels item) :
    Writable (levels + 1) (.list items)
  /-- An object, which opens one level. -/
  | object {levels : Nat} {fields : List (String × Value)} (hnames : (Fields.keys fields).Nodup)
    (h : ∀ field ∈ fields, Writable levels field.2) : Writable (levels + 1) (.object fields)

/-- Whether a value has no numbers and only distinct names, and lists and objects in it
are at most `levels` deep inside each other. -/
inductive Plain : Nat → Value → Prop
  /-- The absent value. -/
  | null {levels : Nat} : Plain levels .null
  /-- A truth value. -/
  | bool {levels : Nat} (b : Bool) : Plain levels (.bool b)
  /-- A text. -/
  | text {levels : Nat} (s : String) : Plain levels (.text s)
  /-- A list, which opens one level. -/
  | list {levels : Nat} {items : List Value} (h : ∀ item ∈ items, Plain levels item) :
    Plain (levels + 1) (.list items)
  /-- An object, which opens one level. -/
  | object {levels : Nat} {fields : List (String × Value)} (hnames : (Fields.keys fields).Nodup)
    (h : ∀ field ∈ fields, Plain levels field.2) : Plain (levels + 1) (.object fields)

theorem Plain.writable {levels : Nat} {v : Value} (h : Plain levels v) : Writable levels v := by
  induction h with
  | null => exact .scalar trivial
  | bool b => exact .scalar trivial
  | text s => exact .text s
  | list _ ih => exact .list ih
  | object hnames _ ih => exact .object hnames ih

/-! ## Texts -/

theorem hexValue?_hexDigit : ∀ digit < 16, Text.hexValue? (Text.hexDigit digit) = some digit := by
  decide

/-- Digits are read as the number that they were written for. -/
theorem ofHex?_toHex (width : Nat) : ∀ {value : Nat}, value < Nat.pow 16 width →
    Text.ofHex? (Text.toHex width value) = some value := by
  induction width with
  | zero =>
      intro value hvalue
      obtain rfl : value = 0 := by simpa using hvalue
      rfl
  | succ width ih =>
      intro value hvalue
      have hfront : value / 16 < Nat.pow 16 width := Nat.div_lt_of_lt_mul (by rwa [Nat.mul_comm])
      have hread := ih hfront
      rw [Text.ofHex?] at hread
      rw [Text.toHex, Text.ofHex?, List.foldlM_append, hread]
      simp [hexValue?_hexDigit (value % 16) (Nat.mod_lt _ (by decide))]
      omega

theorem not_mem_toHex {c : Char} (h : ∀ digit < 16, c ≠ Text.hexDigit digit) (width value : Nat) :
    c ∉ Text.toHex width value := by
  induction width generalizing value with
  | zero => exact List.not_mem_nil
  | succ width ih =>
      rw [Text.toHex, List.mem_append, List.mem_singleton, not_or]
      exact ⟨ih _, h _ (Nat.mod_lt _ (by decide))⟩

/-- The escape of a code unit has no characters but its digits, a backslash and a `u`. -/
theorem not_mem_unitEscape {c : Char} (h : ∀ digit < 16, c ≠ Text.hexDigit digit)
    (hmarks : c ∉ ['\\', 'u']) (unit : Nat) : c ∉ unitEscape unit := by
  have hparts : unitEscape unit = ['\\', 'u'] ++ Text.toHex 4 unit := rfl
  rw [hparts, List.mem_append, not_or]
  exact ⟨hmarks, not_mem_toHex h 4 unit⟩

/-- What an escape of a code unit writes is the character of the unit. -/
theorem escapeAt_unit {unit : Nat} (h : unit < 0x10000) (hhigh : isHighHalf unit = false) (c : Char)
    (rest : List Char) :
    escapeAt ('u' :: (Text.toHex 4 unit ++ c :: rest)) = .ok (unitChar unit, 5) := by
  rw [escapeAt_codeUnit rfl (ofHex?_toHex 4 h) (List.cons_ne_nil c rest), hhigh]
  rfl

theorem readChars_escape (escape : List Char) {rest : List Char} {c : Char} {taken : Nat}
    (h : escapeAt (escape ++ rest) = .ok (c, taken)) (htaken : taken = escape.length)
    (hne : escape ≠ []) :
    readChars 0 ('\\' :: (escape ++ rest)) =
      (readChars 0 rest).map fun (cs, left) => (c :: cs, left) := by
  have hskip : ∀ front : List Char, readChars front.length (front ++ rest) = readChars 0 rest := by
    intro front
    induction front with
    | nil => rfl
    | cons d front ih => exact ih
  have hfilled : (escape ++ rest).isEmpty = false := by
    cases escape with
    | nil => exact absurd rfl hne
    | cons d escape => rfl
  rw [readChars]
  simp only [hfilled, h, htaken, hskip]
  rfl

/-- A short escape is read as the character that it is for. -/
theorem readChars_shortEscape {c : Char} {escape : List Char} (h : shortEscape? c = some escape)
    (d : Char) (rest : List Char) :
    readChars 0 (escape ++ d :: rest) =
      (readChars 0 (d :: rest)).map fun (cs, left) => (c :: cs, left) := by
  have hshort : ∀ e : Char, escapeAt (e :: d :: rest) = .ok (c, 1) →
      readChars 0 ('\\' :: e :: d :: rest) =
        (readChars 0 (d :: rest)).map fun (cs, left) => (c :: cs, left) :=
    fun e he => readChars_escape [e] he rfl (by simp)
  unfold shortEscape? at h
  -- the short escapes, one after another
  split_ifs at h
  all_goals
    cases h
    subst_vars
    exact hshort _ rfl

/-- A character that has no short escape is read as itself unless it is a control character. -/
theorem readChars_plain {c : Char} (h : shortEscape? c = none) (hcontrol : ¬c.toNat < 0x20)
    (rest : List Char) :
    readChars 0 (c :: rest) = (readChars 0 rest).map fun (cs, left) => (c :: cs, left) := by
  unfold shortEscape? at h
  split_ifs at h with hquote hback
  exact readChars_char hquote hback hcontrol rest

theorem isHighHalf_of_lt {unit : Nat} (h : unit < 0xd800) : isHighHalf unit = false := by
  simp [isHighHalf]
  omega

theorem isLowHalf_of_lt {unit : Nat} (h : unit < 0xd800) : isLowHalf unit = false := by
  simp [isLowHalf]
  omega

/-- Whether a character is read from what is written for it. -/
def ReadsChar (char : Char → List Char) : Prop :=
  ∀ (c d : Char) (rest : List Char), readChars 0 (char c ++ d :: rest) =
    (readChars 0 (d :: rest)).map fun (cs, left) => (c :: cs, left)

theorem readsChar_rawChar : ReadsChar rawChar := by
  intro c d rest
  unfold rawChar
  split
  · next hescape => exact readChars_shortEscape hescape d rest
  · next hnone =>
    split
    · next hcontrol =>
      have hlow : c.toNat < 0xd800 := by omega
      have hunit := escapeAt_unit (by omega) (isHighHalf_of_lt hlow) d rest
      rw [unitChar, isHighHalf_of_lt hlow, isLowHalf_of_lt hlow, Bool.or_self,
        if_neg Bool.false_ne_true, Char.ofNat_toNat] at hunit
      exact readChars_escape ('u' :: Text.toHex 4 c.toNat) hunit rfl (by simp)
    · next hplain => exact readChars_plain hnone hplain (d :: rest)

theorem toNat_lt (c : Char) : c.toNat < 0xd800 ∨ 0xe000 ≤ c.toNat ∧ c.toNat < 0x110000 := by
  rcases c.valid with h | ⟨hlow, hhigh⟩
  · exact Or.inl h
  · exact Or.inr ⟨hlow, hhigh⟩

/-- Two halves are read as the character that they make together. -/
theorem escapeAt_pair (offset : Nat) (h : offset < 0x100000) (c : Char) (rest : List Char) :
    escapeAt ('u' :: (Text.toHex 4 (0xd800 + offset / 0x400) ++
        unitEscape (0xdc00 + offset % 0x400) ++ c :: rest)) =
      .ok (Char.ofNat (0x10000 + offset), 11) := by
  have hlow : isLowHalf (0xdc00 + offset % 0x400) = true := by
    simp [isLowHalf]
    omega
  have hhigh : isHighHalf (0xd800 + offset / 0x400) = true := by
    simp [isHighHalf]
    omega
  have hoffset : 0x10000 + (0xd800 + offset / 0x400 - 0xd800) * 0x400 +
      (0xdc00 + offset % 0x400 - 0xdc00) = 0x10000 + offset := by omega
  have hfirst : 0xd800 + offset / 0x400 < 0x10000 := by omega
  have hsecond : 0xdc00 + offset % 0x400 < 0x10000 := by omega
  have hnext : lowHalfAt? (unitEscape (0xdc00 + offset % 0x400) ++ c :: rest) =
      some (0xdc00 + offset % 0x400) := by
    rw [unitEscape, List.cons_append, List.cons_append, lowHalfAt?, codeUnit?_digits rfl,
      if_neg (List.cons_ne_nil c rest), ofHex?_toHex 4 hsecond, Option.filter_some, if_pos hlow]
  rw [List.append_assoc, escapeAt_codeUnit rfl (ofHex?_toHex 4 hfirst) (by simp [unitEscape]),
    if_pos hhigh, hnext, ← hoffset]

theorem readsChar_asciiChar : ReadsChar asciiChar := by
  intro c d rest
  unfold asciiChar
  split
  · next hescape => exact readChars_shortEscape hescape d rest
  · next hnone =>
    split
    · next hplain =>
      simp only [Bool.and_eq_true, decide_eq_true_eq] at hplain
      exact readChars_plain hnone (by omega) (d :: rest)
    split
    · next hunit =>
      have hhalf : isHighHalf c.toNat = false ∧ isLowHalf c.toNat = false := by
        rcases toNat_lt c with h | ⟨h, -⟩
        · exact ⟨isHighHalf_of_lt h, isLowHalf_of_lt h⟩
        · simp [isHighHalf, isLowHalf]
          omega
      have hread := escapeAt_unit hunit hhalf.1 d rest
      rw [unitChar, hhalf.1, hhalf.2, Bool.or_self, if_neg Bool.false_ne_true,
        Char.ofNat_toNat] at hread
      exact readChars_escape ('u' :: Text.toHex 4 c.toNat) hread rfl (by simp)
    · next hpair =>
      have hoffset : 0x10000 + (c.toNat - 0x10000) = c.toNat := by omega
      have hread := escapeAt_pair (c.toNat - 0x10000)
        (by rcases toNat_lt c with h | ⟨-, h⟩ <;> omega) d rest
      rw [hoffset, Char.ofNat_toNat] at hread
      exact readChars_escape ('u' :: (Text.toHex 4 (0xd800 + (c.toNat - 0x10000) / 0x400) ++
        unitEscape (0xdc00 + (c.toNat - 0x10000) % 0x400))) hread rfl (by simp)

variable {char : Char → List Char}

theorem readChars_flatMap (h : ReadsChar char) (chars rest : List Char) :
    readChars 0 (chars.flatMap char ++ '"' :: rest) = .ok (chars, rest) := by
  induction chars with
  | nil => rfl
  | cons c chars ih =>
      obtain ⟨d, others, hnext⟩ : ∃ d others, chars.flatMap char ++ '"' :: rest = d :: others :=
        List.exists_cons_of_ne_nil (by simp)
      rw [List.flatMap_cons, List.append_assoc, hnext, h, ← hnext, ih]
      rfl

theorem readText_textWith (h : ReadsChar char) (s : String) (rest : List Char) :
    readText (s.toList.flatMap char ++ '"' :: rest) = .ok (s, rest) := by
  rw [readText, readChars_flatMap h]
  simp

/-! ## Blanks between values -/

theorem skipSpace_lineStart (depth : Nat) (rest : List Char) :
    skipSpace (lineStart depth ++ rest) = skipSpace rest := by
  apply List.dropWhile_append_of_pos
  intro c hc
  rcases List.mem_cons.mp hc with rfl | hc
  · rfl
  · rw [List.eq_of_mem_replicate hc]
    rfl

theorem skipSpace_cons {c : Char} (h : isSpace c = false) (rest : List Char) :
    skipSpace (c :: rest) = c :: rest := by
  rw [skipSpace, List.dropWhile_cons_of_neg (by simp [h])]

theorem indentedChars_scalar {v : Value} (h : IsScalar v) (char : Char → List Char)
    (depth : Nat) : indentedChars char depth v = scalar char v := by
  cases v with
  | list items => exact h.elim
  | object fields => exact h.elim
  | _ => rfl

/-- What a word or a number starts with. -/
theorem head_scalar (char : Char → List Char) {v : Value} (h : IsScalar v) :
    ∃ c rest, scalar char v = c :: rest ∧ StartsScalar c := by
  have hsigned : ∀ (negative : Bool) {text whole more : List Char}, IsWhole whole →
      text = whole ++ more →
        ∃ c rest, (if negative then ['-'] else []) ++ text = c :: rest ∧ StartsScalar c := by
    rintro (_ | _) text whole more hwhole rfl
    · obtain ⟨c, others, rfl⟩ := List.exists_cons_of_ne_nil hwhole.ne_nil
      exact ⟨c, _, rfl, Or.inl (hwhole.digits c List.mem_cons_self)⟩
    · exact ⟨'-', _, rfl, Or.inr (by simp)⟩
  cases v with
  | null => exact ⟨'n', _, rfl, Or.inr (by simp)⟩
  | bool b =>
      cases b with
      | false => exact ⟨'f', _, rfl, Or.inr (by simp)⟩
      | true => exact ⟨'t', _, rfl, Or.inr (by simp)⟩
  | int n =>
      rw [scalar_int]
      exact hsigned _ (isWhole_toDigits n.natAbs) (List.append_nil _).symm
  | float x =>
      cases x with
      | nan => exact ⟨'N', _, rfl, Or.inr (by simp)⟩
      | infinite negative =>
          cases negative with
          | false => exact ⟨'I', _, rfl, Or.inr (by simp)⟩
          | true => exact ⟨'-', _, rfl, Or.inr (by simp)⟩
      | finite negative rank =>
          obtain ⟨whole, more, hwhole, hmore⟩ := exists_whole_decimalText _
          rw [scalar_finite]
          exact hsigned negative hwhole hmore
  | text s => exact h.elim
  | list items => exact h.elim
  | object fields => exact h.elim

theorem endsNumber_cons {c : Char} (h : c.isDigit = false) (hpoint : c ≠ '.') (hsmall : c ≠ 'e')
    (hcapital : c ≠ 'E') (rest : List Char) : EndsNumber (c :: rest) := by
  rintro d hd
  cases hd
  exact ⟨h, hpoint, hsmall, hcapital⟩

theorem textWith_append (char : Char → List Char) (name : String) (rest : List Char) :
    textWith char name ++ rest = '"' :: (name.toList.flatMap char ++ '"' :: rest) := by
  simp [textWith]

theorem indentedChars_text (char : Char → List Char) (depth : Nat) (s : String) :
    indentedChars char depth (.text s) = textWith char s := rfl

/-- How a written value starts: with no blank, no closing bracket and no byte order mark. -/
theorem Writable.head_indentedChars {levels : Nat} {v : Value} (h : Writable levels v)
    (char : Char → List Char) (depth : Nat) :
    ∃ c rest, indentedChars char depth v = c :: rest ∧ isSpace c = false ∧ c ≠ ']' ∧
      c ≠ '\ufeff' := by
  cases h with
  | scalar h =>
      obtain ⟨c, rest, heq, hstart⟩ := head_scalar char h
      obtain ⟨hspace, hnot⟩ := hstart.not_mem
      simp only [marks, List.mem_cons, not_or] at hnot
      exact ⟨c, rest, (indentedChars_scalar h char depth).trans heq, hspace, hnot.2.2.2.1, hnot.2.1⟩
  | text s => exact ⟨'"', _, indentedChars_text char depth s, rfl, by decide⟩
  | @list _ items _ =>
      cases items with
      | nil => exact ⟨'[', [']'], rfl, rfl, by decide⟩
      | cons item items => exact ⟨'[', _, rfl, rfl, by decide⟩
  | @object _ fields _ _ =>
      cases fields with
      | nil => exact ⟨'\x7b', ['\x7d'], rfl, rfl, by decide⟩
      | cons field fields => exact ⟨'\x7b', _, rfl, rfl, by decide⟩

theorem Writable.skipSpace_indentedChars {levels : Nat} {v : Value} (h : Writable levels v)
    (char : Char → List Char) (depth : Nat) (rest : List Char) :
    skipSpace (indentedChars char depth v ++ rest) = indentedChars char depth v ++ rest := by
  obtain ⟨c, others, heq, hspace, -, -⟩ := h.head_indentedChars char depth
  rw [heq, List.cons_append, skipSpace_cons hspace]

/-! ## Values -/

/-- Whether a value is read from its indented text, whatever follows it that a number could not
go on with, within twice as many calls as the text is long. -/
def ReadsBack (char : Char → List Char) (levels : Nat) (v : Value) : Prop :=
  ∀ (depth fuel room : Nat) (rest : List Char), EndsNumber rest →
    2 * (indentedChars char depth v).length ≤ fuel → levels ≤ room →
    readValue fuel room (indentedChars char depth v ++ rest) = .ok (v, rest)

theorem length_lineStart_pos (depth : Nat) : 0 < (lineStart depth).length := by
  simp [lineStart]

theorem endsNumber_lineStart (depth : Nat) (rest : List Char) :
    EndsNumber (lineStart depth ++ rest) :=
  endsNumber_cons rfl (by decide) (by decide) (by decide) _

theorem endsNumber_comma (rest : List Char) : EndsNumber (',' :: rest) :=
  endsNumber_cons rfl (by decide) (by decide) (by decide) _

/-- The items of a list are read one after another, up to the bracket behind them. -/
theorem readItems_indentedItems {levels : Nat} (item : Value) (items : List Value)
    (hwritable : ∀ v ∈ item :: items, Writable levels v)
    (hread : ∀ v ∈ item :: items, ReadsBack char levels v) (depth outer fuel room : Nat)
    (rest : List Char) (hfuel : 2 * (indentedItems char depth (item :: items)).length ≤ fuel)
    (hroom : levels ≤ room) :
    readItems fuel room (skipSpace (indentedItems char depth (item :: items) ++
        (lineStart outer ++ ']' :: rest))) = .ok (item :: items, rest) := by
  induction items generalizing item fuel with
  | nil =>
      have hitem := hwritable item List.mem_cons_self
      have hline := length_lineStart_pos depth
      simp only [indentedItems, List.length_append] at hfuel ⊢
      match fuel, hfuel with
      | 0, hfuel => omega
      | fuel + 1, hfuel =>
          rw [List.append_assoc, skipSpace_lineStart, hitem.skipSpace_indentedChars, readItems,
            hread item List.mem_cons_self depth fuel room _ (endsNumber_lineStart _ _) (by omega)
              hroom]
          simp only [skipSpace_lineStart, skipSpace_cons (c := ']') rfl]
  | cons next items ih =>
      have hitem := hwritable item List.mem_cons_self
      have hline := length_lineStart_pos depth
      simp only [indentedItems, List.length_append, List.length_cons] at hfuel ⊢
      match fuel, hfuel with
      | 0, hfuel => omega
      | fuel + 1, hfuel =>
          rw [List.append_assoc, List.append_assoc, skipSpace_lineStart, List.cons_append,
            hitem.skipSpace_indentedChars, readItems,
            hread item List.mem_cons_self depth fuel room _ (endsNumber_comma _) (by omega) hroom]
          simp only [skipSpace_cons (c := ',') rfl]
          rw [ih next (fun v hv => hwritable v (List.mem_cons_of_mem item hv))
            (fun v hv => hread v (List.mem_cons_of_mem item hv)) fuel (by omega)]
          rfl

/-- The first field of an object is read, and others if a comma follows its value. -/
theorem readFields_field (hchar : ReadsChar char) {levels : Nat} {v : Value}
    (hwritable : Writable levels v) (hread : ReadsBack char levels v) (name : String)
    (depth fuel room : Nat) (rest : List Char) (hrest : EndsNumber rest)
    (hfuel : 2 * (indentedChars char depth v).length ≤ fuel) (hroom : levels ≤ room) :
    (∀ left, skipSpace rest = '\x7d' :: left → readFields (fuel + 1) room
        (textWith char name ++ ':' :: ' ' :: (indentedChars char depth v ++ rest)) =
      .ok ([(name, v)], left)) ∧
    ∀ more, skipSpace rest = ',' :: more → readFields (fuel + 1) room
        (textWith char name ++ ':' :: ' ' :: (indentedChars char depth v ++ rest)) =
      (readFields fuel room (skipSpace more)).map fun (fields, left) =>
        ((name, v) :: fields, left) := by
  have hblank : skipSpace (' ' :: (indentedChars char depth v ++ rest)) =
      indentedChars char depth v ++ rest := hwritable.skipSpace_indentedChars char depth rest
  have hvalue := hread depth fuel room rest hrest hfuel hroom
  rw [← hblank] at hvalue
  rw [textWith_append]
  exact ⟨fun left hleft => readFields_close (readText_textWith hchar name _)
      (skipSpace_cons rfl _) hvalue hleft,
    fun more hmore => readFields_comma (readText_textWith hchar name _)
      (skipSpace_cons rfl _) hvalue hmore⟩

/-- The fields of an object are read one after another, up to the brace behind them. -/
theorem readFields_indentedFields (hchar : ReadsChar char) {levels : Nat}
    (field : String × Value) (fields : List (String × Value))
    (hwritable : ∀ f ∈ field :: fields, Writable levels f.2)
    (hread : ∀ f ∈ field :: fields, ReadsBack char levels f.2) (depth outer fuel room : Nat)
    (rest : List Char)
    (hfuel : 2 * (indentedFields char depth (field :: fields)).length ≤ fuel)
    (hroom : levels ≤ room) :
    readFields fuel room (skipSpace (indentedFields char depth (field :: fields) ++
        (lineStart outer ++ '\x7d' :: rest))) = .ok (field :: fields, rest) := by
  have hquote : ∀ (name : String) (rest : List Char),
      skipSpace (textWith char name ++ rest) = textWith char name ++ rest :=
    fun name rest => skipSpace_cons (c := '"') rfl _
  induction fields generalizing field fuel with
  | nil =>
      obtain ⟨name, v⟩ := field
      have hfirst : (name, v) ∈ [(name, v)] := List.mem_cons_self
      have hline := length_lineStart_pos depth
      simp only [indentedFields, List.length_append, List.length_cons] at hfuel ⊢
      match fuel, hfuel with
      | 0, hfuel => omega
      | fuel + 1, hfuel =>
          simp only [List.append_assoc, List.cons_append]
          rw [skipSpace_lineStart, hquote]
          apply (readFields_field hchar (hwritable _ hfirst) (hread _ hfirst) name depth fuel room _
            (endsNumber_lineStart _ _) (by dsimp only; omega) hroom).1
          rw [skipSpace_lineStart, skipSpace_cons (c := '\x7d') rfl]
  | cons next fields ih =>
      obtain ⟨name, v⟩ := field
      have hfirst : (name, v) ∈ (name, v) :: next :: fields := List.mem_cons_self
      have hline := length_lineStart_pos depth
      simp only [indentedFields, List.length_append, List.length_cons] at hfuel ⊢
      match fuel, hfuel with
      | 0, hfuel => omega
      | fuel + 1, hfuel =>
          simp only [List.append_assoc, List.cons_append]
          rw [skipSpace_lineStart, hquote, (readFields_field hchar (hwritable _ hfirst)
            (hread _ hfirst) name depth fuel room _ (endsNumber_comma _) (by dsimp only; omega)
            hroom).2 _ (skipSpace_cons (c := ',') rfl _)]
          rw [ih next (fun f hf => hwritable f (List.mem_cons_of_mem _ hf))
            (fun f hf => hread f (List.mem_cons_of_mem _ hf)) fuel (by omega)]
          rfl

/-- Distinct names stay as they are when they are bound one after another. -/
theorem ofEntries_of_nodup {fields : List (String × Value)} (h : (Fields.keys fields).Nodup) :
    Fields.ofEntries fields = fields :=
  Fields.merge_of_distinct h

theorem Writable.skipSpace_indentedItems {levels : Nat} {item : Value} (h : Writable levels item)
    (items : List Value) (char : Char → List Char) (depth : Nat) (rest : List Char) :
    ∃ c tail, skipSpace (indentedItems char depth (item :: items) ++ rest) = c :: tail ∧
      c ≠ ']' := by
  obtain ⟨c, others, hhead, hspace, hbracket, -⟩ := h.head_indentedChars char depth
  cases items with
  | nil =>
      refine ⟨c, others ++ rest, ?_, hbracket⟩
      rw [indentedItems, List.append_assoc, skipSpace_lineStart, hhead, List.cons_append,
        skipSpace_cons hspace]
  | cons next items =>
      refine ⟨c, others ++ (',' :: indentedItems char depth (next :: items) ++ rest), ?_,
        hbracket⟩
      simp only [indentedItems, List.append_assoc, List.cons_append, skipSpace_lineStart, hhead,
        skipSpace_cons hspace]

theorem skipSpace_indentedFields (field : String × Value) (fields : List (String × Value))
    (char : Char → List Char) (depth : Nat) (rest : List Char) :
    ∃ tail, skipSpace (indentedFields char depth (field :: fields) ++ rest) = '"' :: tail := by
  obtain ⟨name, v⟩ := field
  cases fields with
  | nil =>
      simp only [indentedFields, textWith, List.append_assoc, List.cons_append,
        skipSpace_lineStart, skipSpace_cons (c := '"') rfl]
      exact ⟨_, rfl⟩
  | cons next fields =>
      simp only [indentedFields, textWith, List.append_assoc, List.cons_append,
        skipSpace_lineStart, skipSpace_cons (c := '"') rfl]
      exact ⟨_, rfl⟩

theorem readValue_scalar_append (char : Char → List Char) {v : Value} (h : IsScalar v)
    {rest : List Char} (hrest : EndsNumber rest) (fuel room : Nat) :
    readValue (fuel + 1) room (scalar char v ++ rest) = .ok (v, rest) := by
  obtain ⟨c, others, heq, hstart⟩ := head_scalar char h
  have hnot := hstart.not_mem.2
  simp only [marks, List.mem_cons, not_or] at hnot
  rw [readValue_scalar (by simp [heq, hnot]) (by simp [heq, hnot]) (by simp [heq, hnot]),
    scalarReading, readScalar?_scalar char h hrest]

/-- A value that can be written is read from its indented text. -/
theorem Writable.readsBack (hchar : ReadsChar char) {levels : Nat} {v : Value}
    (h : Writable levels v) : ReadsBack char levels v := by
  induction h with
  | @scalar levels v hscalar =>
      rintro depth fuel room rest hrest hfuel -
      obtain ⟨c, others, heq, -⟩ := head_scalar char hscalar
      rw [indentedChars_scalar hscalar] at hfuel ⊢
      obtain ⟨fuel, rfl⟩ : ∃ n, fuel = n + 1 :=
        ⟨fuel - 1, by rw [heq, List.length_cons] at hfuel; omega⟩
      exact readValue_scalar_append char hscalar hrest fuel room
  | text s =>
      rintro depth (_ | fuel) room rest - hfuel -
      · simp [indentedChars_text, textWith] at hfuel
      · rw [indentedChars_text, textWith_append, readValue, readText_textWith hchar]
        rfl
  | @list levels items hitems ih =>
      rintro depth (_ | fuel) (_ | room) rest - hfuel hroom
      · omega
      · cases items <;> simp [indentedChars, Json.scalar] at hfuel
      · omega
      · cases items with
        | nil => rfl
        | cons item items =>
            obtain ⟨c, tail, hstart, hbracket⟩ :=
              (hitems item List.mem_cons_self).skipSpace_indentedItems items char (depth + 1)
                (lineStart depth ++ ']' :: rest)
            simp only [indentedChars, List.length_append, List.length_cons, List.cons_append,
              List.append_assoc, List.nil_append] at hfuel ⊢
            rw [readValue_list (by simpa [hstart] using hbracket),
              readItems_indentedItems item items hitems ih (depth + 1) depth fuel room rest
                (by omega) (by omega)]
            rfl
  | @object levels fields hnames hfields ih =>
      rintro depth (_ | fuel) (_ | room) rest - hfuel hroom
      · omega
      · cases fields <;> simp [indentedChars, Json.scalar] at hfuel
      · omega
      · cases fields with
        | nil => rfl
        | cons field fields =>
            obtain ⟨tail, hstart⟩ := skipSpace_indentedFields field fields char (depth + 1)
              (lineStart depth ++ '\x7d' :: rest)
            simp only [indentedChars, List.length_append, List.length_cons, List.cons_append,
              List.append_assoc, List.nil_append] at hfuel ⊢
            rw [readValue_object (by simp [hstart]), readFields_indentedFields hchar field fields
              hfields ih (depth + 1) depth fuel room rest (by omega) (by omega)]
            simp only [Except.map, ofEntries_of_nodup hnames]

theorem readAll_indentedChars (hchar : ReadsChar char) {v : Value} (h : Writable nestingLimit v) :
    readAll (indentedChars char 0 v) = .ok v := by
  obtain ⟨c, rest, hhead, -, -, hmark⟩ := h.head_indentedChars char 0
  have hfirst : ((indentedChars char 0 v).head? == some '\ufeff') = false := by
    rw [hhead, List.head?_cons]
    simpa using hmark
  have hread := h.readsBack hchar 0 (2 * (indentedChars char 0 v).length + 1) nestingLimit []
    nofun (by omega) (Nat.le_refl _)
  have hskip := h.skipSpace_indentedChars char 0 []
  rw [List.append_nil] at hread hskip
  simp only [readAll, hfirst, hskip, hread]
  rfl

/-- A value that can be written is the value of its indented text. -/
theorem read_indented {v : Value} (h : Writable nestingLimit v) : read (indented v) = .ok v := by
  rw [read, indented, String.toList_ofList, readAll_indentedChars readsChar_asciiChar h]
  rfl

/-- A plain value is the value of its indented text with characters left as they are. -/
theorem read_indentedRaw {v : Value} (h : Plain nestingLimit v) : read (indentedRaw v) = .ok v := by
  rw [read, indentedRaw, String.toList_ofList, readAll_indentedChars readsChar_rawChar h.writable]
  rfl

end CallChain.Json
