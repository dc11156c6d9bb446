/-
# What a JSON text spells

A reader keeps one member of each name, but a text may write several. `Spells` follows a
text and keeps every member that is written, so that all literals of a text are found in
what it spells; what is read from the text is that value with equal names merged.

A placeholder of a text starts where no word, no number and no escape goes on. If it has
neither a quote nor a backslash, it therefore stands in a literal of the text, as the
characters that the literal is read as.
-/

import CallChain.Proofs.Json.Alike
import CallChain.Proofs.Json.Literals
import CallChain.Proofs.Json.Renamed
import CallChain.Proofs.Value.Merged

namespace CallChain

namespace Json

/-! ## Spelling -/

/-- What a stretch of a JSON text writes: a value, the items of a list or the members of an
object, none of them merged. -/
inductive Stretch where
  /-- A value. -/
  | value (v : Value)
  /-- The items of a list, up to its closing bracket. -/
  | items (items : List Value)
  /-- The members of an object, up to its closing brace. -/
  | fields (fields : List (String × Value))

/-- The names and the texts within a stretch. -/
def Stretch.literals : Stretch → List String
  | value v => v.literals
  | items l => Value.itemNames l ++ Value.itemTexts l
  | fields l => Value.fieldNames l ++ Value.fieldTexts l

namespace Stretch

theorem mem_literals_item {item : Value} {others : List Value} {s : String} :
    s ∈ (items (item :: others)).literals ↔ s ∈ item.literals ∨ s ∈ (items others).literals := by
  simp only [literals, Value.literals, Value.itemNames, Value.itemTexts, List.mem_append]
  tauto

theorem mem_literals_field {name : String} {item : Value} {others : List (String × Value)}
    {s : String} : s ∈ (fields ((name, item) :: others)).literals ↔
      s = name ∨ s ∈ item.literals ∨ s ∈ (fields others).literals := by
  simp only [literals, Value.literals, Value.fieldNames, Value.fieldTexts, List.mem_append,
    List.mem_cons]
  tauto

end Stretch

/-- Whether a text starts with what writes something, and what is left of the text. -/
inductive Spells : List Char → Stretch → List Char → Prop
  /-- A literal. -/
  | text {quoted left : List Char} {s : String} (h : readText quoted = .ok (s, left)) :
    Spells ('"' :: quoted) (.value (.text s)) left
  /-- A word or a number. -/
  | scalar {text left : List Char} {v : Value} (h : readScalar? text = some (.ok v, left)) :
    Spells text (.value v) left
  /-- A list without items. -/
  | emptyList {inside left : List Char} (h : skipSpace inside = ']' :: left) :
    Spells ('[' :: inside) (.value (.list [])) left
  /-- A list with items. -/
  | list {inside left : List Char} {items : List Value}
    (h : Spells (skipSpace inside) (.items items) left) :
    Spells ('[' :: inside) (.value (.list items)) left
  /-- An object without members. -/
  | emptyObject {inside left : List Char} (h : skipSpace inside = '\x7d' :: left) :
    Spells ('\x7b' :: inside) (.value (.object [])) left
  /-- An object with members. -/
  | object {inside left : List Char} {fields : List (String × Value)}
    (h : Spells (skipSpace inside) (.fields fields) left) :
    Spells ('\x7b' :: inside) (.value (.object fields)) left
  /-- The last item of a list. -/
  | lastItem {text after left : List Char} {item : Value} (h : Spells text (.value item) after)
    (hclose : skipSpace after = ']' :: left) : Spells text (.items [item]) left
  /-- An item of a list before others. -/
  | item {text after more left : List Char} {item : Value} {items : List Value}
    (h : Spells text (.value item) after) (hcomma : skipSpace after = ',' :: more)
    (hmore : Spells (skipSpace more) (.items items) left) :
    Spells text (.items (item :: items)) left
  /-- The last member of an object. -/
  | lastField {quoted afterName colon after left : List Char} {name : String} {item : Value}
    (hname : readText quoted = .ok (name, afterName))
    (hcolon : skipSpace afterName = ':' :: colon)
    (h : Spells (skipSpace colon) (.value item) after)
    (hclose : skipSpace after = '\x7d' :: left) :
    Spells ('"' :: quoted) (.fields [(name, item)]) left
  /-- A member of an object before others. -/
  | field {quoted afterName colon after more left : List Char} {name : String} {item : Value}
    {fields : List (String × Value)} (hname : readText quoted = .ok (name, afterName))
    (hcolon : skipSpace afterName = ':' :: colon)
    (h : Spells (skipSpace colon) (.value item) after) (hcomma : skipSpace after = ',' :: more)
    (hmore : Spells (skipSpace more) (.fields fields) left) :
    Spells ('"' :: quoted) (.fields ((name, item) :: fields)) left

/-- Whether a text is JSON that writes a value, with all members that it writes. -/
def IsSpelled (text : List Char) (v : Value) : Prop :=
  ∃ left, Spells (skipSpace text) (.value v) left ∧ skipSpace left = []

theorem merged_of_isAtom {v : Value} (h : IsAtom v) : v.merged = v := by
  cases v with
  | text s => exact h.elim
  | list items => exact h.elim
  | object fields => exact h.elim
  | _ => rfl

theorem literals_of_isAtom {v : Value} (h : IsAtom v) : v.literals = [] := by
  cases v with
  | text s => exact h.elim
  | list items => exact h.elim
  | object fields => exact h.elim
  | _ => rfl

/-- What each reader reads is what the text spells there, with equal names merged. -/
theorem exists_spells (fuel : Nat) :
    (∀ {levels : Nat} {text left : List Char} {v : Value},
      readValue fuel levels text = .ok (v, left) →
        ∃ raw : Value, raw.merged = v ∧ Spells text (.value raw) left) ∧
    (∀ {levels : Nat} {text left : List Char} {items : List Value},
      readItems fuel levels text = .ok (items, left) →
        ∃ raw, Value.mergedItems raw = items ∧ Spells text (.items raw) left) ∧
    ∀ {levels : Nat} {text left : List Char} {fields : List (String × Value)},
      readFields fuel levels text = .ok (fields, left) →
        ∃ raw, Value.mergedFields raw = fields ∧ Spells text (.fields raw) left := by
  induction fuel with
  | zero => exact ⟨nofun, nofun, nofun⟩
  | succ fuel ih =>
      obtain ⟨hvalue, hitems, hfields⟩ := ih
      refine ⟨fun h => ?_, fun h => ?_, fun h => ?_⟩
      · cases readsValue_of_ok h with
        | text hread => exact ⟨_, rfl, .text hread⟩
        | scalar hread =>
            exact ⟨_, merged_of_isAtom (isAtom_of_readScalar? hread), .scalar hread⟩
        | emptyList hclose => exact ⟨.list [], rfl, .emptyList hclose⟩
        | list hread =>
            obtain ⟨raw, rfl, hraw⟩ := hitems hread
            exact ⟨.list raw, rfl, .list hraw⟩
        | emptyObject hclose => exact ⟨.object [], rfl, .emptyObject hclose⟩
        | object hread =>
            obtain ⟨raw, rfl, hraw⟩ := hfields hread
            exact ⟨.object raw, rfl, .object hraw⟩
      · cases readsItems_of_ok h with
        | last hitem hclose =>
            obtain ⟨raw, rfl, hraw⟩ := hvalue hitem
            exact ⟨[raw], rfl, .lastItem hraw hclose⟩
        | next hitem hcomma hmore =>
            obtain ⟨raw, rfl, hraw⟩ := hvalue hitem
            obtain ⟨more, rfl, hothers⟩ := hitems hmore
            exact ⟨raw :: more, rfl, .item hraw hcomma hothers⟩
      · cases readsFields_of_ok h with
        | last hname hcolon hitem hclose =>
            obtain ⟨raw, rfl, hraw⟩ := hvalue hitem
            exact ⟨[(_, raw)], rfl, .lastField hname hcolon hraw hclose⟩
        | next hname hcolon hitem hcomma hmore =>
            obtain ⟨raw, rfl, hraw⟩ := hvalue hitem
            obtain ⟨more, rfl, hothers⟩ := hfields hmore
            exact ⟨(_, raw) :: more, rfl, .field hname hcolon hraw hcomma hothers⟩

/-- What is read from a text is what it spells, with equal names merged. -/
theorem exists_isSpelled {text : String} {v : Value} (h : read text = .ok v) :
    ∃ raw : Value, raw.merged = v ∧ IsSpelled text.toList raw := by
  obtain ⟨after, hread, hend⟩ := exists_of_readAll (read_eq_ok_iff.mp h)
  obtain ⟨raw, hmerged, hraw⟩ := (exists_spells _).1 hread
  exact ⟨raw, hmerged, after, hraw, hend⟩

/-! ## Placeholders in literals -/

theorem infix_of_cons {word rest : List Char} {c d : Char} (hne : c ≠ d)
    (h : c :: word <:+: d :: rest) : c :: word <:+: rest := by
  rcases List.infix_cons_iff.mp h with hprefix | h
  · exact absurd (List.cons_prefix_cons.mp hprefix).1 hne
  · exact h

theorem infix_of_append {word front rest : List Char} {c : Char} (hfront : c ∉ front)
    (h : c :: word <:+: front ++ rest) : c :: word <:+: rest := by
  induction front with
  | nil => exact h
  | cons d front ih =>
      rw [List.mem_cons, not_or] at hfront
      exact ih hfront.2 (infix_of_cons hfront.1 h)

theorem infix_skipSpace {word text : List Char} {c : Char} (hc : isSpace c = false)
    (h : c :: word <:+: text) : c :: word <:+: skipSpace text := by
  rw [← List.takeWhile_append_dropWhile (p := isSpace) (l := text)] at h
  refine infix_of_append (fun hmem => ?_) h
  have hspace := List.all_eq_true.mp List.all_takeWhile c hmem
  rw [hc] at hspace
  cases hspace

/-- The digits of a code unit have no opening brace among them. -/
theorem not_mem_take_of_codeUnit? {digits : List Char} {unit : Nat}
    (h : codeUnit? digits = some unit) : '\x7b' ∉ digits.take 4 := by
  rw [codeUnit?_eq] at h
  split at h
  · exact not_mem_of_ofHex? h rfl
  · cases h

/-- No brace opens within an escape. -/
theorem not_mem_take_of_escapeAt {rest : List Char} {d : Char} {taken : Nat}
    (h : escapeAt rest = .ok (d, taken)) : '\x7b' ∉ rest.take taken := by
  unfold escapeAt at h
  split at h
  case h_9 digits =>
    split at h
    · cases h
    · next unit hunit =>
      have hdigits := not_mem_take_of_codeUnit? hunit
      have hone : '\x7b' ∉ ('u' :: digits).take 5 := by
        rw [List.take_succ_cons, List.mem_cons, not_or]
        exact ⟨by decide, hdigits⟩
      split at h
      · split at h
        · next others hothers =>
          split at h
          · next low hlow =>
            split at h
            · obtain rfl : 11 = taken := congrArg Prod.snd (Except.ok.inj h)
              have hten := List.take_add (l := digits) (i := 4) (j := 6)
              rw [hothers] at hten
              have hlast := not_mem_take_of_codeUnit? hlow
              simp [hten, hdigits, hlast]
            · cases h
              exact hone
          · cases h
            exact hone
        · cases h
          exact hone
      · cases h
        exact hone
  case h_10 => cases h
  all_goals
    cases h
    simp

theorem prefix_of_readChars {front text cs left : List Char} (hquote : '"' ∉ front)
    (hback : '\\' ∉ front) (h : readChars 0 (front ++ text) = .ok (cs, left)) : front <+: cs := by
  rcases plain_cases hback with hplain | ⟨before, c, after, rfl, hbefore, rfl | hcontrol⟩
  · rw [readChars_append hplain] at h
    obtain ⟨⟨others, last⟩, -, heq⟩ := exists_ok_of_map h
    cases heq
    exact List.prefix_append front others
  · exact absurd (by simp) hquote
  · rw [List.append_assoc, List.cons_append, readChars_append hbefore,
      readChars_control hcontrol] at h
    cases h

/-- What a literal is read past without quotes and backslashes stands in it as it is. -/
theorem infix_of_readChars {word : List Char} (hquote : '"' ∉ word) (hback : '\\' ∉ word)
    {skip : Nat} {text cs left : List Char} (hskip : '\x7b' ∉ text.take skip)
    (h : readChars skip text = .ok (cs, left)) (hword : '\x7b' :: word <:+: text) :
    '\x7b' :: word <:+: cs ∨ '\x7b' :: word <:+: left := by
  induction text generalizing skip cs with
  | nil => cases skip <;> cases h
  | cons c rest ih =>
      cases skip with
      | succ skip =>
          rw [List.take_succ_cons, List.mem_cons, not_or] at hskip
          exact ih hskip.2 h (infix_of_cons hskip.1 hword)
      | zero =>
          have hread := h
          rw [readChars] at h
          split at h
          · next heq =>
            subst heq
            cases h
            exact Or.inr (infix_of_cons (by decide) hword)
          · next hnotQuote =>
          split at h
          · next heq =>
            subst heq
            split at h
            · cases h
            · split at h
              · cases h
              · next d taken htaken =>
                obtain ⟨⟨others, last⟩, hothers, heq⟩ := exists_ok_of_map h
                cases heq
                rcases ih (not_mem_take_of_escapeAt htaken) hothers
                  (infix_of_cons (by decide) hword) with hothers | hleft
                · exact Or.inl (List.infix_cons hothers)
                · exact Or.inr hleft
          · next hnotBack =>
            split at h
            · cases h
            · -- the word is read whole if it starts here
              rcases List.infix_cons_iff.mp hword with ⟨after, hafter⟩ | hrest
              · rw [← hafter] at hread
                have hprefix := prefix_of_readChars (by simpa using hquote) (by simpa using hback)
                  hread
                exact Or.inl hprefix.isInfix
              · obtain ⟨⟨others, last⟩, hothers, heq⟩ := exists_ok_of_map h
                cases heq
                rcases ih (by simp) hothers hrest with hothers | hleft
                · exact Or.inl (List.infix_cons hothers)
                · exact Or.inr hleft

theorem infix_of_readText {word : List Char} (hquote : '"' ∉ word) (hback : '\\' ∉ word)
    {quoted left : List Char} {s : String} (h : readText quoted = .ok (s, left))
    (hword : '\x7b' :: word <:+: '"' :: quoted) :
    '\x7b' :: word <:+: s.toList ∨ '\x7b' :: word <:+: left := by
  obtain ⟨cs, hread, rfl⟩ := exists_readChars_of_readText h
  rw [String.toList_ofList]
  exact infix_of_readChars hquote hback (by simp) hread (infix_of_cons (by decide) hword)

/-- Doubled braces do not open where an object does. -/
theorem infix_of_open {word inside : List Char} {c : Char} {rest : List Char} (hc : c ≠ '\x7b')
    (h : skipSpace inside = c :: rest) (hword : '\x7b' :: '\x7b' :: word <:+: '\x7b' :: inside) :
    '\x7b' :: '\x7b' :: word <:+: inside := by
  rcases List.infix_cons_iff.mp hword with ⟨after, hafter⟩ | hinside
  · simp only [List.cons_append, List.cons.injEq, true_and] at hafter
    rw [← hafter] at h
    exact absurd (List.cons.inj h).1.symm hc
  · exact hinside

theorem Spells.exists_quote {text left : List Char} {fields : List (String × Value)}
    (h : Spells text (.fields fields) left) : ∃ quoted, text = '"' :: quoted := by
  cases h <;> exact ⟨_, rfl⟩

/-- Doubled braces with neither quotes nor backslashes behind them open in a literal of what
is spelled, or in what is left of the text. -/
theorem Spells.infix_literal {word : List Char} (hquote : '"' ∉ word) (hback : '\\' ∉ word)
    {text left : List Char} {stretch : Stretch} (h : Spells text stretch left)
    (hword : '\x7b' :: '\x7b' :: word <:+: text) :
    (∃ s ∈ stretch.literals, '\x7b' :: '\x7b' :: word <:+: s.toList) ∨
      '\x7b' :: '\x7b' :: word <:+: left := by
  have hquoted : ∀ {quoted left : List Char} {s : String}, readText quoted = .ok (s, left) →
      '\x7b' :: '\x7b' :: word <:+: '"' :: quoted →
      '\x7b' :: '\x7b' :: word <:+: s.toList ∨ '\x7b' :: '\x7b' :: word <:+: left :=
    infix_of_readText (by simpa using hquote) (by simpa using hback)
  have hnext : ∀ {text rest : List Char} {c : Char}, skipSpace text = c :: rest → c ≠ '\x7b' →
      '\x7b' :: '\x7b' :: word <:+: text → '\x7b' :: '\x7b' :: word <:+: rest :=
    fun hskip hc h => infix_of_cons hc.symm (hskip ▸ infix_skipSpace (by decide) h)
  -- the first brace is none of the characters between the parts, and behind the one that an
  -- object opens with comes no other one
  induction h with
  | text h =>
      rcases hquoted h hword with hs | hleft
      · exact Or.inl ⟨_, List.mem_singleton_self _, hs⟩
      · exact Or.inr hleft
  | scalar h =>
      obtain ⟨before, rfl, hbefore⟩ := exists_before_of_readScalar? h
      exact Or.inr (infix_of_append hbefore hword)
  | emptyList h => exact Or.inr (hnext h (by decide) (infix_of_cons (by decide) hword))
  | list h ih => exact ih (infix_skipSpace (by decide) (infix_of_cons (by decide) hword))
  | emptyObject h =>
      exact Or.inr (hnext h (by decide) (infix_of_open (by decide) h hword))
  | object h ih =>
      obtain ⟨quoted, hopen⟩ := h.exists_quote
      exact ih (infix_skipSpace (by decide) (infix_of_open (by decide) hopen hword))
  | lastItem h hclose ih =>
      rcases ih hword with ⟨s, hs, hoccurs⟩ | hafter
      · exact Or.inl ⟨s, Stretch.mem_literals_item.mpr (Or.inl hs), hoccurs⟩
      · exact Or.inr (hnext hclose (by decide) hafter)
  | item h hcomma hmore ih ihmore =>
      rcases ih hword with ⟨s, hs, hoccurs⟩ | hafter
      · exact Or.inl ⟨s, Stretch.mem_literals_item.mpr (Or.inl hs), hoccurs⟩
      rcases ihmore (infix_skipSpace (by decide) (hnext hcomma (by decide) hafter)) with
        ⟨s, hs, hoccurs⟩ | hleft
      · exact Or.inl ⟨s, Stretch.mem_literals_item.mpr (Or.inr hs), hoccurs⟩
      · exact Or.inr hleft
  | lastField hname hcolon h hclose ih =>
      rcases hquoted hname hword with hoccurs | hrest
      · exact Or.inl ⟨_, Stretch.mem_literals_field.mpr (Or.inl rfl), hoccurs⟩
      rcases ih (infix_skipSpace (by decide) (hnext hcolon (by decide) hrest)) with
        ⟨s, hs, hoccurs⟩ | hafter
      · exact Or.inl ⟨s, Stretch.mem_literals_field.mpr (Or.inr (Or.inl hs)), hoccurs⟩
      · exact Or.inr (hnext hclose (by decide) hafter)
  | field hname hcolon h hcomma hmore ih ihmore =>
      rcases hquoted hname hword with hoccurs | hrest
      · exact Or.inl ⟨_, Stretch.mem_literals_field.mpr (Or.inl rfl), hoccurs⟩
      rcases ih (infix_skipSpace (by decide) (hnext hcolon (by decide) hrest)) with
        ⟨s, hs, hoccurs⟩ | hafter
      · exact Or.inl ⟨s, Stretch.mem_literals_field.mpr (Or.inr (Or.inl hs)), hoccurs⟩
      rcases ihmore (infix_skipSpace (by decide) (hnext hcomma (by decide) hafter)) with
        ⟨s, hs, hoccurs⟩ | hleft
      · exact Or.inl ⟨s, Stretch.mem_literals_field.mpr (Or.inr (Or.inr hs)), hoccurs⟩
      · exact Or.inr hleft

/-- A placeholder with neither quotes nor backslashes stands in a literal of what is
spelled. -/
theorem IsSpelled.exists_literal {text inner : List Char} {v : Value} (h : IsSpelled text v)
    (hinner : inner ∈ Template.holes text) (hquote : '"' ∉ inner) (hback : '\\' ∉ inner) :
    ∃ s ∈ v.literals, inner ∈ Template.holes s.toList := by
  obtain ⟨left, hspells, hend⟩ := h
  obtain ⟨hcontent, front, rest, rfl⟩ := Template.mem_holes_iff.mp hinner
  have hword : (Piece.hole inner).render <:+: front ++ ((Piece.hole inner).render ++ rest) :=
    ⟨front, rest, by simp⟩
  rcases hspells.infix_literal (by simpa using hquote) (by simpa using hback)
    (infix_skipSpace (by decide) hword) with ⟨s, hs, before, after, heq⟩ | hleft
  · refine ⟨s, hs, Template.mem_holes_iff.mpr ⟨hcontent, before, after, ?_⟩⟩
    rw [← heq, List.append_assoc]
    rfl
  · have hnil := infix_skipSpace (by decide) hleft
    rw [hend] at hnil
    exact absurd (List.infix_nil.mp hnil) (List.cons_ne_nil _ _)

theorem eq_of_readText {quoted left : List Char} {s : String} (hback : '\\' ∉ quoted)
    (h : readText quoted = .ok (s, left)) : quoted = s.toList ++ '"' :: left := by
  obtain ⟨cs, hread, rfl⟩ := exists_readChars_of_readText h
  rw [String.toList_ofList]
  exact eq_of_readChars hback hread

theorem skipSpace_suffix (text : List Char) : skipSpace text <:+ text :=
  List.dropWhile_suffix isSpace

theorem suffix_of_skipSpace {text rest : List Char} {c : Char} (h : skipSpace text = c :: rest) :
    rest <:+ text := by
  have hskip := skipSpace_suffix text
  rw [h] at hskip
  exact (List.suffix_cons c rest).trans hskip

/-- Without backslashes, literals stand in a text as they are read. -/
theorem Spells.literal_infix {text left : List Char} {stretch : Stretch}
    (h : Spells text stretch left) (hback : '\\' ∉ text) :
    left <:+ text ∧ ∀ s ∈ stretch.literals, s.toList <:+: text := by
  have hnone : ∀ {part whole : List Char}, part <:+ whole → '\\' ∉ whole → '\\' ∉ part :=
    fun hpart hwhole hmem => hwhole (hpart.subset hmem)
  have hquoted : ∀ {quoted left : List Char} {s : String}, '\\' ∉ '"' :: quoted →
      readText quoted = .ok (s, left) → left <:+ '"' :: quoted ∧ s.toList <:+: '"' :: quoted := by
    intro quoted left s hback hread
    have hsplit := eq_of_readText (hnone (List.suffix_cons '"' quoted) hback) hread
    exact ⟨⟨'"' :: s.toList ++ ['"'], by simp [hsplit]⟩, ⟨['"'], '"' :: left, by simp [hsplit]⟩⟩
  -- what is left before a part is a suffix of the text, so what stands in the part stands there
  induction h with
  | text h =>
      obtain ⟨hleft, hs⟩ := hquoted hback h
      refine ⟨hleft, fun other hother => ?_⟩
      rwa [List.mem_singleton.mp hother]
  | scalar h =>
      obtain ⟨before, rfl, -⟩ := exists_before_of_readScalar? h
      refine ⟨List.suffix_append before _, fun s hs => ?_⟩
      rw [Stretch.literals, literals_of_isAtom (isAtom_of_readScalar? h)] at hs
      cases hs
  | emptyList h => exact ⟨(suffix_of_skipSpace h).trans (List.suffix_cons _ _), nofun⟩
  | @list inside _ _ _ ih =>
      have hinside := (skipSpace_suffix inside).trans (List.suffix_cons '[' inside)
      obtain ⟨hleft, hs⟩ := ih (hnone hinside hback)
      exact ⟨hleft.trans hinside, fun s hmem => (hs s hmem).trans hinside.isInfix⟩
  | emptyObject h => exact ⟨(suffix_of_skipSpace h).trans (List.suffix_cons _ _), nofun⟩
  | @object inside _ _ _ ih =>
      have hinside := (skipSpace_suffix inside).trans (List.suffix_cons '\x7b' inside)
      obtain ⟨hleft, hs⟩ := ih (hnone hinside hback)
      exact ⟨hleft.trans hinside, fun s hmem => (hs s hmem).trans hinside.isInfix⟩
  | lastItem _ hclose ih =>
      obtain ⟨hafter, hs⟩ := ih hback
      refine ⟨(suffix_of_skipSpace hclose).trans hafter, fun s hmem => ?_⟩
      rcases Stretch.mem_literals_item.mp hmem with hmem | hmem
      · exact hs s hmem
      · cases hmem
  | @item _ _ more _ _ _ _ hcomma _ ih ihmore =>
      obtain ⟨hafter, hs⟩ := ih hback
      have hmore := (skipSpace_suffix more).trans ((suffix_of_skipSpace hcomma).trans hafter)
      obtain ⟨hleft, hothers⟩ := ihmore (hnone hmore hback)
      refine ⟨hleft.trans hmore, fun s hmem => ?_⟩
      rcases Stretch.mem_literals_item.mp hmem with hmem | hmem
      · exact hs s hmem
      · exact (hothers s hmem).trans hmore.isInfix
  | @lastField _ _ colon _ _ _ _ hname hcolon _ hclose ih =>
      obtain ⟨hrest, hkey⟩ := hquoted hback hname
      have hitem := (skipSpace_suffix colon).trans ((suffix_of_skipSpace hcolon).trans hrest)
      obtain ⟨hafter, hs⟩ := ih (hnone hitem hback)
      refine ⟨(suffix_of_skipSpace hclose).trans (hafter.trans hitem), fun s hmem => ?_⟩
      rcases Stretch.mem_literals_field.mp hmem with rfl | hmem | hmem
      · exact hkey
      · exact (hs s hmem).trans hitem.isInfix
      · cases hmem
  | @field _ _ colon _ more _ _ _ _ hname hcolon _ hcomma _ ih ihmore =>
      obtain ⟨hrest, hkey⟩ := hquoted hback hname
      have hitem := (skipSpace_suffix colon).trans ((suffix_of_skipSpace hcolon).trans hrest)
      obtain ⟨hafter, hs⟩ := ih (hnone hitem hback)
      have hmore := (skipSpace_suffix more).trans
        ((suffix_of_skipSpace hcomma).trans (hafter.trans hitem))
      obtain ⟨hleft, hothers⟩ := ihmore (hnone hmore hback)
      refine ⟨hleft.trans hmore, fun s hmem => ?_⟩
      rcases Stretch.mem_literals_field.mp hmem with rfl | hmem | hmem
      · exact hkey
      · exact (hs s hmem).trans hitem.isInfix
      · exact (hothers s hmem).trans hmore.isInfix

/-- Without backslashes, every placeholder in a literal stands in the text. -/
theorem IsSpelled.holes_subset {text : List Char} {v : Value} (h : IsSpelled text v)
    (hback : '\\' ∉ text) {s : String} (hs : s ∈ v.literals) :
    Template.holes s.toList ⊆ Template.holes text := by
  obtain ⟨left, hspells, -⟩ := h
  have hskip := skipSpace_suffix text
  obtain ⟨-, hoccurs⟩ := hspells.literal_infix fun hmem => hback (hskip.subset hmem)
  exact holes_subset_of_part ((hoccurs s hs).trans hskip.isInfix)

end Json

end CallChain
