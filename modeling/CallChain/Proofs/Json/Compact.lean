/-
# Reading what has been written on one line

Every value that can be written is read back from its text on one line, too, in which a blank
follows each comma and each colon and every character outside ASCII is an escape or two.
-/

import CallChain.Proofs.Json.RoundTrip

namespace CallChain.Json

theorem compactChars_scalar {v : Value} (h : IsScalar v) : compactChars v = scalar asciiChar v := by
  cases v with
  | list items => exact h.elim
  | object fields => exact h.elim
  | _ => rfl

theorem Writable.head_compactChars {levels : Nat} {v : Value} (h : Writable levels v) :
    ∃ c rest, compactChars v = c :: rest ∧ isSpace c = false ∧ c ≠ ']' ∧ c ≠ '\ufeff' := by
  cases h with
  | scalar h =>
      obtain ⟨c, rest, heq, hstart⟩ := head_scalar asciiChar h
      obtain ⟨hspace, hnot⟩ := hstart.not_mem
      simp only [marks, List.mem_cons, not_or] at hnot
      exact ⟨c, rest, (compactChars_scalar h).trans heq, hspace, hnot.2.2.2.1, hnot.2.1⟩
  | text s => exact ⟨'"', _, rfl, rfl, by decide⟩
  | list _ => exact ⟨'[', _, rfl, rfl, by decide⟩
  | object _ _ => exact ⟨'\x7b', _, rfl, rfl, by decide⟩

theorem Writable.skipSpace_compactChars {levels : Nat} {v : Value} (h : Writable levels v)
    (rest : List Char) : skipSpace (compactChars v ++ rest) = compactChars v ++ rest := by
  obtain ⟨c, others, heq, hspace, -⟩ := h.head_compactChars
  rw [heq, List.cons_append, skipSpace_cons hspace]

/-- Whether a value is read from its text on one line, whatever follows it that a number
could not go on with, within twice as many calls as the text is long. -/
def ReadsCompact (levels : Nat) (v : Value) : Prop :=
  ∀ (fuel room : Nat) (rest : List Char), EndsNumber rest →
    2 * (compactChars v).length ≤ fuel → levels ≤ room →
    readValue fuel room (compactChars v ++ rest) = .ok (v, rest)

theorem Writable.skipSpace_blank {levels : Nat} {v : Value} (h : Writable levels v)
    (rest : List Char) : skipSpace (' ' :: (compactChars v ++ rest)) = compactChars v ++ rest :=
  h.skipSpace_compactChars rest

theorem Writable.skipSpace_compactItems {levels : Nat} {item : Value} (h : Writable levels item)
    (items : List Value) (rest : List Char) :
    ∃ c tail, compactItems (item :: items) ++ rest = c :: tail ∧ isSpace c = false ∧ c ≠ ']' := by
  obtain ⟨c, others, heq, hspace, hbracket, -⟩ := h.head_compactChars
  cases items with
  | nil => exact ⟨c, others ++ rest, by rw [compactItems, heq]; rfl, hspace, hbracket⟩
  | cons next items =>
      exact ⟨c, others ++ ',' :: ' ' :: compactItems (next :: items) ++ rest,
        by rw [compactItems, heq]; rfl; simp, hspace, hbracket⟩

/-- The items of a list are read one after another, up to the bracket behind them. -/
theorem readItems_compactItems {levels : Nat} (item : Value) (items : List Value)
    (hwritable : ∀ v ∈ item :: items, Writable levels v)
    (hread : ∀ v ∈ item :: items, ReadsCompact levels v) (fuel room : Nat) (rest : List Char)
    (hfuel : 2 * (compactItems (item :: items)).length < fuel) (hroom : levels ≤ room) :
    readItems fuel room (compactItems (item :: items) ++ ']' :: rest) =
      .ok (item :: items, rest) := by
  induction items generalizing item fuel with
  | nil =>
      obtain ⟨fuel, rfl⟩ : ∃ n, fuel = n + 1 := ⟨fuel - 1, by omega⟩
      simp only [compactItems] at hfuel ⊢
      exact readItems_close (hread item List.mem_cons_self fuel room _
        (endsNumber_cons rfl (by decide) (by decide) (by decide) _) (by omega) hroom)
        (skipSpace_cons rfl _)
  | cons next items ih =>
      obtain ⟨fuel, rfl⟩ : ∃ n, fuel = n + 1 := ⟨fuel - 1, by omega⟩
      obtain ⟨c, tail, hhead, hspace, -⟩ := (hwritable next (by simp)).skipSpace_compactItems items
        (']' :: rest)
      have hskip : skipSpace (' ' :: (compactItems (next :: items) ++ ']' :: rest)) =
          compactItems (next :: items) ++ ']' :: rest := by
        rw [hhead]
        exact skipSpace_cons hspace tail
      simp only [compactItems, List.length_append, List.length_cons] at hfuel
      have hfirst := hread item List.mem_cons_self fuel room
        (',' :: ' ' :: (compactItems (next :: items) ++ ']' :: rest))
        (endsNumber_cons rfl (by decide) (by decide) (by decide) _) (by omega) hroom
      have hothers := ih next (fun v hv => hwritable v (List.mem_cons_of_mem item hv))
        (fun v hv => hread v (List.mem_cons_of_mem item hv)) fuel (by omega)
      rw [compactItems, List.append_assoc, List.cons_append, List.cons_append,
        readItems_comma hfirst (skipSpace_cons rfl _), hskip, hothers]
      · rfl
      · exact nofun

theorem exists_quote_compactFields (field : String × Value) (fields : List (String × Value))
    (rest : List Char) : ∃ tail, compactFields (field :: fields) ++ rest = '"' :: tail := by
  obtain ⟨name, v⟩ := field
  cases fields with
  | nil => exact ⟨_, by rw [compactFields, List.append_assoc, textWith_append]⟩
  | cons next fields =>
      exact ⟨_, by
        rw [compactFields, List.append_assoc, List.append_assoc, textWith_append]
        exact nofun⟩

theorem skipSpace_compactFields (field : String × Value) (fields : List (String × Value))
    (rest : List Char) : skipSpace (compactFields (field :: fields) ++ rest) =
      compactFields (field :: fields) ++ rest := by
  obtain ⟨tail, hquote⟩ := exists_quote_compactFields field fields rest
  rw [hquote, skipSpace_cons rfl]

/-- The fields of an object are read one after another, up to the brace behind them. -/
theorem readFields_compactFields {levels : Nat} (field : String × Value)
    (fields : List (String × Value)) (hwritable : ∀ f ∈ field :: fields, Writable levels f.2)
    (hread : ∀ f ∈ field :: fields, ReadsCompact levels f.2) (fuel room : Nat) (rest : List Char)
    (hfuel : 2 * (compactFields (field :: fields)).length < fuel) (hroom : levels ≤ room) :
    readFields fuel room (compactFields (field :: fields) ++ '\x7d' :: rest) =
      .ok (field :: fields, rest) := by
  induction fields generalizing field fuel with
  | nil =>
      obtain ⟨name, v⟩ := field
      obtain ⟨fuel, rfl⟩ : ∃ n, fuel = n + 1 := ⟨fuel - 1, by omega⟩
      simp only [compactFields, List.length_append, List.length_cons] at hfuel
      have hvalue := hread (name, v) List.mem_cons_self fuel room ('\x7d' :: rest)
        (endsNumber_cons rfl (by decide) (by decide) (by decide) _) (by dsimp only; omega) hroom
      rw [← (hwritable (name, v) List.mem_cons_self).skipSpace_blank] at hvalue
      rw [compactFields, List.append_assoc, textWith_append]
      exact readFields_close (readText_textWith readsChar_asciiChar name _) (skipSpace_cons rfl _)
        hvalue (skipSpace_cons rfl _)
  | cons next fields ih =>
      obtain ⟨name, v⟩ := field
      obtain ⟨fuel, rfl⟩ : ∃ n, fuel = n + 1 := ⟨fuel - 1, by omega⟩
      simp only [compactFields, List.length_append, List.length_cons] at hfuel
      have hvalue := hread (name, v) List.mem_cons_self fuel room
        (',' :: ' ' :: (compactFields (next :: fields) ++ '\x7d' :: rest))
        (endsNumber_cons rfl (by decide) (by decide) (by decide) _) (by dsimp only; omega) hroom
      rw [← (hwritable (name, v) List.mem_cons_self).skipSpace_blank] at hvalue
      have hothers := ih next (fun f hf => hwritable f (List.mem_cons_of_mem _ hf))
        (fun f hf => hread f (List.mem_cons_of_mem _ hf)) fuel (by omega)
      rw [compactFields, List.append_assoc, List.append_assoc, textWith_append]
      · have hnext : skipSpace (' ' :: (compactFields (next :: fields) ++ '\x7d' :: rest)) =
            compactFields (next :: fields) ++ '\x7d' :: rest :=
          skipSpace_compactFields next fields _
        refine (readFields_comma (readText_textWith readsChar_asciiChar name _)
          (skipSpace_cons rfl _) hvalue (skipSpace_cons rfl _)).trans ?_
        rw [hnext, hothers]
        rfl
      · exact nofun

/-- A value that can be written is read from its text on one line. -/
theorem Writable.readsCompact {levels : Nat} {v : Value} (h : Writable levels v) :
    ReadsCompact levels v := by
  induction h with
  | @scalar levels v hscalar =>
      rintro fuel room rest hrest hfuel -
      obtain ⟨c, others, heq, -⟩ := head_scalar asciiChar hscalar
      rw [compactChars_scalar hscalar] at hfuel ⊢
      obtain ⟨fuel, rfl⟩ : ∃ n, fuel = n + 1 :=
        ⟨fuel - 1, by rw [heq, List.length_cons] at hfuel; omega⟩
      exact readValue_scalar_append asciiChar hscalar hrest fuel room
  | text s =>
      rintro fuel room rest - hfuel -
      have htext : compactChars (.text s) = textWith asciiChar s := rfl
      obtain ⟨fuel, rfl⟩ : ∃ n, fuel = n + 1 :=
        ⟨fuel - 1, by rw [htext, textWith, List.length_append, List.length_cons] at hfuel; omega⟩
      rw [htext, textWith_append, readValue_quote, readText_textWith readsChar_asciiChar]
      rfl
  | @list levels items hitems ih =>
      rintro fuel room rest - hfuel hroom
      obtain ⟨room, rfl⟩ : ∃ n, room = n + 1 := ⟨room - 1, by omega⟩
      simp only [compactChars, List.length_append, List.length_cons] at hfuel
      obtain ⟨fuel, rfl⟩ : ∃ n, fuel = n + 1 := ⟨fuel - 1, by omega⟩
      cases items with
      | nil => rfl
      | cons item items =>
          have hread :=
            readItems_compactItems item items hitems ih fuel room rest (by omega) (by omega)
          obtain ⟨c, tail, hhead, hspace, hbracket⟩ :=
            (hitems item List.mem_cons_self).skipSpace_compactItems items (']' :: rest)
          have hskip : skipSpace (compactItems (item :: items) ++ ']' :: rest) =
              compactItems (item :: items) ++ ']' :: rest := by
            rw [hhead, skipSpace_cons hspace]
          rw [compactChars, List.append_assoc, List.cons_append, List.singleton_append,
            readValue_list (by rw [hskip, hhead]; simpa using hbracket), hskip, hread]
          rfl
  | @object levels fields hnames hfields ih =>
      rintro fuel room rest - hfuel hroom
      obtain ⟨room, rfl⟩ : ∃ n, room = n + 1 := ⟨room - 1, by omega⟩
      simp only [compactChars, List.length_append, List.length_cons] at hfuel
      obtain ⟨fuel, rfl⟩ : ∃ n, fuel = n + 1 := ⟨fuel - 1, by omega⟩
      cases fields with
      | nil => rfl
      | cons field fields =>
          have hread := readFields_compactFields field fields hfields ih fuel room rest (by omega)
            (by omega)
          have hskip := skipSpace_compactFields field fields ('\x7d' :: rest)
          obtain ⟨tail, hquote⟩ := exists_quote_compactFields field fields ('\x7d' :: rest)
          rw [compactChars, List.append_assoc, List.cons_append, List.singleton_append,
            readValue_object (by rw [hskip, hquote]; simp), hskip, hread]
          simp only [Except.map, ofEntries_of_nodup hnames]

/-- A value that can be written is the value of its text on one line. -/
theorem read_compact {v : Value} (h : Writable nestingLimit v) : read (compact v) = .ok v := by
  obtain ⟨c, rest, hhead, -, -, hmark⟩ := h.head_compactChars
  have hfirst : ((compactChars v).head? == some '\ufeff') = false := by
    rw [hhead, List.head?_cons]
    simpa using hmark
  have hread := h.readsCompact (2 * (compactChars v).length + 1) nestingLimit [] nofun (by omega)
    (Nat.le_refl _)
  have hskip := h.skipSpace_compactChars []
  rw [List.append_nil] at hread hskip
  have hall : readAll (compactChars v) = .ok v := by
    simp only [readAll, hfirst, hskip, hread]
    rfl
  rw [read, compact, String.toList_ofList, hall]
  rfl

end CallChain.Json
