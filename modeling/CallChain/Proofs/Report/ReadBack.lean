/-
# Tables read back

Whatever texts the cells of a table hold, a reader of the dialect in which it is written gets
them back, cell by cell and row by row. A field that could be mistaken for something else
stands between quotes, and the quotes in it are doubled; inside quotes a reader takes every
character but a quote as it is. A carriage return could be mistaken for nothing, so that it does
not matter whether a field that holds one stands between quotes. A row that would be written as
nothing although it has a field is written as an empty field between quotes.

The header has every name that occurs in a row, each name once and in the order in which the
names are first seen.
-/

import CallChain.Report.Table
import Mathlib.Data.List.Induction
import Mathlib.Data.List.Nodup

namespace CallChain.Table

/-! ## Reading what was written -/

variable {r : RowSoFar} {front field : List Char} {fields : List (List Char)}
  {quotesReturn started : Bool}

/-- A comma outside quotes ends a field. -/
theorem readFrom_comma (h : r.quoting ≠ .inside) (rest : List Char) :
    readFrom r (',' :: rest) =
      readFrom { fields := r.field.reverse :: r.fields, started := true } rest := by
  rw [readFrom, if_neg h]
  rfl

/-- A line feed outside quotes ends a row. -/
theorem readFrom_lineFeed (h : r.quoting ≠ .inside) (rest : List Char) :
    readFrom r ('\n' :: rest) = r.finish :: readFrom {} rest := by
  rw [readFrom, if_neg h]
  rfl

/-- Outside quotes, characters that need none are read as they are. -/
theorem readFrom_plain (hr : r.quoting = .outside) (h : needsQuotes quotesReturn front = false)
    (rest : List Char) :
    readFrom r (front ++ rest) =
      readFrom { r with
        field := front.reverse ++ r.field
        started := r.started || !front.isEmpty } rest := by
  induction front generalizing r with
  | nil => simp
  | cons c front ih =>
      simp only [needsQuotes, List.any_cons, Bool.or_eq_false_iff, decide_eq_false_iff_not] at h
      obtain ⟨⟨⟨⟨hcomma, hquote⟩, hfeed⟩, -⟩, hfront⟩ := h
      have houtside : r.quoting ≠ .inside := by simp [hr]
      rw [List.cons_append, readFrom, if_neg houtside, if_neg hquote, if_neg hfeed, if_neg hcomma,
        ih rfl hfront]
      simp [hr]

/-- What stands between the quotes of a field: the field with each of its quotes doubled. -/
def doubled (field : List Char) : List Char :=
  field.flatMap fun c => if c = '"' then ['"', '"'] else [c]

theorem quoteField_eq (field : List Char) : quoteField field = '"' :: doubled field ++ ['"'] := rfl

theorem doubled_quote (field : List Char) :
    doubled ('"' :: field) = '"' :: '"' :: doubled field := rfl

theorem doubled_cons {c : Char} (h : c ≠ '"') (field : List Char) :
    doubled (c :: field) = c :: doubled field := by
  rw [doubled, List.flatMap_cons, if_neg h]
  rfl

/-- Inside quotes, everything is read as it is up to the quote that closes them, and a doubled
quote as one. -/
theorem readFrom_doubled (hr : r.quoting = .inside) (hstarted : r.started = true)
    (field rest : List Char) :
    readFrom r (doubled field ++ '"' :: rest) =
      readFrom { r with field := field.reverse ++ r.field, quoting := .afterQuote } rest := by
  induction field generalizing r with
  | nil =>
      change readFrom r ('"' :: rest) = _
      rw [readFrom, if_pos hr, if_pos rfl]
      rfl
  | cons c field ih =>
      by_cases hc : c = '"'
      · -- the first of the two quotes might close the field, the second takes it up again
        have htwo : readFrom r ('"' :: '"' :: (doubled field ++ '"' :: rest)) =
            readFrom { r with field := '"' :: r.field } (doubled field ++ '"' :: rest) := by
          rw [readFrom, if_pos hr, if_pos rfl, readFrom]
          simp [hr, hstarted]
        rw [hc, doubled_quote, List.cons_append, List.cons_append, htwo,
          ih (r := { r with field := '"' :: r.field }) hr hstarted]
        simp
      · have hone : readFrom r (c :: (doubled field ++ '"' :: rest)) =
            readFrom { r with field := c :: r.field } (doubled field ++ '"' :: rest) := by
          rw [readFrom, if_pos hr, if_neg hc]
        rw [doubled_cons hc, List.cons_append, hone,
          ih (r := { r with field := c :: r.field }) hr hstarted]
        simp

/-- Whatever a field holds, a reader that has read it holds it too, and stands outside
quotes. -/
theorem readFrom_writeField (quotesReturn : Bool) (done : List (List Char)) (started : Bool)
    (field rest : List Char) :
    ∃ q, q ≠ .inside ∧
      readFrom { fields := done, started := started } (writeField quotesReturn field ++ rest) =
        readFrom {
          fields := done
          field := field.reverse
          quoting := q
          started := started || !field.isEmpty } rest := by
  by_cases h : needsQuotes quotesReturn field = true
  · refine ⟨.afterQuote, nofun, ?_⟩
    have hsome : field.isEmpty = false := by
      cases field with
      | nil => cases h
      | cons c field => rfl
    have hopen : readFrom { fields := done, started := started }
        ('"' :: (doubled field ++ '"' :: rest)) =
        readFrom { fields := done, quoting := .inside, started := true }
          (doubled field ++ '"' :: rest) := by
      rw [readFrom]
      simp
    rw [writeField, if_pos h, quoteField_eq, List.append_assoc, List.cons_append,
      List.singleton_append, hopen, readFrom_doubled rfl rfl, hsome]
    simp
  · refine ⟨.outside, nofun, ?_⟩
    have hplain : needsQuotes quotesReturn field = false := by simpa using h
    rw [writeField, if_neg h]
    exact (readFrom_plain (r := { fields := done, started := started }) rfl hplain rest).trans
      (by simp)

/-- The fields of a row are read one after the other, unless the row has a single field and
nothing stands for it. -/
theorem readFrom_fields (done : List (List Char)) (h : started = true ∨ field :: fields ≠ [[]])
    (rest : List Char) :
    readFrom { fields := done, started := started }
        (writeField quotesReturn field ++
          fields.flatMap (fun next => ',' :: writeField quotesReturn next) ++ '\n' :: rest) =
      (done.reverse ++ field :: fields) :: readFrom {} rest := by
  induction fields generalizing done started field with
  | nil =>
      obtain ⟨q, hq, hread⟩ :=
        readFrom_writeField quotesReturn done started field ('\n' :: rest)
      have hstarted : (started || !field.isEmpty) = true := by simpa using h
      rw [List.flatMap_nil, List.append_nil, hread, readFrom_lineFeed hq, hstarted]
      simp [RowSoFar.finish]
  | cons next fields ih =>
      rw [List.flatMap_cons, List.append_assoc, List.append_assoc, List.cons_append]
      obtain ⟨q, hq, hread⟩ := readFrom_writeField quotesReturn done started field
        (',' :: (writeField quotesReturn next ++
          (fields.flatMap (fun next => ',' :: writeField quotesReturn next) ++ '\n' :: rest)))
      rw [hread, readFrom_comma hq, ← List.append_assoc, ih _ (Or.inl rfl)]
      simp

/-- A row is read as it was written. -/
theorem readFrom_writeRow (quotesReturn : Bool) (row : List (List Char)) (rest : List Char) :
    readFrom {} (writeRow quotesReturn row ++ '\n' :: rest) = row :: readFrom {} rest := by
  unfold writeRow
  split
  · rfl
  · next hsingle =>
    cases row with
    | nil => rfl
    | cons field fields =>
        rw [List.map_cons, Text.joinWith_cons, List.flatMap_map]
        exact readFrom_fields [] (Or.inr hsingle) rest

/-- Rows are read as they were written. -/
theorem readFrom_writeRows (quotesReturn : Bool) (rows : List (List (List Char))) :
    readFrom {} (writeRows quotesReturn rows) = rows := by
  induction rows with
  | nil => rfl
  | cons row rows ih =>
      rw [writeRows, List.flatMap_cons, List.append_assoc, List.singleton_append,
        readFrom_writeRow]
      exact congrArg (row :: ·) ih

-- the only field of a row stands between quotes when it is empty, a row without fields is an
-- empty line
example : writeRows false [[[]], [], [[], []]] = "\"\"\n\n,\n".toList := by cbv

/-! ## The header -/

/-- Whether names are those of a list, each of them once, in the order in which they first
stand there. -/
structure FirstSeen (all names : List String) : Prop where
  /-- Each name of the list, and no other. -/
  mem_iff : ∀ name, name ∈ names ↔ name ∈ all
  /-- No name twice. -/
  nodup : names.Nodup
  /-- A name stands before those that are first seen later. -/
  ordered : names.Pairwise fun name later => all.idxOf name < all.idxOf later

variable {all names : List String} {name : String}

theorem FirstSeen.concat_of_mem (h : FirstSeen all names) (hname : name ∈ names) :
    FirstSeen (all ++ [name]) names where
  mem_iff other := by
    rw [List.mem_append, List.mem_singleton, h.mem_iff]
    exact ⟨Or.inl, fun hor => hor.elim id fun heq => heq ▸ (h.mem_iff name).mp hname⟩
  nodup := h.nodup
  ordered := h.ordered.imp_of_mem fun {a b} ha hb hlt => by
    rwa [List.idxOf_append_of_mem ((h.mem_iff a).mp ha),
      List.idxOf_append_of_mem ((h.mem_iff b).mp hb)]

theorem FirstSeen.concat_of_not_mem (h : FirstSeen all names) (hname : name ∉ names) :
    FirstSeen (all ++ [name]) (names ++ [name]) where
  mem_iff other := by
    rw [List.mem_append, List.mem_append, h.mem_iff]
  nodup := by
    rw [← List.concat_eq_append]
    exact h.nodup.concat hname
  ordered := by
    have hnew : name ∉ all := fun hmem => hname ((h.mem_iff name).mpr hmem)
    have hold : ∀ a ∈ names, (all ++ [name]).idxOf a = all.idxOf a := fun a ha =>
      List.idxOf_append_of_mem ((h.mem_iff a).mp ha)
    rw [List.pairwise_append]
    refine ⟨h.ordered.imp_of_mem fun {a b} ha hb hlt => ?_, List.pairwise_singleton _ _,
      fun a ha b hb => ?_⟩
    · rwa [hold a ha, hold b hb]
    · rw [List.mem_singleton.mp hb, hold a ha, List.idxOf_append_of_notMem hnew]
      exact Nat.lt_add_right _ (List.idxOf_lt_length_of_mem ((h.mem_iff a).mp ha))

/-- The header of some rows has the names that occur in them. -/
theorem firstSeen_headers (rows : List (Fields Value)) :
    FirstSeen (rows.flatMap Fields.keys) (headers rows) := by
  have hfold : headers rows = (rows.flatMap Fields.keys).foldl
      (fun seen name => if seen.contains name then seen else seen ++ [name]) [] :=
    List.foldl_flatMap.symm
  rw [hfold]
  generalize rows.flatMap Fields.keys = all
  induction all using List.reverseRecOn with
  | nil => exact ⟨fun _ => Iff.rfl, List.nodup_nil, List.Pairwise.nil⟩
  | append_singleton all name ih =>
      rw [List.foldl_concat]
      split
      · next hseen => exact ih.concat_of_mem (List.contains_iff_mem.mp hseen)
      · next hnew => exact ih.concat_of_not_mem fun hmem => hnew (List.contains_iff_mem.mpr hmem)

/-! ## The table -/

/-- Reading a table gives back a header with each name that occurs in a row, once and in the
order in which the names are first seen, and behind it one line for each row, in order, with
the text of the row's value under each name and nothing where the row has no value. It does
so whether or not fields with a carriage return stand between quotes. -/
theorem readRows_ofRows {rows : List (Fields Value)} (h : rows ≠ []) (quotesReturn : Bool) :
    ∃ names, FirstSeen (rows.flatMap Fields.keys) names ∧
      readRows (ofRows rows quotesReturn) = names :: rows.map fun row => names.map fun name =>
        match row.get? name with
        | some v => cell v
        | none => "" := by
  refine ⟨headers rows, firstSeen_headers rows, ?_⟩
  have hcells : ∀ row, cells (headers rows) row = (headers rows).map fun name =>
      match row.get? name with
      | some v => cell v
      | none => "" := by
    intro row
    refine List.map_congr_left fun name _ => ?_
    cases row.get? name <;> rfl
  rw [readRows, ofRows, if_neg (by simpa using h), String.toList_ofList, readFrom_writeRows,
    List.map_map]
  simp [hcells, Function.comp_def]

/-- Rows with commas, quotes, line feeds and a carriage return in names and values, of which none
has every name and one has none. -/
def mixedRows : List (Fields Value) :=
  [[("a,b", .text "x\"y"), ("", .null)], [("n", .text "1\n2,3"), ("a,b", .text "u\rv")], []]

theorem readRows_ofRows_mixedRows :
    mixedRows ≠ [] ∧ FirstSeen (mixedRows.flatMap Fields.keys) ["a,b", "", "n"] ∧
    ofRows mixedRows = "\"a,b\",,n\n\"x\"\"y\",,\nu\rv,,\"1\n2,3\"\n,,\n" ∧
    ofRows mixedRows true = "\"a,b\",,n\n\"x\"\"y\",,\n\"u\rv\",,\"1\n2,3\"\n,,\n" ∧
    readRows (ofRows mixedRows true) =
      [["a,b", "", "n"], ["x\"y", "", ""], ["u\rv", "", "1\n2,3"], ["", "", ""]] := by
  have hsome : mixedRows ≠ [] := List.cons_ne_nil _ _
  have hbare : ofRows mixedRows =
      "\"a,b\",,n\n\"x\"\"y\",,\nu\rv,,\"1\n2,3\"\n,,\n" := by cbv
  have htext : ofRows mixedRows true =
      "\"a,b\",,n\n\"x\"\"y\",,\n\"u\rv\",,\"1\n2,3\"\n,,\n" := by cbv
  have htable : readRows (ofRows mixedRows true) =
      [["a,b", "", "n"], ["x\"y", "", ""], ["u\rv", "", "1\n2,3"], ["", "", ""]] := by
    rw [htext]
    cbv
  obtain ⟨names, hnames, hread⟩ := readRows_ofRows hsome true
  obtain rfl : ["a,b", "", "n"] = names := (List.cons.inj (htable.symm.trans hread)).1
  exact ⟨hsome, hnames, hbare, htext, htable⟩

end CallChain.Table
