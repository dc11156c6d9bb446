/-
# What a transformation reads

A transformation declares the fields that it reads: those that its mappings copy, and those
that the templates of its columns name. Records that agree on these fields are made into the
same rows, whatever else they hold. A field that a record does not have counts as null.

A template is cut at its fields once, in the only way there is, and the values are put into
that cut. What a value looks like is never read, so a value with braces is text like any
other.
-/

import CallChain.Proofs.Text.Scanning
import CallChain.Report.Transformation
import Mathlib.Data.List.Basic

namespace CallChain

/-! ## The one way to cut a template -/

namespace ColumnPiece

/-- A piece as it stands in a template. -/
def source : ColumnPiece → List Char
  | char c => [c]
  | field name => '\x7b' :: name ++ ['\x7d']

/-- Whether characters can be the name of a field in a template: there are some, and none is a
brace. -/
def IsName (name : List Char) : Prop := name ≠ [] ∧ ∀ c ∈ name, c ≠ '\x7b' ∧ c ≠ '\x7d'

/-- Whether pieces are a template cut at its fields. -/
structure IsCutInto (template : List Char) (ps : List ColumnPiece) : Prop where
  /-- The pieces make the template. -/
  source_eq : ps.flatMap source = template
  /-- Every field has a name. -/
  isName : ∀ name, field name ∈ ps → IsName name
  /-- No field is left in characters. -/
  bare : ∀ name, IsName name → ¬ (field name).source.map char <:+: ps

variable {template rest name : List Char} {ps : List ColumnPiece} {c : Char}

theorem fieldAt?_source (h : IsName name) (rest : List Char) :
    fieldAt? ((field name).source ++ rest) = some name := by
  have hinner : ∀ d ∈ name, (d != '\x7b' && d != '\x7d') = true := by
    intro d hd
    simpa using h.2 d hd
  have htake : (name ++ '\x7d' :: rest).takeWhile (fun d => d != '\x7b' && d != '\x7d') = name := by
    rw [List.takeWhile_append_of_pos hinner, List.takeWhile_cons_of_neg (by decide),
      List.append_nil]
  have hdrop : (name ++ '\x7d' :: rest).dropWhile (fun d => d != '\x7b' && d != '\x7d') =
      '\x7d' :: rest := by
    rw [List.dropWhile_append_of_pos hinner, List.dropWhile_cons_of_neg (by decide)]
  have htext : (field name).source ++ rest = '\x7b' :: (name ++ '\x7d' :: rest) := by
    simp [source]
  rw [htext, fieldAt?]
  simp [htake, hdrop, h.1]

/-- A template starts with a field, or none is read at its first character. -/
theorem fieldAt?_cases (template : List Char) :
    (∃ name rest, IsName name ∧ template = (field name).source ++ rest) ∨
      fieldAt? template = none := by
  unfold fieldAt?
  split
  · next rest =>
    dsimp only
    split
    · next hread =>
      simp only [Bool.and_eq_true, Bool.not_eq_true', List.isEmpty_eq_false_iff, beq_iff_eq]
        at hread
      obtain ⟨hne, hclose⟩ := hread
      obtain ⟨others, hothers⟩ := List.head?_eq_some_iff.mp hclose
      refine Or.inl ⟨_, others, ⟨hne, fun c hc => ?_⟩, ?_⟩
      · simpa using List.all_eq_true.mp List.all_takeWhile c hc
      · have hsplit := List.takeWhile_append_dropWhile (p := fun c => c != '\x7b' && c != '\x7d')
          (l := rest)
        rw [hothers] at hsplit
        simpa [source] using hsplit.symm
    · exact Or.inr rfl
  · exact Or.inr rfl

theorem ofTextFrom_field (h : IsName name) (rest : List Char) :
    ofTextFrom 0 ((field name).source ++ rest) = field name :: ofTextFrom 0 rest := by
  have hread := fieldAt?_source h rest
  have hskip := Text.skip_append ofTextFrom (fun _ _ _ => rfl) (name ++ ['\x7d']) rest
  rw [List.length_append, List.length_singleton] at hskip
  rw [source, List.cons_append, List.cons_append] at hread ⊢
  rw [ofTextFrom, hread]
  exact congrArg (field name :: ·) hskip

theorem ofTextFrom_char (h : fieldAt? (c :: rest) = none) :
    ofTextFrom 0 (c :: rest) = char c :: ofTextFrom 0 rest := by
  rw [ofTextFrom, h]

theorem flatMap_source_chars (text : List Char) : (text.map char).flatMap source = text := by
  rw [List.flatMap_map]
  exact List.flatMap_singleton' text

/-- What starts with some characters as pieces has a text that starts with them. -/
theorem source_prefix_of_chars {text : List Char} (h : text.map char <+: ps) :
    text <+: ps.flatMap source := by
  obtain ⟨others, rfl⟩ := h
  rw [List.flatMap_append, flatMap_source_chars]
  exact List.prefix_append _ _

/-- Where no brace opens in what a text starts with, its pieces start with characters. -/
theorem chars_prefix {front : List Char} (hfront : ∀ d ∈ front, d ≠ '\x7b')
    (h : ps.flatMap source = front ++ rest) : front.map char <+: ps := by
  induction front generalizing ps with
  | nil => exact List.nil_prefix
  | cons d front ih =>
      cases ps with
      | nil => cases h
      | cons p ps =>
          cases p with
          | char c =>
              obtain ⟨rfl, hrest⟩ := List.cons.inj h
              exact List.cons_prefix_cons.mpr
                ⟨rfl, ih (fun e he => hfront e (List.mem_cons_of_mem c he)) hrest⟩
          | field name =>
              have hopen : '\x7b' = d := (List.cons.inj h).1
              exact absurd hopen.symm (hfront d List.mem_cons_self)

theorem IsCutInto.tail {p : ColumnPiece} (h : IsCutInto template (p :: ps)) :
    IsCutInto (ps.flatMap source) ps where
  source_eq := rfl
  isName := fun name hname => h.isName name (List.mem_cons_of_mem p hname)
  bare := fun name hname hin => h.bare name hname (List.infix_cons hin)

/-- Induction on a template as it is read: it is empty, or starts with a field, or with a
character at which none is read. -/
theorem template_induction {P : List Char → Prop} (nil : P [])
    (field : ∀ name rest, IsName name → P rest → P ((field name).source ++ rest))
    (char : ∀ c rest, fieldAt? (c :: rest) = none → P rest → P (c :: rest)) :
    ∀ template, P template :=
  Text.induction_of_pieces (fun _ => List.cons_ne_nil _ _) fieldAt?_cases nil field char

/-- Reading a template cuts it. -/
theorem isCutInto_ofTextFrom (template : List Char) :
    IsCutInto template (ofTextFrom 0 template) := by
  induction template using template_induction with
  | nil => exact ⟨rfl, nofun, fun name _ hin => by simp [source, ofTextFrom] at hin⟩
  | field name rest hname ih =>
      rw [ofTextFrom_field hname]
      constructor
      · rw [List.flatMap_cons, ih.source_eq]
      · intro other hother
        rcases List.mem_cons.mp hother with heq | hother
        · cases heq
          exact hname
        · exact ih.isName other hother
      · intro other hother hin
        rcases List.infix_cons_iff.mp hin with hstart | hin
        · cases (List.cons_prefix_cons.mp hstart).1
        · exact ih.bare other hother hin
  | char c rest hnone ih =>
      rw [ofTextFrom_char hnone]
      constructor
      · rw [List.flatMap_cons, ih.source_eq]
        rfl
      · intro other hother
        rcases List.mem_cons.mp hother with heq | hother
        · cases heq
        · exact ih.isName other hother
      · intro other hother hin
        rcases List.infix_cons_iff.mp hin with hstart | hin
        · have htext : (field other).source <+: (char c :: ofTextFrom 0 rest).flatMap source :=
            source_prefix_of_chars hstart
          obtain ⟨tail, htail⟩ := htext
          rw [List.flatMap_cons, ih.source_eq] at htail
          have hread := fieldAt?_source hother tail
          rw [htail] at hread
          exact absurd (hnone.symm.trans hread) nofun
        · exact ih.bare other hother hin

/-- A template is cut at its fields in one way only, the one in which it is read. -/
theorem isCutInto_iff : IsCutInto template ps ↔ ps = ofTextFrom 0 template := by
  constructor
  · intro h
    induction ps generalizing template with
    | nil =>
        obtain rfl : template = [] := h.source_eq.symm
        rfl
    | cons p ps ih =>
        have htail := ih h.tail
        obtain rfl : p.source ++ ps.flatMap source = template := h.source_eq
        cases p with
        | field name => rw [ofTextFrom_field (h.isName name List.mem_cons_self), ← htail]
        | char c =>
            have hnone : fieldAt? (c :: ps.flatMap source) = none := by
              rcases fieldAt?_cases (c :: ps.flatMap source) with ⟨name, rest, hname, htext⟩ | hnone
              · -- a field that starts here would be left in characters
                have hchars : (field name).source.map char <+: char c :: ps := by
                  rw [source, List.cons_append, List.cons_append] at htext
                  obtain ⟨rfl, hrest⟩ := List.cons.inj htext
                  rw [source, List.cons_append, List.map_cons]
                  refine List.cons_prefix_cons.mpr ⟨rfl, chars_prefix ?_ hrest⟩
                  intro d hd
                  rcases List.mem_append.mp hd with hd | hd
                  · exact (hname.2 d hd).1
                  · rw [List.mem_singleton.mp hd]
                    decide
                exact absurd hchars.isInfix (h.bare name hname)
              · exact hnone
            exact (congrArg (char c :: ·) htail).trans (ofTextFrom_char hnone).symm
  · rintro rfl
    exact isCutInto_ofTextFrom template

end ColumnPiece

/-! ## Records that agree -/

namespace Record

/-- Whether two flat records agree on some fields. A field that a record does not have counts
as null. -/
def AgreeOn (names : List String) (flat other : Fields Value) : Prop :=
  ∀ name ∈ names, (flat.get? name).getD .null = (other.get? name).getD .null

theorem AgreeOn.mono {names more : List String} {flat other : Fields Value}
    (h : AgreeOn more flat other) (hsub : names ⊆ more) : AgreeOn names flat other :=
  fun name hname => h name (hsub hname)

end Record

variable {flat other : Fields Value}

/-- A template reads no field but those that it names. -/
theorem UnifiedColumn.render_congr {c : UnifiedColumn}
    (h : Record.AgreeOn c.sourceFields flat other) :
    render c.template flat = render c.template other := by
  rw [render, render]
  congr 1
  refine List.flatMap_congr fun p hp => ?_
  cases p with
  | char c => rfl
  | field name =>
      have hname : String.ofList name ∈ c.sourceFields := List.mem_filterMap.mpr ⟨_, hp, rfl⟩
      rw [ColumnPiece.fill, ColumnPiece.fill, h _ hname]

namespace Transformations

/-- The fields that transformations declare to read: what the mappings copy, and what the
templates of the columns name. -/
def declared (t : Transformations) : List String :=
  t.mappings.map FieldMapping.source ++ t.columns.flatMap UnifiedColumn.sourceFields

/-- A mapping reads no field but the one that it copies. -/
theorem applyMapping_congr {m : FieldMapping} (h : Record.AgreeOn [m.source] flat other)
    (row : Fields Value) : applyMapping flat row m = applyMapping other row m := by
  have hvalue := h m.source (List.mem_singleton_self _)
  rw [applyMapping, applyMapping]
  split
  · rfl
  · cases hflat : flat.get? m.source with
    | none =>
        cases hother : other.get? m.source with
        | none => rfl
        | some w =>
            rw [hflat, hother] at hvalue
            obtain rfl : .null = w := hvalue
            rfl
    | some v =>
        cases hother : other.get? m.source with
        | none =>
            rw [hflat, hother] at hvalue
            obtain rfl : v = .null := hvalue
            rfl
        | some w =>
            rw [hflat, hother] at hvalue
            obtain rfl : v = w := hvalue
            rfl

/-- A column reads no field but those that its template names. -/
theorem applyColumn_congr {c : UnifiedColumn} (h : Record.AgreeOn c.sourceFields flat other)
    (row : Fields Value) : applyColumn flat row c = applyColumn other row c := by
  rw [applyColumn, applyColumn, UnifiedColumn.render_congr h]

theorem row_congr {t : Transformations} (h : Record.AgreeOn t.declared flat other) :
    t.row flat = t.row other := by
  have hmappings : ∀ row, t.mappings.foldl (applyMapping flat) row =
      t.mappings.foldl (applyMapping other) row := by
    intro row
    refine List.foldl_ext _ _ row fun row m hm => applyMapping_congr (h.mono ?_) row
    intro name hname
    rw [List.mem_singleton.mp hname]
    exact List.mem_append_left _ (List.mem_map_of_mem hm)
  have hcolumns : ∀ row, t.columns.foldl (applyColumn flat) row =
      t.columns.foldl (applyColumn other) row := by
    intro row
    refine List.foldl_ext _ _ row fun row c hc => applyColumn_congr (h.mono ?_) row
    exact fun name hname => List.mem_append_right _ (List.mem_flatMap.mpr ⟨c, hc, hname⟩)
  rw [Transformations.row, Transformations.row, hmappings, hcolumns]

/-- Transformations read only the fields that they declare: records that agree on these, place
by place, are made into the same rows. There is one row for each record, in order, made from
that record alone. And a template is filled in once: it is cut at its fields in one way only,
whatever the values are, and the values are put into that cut as they are. -/
theorem apply_declared (t : Transformations) :
    (∀ records others : List Value, records.length = others.length →
      (∀ (i : Nat) (r o : Value), records[i]? = some r → others[i]? = some o →
        Record.AgreeOn t.declared (Record.flatten r) (Record.flatten o)) →
      t.apply records = t.apply others) ∧
    (∀ records : List Value, (t.apply records).length = records.length ∧
      ∀ i : Nat, (t.apply records)[i]? = records[i]?.bind fun r => (t.apply [r])[0]?) ∧
    ∀ template : String, ∃ ps : List ColumnPiece,
      (∀ qs, ColumnPiece.IsCutInto template.toList qs ↔ qs = ps) ∧
      (∀ name : String, UnifiedColumn.sourceFields ⟨name, template⟩ =
        ps.filterMap ColumnPiece.name?) ∧
      ∀ record : Fields Value, UnifiedColumn.render template record =
        String.ofList (ps.flatMap (ColumnPiece.fill record)) := by
  refine ⟨fun records others hlength hagree => ?_, fun records => ⟨?_, fun i => ?_⟩,
    fun template => ?_⟩
  · apply List.ext_getElem?
    intro i
    rw [apply, apply, List.getElem?_map, List.getElem?_map]
    cases hr : records[i]? with
    | none =>
        have hshort : others.length ≤ i := by rw [← hlength]; exact List.getElem?_eq_none_iff.mp hr
        rw [List.getElem?_eq_none hshort]
    | some r =>
        have hlong : i < others.length := by
          rw [← hlength]
          exact (List.getElem?_eq_some_iff.mp hr).1
        have ho := List.getElem?_eq_getElem hlong
        rw [ho]
        exact congrArg some (row_congr (hagree i r others[i] hr ho))
  · exact List.length_map _
  · rw [apply, List.getElem?_map]
    cases records[i]? <;> rfl
  · refine ⟨ColumnPiece.ofText template, fun qs => ?_, fun name => rfl, fun record => rfl⟩
    exact ColumnPiece.isCutInto_iff

/-- Two copied fields, of which one may be absent, and a column. -/
def twoAndColumn : Transformations :=
  ⟨[⟨"a", "x"⟩, ⟨"e", "y"⟩], [⟨"l", "\x7ba\x7d-\x7bb\x7d"⟩]⟩

/-- A field that is not declared may differ, null may be absent, and a value that looks like a
field stays as it is. -/
theorem apply_declared_braces :
    let r := Value.object [("a", .int 1), ("b", .text "\x7ba\x7d"), ("c", .int 5)]
    let o := Value.object [("e", .null), ("b", .text "\x7ba\x7d"), ("a", .int 1)]
    (∀ (i : Nat) (v w : Value), [r][i]? = some v → [o][i]? = some w →
      Record.AgreeOn twoAndColumn.declared (Record.flatten v) (Record.flatten w)) ∧
    twoAndColumn.apply [r] = twoAndColumn.apply [o] ∧
    twoAndColumn.apply [r] =
      [[("x", .int 1), ("y", .text ""), ("l", .text "1-\x7ba\x7d")]] := by
  intro r o
  have hr : Record.flatten r = [("a", .int 1), ("b", .text "\x7ba\x7d"), ("c", .int 5)] := by cbv
  have ho : Record.flatten o = [("e", .null), ("b", .text "\x7ba\x7d"), ("a", .int 1)] := by cbv
  have hagree : ∀ (i : Nat) (v w : Value), [r][i]? = some v → [o][i]? = some w →
      Record.AgreeOn twoAndColumn.declared (Record.flatten v) (Record.flatten w) := by
    intro i v w hv hw
    obtain rfl : r = v := List.mem_singleton.mp (List.mem_of_getElem? hv) |>.symm
    obtain rfl : o = w := List.mem_singleton.mp (List.mem_of_getElem? hw) |>.symm
    rw [hr, ho]
    unfold Record.AgreeOn
    decide +kernel
  refine ⟨hagree, (apply_declared twoAndColumn).1 [r] [o] rfl hagree, ?_⟩
  rw [apply, List.map_singleton, hr]
  decide +kernel

end Transformations

end CallChain
