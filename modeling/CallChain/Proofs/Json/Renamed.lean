/-
# Renaming in a JSON text

The value of a template in which references have been renamed is the value of the old
template with its texts renamed, or neither text is JSON, for the same cause. Two things
can come between. A name of a field is renamed like any other text, but it is not filled in
later. And a hole may run past the end of a text literal: then it is no hole of the text
that is read, and the two values agree only if renaming leaves it alone.
-/

import CallChain.Proofs.Json.Alike
import CallChain.Proofs.Json.Reading
import CallChain.Proofs.Value.Texts

namespace CallChain

open Template (mapHoles)

namespace Json

/-! ## Values that differ in the holes of their texts -/

section Values

variable {f : Renaming} {whole : List Char}

/-- Whether renaming leaves holes with a quote alone, which may run past the end of a
literal. -/
def KeepsQuoted (f : Renaming) (whole : List Char) : Prop :=
  ∀ inside ∈ Template.holes whole, '"' ∈ inside → Renaming.inner f inside = inside

/-- Whether a value that stands in a text becomes another one by renaming, unless a name of
a field within it holds a hole. -/
def Fits (f : Renaming) (whole : List Char) (v v' : Value) : Prop :=
  KeepsQuoted f whole → (∀ name ∈ v.names, Template.holes name.toList = []) →
    v' = v.mapTexts (Renaming.text f) ∧
      ∀ s ∈ v.texts, Template.holes s.toList ⊆ Template.holes whole

/-- Whether a name that stands in a text is the same after renaming, unless it holds a
hole. -/
def FitsName (f : Renaming) (whole : List Char) (name name' : String) : Prop :=
  KeepsQuoted f whole → Template.holes name.toList = [] → name' = name

/-- Whether a text literal becomes another one by renaming. -/
def FitsText (f : Renaming) (whole : List Char) (s s' : String) : Prop :=
  KeepsQuoted f whole → s' = Renaming.text f s ∧ Template.holes s.toList ⊆ Template.holes whole

theorem Fits.list {items items' : List Value} (h : List.Forall₂ (Fits f whole) items items') :
    Fits f whole (.list items) (.list items') := by
  intro hquoted hnames
  have hall : items' = Value.mapItemTexts (Renaming.text f) items ∧
      ∀ s ∈ Value.itemTexts items, Template.holes s.toList ⊆ Template.holes whole := by
    induction h with
    | nil => exact ⟨rfl, nofun⟩
    | @cons item item' items items' hitem _ ih =>
        rw [Value.names, Value.itemNames] at hnames
        obtain ⟨hvalue, htexts⟩ := hitem hquoted fun name hname =>
          hnames name (List.mem_append_left _ hname)
        obtain ⟨hvalues, hothers⟩ := ih fun name hname =>
          hnames name (List.mem_append_right _ hname)
        rw [Value.mapItemTexts, Value.itemTexts, hvalue, hvalues]
        refine ⟨rfl, fun s hs => ?_⟩
        rcases List.mem_append.mp hs with hs | hs
        · exact htexts s hs
        · exact hothers s hs
  rw [Value.mapTexts, Value.texts, hall.1]
  exact ⟨rfl, hall.2⟩

theorem Fits.object {fields fields' : Fields Value}
    (h : List.Forall₂ (fun field field' => FitsName f whole field.1 field'.1 ∧
      Fits f whole field.2 field'.2) fields fields') :
    Fits f whole (.object (Fields.ofEntries fields)) (.object (Fields.ofEntries fields')) := by
  intro hquoted hnames
  rw [Value.names] at hnames
  -- every name that was read is still there, so none of them holds a hole
  have hsame : Fields.Forall₂ (Fits f whole) fields fields' := by
    have hbare : ∀ field ∈ fields, Template.holes field.1.toList = [] := by
      intro field hfield
      apply hnames
      apply Value.mem_fieldNames_of_mem_keys
      exact Fields.mem_keys_merge (Or.inr (List.mem_map.mpr ⟨field, hfield, rfl⟩))
    clear hnames
    induction h with
    | nil => exact .nil
    | @cons field field' rest rest' hfield _ ih =>
        refine .cons ⟨hfield.1 hquoted (hbare field List.mem_cons_self), hfield.2⟩ ?_
        exact ih fun other hother => hbare other (List.mem_cons_of_mem _ hother)
  have hmerged : Fields.Forall₂ (Fits f whole) (Fields.ofEntries fields)
      (Fields.ofEntries fields') :=
    Fields.Forall₂.merge List.Forall₂.nil hsame
  generalize Fields.ofEntries fields = old, Fields.ofEntries fields' = new at hnames hmerged
  have hall : new = Value.mapFieldTexts (Renaming.text f) old ∧
      ∀ s ∈ Value.fieldTexts old, Template.holes s.toList ⊆ Template.holes whole := by
    induction hmerged with
    | nil => exact ⟨rfl, nofun⟩
    | @cons field field' rest rest' hfield _ ih =>
        obtain ⟨name, v⟩ := field
        obtain ⟨name', v'⟩ := field'
        obtain ⟨rfl, hfits⟩ := hfield
        rw [Value.fieldNames] at hnames
        obtain ⟨hvalue, htexts⟩ := hfits hquoted fun name hname =>
          hnames name (List.mem_cons_of_mem _ (List.mem_append_left _ hname))
        obtain ⟨hvalues, hothers⟩ := ih fun name hname =>
          hnames name (List.mem_cons_of_mem _ (List.mem_append_right _ hname))
        dsimp only at hvalue
        rw [Value.mapFieldTexts, Value.fieldTexts, hvalue, hvalues]
        refine ⟨rfl, fun s hs => ?_⟩
        rcases List.mem_append.mp hs with hs | hs
        · exact htexts s hs
        · exact hothers s hs
  rw [Value.mapTexts, Value.texts, hall.1]
  exact ⟨rfl, hall.2⟩

/-- A word or a number has no texts in it. -/
theorem eq_of_isAtom {v : Value} (h : IsAtom v) : v.texts = [] ∧ ∀ f, v.mapTexts f = v := by
  cases v with
  | text s => exact h.elim
  | list items => exact h.elim
  | object fields => exact h.elim
  | _ => exact ⟨rfl, fun _ => rfl⟩

end Values

/-! ## Reading both texts -/

/-- Whether a text in which words are renamed has no escaped characters. -/
structure Reads (f : Renaming) (whole : List Char) : Prop where
  /-- New references are words. -/
  intoWords : f.IntoWords
  /-- No character is escaped. -/
  plain : '\\' ∉ whole

section Reading

variable {f : Renaming} {whole text : List Char}

theorem Reads.changesWords (h : Reads f whole) : Template.ChangesWords (Renaming.inner f) :=
  Renaming.changesWords_inner h.intoWords

theorem Reads.not_mem (h : Reads f whole) (htext : text <:+ whole) : '\\' ∉ text :=
  fun hmem => h.plain (htext.subset hmem)

theorem holes_subset_of_part {part : List Char} (h : part <:+: whole) :
    Template.holes part ⊆ Template.holes whole := by
  intro inside hinside
  obtain ⟨hcontent, front, rest, rfl⟩ := Template.mem_holes_iff.mp hinside
  obtain ⟨before, after, rfl⟩ := h
  exact Template.mem_holes_iff.mpr ⟨hcontent, before ++ front, rest ++ after, by simp⟩

/-- The characters of a literal are renamed as a text of their own. -/
theorem KeepsQuoted.mapHoles_quote (h : KeepsQuoted f whole) {cs left : List Char}
    (htext : cs ++ '"' :: left <:+ whole) :
    mapHoles (Renaming.inner f) (cs ++ '"' :: left) =
      mapHoles (Renaming.inner f) cs ++ '"' :: mapHoles (Renaming.inner f) left := by
  rw [Template.mapHoles_append, Template.mapHoles_cons_of_ne _ (by decide)]
  · intro c hc
    cases hc
    decide
  · intro first second before after hcontent hfront hback
    have hquote : '"' ∈ first ++ second := by
      cases second with
      | nil => simp at hback
      | cons c second =>
          rw [List.cons_append, List.cons.injEq] at hback
          simp [← hback.1]
    refine h _ (Template.mem_holes_iff.mpr ⟨hcontent, ?_⟩) hquote
    obtain ⟨front, hwhole⟩ := htext
    exact ⟨front ++ before, after, by rw [← hwhole, hfront, hback]; simp [Piece.render]⟩

theorem readText_of_malformed {p : Problem × Nat} (h : readChars 0 text = .error (.malformed p)) :
    ∃ q, readText text = .error (.malformed q) := by
  obtain ⟨problem, left⟩ := p
  unfold readText
  rw [h]
  cases problem <;> exact ⟨_, rfl⟩

theorem alike_readText (h : Reads f whole) (htext : text <:+ whole) :
    Alike (Renaming.inner f) (FitsText f whole) text (readText text)
      (readText (mapHoles (Renaming.inner f) text)) := by
  have hback := h.not_mem htext
  have halike := alike_readChars h.changesWords text hback
  generalize hold : readChars 0 text = old at halike
  generalize hnew : readChars 0 (mapHoles (Renaming.inner f) text) = new at halike
  cases halike with
  | @ok cs cs' left _ hleft =>
      have htext' := eq_of_readChars hback hold
      have himage := eq_of_readChars (h.changesWords.not_mem_mapHoles hback) hnew
      subst htext'
      simp only [readText, hold, hnew]
      refine .ok (fun hquoted => ⟨?_, ?_⟩) hleft
      · rw [hquoted.mapHoles_quote htext] at himage
        have hchars := List.append_cancel_right himage
        rw [Renaming.text_eq, String.toList_ofList, hchars]
      · rw [String.toList_ofList]
        exact holes_subset_of_part ((List.prefix_append cs _).isInfix.trans htext.isInfix)
  | malformed p q =>
      obtain ⟨p', hp'⟩ := readText_of_malformed hold
      obtain ⟨q', hq'⟩ := readText_of_malformed hnew
      rw [hp', hq']
      exact .malformed p' q'
  | number p =>
      simp only [readText, hold, hnew]
      exact .number p
  | tooDeep =>
      simp only [readText, hold, hnew]
      exact .tooDeep

/-- Whether values, items and fields are read alike from both texts, whatever amount of fuel
the second reading has, as long as both amounts are enough for their texts. -/
structure AlikeUpTo (f : Renaming) (whole : List Char) (fuel : Nat) : Prop where
  /-- Values. -/
  value : ∀ fuel' levels text, text <:+ whole → 2 * text.length + 1 ≤ fuel →
    2 * (mapHoles (Renaming.inner f) text).length + 1 ≤ fuel' →
    Alike (Renaming.inner f) (Fits f whole) text (readValue fuel levels text)
      (readValue fuel' levels (mapHoles (Renaming.inner f) text))
  /-- Items. -/
  items : ∀ fuel' levels text, text <:+ whole → 2 * text.length + 2 ≤ fuel →
    2 * (mapHoles (Renaming.inner f) text).length + 2 ≤ fuel' →
    Alike (Renaming.inner f) (List.Forall₂ (Fits f whole)) text (readItems fuel levels text)
      (readItems fuel' levels (mapHoles (Renaming.inner f) text))
  /-- Fields. -/
  fields : ∀ fuel' levels text, text <:+ whole → 2 * text.length + 2 ≤ fuel →
    2 * (mapHoles (Renaming.inner f) text).length + 2 ≤ fuel' →
    Alike (Renaming.inner f)
      (List.Forall₂ fun field field' =>
        FitsName f whole field.1 field'.1 ∧ Fits f whole field.2 field'.2)
      text (readFields fuel levels text)
      (readFields fuel' levels (mapHoles (Renaming.inner f) text))

variable {fuel fuel' levels : Nat}

theorem alike_scalarReading (text : List Char) :
    Alike (Renaming.inner f) (Fits f whole) text (scalarReading text)
      (scalarReading (mapHoles (Renaming.inner f) text)) := by
  obtain ⟨hnew, hleft⟩ := readsAlike_readScalar? (g := Renaming.inner f) text
  unfold scalarReading
  rw [hnew]
  cases hread : readScalar? text with
  | none => exact .malformed _ _
  | some found =>
      obtain ⟨result, left⟩ := found
      cases result with
      | error problem => exact .number problem
      | ok v =>
          obtain ⟨htexts, hvalue⟩ := eq_of_isAtom (isAtom_of_readScalar? hread)
          refine .ok (fun _ _ => ⟨(hvalue _).symm, ?_⟩) (hleft _ left hread)
          rw [htexts]
          exact nofun

theorem readFields_malformed (h : text.head? ≠ some '"') (fuel levels : Nat) :
    ∃ p, readFields fuel levels text = .error (.malformed p) := by
  cases fuel with
  | zero => exact ⟨_, rfl⟩
  | succ fuel => exact ⟨_, readFields_noName h⟩

/-- Nothing that starts with two opening braces is JSON. -/
theorem readValue_open_open (fuel levels : Nat) (rest : List Char) :
    ∃ p, readValue (fuel + 1) (levels + 1) ('\x7b' :: '\x7b' :: rest) =
      .error (.malformed p) := by
  have hskip : skipSpace ('\x7b' :: rest) = '\x7b' :: rest := by
    rw [skipSpace, List.dropWhile_cons_of_neg (by decide)]
  have hnone : ('\x7b' :: rest).head? ≠ some '"' := by simp
  obtain ⟨p, hp⟩ := readFields_malformed hnone fuel levels
  exact ⟨p, by rw [readValue_object (by simp [hskip]), hskip, hp]; rfl⟩

theorem FitsText.fits {s s' : String} (h : FitsText f whole s s') :
    Fits f whole (.text s) (.text s') := by
  intro hquoted _
  obtain ⟨htext, hholes⟩ := h hquoted
  rw [htext, Value.mapTexts, Value.texts]
  exact ⟨rfl, fun t ht => by rwa [List.mem_singleton.mp ht]⟩

@[simp]
theorem head?_skipSpace_mapHoles (g : List Char → List Char) (after : List Char) :
    (skipSpace (mapHoles g after)).head? = (skipSpace after).head? := by
  rw [(skipSpace_mapHoles after).1, Template.head?_mapHoles]

/-- Both readings pass the same character after the same blanks. -/
theorem exists_of_head_skipSpace {g : List Char → List Char} {after : List Char} {c : Char}
    (hafter : LeftOf g after text) (hc : c ≠ '\x7b') (h : (skipSpace after).head? = some c) :
    ∃ more, skipSpace after = c :: more ∧ skipSpace (mapHoles g after) = c :: mapHoles g more ∧
      LeftOf g more text ∧ more.length < text.length ∧
      (mapHoles g more).length < (mapHoles g text).length := by
  obtain ⟨more, hmore⟩ := List.head?_eq_some_iff.mp h
  obtain ⟨hskip, hstart⟩ := skipSpace_mapHoles (g := g) after
  rw [hmore] at hstart
  rw [hmore, Template.mapHoles_cons_of_ne g hc] at hskip
  have hchar : LeftOf g more (c :: more) := LeftOf.append [c] (by simpa using hc) more
  have hlength := (hstart.trans hafter).length_le
  rw [Template.mapHoles_cons_of_ne g hc, List.length_cons, List.length_cons] at hlength
  exact ⟨more, hmore, hskip, hchar.trans (hstart.trans hafter), by omega, by omega⟩

/-- Both readings start behind the same blanks. -/
theorem LeftOf.skipSpace {g : List Char → List Char} {more : List Char} (h : LeftOf g more text) :
    LeftOf g (skipSpace more) text :=
  (skipSpace_mapHoles more).2.trans h

theorem FitsText.fitsName {name name' : String} (h : FitsText f whole name name') :
    FitsName f whole name name' := by
  intro hquoted hnone
  rw [(h hquoted).1, Renaming.text_eq, Template.mapHoles_eq_self, String.ofList_toList]
  rw [hnone]
  exact nofun

theorem AlikeUpTo.list (hup : AlikeUpTo f whole fuel) {rest : List Char}
    (htext : '[' :: rest <:+ whole) (hfuel : 2 * ('[' :: rest).length ≤ fuel)
    (hfuel' : 2 * ('[' :: mapHoles (Renaming.inner f) rest).length ≤ fuel') :
    Alike (Renaming.inner f) (Fits f whole) ('[' :: rest)
      (readValue (fuel + 1) (levels + 1) ('[' :: rest))
      (readValue (fuel' + 1) (levels + 1) ('[' :: mapHoles (Renaming.inner f) rest)) := by
  have hrest : LeftOf (Renaming.inner f) rest ('[' :: rest) := LeftOf.append ['['] (by simp) rest
  by_cases hclose : (skipSpace rest).head? = some ']'
  · obtain ⟨left, hold, hnew, hleft, -, -⟩ := exists_of_head_skipSpace hrest (by decide) hclose
    rw [readValue_emptyList hold, readValue_emptyList hnew]
    exact .ok (Fits.list .nil) hleft
  · obtain ⟨hskip, hstart⟩ := skipSpace_mapHoles (g := Renaming.inner f) rest
    have hlength := hstart.length_le
    simp only [List.length_cons] at hfuel hfuel'
    rw [readValue_list hclose, readValue_list (by rwa [head?_skipSpace_mapHoles]), hskip]
    have htext' := hrest.skipSpace.old.trans htext
    refine (hup.items fuel' levels (Json.skipSpace rest) htext' ?_ ?_).map
      hrest.skipSpace fun _ _ => Fits.list
    · omega
    · omega

theorem AlikeUpTo.object (hup : AlikeUpTo f whole fuel) {rest : List Char}
    (hnone : Template.holeAt? ('\x7b' :: rest) = none) (htext : '\x7b' :: rest <:+ whole)
    (hfuel : 2 * ('\x7b' :: rest).length ≤ fuel)
    (hfuel' : 2 * ('\x7b' :: mapHoles (Renaming.inner f) rest).length ≤ fuel') :
    Alike (Renaming.inner f) (Fits f whole) ('\x7b' :: rest)
      (readValue (fuel + 1) (levels + 1) ('\x7b' :: rest))
      (readValue (fuel' + 1) (levels + 1) ('\x7b' :: mapHoles (Renaming.inner f) rest)) := by
  have hrest : LeftOf (Renaming.inner f) rest ('\x7b' :: rest) := LeftOf.char hnone
  by_cases hclose : (skipSpace rest).head? = some '\x7d'
  · obtain ⟨left, hold, hnew, hleft, -, -⟩ := exists_of_head_skipSpace hrest (by decide) hclose
    rw [readValue_emptyObject hold, readValue_emptyObject hnew]
    exact .ok (Fits.object .nil) hleft
  · obtain ⟨hskip, hstart⟩ := skipSpace_mapHoles (g := Renaming.inner f) rest
    have hlength := hstart.length_le
    simp only [List.length_cons] at hfuel hfuel'
    rw [readValue_object hclose, readValue_object (by rwa [head?_skipSpace_mapHoles]), hskip]
    have htext' := hrest.skipSpace.old.trans htext
    refine (hup.fields fuel' levels (Json.skipSpace rest) htext' ?_ ?_).map
      hrest.skipSpace fun _ _ => Fits.object
    · omega
    · omega

theorem AlikeUpTo.value_succ (hup : AlikeUpTo f whole fuel) (h : Reads f whole)
    (htext : text <:+ whole) (hfuel : 2 * text.length ≤ fuel)
    (hfuel' : 2 * (mapHoles (Renaming.inner f) text).length ≤ fuel') :
    Alike (Renaming.inner f) (Fits f whole) text (readValue (fuel + 1) levels text)
      (readValue (fuel' + 1) levels (mapHoles (Renaming.inner f) text)) := by
  by_cases hquote : text.head? = some '"'
  · obtain ⟨rest, rfl⟩ := List.head?_eq_some_iff.mp hquote
    rw [Template.mapHoles_cons_of_ne _ (by decide), readValue_quote, readValue_quote]
    exact (alike_readText h ((List.suffix_cons '"' rest).trans htext)).map
      (LeftOf.append ['"'] (by simp) rest) fun _ _ hs => hs.fits
  by_cases hlist : text.head? = some '['
  · obtain ⟨rest, rfl⟩ := List.head?_eq_some_iff.mp hlist
    rw [Template.mapHoles_cons_of_ne _ (by decide)] at hfuel' ⊢
    cases levels with
    | zero => exact .tooDeep
    | succ levels => exact hup.list htext hfuel hfuel'
  by_cases hobject : text.head? = some '\x7b'
  · obtain ⟨rest, rfl⟩ := List.head?_eq_some_iff.mp hobject
    rcases Template.holeAt?_cases ('\x7b' :: rest) with ⟨inner, others, hinner, hhole⟩ | hnone
    · rw [hhole, Template.mapHoles_hole _ hinner]
      simp only [Piece.render, List.cons_append]
      cases levels with
      | zero => exact .tooDeep
      | succ levels =>
          obtain ⟨p, hp⟩ := readValue_open_open fuel levels (inner ++ ['\x7d', '\x7d'] ++ others)
          obtain ⟨q, hq⟩ := readValue_open_open fuel' levels (Renaming.inner f inner ++
            ['\x7d', '\x7d'] ++ mapHoles (Renaming.inner f) others)
          rw [hp, hq]
          exact .malformed p q
    · rw [Template.mapHoles_char _ hnone] at hfuel' ⊢
      cases levels with
      | zero => exact .tooDeep
      | succ levels => exact hup.object hnone htext hfuel hfuel'
  · rw [readValue_scalar hquote hlist hobject, readValue_scalar (by rwa [Template.head?_mapHoles])
      (by rwa [Template.head?_mapHoles]) (by rwa [Template.head?_mapHoles])]
    exact alike_scalarReading text

theorem AlikeUpTo.items_succ (hup : AlikeUpTo f whole fuel) (htext : text <:+ whole)
    (hfuel : 2 * text.length + 1 ≤ fuel)
    (hfuel' : 2 * (mapHoles (Renaming.inner f) text).length + 1 ≤ fuel') :
    Alike (Renaming.inner f) (List.Forall₂ (Fits f whole)) text (readItems (fuel + 1) levels text)
      (readItems (fuel' + 1) levels (mapHoles (Renaming.inner f) text)) := by
  have hvalue := hup.value fuel' levels text htext hfuel hfuel'
  rcases hvalue.error_or_ok with
    ⟨_, _, hold, hnew, herror⟩ | ⟨item, item', after, hold, hnew, hitem, hafter⟩
  · rw [readItems_error hold, readItems_error hnew]
    exact herror _ _
  by_cases hclose : (skipSpace after).head? = some ']'
  · obtain ⟨left, hend, hend', hleft, -, -⟩ :=
      exists_of_head_skipSpace hafter (by decide) hclose
    rw [readItems_close hold hend, readItems_close hnew hend']
    exact .ok (.cons hitem .nil) hleft
  by_cases hcomma : (skipSpace after).head? = some ','
  · obtain ⟨more, hmore, hmore', hleft, hless, hless'⟩ :=
      exists_of_head_skipSpace hafter (by decide) hcomma
    obtain ⟨hskip, hstart⟩ := skipSpace_mapHoles (g := Renaming.inner f) more
    have hlength := hstart.length_le
    rw [readItems_comma hold hmore, readItems_comma hnew hmore', hskip]
    refine (hup.items fuel' levels (Json.skipSpace more) (hleft.skipSpace.old.trans htext)
      ?_ ?_).map hleft.skipSpace fun _ _ hitems => .cons hitem hitems
    · omega
    · omega
  · rw [readItems_other hold hclose hcomma, readItems_other hnew
      (by rwa [head?_skipSpace_mapHoles]) (by rwa [head?_skipSpace_mapHoles])]
    exact .malformed _ _

theorem AlikeUpTo.fields_succ (hup : AlikeUpTo f whole fuel) (h : Reads f whole)
    (htext : text <:+ whole) (hfuel : 2 * text.length + 1 ≤ fuel)
    (hfuel' : 2 * (mapHoles (Renaming.inner f) text).length + 1 ≤ fuel') :
    Alike (Renaming.inner f)
      (List.Forall₂ fun field field' =>
        FitsName f whole field.1 field'.1 ∧ Fits f whole field.2 field'.2)
      text (readFields (fuel + 1) levels text)
      (readFields (fuel' + 1) levels (mapHoles (Renaming.inner f) text)) := by
  by_cases hquote : text.head? = some '"'
  case neg =>
    rw [readFields_noName hquote, readFields_noName (by rwa [Template.head?_mapHoles])]
    exact .malformed _ _
  obtain ⟨quoted, rfl⟩ := List.head?_eq_some_iff.mp hquote
  have hquoted : LeftOf (Renaming.inner f) quoted ('"' :: quoted) :=
    LeftOf.append ['"'] (by simp) quoted
  have hlonger : (mapHoles (Renaming.inner f) ('"' :: quoted)).length =
      (mapHoles (Renaming.inner f) quoted).length + 1 := by
    rw [Template.mapHoles_cons_of_ne _ (by decide), List.length_cons]
  rw [Template.mapHoles_cons_of_ne _ (by decide)]
  have hname := alike_readText h (hquoted.old.trans htext)
  rcases hname.error_or_ok with
    ⟨_, _, hold, hnew, herror⟩ | ⟨name, name', afterName, hold, hnew, hname, hafterName⟩
  · rw [readFields_nameError hold, readFields_nameError hnew]
    exact herror _ _
  by_cases hcolon : (skipSpace afterName).head? = some ':'
  case neg =>
    rw [readFields_noColon hold hcolon, readFields_noColon hnew
      (by rwa [head?_skipSpace_mapHoles])]
    exact .malformed _ _
  obtain ⟨colon, hmark, hmark', hstart, hless, hless'⟩ :=
    exists_of_head_skipSpace (hafterName.trans hquoted) (by decide) hcolon
  obtain ⟨hskip, hshort⟩ := skipSpace_mapHoles (g := Renaming.inner f) colon
  have hlength := hshort.length_le
  have hvalue := hup.value fuel' levels (Json.skipSpace colon)
    (hstart.skipSpace.old.trans htext) (by omega) (by omega)
  rw [← hskip] at hvalue
  rcases hvalue.error_or_ok with
    ⟨_, _, hold', hnew', herror⟩ | ⟨item, item', after, hold', hnew', hitem, hafterItem⟩
  · rw [readFields_valueError hold hmark hold', readFields_valueError hnew hmark' hnew']
    exact herror _ _
  have hafter := hafterItem.trans hstart.skipSpace
  by_cases hclose : (skipSpace after).head? = some '\x7d'
  · obtain ⟨left, hend, hend', hleft, -, -⟩ :=
      exists_of_head_skipSpace hafter (by decide) hclose
    rw [readFields_close hold hmark hold' hend, readFields_close hnew hmark' hnew' hend']
    exact .ok (.cons ⟨hname.fitsName, hitem⟩ .nil) hleft
  by_cases hcomma : (skipSpace after).head? = some ','
  · obtain ⟨more, hmore, hmore', hleft, hless, hless'⟩ :=
      exists_of_head_skipSpace hafter (by decide) hcomma
    obtain ⟨hskip, hshort⟩ := skipSpace_mapHoles (g := Renaming.inner f) more
    have hlength := hshort.length_le
    rw [readFields_comma hold hmark hold' hmore,
      readFields_comma hnew hmark' hnew' hmore', hskip]
    refine (hup.fields fuel' levels (Json.skipSpace more)
      (hleft.skipSpace.old.trans htext) ?_ ?_).map hleft.skipSpace
      fun _ _ hfields => .cons ⟨hname.fitsName, hitem⟩ hfields
    · omega
    · omega
  · rw [readFields_other hold hmark hold' hclose hcomma, readFields_other hnew hmark' hnew'
      (by rwa [head?_skipSpace_mapHoles]) (by rwa [head?_skipSpace_mapHoles])]
    exact .malformed _ _

/-- Values, items and fields are read alike from both texts. -/
theorem alikeUpTo (h : Reads f whole) (fuel : Nat) : AlikeUpTo f whole fuel := by
  induction fuel with
  | zero => constructor <;> intros <;> omega
  | succ fuel ih =>
      constructor
      · rintro (_ | fuel') levels text htext hfuel hfuel'
        · omega
        · exact ih.value_succ h htext (by omega) (by omega)
      · rintro (_ | fuel') levels text htext hfuel hfuel'
        · omega
        · exact ih.items_succ htext (by omega) (by omega)
      · rintro (_ | fuel') levels text htext hfuel hfuel'
        · omega
        · exact ih.fields_succ h htext (by omega) (by omega)

/-- Whether a text is read as a value and its renamed form as one that fits, or both are no
JSON for the same cause. -/
inductive ReadAlike (f : Renaming) (whole : List Char) :
    Except (Refusal Error) Value → Except (Refusal Error) Value → Prop where
  /-- Both are JSON. -/
  | ok {v v' : Value} (h : Fits f whole v v') : ReadAlike f whole (.ok v) (.ok v')
  /-- Both are malformed. -/
  | malformed (e e' : Error) :
    ReadAlike f whole (.error (.malformed e)) (.error (.malformed e'))
  /-- Both hold the same number that is not read. -/
  | number (p : NumberProblem) : ReadAlike f whole (.error (.number p)) (.error (.number p))
  /-- Both are nested too deeply. -/
  | tooDeep : ReadAlike f whole (.error .tooDeep) (.error .tooDeep)

/-- A template is read alike before and after renaming. -/
theorem readAlike_text {s : String} (h : Reads f s.toList) :
    ReadAlike f s.toList (read s) (read (Renaming.text f s)) := by
  unfold read readAll
  rw [Renaming.toList_text, Template.head?_mapHoles]
  split
  · exact .malformed _ _
  · obtain ⟨hskip, hstart⟩ := skipSpace_mapHoles (g := Renaming.inner f) s.toList
    have hlength := hstart.length_le
    have hvalue := (alikeUpTo h (2 * s.toList.length + 1)).value
      (2 * (mapHoles (Renaming.inner f) s.toList).length + 1) nestingLimit
      (Json.skipSpace s.toList) hstart.old (by omega) (by omega)
    rw [hskip]
    generalize readValue _ _ (skipSpace s.toList) = old at hvalue
    generalize readValue _ _ (mapHoles (Renaming.inner f) (skipSpace s.toList)) = new at hvalue
    cases hvalue with
    | malformed p q => exact .malformed _ _
    | number p => exact .number p
    | tooDeep => exact .tooDeep
    | @ok v v' after hfits hafter =>
        obtain ⟨hskip, -⟩ := skipSpace_mapHoles (g := Renaming.inner f) after
        dsimp only
        rw [hskip]
        cases skipSpace after with
        | nil => exact .ok hfits
        | cons c rest =>
            obtain ⟨tail, htail⟩ := Template.exists_mapHoles_cons (Renaming.inner f) c rest
            rw [htail]
            exact .malformed _ _

end Reading

end Json

end CallChain
