/-
# Bodies that are sent

A body is sent only with the methods that accept one, and only where the template of it is not
blank. What is sent is JSON. A template without placeholders is sent as it stands; of any
other that is JSON itself, what is sent reads as the template does, with the placeholders in
its texts filled in: names, shapes and all other values stay, whatever characters are filled
in.
-/

import CallChain.Proofs.Json.Compact
import CallChain.Proofs.Json.Names
import CallChain.Proofs.Text.Trimming

namespace CallChain

/-! ## Values with their placeholders filled in -/

/-- The characters of a piece, with the text of a value in place of a hole. -/
def Piece.filled (value : List Char → Value) : Piece → List Char
  | .literal text => text
  | .hole inner => (value inner).stringify.toList

/-- How a value of a template becomes a value that is sent. -/
inductive Filled (r : Resolver) (scope : Fields Value) : Value → Value → Prop
  /-- The absent value stays. -/
  | null : Filled r scope .null .null
  /-- A truth value stays. -/
  | bool (b : Bool) : Filled r scope (.bool b) (.bool b)
  /-- A whole number stays. -/
  | int (n : Int) : Filled r scope (.int n) (.int n)
  /-- A floating-point number stays. -/
  | float (x : Binary64) : Filled r scope (.float x) (.float x)
  /-- A text without placeholders stays. -/
  | plain {s : String} (h : Template.hasHole s = false) : Filled r scope (.text s) (.text s)
  /-- A text that is one placeholder becomes the value of its expression. -/
  | whole {s expression : String} {v : Value} (h : Template.whole? s = some expression)
    (hv : r.resolve scope expression = .ok v) : Filled r scope (.text s) v
  /-- Any other text with placeholders has the texts of their values in their place. -/
  | parts {s : String} (hhole : Template.hasHole s = true) (h : Template.whole? s = none)
    (value : List Char → Value) (hvalue : ∀ inner ∈ Template.holes s.toList,
      r.resolve scope (String.ofList inner) = .ok (value inner)) :
    Filled r scope (.text s)
      (.text (String.ofList ((Template.pieces s.toList).flatMap (Piece.filled value))))
  /-- A list has as many items, each filled in. -/
  | list {items items' : List Value} (hlength : items'.length = items.length)
    (h : ∀ pair ∈ items.zip items', Filled r scope pair.1 pair.2) :
    Filled r scope (.list items) (.list items')
  /-- An object has the same names in the same order, with the value of each filled in. -/
  | object {fields fields' : List (String × Value)}
    (hkeys : Fields.keys fields' = Fields.keys fields)
    (h : ∀ pair ∈ fields.zip fields', Filled r scope pair.1.2 pair.2.2) :
    Filled r scope (.object fields) (.object fields')

section Filling

variable {r : Resolver} {scope : Fields Value}

theorem Filled.resolve_eq {s expression : String} {v : Value} (h : Filled r scope (.text s) v)
    (hhole : Template.hasHole s = true) (hwhole : Template.whole? s = some expression) :
    r.resolve scope expression = .ok v := by
  cases h with
  | plain hnone => exact absurd hhole (by simp [hnone])
  | whole hother hv =>
      cases hwhole.symm.trans hother
      exact hv
  | parts _ hnone => exact absurd hwhole (by simp [hnone])

theorem Resolver.exists_values_of_renderPieces {pieces : List Piece} {chars : List Char}
    (h : r.renderPieces scope pieces = .ok chars) :
    ∃ value : List Char → Value, (∀ inner, Piece.hole inner ∈ pieces →
      r.resolve scope (String.ofList inner) = .ok (value inner)) ∧
      chars = pieces.flatMap (Piece.filled value) := by
  refine ⟨fun inner => (r.resolve scope (String.ofList inner)).toOption.getD .null, ?_⟩
  induction pieces generalizing chars with
  | nil =>
      cases h
      exact ⟨nofun, rfl⟩
  | cons piece pieces ih =>
      rw [Resolver.renderPieces] at h
      cases hpiece : r.renderPiece scope piece with
      | error fault =>
          rw [hpiece] at h
          cases h
      | ok text =>
          rw [hpiece] at h
          obtain ⟨others, hothers, rfl⟩ := exists_ok_of_map h
          obtain ⟨hvalues, rfl⟩ := ih hothers
          cases piece with
          | literal literal =>
              cases hpiece
              exact ⟨fun inner hinner => hvalues inner (by simpa using hinner), rfl⟩
          | hole inner =>
              obtain ⟨v, hv, rfl⟩ := exists_ok_of_map hpiece
              refine ⟨fun other hother => ?_, by simp [Piece.filled, hv, Except.toOption]⟩
              rcases List.mem_cons.mp hother with heq | hother
              · cases heq
                simp [hv, Except.toOption]
              · exact hvalues other hother

namespace Body

theorem filled_text {s : String} {v : Value} (h : fill r scope (.text s) = .ok v) :
    Filled r scope (.text s) v := by
  rw [fill] at h
  cases hhole : Template.hasHole s with
  | false =>
      rw [hhole] at h
      cases h
      exact .plain hhole
  | true =>
      rw [hhole, if_pos rfl, Resolver.interpolate] at h
      cases hwhole : Template.whole? s with
      | some expression =>
          rw [hwhole] at h
          exact .whole hwhole h
      | none =>
          rw [hwhole] at h
          obtain ⟨chars, hchars, rfl⟩ := exists_ok_of_map h
          obtain ⟨value, hvalue, rfl⟩ := Resolver.exists_values_of_renderPieces hchars
          exact .parts hhole hwhole value fun inner hinner =>
            hvalue inner (Template.mem_holes_iff_mem_pieces.mp hinner)

mutual

theorem filled_of_fill {v v' : Value} (h : fill r scope v = .ok v') : Filled r scope v v' := by
  cases v with
  | null =>
      cases h
      exact .null
  | bool b =>
      cases h
      exact .bool b
  | int n =>
      cases h
      exact .int n
  | float x =>
      cases h
      exact .float x
  | text s => exact filled_text h
  | list items =>
      rw [fill] at h
      obtain ⟨items', hitems, rfl⟩ := exists_ok_of_map h
      obtain ⟨hlength, hfilled⟩ := filled_of_fillItems hitems
      exact .list hlength hfilled
  | object fields =>
      rw [fill] at h
      obtain ⟨fields', hfields, rfl⟩ := exists_ok_of_map h
      obtain ⟨hkeys, hfilled⟩ := filled_of_fillFields hfields
      exact .object hkeys hfilled

theorem filled_of_fillItems {items items' : List Value} (h : fillItems r scope items = .ok items') :
    items'.length = items.length ∧ ∀ pair ∈ items.zip items', Filled r scope pair.1 pair.2 := by
  cases items with
  | nil =>
      cases h
      exact ⟨rfl, nofun⟩
  | cons item items =>
      rw [fillItems] at h
      obtain ⟨first, hfirst, h⟩ := exists_ok_of_bind h
      obtain ⟨others, hothers, h⟩ := exists_ok_of_bind h
      cases h
      obtain ⟨hlength, hfilled⟩ := filled_of_fillItems hothers
      have hhead := filled_of_fill hfirst
      refine ⟨by simp [hlength], fun pair hpair => ?_⟩
      rcases List.mem_cons.mp hpair with rfl | hpair
      · exact hhead
      · exact hfilled pair hpair

theorem filled_of_fillFields {fields fields' : List (String × Value)}
    (h : fillFields r scope fields = .ok fields') :
    Fields.keys fields' = Fields.keys fields ∧
      ∀ pair ∈ fields.zip fields', Filled r scope pair.1.2 pair.2.2 := by
  cases fields with
  | nil =>
      cases h
      exact ⟨rfl, nofun⟩
  | cons field fields =>
      obtain ⟨name, item⟩ := field
      rw [fillFields] at h
      obtain ⟨first, hfirst, h⟩ := exists_ok_of_bind h
      obtain ⟨others, hothers, h⟩ := exists_ok_of_bind h
      cases h
      obtain ⟨hkeys, hfilled⟩ := filled_of_fillFields hothers
      have hhead := filled_of_fill hfirst
      refine ⟨by simpa [Fields.keys] using hkeys, fun pair hpair => ?_⟩
      rcases List.mem_cons.mp hpair with rfl | hpair
      · exact hhead
      · exact hfilled pair hpair

end

/-! ## Filled values can be written -/

mutual

theorem hasDistinctNames_of_fill (hnames : r.HoldsDistinctNames scope) {v v' : Value}
    (hv : v.hasDistinctNames = true) (h : fill r scope v = .ok v') :
    v'.hasDistinctNames = true := by
  cases v with
  | text s =>
      rw [fill] at h
      split at h
      · unfold Resolver.interpolate at h
        split at h
        · exact hnames.resolve h
        · obtain ⟨chars, -, rfl⟩ := exists_ok_of_map h
          rfl
      · cases h
        rfl
  | list items =>
      rw [fill] at h
      obtain ⟨items', hitems, rfl⟩ := exists_ok_of_map h
      exact haveDistinctNames_of_fillItems hnames (by simpa [Value.hasDistinctNames] using hv)
        hitems
  | object fields =>
      rw [fill] at h
      obtain ⟨fields', hfields, rfl⟩ := exists_ok_of_map h
      simp only [Value.hasDistinctNames, Bool.and_eq_true, decide_eq_true_eq] at hv ⊢
      rw [(filled_of_fillFields hfields).1]
      exact ⟨hv.1, haveDistinctNames_of_fillFields hnames hv.2 hfields⟩
  | _ =>
      cases h
      rfl

theorem haveDistinctNames_of_fillItems (hnames : r.HoldsDistinctNames scope)
    {items items' : List Value} (hv : Value.itemsHaveDistinctNames items = true)
    (h : fillItems r scope items = .ok items') : Value.itemsHaveDistinctNames items' = true := by
  cases items with
  | nil =>
      cases h
      rfl
  | cons item items =>
      rw [fillItems] at h
      obtain ⟨first, hfirst, h⟩ := exists_ok_of_bind h
      obtain ⟨others, hothers, h⟩ := exists_ok_of_bind h
      cases h
      simp only [Value.itemsHaveDistinctNames, Bool.and_eq_true] at hv ⊢
      exact ⟨hasDistinctNames_of_fill hnames hv.1 hfirst,
        haveDistinctNames_of_fillItems hnames hv.2 hothers⟩

theorem haveDistinctNames_of_fillFields (hnames : r.HoldsDistinctNames scope)
    {fields fields' : List (String × Value)} (hv : Value.fieldsHaveDistinctNames fields = true)
    (h : fillFields r scope fields = .ok fields') :
    Value.fieldsHaveDistinctNames fields' = true := by
  cases fields with
  | nil =>
      cases h
      rfl
  | cons field fields =>
      obtain ⟨name, item⟩ := field
      rw [fillFields] at h
      obtain ⟨first, hfirst, h⟩ := exists_ok_of_bind h
      obtain ⟨others, hothers, h⟩ := exists_ok_of_bind h
      cases h
      simp only [Value.fieldsHaveDistinctNames, Bool.and_eq_true] at hv ⊢
      exact ⟨hasDistinctNames_of_fill hnames hv.1 hfirst,
        haveDistinctNames_of_fillFields hnames hv.2 hothers⟩

end

open Json (Writable)

mutual

theorem writable_of_checkWritable {levels : Nat} {v : Value} (hv : v.hasDistinctNames = true)
    (h : checkWritable levels v = .ok ()) : Writable levels v := by
  cases v with
  | null => exact .scalar trivial
  | bool b => exact .scalar trivial
  | int n =>
      rw [checkWritable] at h
      split at h
      · next hn => exact .scalar hn
      · cases h
  | float x => exact .scalar trivial
  | text s => exact .text s
  | list items =>
      cases levels with
      | zero => cases h
      | succ levels =>
          exact .list
            (writable_of_checkWritableItems (by simpa [Value.hasDistinctNames] using hv) h)
  | object fields =>
      cases levels with
      | zero => cases h
      | succ levels =>
          simp only [Value.hasDistinctNames, Bool.and_eq_true, decide_eq_true_eq] at hv
          exact .object hv.1 (writable_of_checkWritableFields hv.2 h)

theorem writable_of_checkWritableItems {levels : Nat} {items : List Value}
    (hv : Value.itemsHaveDistinctNames items = true)
    (h : checkWritableItems levels items = .ok ()) :
    ∀ item ∈ items, Writable levels item := by
  cases items with
  | nil => exact nofun
  | cons item items =>
      rw [checkWritableItems] at h
      obtain ⟨⟨⟩, hfirst, hothers⟩ := exists_ok_of_bind h
      simp only [Value.itemsHaveDistinctNames, Bool.and_eq_true] at hv
      have hhead := writable_of_checkWritable hv.1 hfirst
      have htail := writable_of_checkWritableItems hv.2 hothers
      simpa using ⟨hhead, htail⟩

theorem writable_of_checkWritableFields {levels : Nat} {fields : List (String × Value)}
    (hv : Value.fieldsHaveDistinctNames fields = true)
    (h : checkWritableFields levels fields = .ok ()) :
    ∀ field ∈ fields, Writable levels field.2 := by
  cases fields with
  | nil => exact nofun
  | cons field fields =>
      obtain ⟨name, item⟩ := field
      rw [checkWritableFields] at h
      obtain ⟨⟨⟩, hfirst, hothers⟩ := exists_ok_of_bind h
      simp only [Value.fieldsHaveDistinctNames, Bool.and_eq_true] at hv
      have hhead := writable_of_checkWritable hv.1 hfirst
      have htail := writable_of_checkWritableFields hv.2 hothers
      intro other hother
      rcases List.mem_cons.mp hother with rfl | hother
      · exact hhead
      · exact htail other hother

end

/-- What is written of a value reads as the value. -/
theorem read_of_written {v : Value} (hv : v.hasDistinctNames = true) {body : String}
    (h : written v = .ok body) : Json.read body = .ok v := by
  obtain ⟨⟨⟩, hcheck, h⟩ := exists_ok_of_bind h
  cases h
  exact Json.read_compact (writable_of_checkWritable hv hcheck)

/-- A text that is checked is the text itself, and JSON. -/
theorem checked_eq_ok_iff {text body : String} :
    checked text = .ok body ↔ body = text ∧ ∃ v, Json.read text = .ok v := by
  unfold checked
  split
  · next v hread => simp [hread, eq_comm]
  · next e hread => simp [hread]

/-- Whether a text is what is sent for a template. -/
structure Sends (r : Resolver) (scope : Fields Value) (template body : String) : Prop where
  /-- It is JSON. -/
  json : ∃ v, Json.read body = .ok v
  /-- It is the template if that has no placeholders. -/
  verbatim : Template.hasHole template = false → body = template
  /-- It reads as the template with its placeholders filled in if the template is JSON. -/
  filled : ∀ v, Json.read template = .ok v → Template.hasHole template = true →
    ∃ v', Filled r scope v v' ∧ Json.read body = .ok v'

theorem sends_of_ofTemplate (hnames : r.HoldsDistinctNames scope) {template body : String}
    (h : ofTemplate r scope template = .ok body) : Sends r scope template body := by
  unfold ofTemplate at h
  cases hhole : Template.hasHole template with
  | false =>
      rw [hhole] at h
      obtain ⟨rfl, hread⟩ := checked_eq_ok_iff.mp h
      exact ⟨hread, fun _ => rfl, fun v _ hnone => absurd hhole (by simp [hnone])⟩
  | true =>
      rw [hhole, if_pos rfl] at h
      cases hread : Json.read template with
      | ok v =>
          rw [hread] at h
          dsimp only at h
          split at h
          · cases h
          · obtain ⟨v', hfill, hwritten⟩ := exists_ok_of_bind h
            have hread' := read_of_written (hasDistinctNames_of_fill hnames
              (Json.hasDistinctNames_of_read hread) hfill) hwritten
            refine ⟨⟨v', hread'⟩, fun hnone => absurd hhole (by simp [hnone]), fun w hw _ => ?_⟩
            rw [hread] at hw
            cases hw
            exact ⟨v', filled_of_fill hfill, hread'⟩
      | error refusal =>
          rw [hread] at h
          cases refusal with
          | malformed e =>
              obtain ⟨chars, -, h⟩ := exists_ok_of_bind h
              obtain ⟨rfl, hsent⟩ := checked_eq_ok_iff.mp h
              exact ⟨hsent, fun hnone => absurd hhole (by simp [hnone]), fun v hv => by
                rw [hread] at hv
                cases hv⟩
          | number problem => cases h
          | tooDeep => cases h

end Body

end Filling

namespace Builder

variable {b : Builder} {x : Step} {r : Resolver} {scope : Fields Value}

/-- What becomes of the template of a body with a method that accepts one. -/
theorem body_text {template : String} (hmethod : x.endpoint.method.acceptsBody = true)
    (hbody : x.inputs.body = .text template) :
    body x r scope = if Text.isBlankText template then .ok none
      else (Body.ofTemplate r scope (Text.trim template)).map some := by
  unfold body
  rw [hmethod, hbody, Value.isTruthy]
  cases hempty : template.isEmpty with
  | false => rfl
  | true =>
      rw [String.isEmpty_iff.mp hempty]
      rfl

theorem body_notText {sent : Option String} (hbody : ∀ template, x.inputs.body ≠ .text template)
    (h : body x r scope = .ok sent) : sent = none := by
  unfold body at h
  split at h
  · split at h
    · next template htext => exact absurd htext (hbody template)
    · cases h
  · cases h
    rfl

/-- A resolver that knows one step, whose reply has a text and a number. -/
def oneReply : Resolver where
  results := [("s0", .object [("p", .text "\"é\\\n"), ("n", .int 7)])]
  stepIds := ["s0"]

/-- A step that creates a record from the template of a body. -/
def creating (template : String) : Step where
  id := "s1"
  endpoint := { method := .post, path := "/tasks" }
  inputs := { body := .text template }

/-- A template whose opening braces stand in it as escapes. -/
def escapedBraces : String := "\x7b\"a\": \"\\u007b\\u007bs0.n\x7d\x7d\"\x7d"

end Builder

end CallChain
