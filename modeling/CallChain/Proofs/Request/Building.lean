/-
# The request of a renamed step

A step that has been written to a document and read again has other references, and where a
number was entered it has the text of that number. Neither shows in its requests: when the
holes of its texts and its bindings have the same values as before, the path, the query and
the body are the same, or building the request fails in the same way.
-/

import CallChain.Proofs.Document.Reading
import CallChain.Proofs.Request.Renamed
import CallChain.Request.Building

namespace CallChain

/-! ## Numbers that become texts -/

namespace DecimalFormat
/-- The characters of a written number. -/
def IsNumberChar (c : Char) : Prop := c.isDigit = true ∨ c ∈ ['.', 'e', '+', '-']

theorem isNumberChar_of_mem_toDigits {n : Nat} {c : Char} (h : c ∈ Nat.toDigits 10 n) :
    IsNumberChar c :=
  Or.inl (Nat.isDigit_of_mem_toDigits (by decide) (by decide) h)

theorem isNumberChar_of_mem_replicate {n : Nat} {c : Char} (h : c ∈ List.replicate n '0') :
    IsNumberChar c := by
  rw [List.eq_of_mem_replicate h]
  exact Or.inl rfl

theorem isNumberChar_of_mem_decimalText {d : Decimal} {c : Char}
    (h : c ∈ plainFormat.decimalText d) : IsNumberChar c := by
  have hdigits : ∀ {c : Char}, c ∈ Nat.toDigits 10 d.digits → IsNumberChar c :=
    isNumberChar_of_mem_toDigits
  have hmark : ∀ {c : Char}, c ∈ ['.', 'e', '+', '-'] → IsNumberChar c := Or.inr
  have hzero : IsNumberChar '0' := Or.inl rfl
  have hexponent : ∀ {exponent : Int} {c : Char}, c ∈ plainFormat.exponentText exponent →
      IsNumberChar c := by
    intro exponent c hc
    simp only [exponentText, List.mem_append, List.mem_cons] at hc
    rcases hc with (rfl | hc) | hc
    · split <;> exact Or.inr (by simp)
    · exact isNumberChar_of_mem_replicate hc
    · exact isNumberChar_of_mem_toDigits hc
  unfold decimalText at h
  dsimp only at h
  split at h
  · simp only [List.mem_append, List.mem_cons] at h
    rcases h with (h | h) | rfl | h
    · exact hdigits (List.mem_of_mem_take h)
    · split at h
      · cases h
      · rcases List.mem_cons.mp h with rfl | h
        · exact hmark (by simp)
        · exact hdigits (List.mem_of_mem_drop h)
    · exact hmark (by simp)
    · exact hexponent h
  · split at h
    · simp only [List.mem_append, List.mem_cons] at h
      rcases h with (rfl | rfl | h) | h
      · exact hzero
      · exact hmark (by simp)
      · exact isNumberChar_of_mem_replicate h
      · exact hdigits h
    · split at h
      · simp only [List.mem_append] at h
        rcases h with (h | h) | h
        · exact hdigits h
        · exact isNumberChar_of_mem_replicate h
        · have hend : plainFormat.wholeEnd.toList = ['.', '0'] := rfl
          rw [hend] at h
          rcases List.mem_pair.mp h with rfl | rfl
          · exact hmark (by simp)
          · exact hzero
      · simp only [List.mem_append, List.mem_cons] at h
        rcases h with h | rfl | h
        · exact hdigits (List.mem_of_mem_take h)
        · exact hmark (by simp)
        · exact hdigits (List.mem_of_mem_drop h)

theorem decimalText_ne_nil (d : Decimal) : plainFormat.decimalText d ≠ [] := by
  have hdigits : Nat.toDigits 10 d.digits ≠ [] := Nat.toDigits_ne_nil
  unfold decimalText
  dsimp only
  split
  · simp
  · split
    · simp
    · split
      · simp [hdigits]
      · simp
end DecimalFormat

namespace Value

theorem hasHole_of_not_mem_close {s : String} (h : '\x7d' ∉ s.toList) :
    Template.hasHole s = false :=
  Template.hasHole_eq_false_iff.mpr (Template.holes_eq_nil h)

theorem not_mem_close_of_numberChars {text : List Char}
    (h : ∀ c ∈ text, DecimalFormat.IsNumberChar c) : '\x7d' ∉ text := by
  intro hmem
  rcases h _ hmem with hdigit | hmark
  · exact absurd hdigit (by decide)
  · exact absurd hmark (by decide)

theorem intText_eq (n : Int) :
    ∃ sign : List Char, (sign = [] ∨ sign = ['-']) ∧
      (Text.intText n).toList = sign ++ Nat.toDigits 10 n.natAbs := by
  unfold Text.intText Text.natText
  split
  · exact ⟨['-'], Or.inr rfl, by simp⟩
  · exact ⟨[], Or.inl rfl, by simp⟩

theorem intText_bare (n : Int) :
    Text.intText n ≠ "" ∧ Template.hasHole (Text.intText n) = false := by
  obtain ⟨sign, hsign, htext⟩ := intText_eq n
  constructor
  · intro hempty
    have hlength := congrArg List.length (congrArg String.toList hempty)
    simp [htext] at hlength
  · apply hasHole_of_not_mem_close
    rw [htext]
    apply not_mem_close_of_numberChars
    intro c hc
    rcases List.mem_append.mp hc with hc | hc
    · rcases hsign with rfl | rfl
      · cases hc
      · rw [List.mem_singleton.mp hc]
        exact Or.inr (by simp)
    · exact DecimalFormat.isNumberChar_of_mem_toDigits hc

theorem numberText_bare (x : Binary64) :
    plainFormat.numberText x ≠ "" ∧ Template.hasHole (plainFormat.numberText x) = false := by
  cases x with
  | nan => exact ⟨by decide, by decide⟩
  | infinite negative => cases negative <;> exact ⟨by decide, by decide⟩
  | finite negative rank =>
      simp only [DecimalFormat.numberText]
      generalize (if rank.val = 0 then (⟨0, 0⟩ : Decimal) else Decimal.shortest rank) = magnitude
      constructor
      · intro hempty
        have hlist := congrArg String.toList hempty
        simp [DecimalFormat.decimalText_ne_nil] at hlist
      · apply hasHole_of_not_mem_close
        apply not_mem_close_of_numberChars
        intro c hc
        rw [String.toList_append, String.toList_ofList] at hc
        rcases List.mem_append.mp hc with hc | hc
        · cases negative
          · cases hc
          · have hsign : (if true = true then "-" else "").toList = ['-'] := rfl
            rw [hsign, List.mem_singleton] at hc
            rw [hc]
            exact Or.inr (by simp)
        · exact DecimalFormat.isNumberChar_of_mem_decimalText hc

/-- What is entered for a text is that text, or a number that is sent as that text. -/
theorem asText?_cases {v : Value} {s : String} (h : v.asText? = some s) :
    v = .text s ∨ (∀ t, v ≠ .text t) ∧ s ≠ "" ∧ Template.hasHole s = false ∧
      v.stringify = s ∧ Builder.queryText? v = some s := by
  cases v with
  | text t =>
      cases h
      exact Or.inl rfl
  | int n =>
      cases h
      obtain ⟨hne, hhole⟩ := intText_bare n
      exact Or.inr ⟨nofun, hne, hhole, rfl, rfl⟩
  | float x =>
      cases h
      obtain ⟨hne, hhole⟩ := numberText_bare x
      exact Or.inr ⟨nofun, hne, hhole, rfl, rfl⟩
  | _ => cases h

end Value

/-! ## Renamed steps -/

/-- Whether a step is another one, with the given parameters, after renaming. What the
endpoint says of itself does not count. -/
structure Step.Renamed (f : Renaming) (p : Parameters) (x x' : Step) : Prop where
  /-- The methods are the same. -/
  method : x'.endpoint.method = x.endpoint.method
  /-- The paths are the same. -/
  path : x'.endpoint.path = x.endpoint.path
  /-- The parameters are those that were entered. -/
  parameters : x.inputs.parameters? = some p
  /-- They are renamed. -/
  inputs : x'.inputs = Inputs.ofParameters (p.mapText (Renaming.text f))
  /-- The bindings are renamed. -/
  mappings : x'.mappings = Renaming.mappings f x.mappings
  /-- Both are iterated, or neither is. -/
  enabled : x'.iteration.enabled = x.iteration.enabled
  /-- If they are, the source is renamed. -/
  iteration : x.iteration.enabled = true →
    x'.iteration = { x.iteration with source := Renaming.expression f x.iteration.source }

namespace Renaming

variable {f : Renaming}

theorem startsOpen_of_isInner {s : String} (h : ∀ c ∈ s.toList, Template.isInner c = true) :
    startsOpen s = false := by
  rw [Bool.eq_false_iff, ne_eq, startsOpen_iff]
  rintro ⟨rest, hrest⟩
  have hbrace := h '\x7b' (by rw [← hrest]; simp)
  exact absurd hbrace (by decide)

/-- An expression without braces is renamed as what stands in a hole. -/
theorem expression_of_isInner (hf : f.IntoWords) {s : String}
    (h : ∀ c ∈ s.toList, Template.isInner c = true) :
    expression f s = String.ofList (inner f s.toList) := by
  have hopen := startsOpen_of_isInner h
  have himage := mapHoles_expression hf hopen
  have hrender : Template.mapHoles (inner f) ('\x7b' :: '\x7b' :: (s.toList ++ ['\x7d', '\x7d'])) =
      '\x7b' :: '\x7b' :: (inner f s.toList ++ ['\x7d', '\x7d']) := by
    by_cases hempty : s.toList = []
    · rw [hempty]
      have hnone : Template.holes ['\x7b', '\x7b', '\x7d', '\x7d'] = [] := by decide
      apply Template.mapHoles_eq_self
      rw [List.nil_append, hnone]
      exact nofun
    · have hwhole := Template.mapHoles_hole (inner f) ⟨hempty, h⟩ []
      simpa [Piece.render] using hwhole
  rw [himage] at hrender
  simp only [List.cons.injEq, true_and] at hrender
  rw [← List.append_cancel_right hrender, String.ofList_toList]

theorem expression_eq_empty_iff (hf : f.IntoWords) {s : String}
    (h : ∀ c ∈ s.toList, Template.isInner c = true) : expression f s = "" ↔ s = "" := by
  rw [expression_of_isInner hf h, ← String.toList_inj, String.toList_ofList]
  constructor
  · intro hempty
    by_contra hne
    have hcontent : Template.IsContent s.toList := ⟨fun hnil => hne (String.toList_inj.mp hnil), h⟩
    exact (keepsContent_inner hf _ hcontent).1 hempty
  · rintro rfl
    rfl

end Renaming

open Resolver (HolesAgree)

/-- Whether all that the requests of a step read has the same value before and after
renaming. -/
structure Step.Agrees (r r' : Resolver) (scope : Fields Value) (f : Renaming) (p : Parameters)
    (x : Step) : Prop where
  /-- The holes of its texts. -/
  texts : ∀ s ∈ p.texts, HolesAgree r r' scope f s.toList
  /-- Its bindings, which hold no braces. -/
  bindings : ∀ e ∈ x.mappings.map Prod.snd, (∀ c ∈ e.toList, Template.isInner c = true) ∧
    r'.resolve scope (String.ofList (Renaming.inner f e.toList)) = r.resolve scope e

/-- Whether the body of a step is a text that reads as it is written, or absent. -/
structure Step.BodyAsWritten (f : Renaming) (p : Parameters) (x : Step) : Prop where
  /-- It is no value of another kind. -/
  text : x.inputs.body = (p.body.map Value.text).getD .null
  /-- No character is escaped. -/
  plain : ∀ s, p.body = some s → '\\' ∉ s.toList
  /-- As JSON, it reads as it is written. -/
  written : ∀ s, p.body = some s → Body.ReadsAsWritten f (Text.trim s)

namespace Fields

variable {α β : Type}

/-- A name has a value, and that value an image, or it has neither. -/
theorem get?_mapValues?_cases {read : α → Option β} {fields : Fields α} {image : Fields β}
    (h : mapValues? read fields = some image) (name : String) :
    fields.get? name = none ∧ image.get? name = none ∨
      ∃ a b, fields.get? name = some a ∧ read a = some b ∧ image.get? name = some b := by
  induction fields generalizing image with
  | nil =>
      cases h
      exact Or.inl ⟨rfl, rfl⟩
  | cons field fields ih =>
      obtain ⟨key, a⟩ := field
      simp only [mapValues?, List.mapM_cons, Option.bind_eq_bind, Option.bind_eq_some_iff,
        Option.map_eq_some_iff] at h
      obtain ⟨first, ⟨b, hb, rfl⟩, others, hothers, himage⟩ := h
      cases himage
      by_cases hkey : key = name
      · exact Or.inr ⟨a, b, by rw [get?, if_pos hkey], hb, by rw [get?, if_pos hkey]⟩
      · rw [get?, get?, if_neg hkey, if_neg hkey]
        exact ih hothers

theorem mem_of_get? {fields : Fields α} {name : String} {a : α} (h : fields.get? name = some a) :
    a ∈ fields.map Prod.snd :=
  List.mem_map.mpr ⟨_, mem_of_get?_eq_some h, rfl⟩

end Fields

namespace Builder

variable {r r' : Resolver} {scope : Fields Value} {f : Renaming} {p : Parameters} {x x' : Step}

/-- What a request shows of the value of a parameter: its text in the path and in the
query. -/
def shown (v : Value) : String × Option String := (v.stringify, queryText? v)

/-- Whether a value that was entered becomes another one by renaming: a text or a number
becomes a renamed text, and a flag stays. -/
inductive Becomes (r r' : Resolver) (scope : Fields Value) (f : Renaming) : Value → Value → Prop
  /-- A text, or a number that is sent as it. -/
  | text {v : Value} {s : String} (h : v.asText? = some s)
    (hs : HolesAgree r r' scope f s.toList) :
    Becomes r r' scope f v (.text (Renaming.text f s))
  /-- A flag. -/
  | flag (b : Bool) : Becomes r r' scope f (.bool b) (.bool b)

theorem becomes_empty : Becomes r r' scope f (.text "") (.text "") :=
  @Becomes.text r r' scope f (.text "") "" rfl nofun

/-- The binding of a parameter has the same value, if there is one. -/
theorem binding_renamed (hf : f.IntoWords) (h : Step.Renamed f p x x')
    (hagrees : Step.Agrees r r' scope f p x) (name : String) :
    ((x'.mappings.get? name).filter (· ≠ "")).map (r'.resolve scope) =
      ((x.mappings.get? name).filter (· ≠ "")).map (r.resolve scope) := by
  rw [h.mappings, Renaming.mappings, Fields.get?_mapValues]
  cases hget : x.mappings.get? name with
  | none => rfl
  | some e =>
      obtain ⟨hbare, hvalue⟩ := hagrees.bindings e (Fields.mem_of_get? hget)
      have hempty := Renaming.expression_eq_empty_iff hf hbare
      rw [Option.map_some]
      by_cases he : e = ""
      · rw [Option.filter_some, Option.filter_some, if_neg (by simpa using hempty.mpr he),
          if_neg (by simpa using he)]
        rfl
      · rw [Option.filter_some, Option.filter_some, if_pos (by simpa [hempty] using he),
          if_pos (by simpa using he), Option.map_some, Option.map_some,
          Renaming.expression_of_isInner hf hbare, hvalue]

theorem parameterValue_renamed (hf : f.IntoWords) (h : Step.Renamed f p x x')
    (hagrees : Step.Agrees r r' scope f p x) (name : String) {v v' : Value}
    (hv : Becomes r r' scope f v v') :
    (parameterValue x' r' scope name v').map shown =
      (parameterValue x r scope name v).map shown := by
  have hbinding := binding_renamed hf h hagrees name
  unfold parameterValue
  generalize (x'.mappings.get? name).filter (· ≠ "") = new at hbinding
  generalize (x.mappings.get? name).filter (· ≠ "") = old at hbinding
  cases old with
  | some e =>
      cases new with
      | none => cases hbinding
      | some e' =>
          rw [Option.map_some, Option.map_some, Option.some.injEq] at hbinding
          dsimp only
          rw [hbinding]
  | none =>
      cases new with
      | some e' => cases hbinding
      | none =>
          cases hv with
          | flag b => rfl
          | @text v s htext hs =>
              rcases Value.asText?_cases htext with rfl | ⟨hnot, hne, hnone, hstring, hquery⟩
              · dsimp only
                rw [Template.hasHole_text hf, Resolver.interpolate_text hf hs]
                split
                · rfl
                · next hnone =>
                  rw [Template.text_of_not_hasHole (Bool.not_eq_true _ ▸ hnone)]
              · have hshown : shown (.text s) = shown v := by
                  rw [shown, shown, hstring, hquery]
                  simp [queryText?, hne]
                rw [Template.text_of_not_hasHole hnone]
                simp only [hnone]
                cases v with
                | text t => exact absurd rfl (hnot t)
                | _ => exact congrArg Except.ok hshown

/-! ## What was entered -/

theorem parts_of_parameters? {i : Inputs} (h : i.parameters? = some p) :
    Fields.mapValues? Value.asText? i.path = some p.path ∧
      Fields.mapValues? QueryValue.ofValue? i.query = some p.query ∧
      Value.optional? Value.asText? i.body = some p.body := by
  simp only [Inputs.parameters?, Option.bind_eq_bind, Option.bind_eq_some_iff] at h
  obtain ⟨path, hpath, query, hquery, body, hbody, hp⟩ := h
  cases hp
  exact ⟨hpath, hquery, hbody⟩

theorem becomes_path (h : Step.Renamed f p x x') (hagrees : Step.Agrees r r' scope f p x)
    (name : String) :
    Becomes r r' scope f ((x.inputs.path.get? name).getD (.text ""))
      ((x'.inputs.path.get? name).getD (.text "")) := by
  rw [h.inputs]
  simp only [Inputs.ofParameters, Parameters.mapText, Fields.get?_mapValues]
  rcases Fields.get?_mapValues?_cases (parts_of_parameters? h.parameters).1 name with
    ⟨hold, hnew⟩ | ⟨v, s, hold, hs, hnew⟩
  · rw [hold, hnew]
    exact becomes_empty
  · rw [hold, hnew]
    have hmem : s ∈ p.texts := by
      rw [Parameters.texts, List.append_assoc]
      exact List.mem_append_left _ (Fields.mem_of_get? hnew)
    exact .text hs (hagrees.texts s hmem)

theorem ofValue?_cases {v : Value} {q : QueryValue} (h : QueryValue.ofValue? v = some q) :
    (∃ b, v = .bool b ∧ q = .flag b) ∨ ∃ s, v.asText? = some s ∧ q = .text s := by
  cases v with
  | bool b =>
      cases h
      exact Or.inl ⟨b, rfl, rfl⟩
  | _ =>
      simp only [QueryValue.ofValue?, Option.map_eq_some_iff] at h
      obtain ⟨s, hs, hq⟩ := h
      exact Or.inr ⟨s, hs, hq.symm⟩

theorem becomes_query (h : Step.Renamed f p x x') (hagrees : Step.Agrees r r' scope f p x)
    (name : String) :
    Becomes r r' scope f ((x.inputs.query.get? name).getD (.text ""))
      ((x'.inputs.query.get? name).getD (.text "")) := by
  rw [h.inputs]
  simp only [Inputs.ofParameters, Parameters.mapText, Fields.get?_mapValues]
  rcases Fields.get?_mapValues?_cases (parts_of_parameters? h.parameters).2.1 name with
    ⟨hold, hnew⟩ | ⟨v, q, hold, hq, hnew⟩
  · rw [hold, hnew]
    exact becomes_empty
  · rw [hold, hnew]
    rcases ofValue?_cases hq with ⟨b, rfl, rfl⟩ | ⟨s, hs, rfl⟩
    · exact .flag b
    · obtain ⟨field, hfield, hsnd⟩ := List.mem_map.mp (Fields.mem_of_get? hnew)
      have hmem : s ∈ p.texts := by
        simp only [Parameters.texts, List.mem_append]
        exact Or.inl (Or.inr (List.mem_filterMap.mpr ⟨field, hfield, by rw [hsnd]⟩))
      exact .text hs (hagrees.texts s hmem)

/-! ## The parts of a request -/

theorem fillPath_renamed (b : Builder) (hf : f.IntoWords) (h : Step.Renamed f p x x')
    (hagrees : Step.Agrees r r' scope f p x) (names : List String) (path : String) :
    b.fillPath x' r' scope names path = b.fillPath x r scope names path := by
  induction names generalizing path with
  | nil => rfl
  | cons name names ih =>
      have hvalue := parameterValue_renamed hf h hagrees name (becomes_path h hagrees name)
      rw [fillPath, fillPath]
      generalize parameterValue x' r' scope name _ = new at hvalue
      generalize parameterValue x r scope name _ = old at hvalue
      cases old with
      | error fault =>
          cases new with
          | error fault' =>
              cases hvalue
              simp only [bind, Except.bind]
          | ok v' => cases hvalue
      | ok v =>
          cases new with
          | error fault' => cases hvalue
          | ok v' =>
              have hstring : v'.stringify = v.stringify :=
                congrArg Prod.fst (Except.ok.inj hvalue)
              simp only [bind, Except.bind, hstring, ih]

theorem queryEntries_renamed (hf : f.IntoWords) (h : Step.Renamed f p x x')
    (hagrees : Step.Agrees r r' scope f p x) (names : List String) :
    queryEntries x' r' scope names = queryEntries x r scope names := by
  induction names with
  | nil => rfl
  | cons name names ih =>
      have hvalue := parameterValue_renamed hf h hagrees name (becomes_query h hagrees name)
      rw [queryEntries, queryEntries, queryValue, queryValue, ih]
      generalize parameterValue x' r' scope name _ = new at hvalue
      generalize parameterValue x r scope name _ = old at hvalue
      cases old with
      | error fault =>
          cases new with
          | error fault' =>
              cases hvalue
              rfl
          | ok v' => cases hvalue
      | ok v =>
          cases new with
          | error fault' => cases hvalue
          | ok v' =>
              have hquery : queryText? v' = queryText? v :=
                congrArg Prod.snd (Except.ok.inj hvalue)
              simp only [bind, Except.bind, hquery]

theorem keys_inputs (h : Step.Renamed f p x x') :
    x'.inputs.query.keys = x.inputs.query.keys ∧ x'.mappings.keys = x.mappings.keys := by
  constructor
  · rw [h.inputs]
    simp only [Inputs.ofParameters, Parameters.mapText, Fields.keys_mapValues]
    exact Fields.keys_mapValues? (parts_of_parameters? h.parameters).2.1
  · rw [h.mappings, Renaming.mappings, Fields.keys_mapValues]

theorem parameterNames_renamed (h : Step.Renamed f p x x') :
    x'.endpoint.parameterNames = x.endpoint.parameterNames := by
  rw [Endpoint.parameterNames, Endpoint.parameterNames, h.path]

theorem has_congr {α β : Type} {fields : Fields α} {fields' : Fields β}
    (h : fields'.keys = fields.keys) (name : String) : fields'.has name = fields.has name := by
  have hnone : fields'.get? name = none ↔ fields.get? name = none := by
    rw [Fields.get?_eq_none_iff, Fields.get?_eq_none_iff, h]
  rw [Fields.has, Fields.has, Bool.eq_iff_iff, Option.isSome_iff_ne_none, Option.isSome_iff_ne_none,
    ne_eq, ne_eq, hnone]

theorem query_renamed (hf : f.IntoWords) (h : Step.Renamed f p x x')
    (hagrees : Step.Agrees r r' scope f p x) (b : Builder) :
    b.query x' r' scope = b.query x r scope := by
  obtain ⟨hquery, hmappings⟩ := keys_inputs h
  have hnames : queryNames x' = queryNames x := by
    unfold queryNames
    rw [hquery, hmappings, parameterNames_renamed h]
    congr 2
    funext name
    rw [has_congr hquery]
  rw [query, query, hnames, queryEntries_renamed hf h hagrees]

theorem body_renamed (hf : f.IntoWords) (h : Step.Renamed f p x x')
    (hagrees : Step.Agrees r r' scope f p x) (hbody : Step.BodyAsWritten f p x) :
    body x' r' scope = body x r scope := by
  have hold := hbody.text
  have hnew := congrArg Inputs.body h.inputs
  simp only [Inputs.ofParameters, Parameters.mapText] at hnew
  rcases hp : p.body with _ | s
  · rw [hp] at hold hnew
    simp only [body, h.method, hold, hnew]
    rfl
  · rw [hp] at hold hnew
    have htrim : Text.trim (Renaming.text f s) = Renaming.text f (Text.trim s) := by
      rw [Text.trim, Renaming.toList_text, Template.trimChars_mapHoles, Renaming.text_eq,
        Text.trim, String.toList_ofList]
    have hblank : Text.isBlankText (Renaming.text f s) = Text.isBlankText s := by
      rw [Bool.eq_iff_iff, Text.isBlankText_iff, Text.isBlankText_iff, Renaming.toList_text,
        Template.trimChars_mapHoles, Template.mapHoles_eq_nil_iff]
    have hempty : (Renaming.text f s).isEmpty = s.isEmpty := by
      rw [Bool.eq_iff_iff, String.isEmpty_iff, String.isEmpty_iff, ← String.toList_inj,
        ← String.toList_inj, Renaming.toList_text]
      exact Template.mapHoles_eq_nil_iff _
    have hplain : '\\' ∉ (Text.trim s).toList := fun hmem =>
      hbody.plain s hp ((Text.infix_trim s).subset hmem)
    have hholes : HolesAgree r r' scope f (Text.trim s).toList := by
      apply (hagrees.texts s _).of_subset (Json.holes_subset_of_part (Text.infix_trim s))
      rw [Parameters.texts, hp]
      simp
    simp only [Option.map_some, Option.getD_some] at hold hnew
    simp only [body, h.method, hold, hnew, Value.isTruthy, hempty, hblank, htrim,
      Body.ofTemplate_text hf hplain (hbody.written s hp) hholes]

/-- The request of a step is the same before and after renaming, or building it fails in the
same way. -/
theorem build_renamed (hf : f.IntoWords) (h : Step.Renamed f p x x')
    (hagrees : Step.Agrees r r' scope f p x) (hbody : Step.BodyAsWritten f p x) (b : Builder) :
    b.build x' r' scope = b.build x r scope := by
  rw [build, build, parameterNames_renamed h, h.path, h.method, fillPath_renamed b hf h hagrees,
    query_renamed hf h hagrees, body_renamed hf h hagrees hbody]

end Builder

end CallChain
