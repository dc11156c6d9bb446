/-
# Placeholders that nothing is known for

A request is built only if every placeholder that is filled in names something: a local value,
or a step whose result is stored. Of a body that is no JSON all placeholders are filled in. Of
one that is JSON, those in its texts are: a placeholder that stands in the name of a member, or
in a member that a later one of the same name overrides, is sent or dropped as it stands. No
other placeholder of the template is left out, as long as it holds neither a quote nor a
backslash, and without backslashes nothing but placeholders of the template is filled in.
-/

import CallChain.Proofs.Json.Spelled
import CallChain.Proofs.Request.Dependence
import CallChain.Proofs.Request.Inserted

namespace CallChain

variable {r : Resolver} {scope : Fields Value}

/-! ## Known references -/

namespace Resolver

/-- Whether a reference names a local value or a step with a stored result. -/
def Knows (r : Resolver) (scope : Fields Value) (reference : String) : Prop :=
  scope.has reference = true ∨
    ∃ id, r.idOf reference = .ok (some id) ∧ r.results.has id = true

/-- Only an expression with a known reference has a value. -/
theorem knows_of_resolve {expression : String} {v : Value}
    (h : r.resolve scope expression = .ok v) :
    r.Knows scope (Expression.split expression).reference := by
  unfold resolve at h
  dsimp only at h
  split at h
  · next w hlookup =>
    unfold lookup at hlookup
    split at hlookup
    · next hlocal => exact Or.inl (by rw [Fields.has, hlocal, Option.isSome_some])
    · obtain ⟨id?, hid, hresult⟩ := exists_ok_of_map hlookup
      obtain ⟨id, rfl, hstored⟩ := Option.bind_eq_some_iff.mp hresult
      exact Or.inr ⟨id, hid, by rw [Fields.has, hstored, Option.isSome_some]⟩
  · cases h
  · cases h

/-- Whether all of the expressions have values. -/
def HasValues (r : Resolver) (scope : Fields Value) (expressions : List String) : Prop :=
  ∀ e ∈ expressions, ∃ v, r.resolve scope e = .ok v

theorem hasValues_expressions {s : String}
    (h : ∀ inner ∈ Template.holes s.toList, ∃ v, r.resolve scope (String.ofList inner) = .ok v) :
    r.HasValues scope (Template.expressions s) := by
  intro e he
  obtain ⟨inner, hinner, rfl⟩ := List.mem_map.mp he
  exact h inner hinner

end Resolver

/-! ## What is filled in has values -/

/-- Where a value is filled in, all placeholders in its texts have values. -/
theorem Filled.hasValues {v v' : Value} (h : Filled r scope v v') :
    ∀ s ∈ v.texts, r.HasValues scope (Template.expressions s) := by
  induction h with
  | null | bool b | int n | float x => exact nofun
  | @plain s h =>
      intro t ht
      rw [List.mem_singleton.mp ht]
      apply Resolver.hasValues_expressions
      rw [Template.hasHole_eq_false_iff.mp h]
      exact nofun
  | @whole s expression v h hv =>
      intro t ht
      rw [List.mem_singleton.mp ht]
      obtain ⟨inner, hholes, -, rfl⟩ := Template.exists_of_whole? h
      rw [Resolver.resolve_trimChars] at hv
      apply Resolver.hasValues_expressions
      rw [hholes]
      exact fun other hother => ⟨v, by rwa [List.mem_singleton.mp hother]⟩
  | @parts s hhole h value hvalue =>
      intro t ht
      rw [List.mem_singleton.mp ht]
      exact Resolver.hasValues_expressions fun inner hinner => ⟨value inner, hvalue inner hinner⟩
  | @list items items' hlength h ih =>
      intro s hs
      obtain ⟨item, hitem, hs⟩ := Value.mem_itemTexts.mp hs
      rw [← List.map_fst_zip hlength.ge] at hitem
      obtain ⟨pair, hpair, rfl⟩ := List.mem_map.mp hitem
      exact ih pair hpair s hs
  | @object fields fields' hkeys h ih =>
      intro s hs
      have hlength : fields'.length = fields.length := by
        simpa [Fields.keys] using congrArg List.length hkeys
      obtain ⟨field, hfield, hs⟩ := Value.mem_fieldTexts.mp hs
      rw [← List.map_fst_zip hlength.ge] at hfield
      obtain ⟨pair, hpair, rfl⟩ := List.mem_map.mp hfield
      exact ih pair hpair s hs

namespace Body

/-- Where a text is filled in, all of its placeholders have values. -/
theorem exists_value_of_fillPieces {p : Place} {pieces : List Piece} {chars : List Char}
    (h : fillPieces r scope p pieces = .ok chars) {inner : List Char}
    (hinner : Piece.hole inner ∈ pieces) :
    ∃ v, r.resolve scope (String.ofList inner) = .ok v := by
  induction pieces generalizing p chars with
  | nil => cases hinner
  | cons piece pieces ih =>
      cases piece with
      | literal text =>
          rw [fillPieces] at h
          obtain ⟨others, hothers, -⟩ := exists_ok_of_map h
          exact ih hothers (by simpa using hinner)
      | hole first =>
          rw [fillPieces] at h
          obtain ⟨v, hv, h⟩ := exists_ok_of_bind h
          obtain ⟨others, hothers, -⟩ := exists_ok_of_bind h
          rcases List.mem_cons.mp hinner with heq | hinner
          · cases heq
            exact ⟨v, hv⟩
          · exact ih hothers hinner

/-- A template makes a body only if all expressions that it is filled in with have values. -/
theorem hasValues_of_ofTemplate {template body : String}
    (h : ofTemplate r scope template = .ok body) : r.HasValues scope (expressions template) := by
  unfold expressions
  cases hhole : Template.hasHole template with
  | false => exact nofun
  | true =>
      rw [if_pos rfl]
      cases hread : Json.read template with
      | ok v =>
          simp only [ofTemplate, hhole, if_true, hread] at h
          split at h
          · cases h
          · obtain ⟨filled, hfilled, -⟩ := exists_ok_of_bind h
            intro e he
            obtain ⟨s, hs, he⟩ := List.mem_flatMap.mp he
            exact (filled_of_fill hfilled).hasValues s hs e he
      | error refusal =>
          have hnone : ∀ v, Json.read template ≠ .ok v := by simp [hread]
          rcases ofTemplate_cases hnone with hfault | hfill
          · obtain ⟨fault, hfault⟩ := hfault r scope
            rw [hfault] at h
            cases h
          · rw [hfill] at h
            obtain ⟨chars, hchars, -⟩ := exists_ok_of_bind h
            exact Resolver.hasValues_expressions fun inner hinner =>
              exists_value_of_fillPieces hchars (Template.mem_holes_iff_mem_pieces.mp hinner)

/-! ## Placeholders that are not filled in -/

/-- Whether a template is JSON in which an expression stands where nothing is filled in: in
the name of a member, in a member that a later one overrides, or as a placeholder with a quote
or a backslash, which need not end within the literal that it begins in. -/
def PassesOver (template e : String) : Prop :=
  e ∉ expressions template ∧ ∃ raw : Value, Json.read template = .ok raw.merged ∧
    Json.IsSpelled template.toList raw ∧ ('"' ∈ e.toList ∨ '\\' ∈ e.toList ∨
      ∃ s ∈ raw.names ++ raw.overridden, e ∈ Template.expressions s)

theorem hasHole_of_mem_expressions {template e : String} (h : e ∈ Template.expressions template) :
    Template.hasHole template = true := by
  cases hhole : Template.hasHole template with
  | true => rfl
  | false =>
      rw [Template.expressions, Template.hasHole_eq_false_iff.mp hhole] at h
      cases h

/-- Every placeholder of a template is filled in or passed over. -/
theorem mem_expressions_or_passesOver {template e : String}
    (h : e ∈ Template.expressions template) :
    e ∈ expressions template ∨ PassesOver template e := by
  by_cases hmem : e ∈ expressions template
  · exact Or.inl hmem
  refine Or.inr ⟨hmem, ?_⟩
  rw [expressions, if_pos (hasHole_of_mem_expressions h)] at hmem
  cases hread : Json.read template with
  | error refusal =>
      rw [hread] at hmem
      exact absurd h hmem
  | ok v =>
      rw [hread] at hmem
      obtain ⟨raw, rfl, hspelled⟩ := Json.exists_isSpelled hread
      refine ⟨raw, rfl, hspelled, ?_⟩
      by_cases hquote : '"' ∈ e.toList
      · exact Or.inl hquote
      by_cases hback : '\\' ∈ e.toList
      · exact Or.inr (Or.inl hback)
      refine Or.inr (Or.inr ?_)
      obtain ⟨inner, hinner, rfl⟩ := List.mem_map.mp h
      rw [String.toList_ofList] at hquote hback
      obtain ⟨s, hs, hinside⟩ := hspelled.exists_literal hinner hquote hback
      have he : String.ofList inner ∈ Template.expressions s := List.mem_map_of_mem hinside
      -- a text that is still there after merging would have been filled in
      rcases List.mem_append.mp hs with hname | htext
      · exact ⟨s, List.mem_append_left _ hname, he⟩
      · rcases Value.mem_texts_merged_or htext with hkept | hlost
        · exact absurd (List.mem_flatMap.mpr ⟨s, hkept, he⟩) hmem
        · exact ⟨s, List.mem_append_right _ hlost, he⟩

/-- Without backslashes, only placeholders of a template are filled in. -/
theorem expressions_subset {template : String} (hback : '\\' ∉ template.toList) :
    expressions template ⊆ Template.expressions template := by
  unfold expressions
  split
  · split
    · next v hread =>
      intro e he
      obtain ⟨raw, rfl, hspelled⟩ := Json.exists_isSpelled hread
      obtain ⟨s, hs, he⟩ := List.mem_flatMap.mp he
      have hliteral : s ∈ raw.literals :=
        List.mem_append_right _ (Value.texts_merged_subset raw hs)
      obtain ⟨inner, hinner, rfl⟩ := List.mem_map.mp he
      exact List.mem_map_of_mem (hspelled.holes_subset hback hliteral hinner)
    · exact List.Subset.refl _
  · exact List.nil_subset _

end Body

namespace Builder

variable {b : Builder} {x : Step} {template : String}

/-- A request is built only if all expressions that its body is filled in with have values. -/
theorem hasValues_of_build {request : Request} (hmethod : x.endpoint.method.acceptsBody = true)
    (hbody : x.inputs.body = .text template) (h : b.build x r scope = .ok request) :
    r.HasValues scope (Body.expressions (Text.trim template)) := by
  unfold build at h
  obtain ⟨path, -, h⟩ := exists_ok_of_bind h
  obtain ⟨query, -, h⟩ := exists_ok_of_bind h
  obtain ⟨sent, hsent, -⟩ := exists_ok_of_bind h
  rw [body_text hmethod hbody] at hsent
  split at hsent
  · next hblank =>
    have hnone : Body.expressions (Text.trim template) = [] := by
      rw [Text.trim, Text.isBlankText_iff.mp hblank]
      rfl
    rw [hnone]
    exact fun e he => absurd he List.not_mem_nil
  · obtain ⟨filled, hfilled, -⟩ := exists_ok_of_map hsent
    exact Body.hasValues_of_ofTemplate hfilled

/-- No request is built with a placeholder whose reference is unknown, unless the template is
JSON that passes over it. Nothing else is filled in where no backslashes are. -/
theorem build_refusesUnknown (hmethod : x.endpoint.method.acceptsBody = true)
    (hbody : x.inputs.body = .text template) :
    (∀ e ∈ Template.expressions (Text.trim template) ++ Body.expressions (Text.trim template),
      ¬r.Knows scope (Expression.split e).reference →
        (∃ fault, b.build x r scope = .error fault) ∨ Body.PassesOver (Text.trim template) e) ∧
    ('\\' ∉ (Text.trim template).toList →
      Body.expressions (Text.trim template) ⊆ Template.expressions (Text.trim template)) := by
  have hrefused : ∀ e ∈ Body.expressions (Text.trim template),
      ¬r.Knows scope (Expression.split e).reference →
        ∃ fault, b.build x r scope = .error fault := by
    intro e he hunknown
    cases hbuild : b.build x r scope with
    | error fault => exact ⟨fault, rfl⟩
    | ok request =>
        obtain ⟨v, hv⟩ := hasValues_of_build hmethod hbody hbuild e he
        exact absurd (Resolver.knows_of_resolve hv) hunknown
  refine ⟨fun e he hunknown => ?_, Body.expressions_subset⟩
  rcases List.mem_append.mp he with htext | hfilled
  · exact (Body.mem_expressions_or_passesOver htext).imp_left fun hfilled =>
      hrefused e hfilled hunknown
  · exact Or.inl (hrefused e hfilled hunknown)

theorem unknown_missingStep : ¬oneReply.Knows [] (Expression.split "s9.p").reference := by
  have hsplit : (Expression.split "s9.p").reference = "s9" := by decide +kernel
  have hid : oneReply.idOf "s9" = .ok none := by decide +kernel
  rw [hsplit]
  rintro (hlocal | ⟨id, hsome, -⟩)
  · cases hlocal
  · rw [hid] at hsome
    cases hsome

theorem build_refusesUnknown_missingStep :
    let template := "\x7b\"a\": [\"x\x7b\x7bs9.p\x7d\x7d\"]\x7d"
    (creating template).endpoint.method.acceptsBody = true ∧
      (creating template).inputs.body = .text template ∧
      "s9.p" ∈ Template.expressions (Text.trim template) ∧
      ¬oneReply.Knows [] (Expression.split "s9.p").reference ∧
      ((∃ fault, Builder.build { baseUrl := "" } (creating template) oneReply [] = .error fault) ∨
        Body.PassesOver (Text.trim template) "s9.p") ∧
      Body.expressions (Text.trim template) ⊆ Template.expressions (Text.trim template) := by
  intro template
  have hmem : "s9.p" ∈ Template.expressions (Text.trim template) := by decide +kernel
  have hback : '\\' ∉ (Text.trim template).toList := by decide +kernel
  obtain ⟨hrefused, hsubset⟩ :=
    @build_refusesUnknown oneReply [] { baseUrl := "" } (creating template) template rfl rfl
  exact ⟨rfl, rfl, hmem, unknown_missingStep,
    hrefused "s9.p" (List.mem_append_left _ hmem) unknown_missingStep, hsubset hback⟩

/-- A template with a placeholder in the name of a member. -/
def placeholderName : String := "\x7b\"\x7b\x7bs9.p\x7d\x7d\": 1\x7d"

/-- A placeholder in the name of a member is sent as it stands, whatever it refers to. -/
theorem not_refused_placeholderName :
    ¬∀ (b : Builder) (x : Step) (r : Resolver) (scope : Fields Value) (template e : String),
      x.endpoint.method.acceptsBody = true → x.inputs.body = .text template →
      e ∈ Template.expressions (Text.trim template) →
      ¬r.Knows scope (Expression.split e).reference →
      ∃ fault, b.build x r scope = .error fault := by
  intro h
  have hbuild : Builder.build { baseUrl := "" } (creating placeholderName) oneReply [] = .ok
      { method := "POST", url := "/tasks", query := [("limit", "10"), ("opt_pretty", "true")]
        body := some placeholderName } := by
    decide +kernel
  have hmem : "s9.p" ∈ Template.expressions (Text.trim placeholderName) := by decide +kernel
  obtain ⟨fault, hfault⟩ := h { baseUrl := "" } (creating placeholderName) oneReply []
    placeholderName "s9.p" rfl rfl hmem unknown_missingStep
  rw [hbuild] at hfault
  cases hfault

end Builder

end CallChain
