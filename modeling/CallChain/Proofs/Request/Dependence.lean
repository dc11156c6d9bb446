/-
# What the request of a step depends on

Building a request reads results through expressions only: those that parameters are bound
to, and those in the holes of the path, of the query and of the body. A body that is JSON is
filled in as a value, so its expressions stand in the holes of its texts; any other body is
read as one text. Where these expressions have the same values, the same request is built, or
building fails with the same fault.

Everything that fills a template in has been shown to be the same before and after renaming;
here nothing is renamed, and only the results differ.
-/

import CallChain.Proofs.Request.Building

namespace CallChain

/-! ## Changing no text -/

namespace Value

mutual
theorem mapTexts_id : ∀ v : Value, mapTexts id v = v
  | null | bool _ | int _ | float _ | text _ => rfl
  | list items => by rw [mapTexts, mapItemTexts_id items]
  | object fields => by rw [mapTexts, mapFieldTexts_id fields]

theorem mapItemTexts_id : ∀ items : List Value, mapItemTexts id items = items
  | [] => rfl
  | item :: items => by rw [mapItemTexts, mapTexts_id item, mapItemTexts_id items]

theorem mapFieldTexts_id : ∀ fields : List (String × Value), mapFieldTexts id fields = fields
  | [] => rfl
  | (_, item) :: fields => by rw [mapFieldTexts, mapTexts_id item, mapFieldTexts_id fields]
end

end Value

/-! ## The expressions that are read -/

/-- The expressions in the holes of a text. -/
def Template.expressions (s : String) : List String := (holes s.toList).map String.ofList

/-- The expressions in a value that may be a text with holes. -/
def Value.expressions : Value → List String
  | .text s => Template.expressions s
  | _ => []

/-- The expressions in the template of a body: in the texts of one that is JSON, and in the
whole of any other. -/
def Body.expressions (template : String) : List String :=
  if Template.hasHole template then
    match Json.read template with
    | .ok v => v.texts.flatMap Template.expressions
    | .error _ => Template.expressions template
  else []

namespace Step

/-- The expressions that parameters of a step are bound to. -/
def boundExpressions (x : Step) : List String := (x.mappings.map Prod.snd).filter (· ≠ "")

/-- The expressions in the parameters of a step as they were entered. -/
def enteredExpressions (x : Step) : List String :=
  ((x.inputs.path ++ x.inputs.query).map Prod.snd).flatMap Value.expressions

/-- The expressions in the body of a step. -/
def bodyExpressions (x : Step) : List String :=
  match x.inputs.body with
  | .text template => Body.expressions (Text.trim template)
  | _ => []

/-- The expressions that the request of a step is built from. -/
def expressions (x : Step) : List String :=
  x.boundExpressions ++ x.enteredExpressions ++ x.bodyExpressions

end Step

/-! ## Resolvers that agree on expressions -/

namespace Resolver

/-- Whether two resolvers give the same for every expression of a list. -/
def AgreeOn (r r' : Resolver) (scope : Fields Value) (expressions : List String) : Prop :=
  ∀ e ∈ expressions, r'.resolve scope e = r.resolve scope e

variable {r r' : Resolver} {scope : Fields Value}

theorem AgreeOn.holesAgree {s : String} (h : AgreeOn r r' scope (Template.expressions s)) :
    HolesAgree r r' scope Renaming.stay s.toList := by
  intro inside hinside
  rw [Renaming.inner_stay]
  exact h _ (List.mem_map.mpr ⟨inside, hinside, rfl⟩)

theorem AgreeOn.interpolate_eq {s : String} (h : AgreeOn r r' scope (Template.expressions s)) :
    r'.interpolate scope s = r.interpolate scope s := by
  have hstay := interpolate_text Renaming.intoWords_stay h.holesAgree
  rwa [Renaming.text_stay] at hstay

end Resolver

open Resolver (AgreeOn)

variable {r r' : Resolver} {scope : Fields Value} {x : Step}

namespace Body

theorem ofTemplate_congr {template : String} (h : AgreeOn r r' scope (expressions template)) :
    ofTemplate r' scope template = ofTemplate r scope template := by
  have hid : Renaming.text Renaming.stay = id := funext Renaming.text_stay
  unfold expressions at h
  unfold ofTemplate
  by_cases hhole : Template.hasHole template = true
  · rw [if_pos hhole] at h
    rw [if_pos hhole, if_pos hhole]
    cases hread : Json.read template with
    | ok v =>
        rw [hread] at h
        have hholes : ∀ s ∈ v.texts,
            Resolver.HolesAgree r r' scope Renaming.stay s.toList :=
          fun s hs => AgreeOn.holesAgree fun e he => h e (List.mem_flatMap.mpr ⟨s, hs, he⟩)
        have hfill := fill_mapTexts Renaming.intoWords_stay v hholes
        rw [hid, Value.mapTexts_id] at hfill
        dsimp only
        rw [hfill]
    | error refusal =>
        rw [hread] at h
        cases refusal with
        | malformed e =>
            have hholes := AgreeOn.holesAgree h
            have hfill := fillPieces_map (Template.pieces template.toList)
              (fun inside hinside => hholes inside (List.mem_filterMap.mpr ⟨_, hinside, rfl⟩))
              ⟨false, false⟩
            rw [Renaming.map_inner_stay] at hfill
            dsimp only
            rw [hfill]
        | number problem => rfl
        | tooDeep => rfl
  · rw [if_neg hhole, if_neg hhole]

end Body

/-! ## The request -/

namespace Builder

variable (h : AgreeOn r r' scope x.expressions)

include h

theorem parameterValue_congr (name : String) (entered : Value)
    (hentered : entered.expressions ⊆ x.expressions) :
    parameterValue x r' scope name entered = parameterValue x r scope name entered := by
  unfold parameterValue
  split
  · next expression hbinding =>
    obtain ⟨hget, hne⟩ := Option.filter_eq_some_iff.mp hbinding
    have hmem : expression ∈ x.boundExpressions :=
      List.mem_filter.mpr ⟨Fields.mem_of_get? hget, hne⟩
    exact h _ (List.mem_append_left _ (List.mem_append_left _ hmem))
  · split
    · next text =>
      have htext : AgreeOn r r' scope (Template.expressions text) :=
        fun e he => h e (hentered he)
      rw [htext.interpolate_eq]
    · rfl

omit h in
/-- What is entered for a parameter, or the empty text in its place, holds only expressions of
the step. -/
theorem expressions_get?_subset {fields : Fields Value}
    (hfields : fields ⊆ x.inputs.path ++ x.inputs.query) (name : String) :
    ((fields.get? name).getD (.text "")).expressions ⊆ x.expressions := by
  cases hget : fields.get? name with
  | none => exact List.nil_subset _
  | some v =>
      intro e he
      obtain ⟨entry, hentry, rfl⟩ := List.mem_map.mp (Fields.mem_of_get? hget)
      have hvalue : entry.2 ∈ (x.inputs.path ++ x.inputs.query).map Prod.snd :=
        List.mem_map.mpr ⟨entry, hfields hentry, rfl⟩
      apply List.mem_append_left
      apply List.mem_append_right
      exact List.mem_flatMap.mpr ⟨entry.2, hvalue, he⟩

theorem fillPath_congr (b : Builder) (names : List String) (path : String) :
    b.fillPath x r' scope names path = b.fillPath x r scope names path := by
  induction names generalizing path with
  | nil => rfl
  | cons name names ih =>
      have hvalue := parameterValue_congr h name ((x.inputs.path.get? name).getD (.text ""))
        (expressions_get?_subset (List.subset_append_left _ _) name)
      simp only [fillPath, hvalue, ih]

theorem queryEntries_congr (names : List String) :
    queryEntries x r' scope names = queryEntries x r scope names := by
  induction names with
  | nil => rfl
  | cons name names ih =>
      have hvalue := parameterValue_congr h name ((x.inputs.query.get? name).getD (.text ""))
        (expressions_get?_subset (List.subset_append_right _ _) name)
      simp only [queryEntries, queryValue, hvalue, ih]

theorem body_congr : body x r' scope = body x r scope := by
  unfold body
  cases hbody : x.inputs.body with
  | text template =>
      have hmem : Body.expressions (Text.trim template) ⊆ x.expressions := by
        intro e he
        apply List.mem_append_right
        rw [Step.bodyExpressions, hbody]
        exact he
      dsimp only
      rw [Body.ofTemplate_congr fun e he => h e (hmem he)]
  | _ => rfl

/-- The request of a step depends on the values of its expressions only. -/
theorem build_congr (b : Builder) : b.build x r' scope = b.build x r scope := by
  simp only [build, query, fillPath_congr h, queryEntries_congr h, body_congr h]

end Builder

end CallChain
