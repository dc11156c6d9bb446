/-
# Distinct names

What is read from a JSON text has objects with distinct names, since of equal names the last
value counts at the place of the first. Where values with distinct names are stored, an
expression leads to one, as does filling in the placeholders of one.
-/

import CallChain.Proofs.Json.Spelled
import CallChain.Proofs.Request.Building
import CallChain.Reference.Resolver

namespace CallChain

/-! ## Fields -/

namespace Fields

theorem haveDistinctNames_set {fields : Fields Value}
    (h : Value.fieldsHaveDistinctNames fields = true) (name : String) {v : Value}
    (hv : v.hasDistinctNames = true) :
    Value.fieldsHaveDistinctNames (fields.set name v) = true := by
  induction fields with
  | nil => simp [set, Value.fieldsHaveDistinctNames, hv]
  | cons field fields ih =>
      obtain ⟨key, first⟩ := field
      simp only [Value.fieldsHaveDistinctNames, Bool.and_eq_true] at h
      rw [set]
      split
      · simp [Value.fieldsHaveDistinctNames, hv, h.2]
      · simp [Value.fieldsHaveDistinctNames, h.1, ih h.2]

/-- Fields that are bound one after another make an object with distinct names. -/
theorem hasDistinctNames_ofEntries {entries : List (String × Value)}
    (h : Value.fieldsHaveDistinctNames entries = true) :
    (Value.object (ofEntries entries)).hasDistinctNames = true := by
  have hmerge : ∀ (later : List (String × Value)) (fields : Fields Value),
      Value.fieldsHaveDistinctNames fields = true → Value.fieldsHaveDistinctNames later = true →
      Value.fieldsHaveDistinctNames (merge fields later) = true := by
    intro later
    induction later with
    | nil => exact fun _ hfields _ => hfields
    | cons field later ih =>
        intro fields hfields hlater
        simp only [Value.fieldsHaveDistinctNames, Bool.and_eq_true] at hlater
        exact ih _ (haveDistinctNames_set hfields field.1 hlater.1) hlater.2
  have hkeys : (keys (ofEntries entries)).Nodup := distinct_ofEntries entries
  simp only [Value.hasDistinctNames, Bool.and_eq_true, decide_eq_true_eq]
  exact ⟨hkeys, hmerge entries [] rfl h⟩

end Fields

/-! ## What is read -/

namespace Value

mutual
/-- Where equal names are merged, the names are distinct. -/
theorem hasDistinctNames_merged : ∀ v : Value, v.merged.hasDistinctNames = true
  | null | bool _ | int _ | float _ | text _ => rfl
  | list items => itemsHaveDistinctNames_merged items
  | object fields => Fields.hasDistinctNames_ofEntries (fieldsHaveDistinctNames_merged fields)

theorem itemsHaveDistinctNames_merged : ∀ items : List Value,
    itemsHaveDistinctNames (mergedItems items) = true
  | [] => rfl
  | item :: items => by
      rw [mergedItems, itemsHaveDistinctNames, hasDistinctNames_merged item,
        itemsHaveDistinctNames_merged items]
      rfl

theorem fieldsHaveDistinctNames_merged : ∀ fields : List (String × Value),
    fieldsHaveDistinctNames (mergedFields fields) = true
  | [] => rfl
  | (_, item) :: fields => by
      rw [mergedFields, fieldsHaveDistinctNames, hasDistinctNames_merged item,
        fieldsHaveDistinctNames_merged fields]
      rfl
end

end Value

/-- What is read from a text has distinct names. -/
theorem Json.hasDistinctNames_of_read {text : String} {v : Value} (h : read text = .ok v) :
    v.hasDistinctNames = true := by
  obtain ⟨raw, rfl, -⟩ := exists_isSpelled h
  exact raw.hasDistinctNames_merged

/-! ## What expressions lead to -/

namespace Value

theorem hasDistinctNames_follow {v w : Value} (hv : v.hasDistinctNames = true) {move : Move}
    (h : move.follow v = .ok w) : w.hasDistinctNames = true := by
  cases move with
  | name field =>
      cases h
      cases hfield : v.field? field with
      | none => rfl
      | some inside =>
          obtain ⟨fields, hfields, hget⟩ := Option.bind_eq_some_iff.mp hfield
          exact hasDistinctNames_of_get? (names_of_object hv hfields).2 hget
  | index position =>
      cases v with
      | list items =>
          cases h
          rw [List.getD_eq_getElem?_getD]
          cases hitem : items[position]? with
          | none => rfl
          | some item =>
              exact hasDistinctNames_of_mem (by simpa [hasDistinctNames] using hv)
                (List.mem_of_getElem? hitem)
      | _ =>
          cases h
          rfl
  | longIndex digits =>
      cases v with
      | list items => cases h
      | _ =>
          cases h
          rfl

theorem foldlM_hasDistinctNames {α : Type} {step : Value → α → Except NumberProblem Value}
    (hstep : ∀ {v w : Value} {a : α}, v.hasDistinctNames = true → step v a = .ok w →
      w.hasDistinctNames = true) {steps : List α} {v w : Value} (hv : v.hasDistinctNames = true)
    (h : steps.foldlM step v = .ok w) : w.hasDistinctNames = true := by
  induction steps generalizing v with
  | nil =>
      cases h
      exact hv
  | cons a steps ih =>
      rw [List.foldlM_cons] at h
      cases hfirst : step v a with
      | error problem =>
          rw [hfirst] at h
          cases h
      | ok u =>
          rw [hfirst] at h
          exact ih (hstep hv hfirst) h

theorem hasDistinctNames_walk {v w : Value} (hv : v.hasDistinctNames = true) {path : String}
    (h : v.walk path = .ok w) : w.hasDistinctNames = true := by
  refine foldlM_hasDistinctNames ?_ hv h
  intro v w segment hv hsegment
  unfold followSegment at hsegment
  split at hsegment
  · exact foldlM_hasDistinctNames (fun hv h => hasDistinctNames_follow hv h) hv hsegment
  · cases hsegment
    rfl

end Value

namespace Resolver

/-- Whether what a resolver and a scope hold has distinct names. -/
structure HoldsDistinctNames (r : Resolver) (scope : Fields Value) : Prop where
  /-- The bodies that steps have received. -/
  results : ∀ v ∈ r.results.map Prod.snd, v.hasDistinctNames = true
  /-- The local values. -/
  scope : ∀ v ∈ scope.map Prod.snd, v.hasDistinctNames = true

variable {r : Resolver} {scope : Fields Value}

theorem HoldsDistinctNames.resolve (h : r.HoldsDistinctNames scope) {expression : String}
    {v : Value} (hv : r.resolve scope expression = .ok v) : v.hasDistinctNames = true := by
  unfold Resolver.resolve at hv
  dsimp only at hv
  split at hv
  · next held hlookup =>
    have hheld : held.hasDistinctNames = true := by
      unfold lookup at hlookup
      split at hlookup
      · next hget =>
        cases hlookup
        exact h.scope _ (Fields.mem_of_get? hget)
      · obtain ⟨id, -, hget⟩ := exists_ok_of_map hlookup
        obtain ⟨name, -, hget⟩ := Option.bind_eq_some_iff.mp hget
        exact h.results _ (Fields.mem_of_get? hget)
    cases hwalk : held.walk (Expression.split expression).path with
    | error problem =>
        rw [hwalk] at hv
        cases hv
    | ok w =>
        rw [hwalk] at hv
        cases hv
        exact Value.hasDistinctNames_walk hheld hwalk
  · cases hv
  · cases hv

end Resolver

end CallChain
