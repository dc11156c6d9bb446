/-
# Merging equal names

An object may be written with several members of one name. A value keeps the last of them, at
the place of the first, so the texts of the others are lost: those that stand in a member that
is overridden by a later one. Every other text is kept.
-/

import CallChain.Fields
import CallChain.Proofs.Value.Texts

namespace CallChain

namespace Fields

variable {α : Type}

theorem mem_set {fields : Fields α} {name : String} {a : α} : (name, a) ∈ fields.set name a := by
  induction fields with
  | nil => exact List.mem_singleton_self _
  | cons field fields ih =>
      rw [set]
      split
      · next heq =>
        rw [heq]
        exact List.mem_cons_self
      · exact List.mem_cons_of_mem _ ih

theorem mem_set_of_ne {fields : Fields α} {field : String × α} {name : String} {a : α}
    (hne : field.1 ≠ name) (h : field ∈ fields) : field ∈ fields.set name a := by
  induction fields with
  | nil => cases h
  | cons first fields ih =>
      rw [set]
      rcases List.mem_cons.mp h with rfl | h
      · rw [if_neg hne]
        exact List.mem_cons_self
      · split
        · exact List.mem_cons_of_mem _ h
        · exact List.mem_cons_of_mem _ (ih h)

theorem mem_of_mem_set {fields : Fields α} {field : String × α} {name : String} {a : α}
    (h : field ∈ fields.set name a) : field ∈ fields ∨ field = (name, a) := by
  induction fields with
  | nil => exact Or.inr (List.mem_singleton.mp h)
  | cons first fields ih =>
      rw [set] at h
      split at h
      · next heq =>
        rcases List.mem_cons.mp h with rfl | h
        · exact Or.inr (by rw [heq])
        · exact Or.inl (List.mem_cons_of_mem _ h)
      · rcases List.mem_cons.mp h with rfl | h
        · exact Or.inl List.mem_cons_self
        · exact (ih h).imp_left (List.mem_cons_of_mem _)

theorem mem_merge_of_not_mem {fields later : Fields α} {field : String × α}
    (hlater : field.1 ∉ later.keys) (h : field ∈ fields) : field ∈ fields.merge later := by
  induction later generalizing fields with
  | nil => exact h
  | cons first later ih =>
      simp only [keys, List.map_cons, List.mem_cons, not_or] at hlater
      exact ih hlater.2 (mem_set_of_ne hlater.1 h)

/-- The last field of a name stays when fields are bound one after another. -/
theorem mem_merge_of_last {fields front back : Fields α} {name : String} {a : α}
    (hback : name ∉ back.keys) : (name, a) ∈ fields.merge (front ++ (name, a) :: back) := by
  rw [merge, List.foldl_append, List.foldl_cons]
  exact mem_merge_of_not_mem hback mem_set

theorem mem_or_mem_of_mem_merge {fields later : Fields α} {field : String × α}
    (h : field ∈ fields.merge later) : field ∈ fields ∨ field ∈ later := by
  induction later generalizing fields with
  | nil => exact Or.inl h
  | cons first later ih =>
      rcases ih h with hset | hlater
      · rcases mem_of_mem_set hset with hfields | rfl
        · exact Or.inl hfields
        · exact Or.inr List.mem_cons_self
      · exact Or.inr (List.mem_cons_of_mem _ hlater)

end Fields

namespace Value

mutual
/-- A value whose objects keep one member of each name: the last one, at the place of the
first. -/
def merged : Value → Value
  | .list items => .list (mergedItems items)
  | .object fields => .object (Fields.ofEntries (mergedFields fields))
  | other => other

/-- The items of a list with equal names within them merged. -/
def mergedItems : List Value → List Value
  | [] => []
  | item :: items => merged item :: mergedItems items

/-- The members of an object with equal names within their values merged. -/
def mergedFields : List (String × Value) → List (String × Value)
  | [] => []
  | (name, item) :: fields => (name, merged item) :: mergedFields fields
end

mutual
/-- The texts that a value loses where equal names within it are merged. -/
def overridden : Value → List String
  | .list items => overriddenItems items
  | .object fields => overriddenFields fields
  | _ => []

/-- The texts that the items of a list lose. -/
def overriddenItems : List Value → List String
  | [] => []
  | item :: items => overridden item ++ overriddenItems items

/-- The texts that the members of an object lose: all those of a member with a later one of
its name, and those that are lost within the others. -/
def overriddenFields : List (String × Value) → List String
  | [] => []
  | (name, item) :: fields =>
    (if name ∈ Fields.keys fields then texts item else overridden item) ++ overriddenFields fields
end

theorem keys_mergedFields (fields : List (String × Value)) :
    Fields.keys (mergedFields fields) = Fields.keys fields := by
  induction fields with
  | nil => rfl
  | cons field fields ih =>
      simp only [Fields.keys] at ih
      simp [mergedFields, Fields.keys, ih]

mutual
/-- Merging brings no text in. -/
theorem texts_merged_subset : ∀ v : Value, v.merged.texts ⊆ v.texts
  | null | bool _ | int _ | float _ | text _ => fun _ h => h
  | list items => itemTexts_merged_subset items
  | object fields => by
      intro s hs
      obtain ⟨field, hfield, hs⟩ := mem_fieldTexts.mp hs
      rcases Fields.mem_or_mem_of_mem_merge hfield with hnone | hfield
      · cases hnone
      · exact fieldTexts_merged_subset fields (mem_fieldTexts.mpr ⟨field, hfield, hs⟩)

theorem itemTexts_merged_subset : ∀ items : List Value,
    itemTexts (mergedItems items) ⊆ itemTexts items
  | [] => fun _ h => h
  | item :: items => by
      intro s hs
      rw [itemTexts, List.mem_append]
      exact (List.mem_append.mp hs).imp (fun h => texts_merged_subset item h)
        (fun h => itemTexts_merged_subset items h)

theorem fieldTexts_merged_subset : ∀ fields : List (String × Value),
    fieldTexts (mergedFields fields) ⊆ fieldTexts fields
  | [] => fun _ h => h
  | (_, item) :: fields => by
      intro s hs
      rw [fieldTexts, List.mem_append]
      exact (List.mem_append.mp hs).imp (fun h => texts_merged_subset item h)
        (fun h => fieldTexts_merged_subset fields h)
end

mutual
/-- A text is still there after merging, unless it is overridden. -/
theorem mem_texts_merged_or {s : String} : ∀ {v : Value}, s ∈ v.texts →
    s ∈ v.merged.texts ∨ s ∈ v.overridden
  | text _, h => Or.inl h
  | list _, h => mem_itemTexts_merged_or h
  | object fields, h => by
      rcases mem_fieldTexts_merged_or h with ⟨front, name, v, back, hfields, hback, hs⟩ | hlost
      · refine Or.inl (mem_fieldTexts.mpr ⟨(name, v), ?_, hs⟩)
        rw [Fields.ofEntries, hfields]
        exact Fields.mem_merge_of_last hback
      · exact Or.inr hlost

theorem mem_itemTexts_merged_or {s : String} : ∀ {items : List Value}, s ∈ itemTexts items →
    s ∈ itemTexts (mergedItems items) ∨ s ∈ overriddenItems items
  | item :: items, h => by
      rcases List.mem_append.mp h with h | h
      · exact (mem_texts_merged_or h).imp (List.mem_append_left _) (List.mem_append_left _)
      · exact (mem_itemTexts_merged_or h).imp (List.mem_append_right _) (List.mem_append_right _)

theorem mem_fieldTexts_merged_or {s : String} : ∀ {fields : List (String × Value)},
    s ∈ fieldTexts fields → (∃ front name v back, mergedFields fields = front ++ (name, v) :: back ∧
      name ∉ Fields.keys back ∧ s ∈ v.texts) ∨ s ∈ overriddenFields fields
  | (name, item) :: fields, h => by
      rw [overriddenFields, List.mem_append]
      rcases List.mem_append.mp h with h | h
      · split
        · exact Or.inr (Or.inl h)
        · next hlast =>
          rcases mem_texts_merged_or h with hs | hlost
          · refine Or.inl ⟨[], name, item.merged, mergedFields fields, rfl, ?_, hs⟩
            rwa [keys_mergedFields]
          · exact Or.inr (Or.inl hlost)
      · rcases mem_fieldTexts_merged_or h with ⟨front, other, v, back, hfields, hback, hs⟩ | hlost
        · refine Or.inl ⟨(name, item.merged) :: front, other, v, back, ?_, hback, hs⟩
          rw [mergedFields, hfields, List.cons_append]
        · exact Or.inr (Or.inr hlost)
end

/-- The names and the texts within a value. -/
def literals (v : Value) : List String := v.names ++ v.texts

end Value

end CallChain
