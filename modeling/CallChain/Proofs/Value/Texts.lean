/-
# The texts within a value

A value is made of texts, names of fields, and scalars between them. Replacing its texts
keeps everything else: the names, their order, and how deeply lists and objects are nested.
-/

import CallChain.Value.Basic
import Mathlib.Data.List.Forall2

namespace CallChain

namespace Value

mutual
/-- A value with its texts replaced by their images. Names of fields stay. -/
def mapTexts (f : String → String) : Value → Value
  | .text s => .text (f s)
  | .list items => .list (mapItemTexts f items)
  | .object fields => .object (mapFieldTexts f fields)
  | other => other

/-- The items of a list with their texts replaced. -/
def mapItemTexts (f : String → String) : List Value → List Value
  | [] => []
  | item :: items => mapTexts f item :: mapItemTexts f items

/-- The fields of an object with their texts replaced. -/
def mapFieldTexts (f : String → String) : List (String × Value) → List (String × Value)
  | [] => []
  | (name, item) :: fields => (name, mapTexts f item) :: mapFieldTexts f fields
end

mutual
/-- The texts within a value, in order. -/
def texts : Value → List String
  | .text s => [s]
  | .list items => itemTexts items
  | .object fields => fieldTexts fields
  | _ => []

/-- The texts within the items of a list. -/
def itemTexts : List Value → List String
  | [] => []
  | item :: items => texts item ++ itemTexts items

/-- The texts within the fields of an object. -/
def fieldTexts : List (String × Value) → List String
  | [] => []
  | (_, item) :: fields => texts item ++ fieldTexts fields
end

mutual
/-- The names of the fields within a value, in order. -/
def names : Value → List String
  | .list items => itemNames items
  | .object fields => fieldNames fields
  | _ => []

/-- The names within the items of a list. -/
def itemNames : List Value → List String
  | [] => []
  | item :: items => names item ++ itemNames items

/-- The names of the fields of an object, and those within them. -/
def fieldNames : List (String × Value) → List String
  | [] => []
  | (name, item) :: fields => name :: (names item ++ fieldNames fields)
end

mutual
@[simp]
theorem nesting_mapTexts (f : String → String) : ∀ v : Value, (mapTexts f v).nesting = v.nesting
  | null | bool _ | int _ | float _ | text _ => rfl
  | list items => by rw [mapTexts, nesting, nesting, itemsNesting_mapItemTexts f items]
  | object fields => by rw [mapTexts, nesting, nesting, fieldsNesting_mapFieldTexts f fields]

theorem itemsNesting_mapItemTexts (f : String → String) :
    ∀ items : List Value, itemsNesting (mapItemTexts f items) = itemsNesting items
  | [] => rfl
  | item :: items => by
      rw [mapItemTexts, itemsNesting, itemsNesting, nesting_mapTexts f item,
        itemsNesting_mapItemTexts f items]

theorem fieldsNesting_mapFieldTexts (f : String → String) :
    ∀ fields : List (String × Value), fieldsNesting (mapFieldTexts f fields) = fieldsNesting fields
  | [] => rfl
  | (_, item) :: fields => by
      rw [mapFieldTexts, fieldsNesting, fieldsNesting, nesting_mapTexts f item,
        fieldsNesting_mapFieldTexts f fields]
end

theorem mem_itemTexts {items : List Value} {s : String} :
    s ∈ itemTexts items ↔ ∃ item ∈ items, s ∈ item.texts := by
  induction items with
  | nil => simp [itemTexts]
  | cons item items ih => simp [itemTexts, ih]

theorem mem_fieldTexts {fields : List (String × Value)} {s : String} :
    s ∈ fieldTexts fields ↔ ∃ field ∈ fields, s ∈ field.2.texts := by
  induction fields with
  | nil => simp [fieldTexts]
  | cons field fields ih => simp [fieldTexts, ih]

theorem mem_fieldNames_of_mem_keys {fields : Fields Value} {name : String}
    (h : name ∈ fields.keys) : name ∈ fieldNames fields := by
  induction fields with
  | nil => cases h
  | cons field fields ih =>
      obtain ⟨key, v⟩ := field
      rw [fieldNames]
      rcases List.mem_cons.mp h with rfl | h
      · exact List.mem_cons_self
      · exact List.mem_cons_of_mem _ (List.mem_append_right _ (ih h))

theorem names_subset_fieldNames {fields : List (String × Value)} {name : String} {v : Value}
    (h : (name, v) ∈ fields) : v.names ⊆ fieldNames fields := by
  induction fields with
  | nil => cases h
  | cons field fields ih =>
      intro other hother
      rcases List.mem_cons.mp h with rfl | h
      · exact List.mem_cons_of_mem _ (List.mem_append_left _ hother)
      · exact List.mem_cons_of_mem _ (List.mem_append_right _ (ih h hother))

end Value

namespace Fields

variable {α : Type} {R : α → α → Prop}

/-- Whether two lists of fields have the same names, and values that correspond. -/
def Forall₂ (R : α → α → Prop) (fields fields' : Fields α) : Prop :=
  List.Forall₂ (fun field field' => field'.1 = field.1 ∧ R field.2 field'.2) fields fields'

theorem Forall₂.set {fields fields' : Fields α} (h : Forall₂ R fields fields') (name : String)
    {a a' : α} (ha : R a a') : Forall₂ R (fields.set name a) (fields'.set name a') := by
  induction h with
  | nil => exact .cons ⟨rfl, ha⟩ .nil
  | @cons field field' rest rest' hfield hrest ih =>
      obtain ⟨key, old⟩ := field
      obtain ⟨key', old'⟩ := field'
      obtain ⟨rfl, hold⟩ := hfield
      by_cases hkey : key' = name
      · simp only [Fields.set, if_pos hkey]
        exact .cons ⟨rfl, ha⟩ hrest
      · simp only [Fields.set, if_neg hkey]
        exact .cons ⟨rfl, hold⟩ ih

theorem Forall₂.merge {fields fields' later later' : Fields α} (h : Forall₂ R fields fields')
    (hlater : Forall₂ R later later') : Forall₂ R (fields.merge later) (fields'.merge later') := by
  induction hlater generalizing fields fields' with
  | nil => exact h
  | @cons field field' rest rest' hfield hrest ih =>
      rw [Fields.merge, Fields.merge, List.foldl_cons, List.foldl_cons, hfield.1]
      exact ih (h.set field.1 hfield.2)

theorem mem_keys_merge {fields later : Fields α} {name : String}
    (h : name ∈ fields.keys ∨ name ∈ later.keys) : name ∈ (fields.merge later).keys := by
  induction later generalizing fields with
  | nil =>
      rcases h with h | h
      · exact h
      · cases h
  | cons field later ih =>
      rw [merge, List.foldl_cons]
      apply ih
      rw [keys_set]
      rcases h with h | h
      · left
        split
        · exact h
        · exact List.mem_append_left _ h
      · rcases List.mem_cons.mp h with rfl | h
        · left
          split
          · assumption
          · exact List.mem_append_right _ List.mem_cons_self
        · exact Or.inr h

end Fields

end CallChain
