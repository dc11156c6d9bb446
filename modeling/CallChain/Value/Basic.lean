/-
# Values

Response bodies, parameters and records are values of one dynamic type, the type
of JSON documents with whole numbers and binary floating-point numbers kept
apart. The fields of an object are ordered; readers of documents make their names
distinct, and every operation of the library keeps them so.
-/

import CallChain.Fields
import CallChain.Number.Binary64

namespace CallChain

/-- A value of a JSON document. -/
inductive Value where
  /-- The absent value. -/
  | null
  /-- A truth value. -/
  | bool (b : Bool)
  /-- A whole number of any size. -/
  | int (n : Int)
  /-- A floating-point number. -/
  | float (x : Binary64)
  /-- A text. -/
  | text (s : String)
  /-- A list of values. -/
  | list (items : List Value)
  /-- An object: values by name, in order. -/
  | object (fields : List (String × Value))

instance : Inhabited Value := ⟨.null⟩

namespace Value

/-- Whether a value is the absent one. -/
def isNull : Value → Bool
  | null => true
  | _ => false

/-- Whether a value counts as present in a choice between alternatives: null,
false, zero, and empty texts, lists and objects do not. -/
def isTruthy : Value → Bool
  | null => false
  | bool b => b
  | int n => n != 0
  | float x => !x.isZero
  | text s => !s.isEmpty
  | list items => !items.isEmpty
  | object fields => !fields.isEmpty

/-- The text of a text value. -/
def text? : Value → Option String
  | text s => some s
  | _ => none

/-- The items of a list value. -/
def list? : Value → Option (List Value)
  | list items => some items
  | _ => none

/-- The fields of an object value. -/
def object? : Value → Option (Fields Value)
  | object fields => some fields
  | _ => none

/-- The value of a field of an object value. -/
def field? (v : Value) (name : String) : Option Value :=
  v.object?.bind (Fields.get? · name)

/-- The first of two optional values that counts as present. -/
def firstTruthy (first second : Option Value) : Option Value :=
  (first.filter isTruthy).or (second.filter isTruthy)

mutual
/-- Whether two values are the same, fields in the same order. -/
def same : Value → Value → Bool
  | null, null => true
  | bool a, bool b => a == b
  | int a, int b => a == b
  | float a, float b => a == b
  | text a, text b => a == b
  | list a, list b => sameItems a b
  | object a, object b => sameFields a b
  | _, _ => false

/-- Whether two lists hold the same values. -/
def sameItems : List Value → List Value → Bool
  | [], [] => true
  | a :: as, b :: bs => same a b && sameItems as bs
  | _, _ => false

/-- Whether two lists hold the same fields. -/
def sameFields : List (String × Value) → List (String × Value) → Bool
  | [], [] => true
  | (j, a) :: as, (k, b) :: bs => j == k && same a b && sameFields as bs
  | _, _ => false
end

mutual
/-- Whether every object within a value has distinct field names. -/
def hasDistinctNames : Value → Bool
  | list items => itemsHaveDistinctNames items
  | object fields => decide (Fields.keys fields).Nodup && fieldsHaveDistinctNames fields
  | _ => true

/-- Whether every object within some values has distinct field names. -/
def itemsHaveDistinctNames : List Value → Bool
  | [] => true
  | item :: items => hasDistinctNames item && itemsHaveDistinctNames items

/-- Whether every object within the values of fields has distinct field names. -/
def fieldsHaveDistinctNames : List (String × Value) → Bool
  | [] => true
  | (_, v) :: rest => hasDistinctNames v && fieldsHaveDistinctNames rest
end

mutual
/-- How many lists and objects lie inside each other at the deepest place of a
value. -/
def nesting : Value → Nat
  | list items => itemsNesting items + 1
  | object fields => fieldsNesting fields + 1
  | _ => 0

/-- The greatest nesting of some values. -/
def itemsNesting : List Value → Nat
  | [] => 0
  | item :: items => max (nesting item) (itemsNesting items)

/-- The greatest nesting of the values of fields. -/
def fieldsNesting : List (String × Value) → Nat
  | [] => 0
  | (_, item) :: fields => max (nesting item) (fieldsNesting fields)
end

mutual
/-- Values that are told apart by nothing are equal. -/
theorem eq_of_same : ∀ {a b : Value}, same a b = true → a = b
  | null, b, h => by cases b <;> simp_all [same]
  | bool _, b, h => by cases b <;> simp_all [same]
  | int _, b, h => by cases b <;> simp_all [same]
  | float _, b, h => by cases b <;> simp_all [same]
  | text _, b, h => by cases b <;> simp_all [same]
  | list items, b, h => by
    cases b with
    | list others => simp only [same] at h; rw [eq_of_sameItems h]
    | _ => simp [same] at h
  | object fields, b, h => by
    cases b with
    | object others => simp only [same] at h; rw [eq_of_sameFields h]
    | _ => simp [same] at h

theorem eq_of_sameItems : ∀ {as bs : List Value}, sameItems as bs = true → as = bs
  | [], bs, h => by cases bs <;> simp_all [sameItems]
  | a :: as, bs, h => by
    cases bs with
    | nil => simp [sameItems] at h
    | cons b bs =>
      simp only [sameItems, Bool.and_eq_true] at h
      rw [eq_of_same h.1, eq_of_sameItems h.2]

theorem eq_of_sameFields : ∀ {as bs : List (String × Value)}, sameFields as bs = true → as = bs
  | [], bs, h => by cases bs <;> simp_all [sameFields]
  | (j, a) :: as, bs, h => by
    cases bs with
    | nil => simp [sameFields] at h
    | cons b bs =>
      obtain ⟨k, b⟩ := b
      simp only [sameFields, Bool.and_eq_true, beq_iff_eq] at h
      rw [h.1.1, eq_of_same h.1.2, eq_of_sameFields h.2]
end

mutual
theorem same_self : ∀ v : Value, same v v = true
  | null | bool _ | int _ | float _ | text _ => by simp [same]
  | list items => by simp [same, sameItems_self items]
  | object fields => by simp [same, sameFields_self fields]

theorem sameItems_self : ∀ items : List Value, sameItems items items = true
  | [] => rfl
  | v :: items => by simp [sameItems, same_self v, sameItems_self items]

theorem sameFields_self : ∀ fields : List (String × Value), sameFields fields fields = true
  | [] => rfl
  | (name, v) :: fields => by simp [sameFields, same_self v, sameFields_self fields]
end

instance : DecidableEq Value := fun a b =>
  if h : same a b = true then isTrue (eq_of_same h)
  else isFalse fun e => h (e ▸ same_self a)

end Value

end CallChain
