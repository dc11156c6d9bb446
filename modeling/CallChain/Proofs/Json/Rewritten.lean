/-
# Writing what has been read

A value that is read from a text can be written again, in every layout: its whole numbers have as
many digits as can be read, which is as many as can be written; its objects have distinct names,
since of equal names the last value counts; and it is nested no deeper than the reader allows.
Written over several lines and read again it is the same value.
-/

import CallChain.Files.Basic
import CallChain.Proofs.Json.RoundTrip
import CallChain.Proofs.Request.Building
import CallChain.Proofs.Value.Merged

namespace CallChain.Json

/-! ## Numbers -/

theorem isScalar_of_readUnsigned? {negative : Bool} {text left : List Char} {v : Value}
    (h : readUnsigned? negative text = some (.ok v, left)) : IsScalar v := by
  unfold readUnsigned? at h
  dsimp only at h
  split at h
  · cases h
  · split at h
    · rw [Option.some.injEq, Prod.mk.injEq] at h
      obtain ⟨n, hnumber, rfl⟩ := exists_ok_of_map h.1
      obtain ⟨hlength, rfl⟩ := Text.readNumber_eq_ok_iff.mp hnumber
      have hsize : ∀ limit, (spanWhole text).1.length ≤ limit →
          Text.digitsValue (spanWhole text).1 < Nat.pow 10 limit := fun limit hlimit =>
        (Text.digitsValue_lt _).trans_le (Nat.pow_le_pow_right (by decide) hlimit)
      have habs : ∀ n : Nat, (if negative then -(n : Int) else n).natAbs = n := by
        cases negative <;> simp
      exact decide_eq_true ((habs _).trans_lt (hsize digitLimit hlength))
    · cases h
      trivial

theorem isScalar_of_readScalar? {text left : List Char} {v : Value}
    (h : readScalar? text = some (.ok v, left)) : IsScalar v := by
  unfold readScalar? at h
  split at h
  · next w rest hword =>
    cases h
    have hwords : ∀ entry ∈ words, IsScalar entry.2 := by simp [words, IsScalar]
    obtain ⟨entry, hentry, hfound⟩ := List.exists_of_findSome?_eq_some hword
    dsimp only at hfound
    split at hfound
    · cases hfound
      exact hwords entry hentry
    · cases hfound
  · unfold readNumber? at h
    split at h
    · exact isScalar_of_readUnsigned? h
    · exact isScalar_of_readUnsigned? h

/-! ## Values -/

/-- What each reader reads can be written. -/
theorem writable_of_reading (fuel : Nat) :
    (∀ {levels : Nat} {text left : List Char} {v : Value},
      readValue fuel levels text = .ok (v, left) → Writable levels v) ∧
    (∀ {levels : Nat} {text left : List Char} {items : List Value},
      readItems fuel levels text = .ok (items, left) → ∀ item ∈ items, Writable levels item) ∧
    ∀ {levels : Nat} {text left : List Char} {fields : List (String × Value)},
      readFields fuel levels text = .ok (fields, left) →
        ∀ field ∈ fields, Writable levels field.2 := by
  induction fuel with
  | zero => refine ⟨?_, ?_, ?_⟩ <;> rintro _ _ _ _ ⟨⟩
  | succ fuel ih =>
      obtain ⟨hvalue, hitems, hfields⟩ := ih
      refine ⟨fun h => ?_, fun h => ?_, fun h => ?_⟩
      · cases readsValue_of_ok h with
        | text hread => exact .text _
        | scalar hread => exact .scalar (isScalar_of_readScalar? hread)
        | emptyList hclose => exact .list (List.forall_mem_nil _)
        | list hread => exact .list (hitems hread)
        | emptyObject hclose => exact .object List.nodup_nil (List.forall_mem_nil _)
        | object hread =>
            refine .object (Fields.distinct_ofEntries _) fun field hfield => ?_
            rcases Fields.mem_or_mem_of_mem_merge hfield with hempty | hfield
            · exact absurd hempty List.not_mem_nil
            · exact hfields hread field hfield
      · cases readsItems_of_ok h with
        | last hitem hclose => exact List.forall_mem_singleton.mpr (hvalue hitem)
        | next hitem hcomma hmore =>
            exact List.forall_mem_cons.mpr ⟨hvalue hitem, hitems hmore⟩
      · cases readsFields_of_ok h with
        | last hname hcolon hitem hclose => exact List.forall_mem_singleton.mpr (hvalue hitem)
        | next hname hcolon hitem hcomma hmore =>
            exact List.forall_mem_cons.mpr ⟨hvalue hitem, hfields hmore⟩

/-- What is read from a text can be written. -/
theorem writable_of_read {text : String} {v : Value} (h : read text = .ok v) :
    Writable nestingLimit v := by
  obtain ⟨after, hread, -⟩ := exists_of_readAll (read_eq_ok_iff.mp h)
  exact (writable_of_reading _).1 hread

/-! ## Lines -/

theorem return_not_mem_unitEscape (unit : Nat) : '\r' ∉ unitEscape unit :=
  not_mem_unitEscape (by decide) (by decide) unit

/-- A carriage return has an escape. -/
theorem not_mem_asciiChar (c : Char) : '\r' ∉ asciiChar c := by
  unfold asciiChar
  split
  · next escape hescape =>
    unfold shortEscape? at hescape
    split_ifs at hescape <;> cases hescape <;> decide
  · split
    · next hprinted =>
      simp only [Bool.and_eq_true, decide_eq_true_eq] at hprinted
      intro hmem
      rw [← List.mem_singleton.mp hmem] at hprinted
      exact absurd hprinted.1 (by decide)
    split
    · exact return_not_mem_unitEscape _
    · rw [List.mem_append, not_or]
      exact ⟨return_not_mem_unitEscape _, return_not_mem_unitEscape _⟩

theorem not_mem_textWith (s : String) : '\r' ∉ textWith asciiChar s := by
  simp only [textWith, List.mem_append, List.mem_cons, List.mem_flatMap, List.not_mem_nil, or_false]
  rintro ((h | ⟨c, -, hc⟩) | h)
  · cases h
  · exact not_mem_asciiChar c hc
  · cases h

theorem not_mem_signed {negative : Bool} {text : List Char}
    (h : ∀ c ∈ text, DecimalFormat.IsNumberChar c) :
    '\r' ∉ (if negative then ['-'] else []) ++ text := by
  rw [List.mem_append, not_or]
  refine ⟨by cases negative <;> decide, fun hmem => ?_⟩
  rcases h _ hmem with hdigit | hmark
  · cases hdigit
  · exact absurd hmark (by decide)

theorem not_mem_scalar (v : Value) : '\r' ∉ scalar asciiChar v := by
  cases v with
  | null => decide
  | bool b => cases b <;> decide
  | int n =>
      rw [scalar_int]
      exact not_mem_signed fun c hc => DecimalFormat.isNumberChar_of_mem_toDigits hc
  | float x =>
      cases x with
      | nan => decide
      | infinite negative => cases negative <;> decide
      | finite negative rank =>
          rw [scalar_finite]
          exact not_mem_signed fun c hc => DecimalFormat.isNumberChar_of_mem_decimalText hc
  | text s => exact not_mem_textWith s
  | list items =>
      change '\r' ∉ ['[', ']']
      decide
  | object fields =>
      change '\r' ∉ ['\x7b', '\x7d']
      decide

theorem not_mem_lineStart (depth : Nat) : '\r' ∉ lineStart depth := by
  simp [lineStart, List.mem_replicate]

mutual

/-- A text over several lines has no line end but line feeds. -/
theorem not_mem_indentedChars (depth : Nat) : ∀ v : Value, '\r' ∉ indentedChars asciiChar depth v
  | .null => not_mem_scalar .null
  | .bool b => not_mem_scalar (.bool b)
  | .int n => not_mem_scalar (.int n)
  | .float x => not_mem_scalar (.float x)
  | .text s => not_mem_scalar (.text s)
  | .list [] => not_mem_scalar (.list [])
  | .object [] => not_mem_scalar (.object [])
  | .list (item :: items) => by
      simp [indentedChars, not_mem_lineStart, not_mem_indentedItems (depth + 1) (item :: items)]
  | .object (field :: fields) => by
      simp [indentedChars, not_mem_lineStart, not_mem_indentedFields (depth + 1) (field :: fields)]

theorem not_mem_indentedItems (depth : Nat) : ∀ items : List Value,
    '\r' ∉ indentedItems asciiChar depth items
  | [] => nofun
  | [item] => by
      simp [indentedItems, not_mem_lineStart, not_mem_indentedChars depth item]
  | item :: next :: items => by
      simp [indentedItems, not_mem_lineStart, not_mem_indentedChars depth item,
        not_mem_indentedItems depth (next :: items)]

theorem not_mem_indentedFields (depth : Nat) : ∀ fields : List (String × Value),
    '\r' ∉ indentedFields asciiChar depth fields
  | [] => nofun
  | [(name, item)] => by
      simp [indentedFields, not_mem_lineStart, not_mem_textWith,
        not_mem_indentedChars depth item]
  | (name, item) :: next :: fields => by
      simp [indentedFields, not_mem_lineStart, not_mem_textWith,
        not_mem_indentedChars depth item, not_mem_indentedFields depth (next :: fields)]

end

end CallChain.Json

namespace CallChain.Files

/-- A text without carriage returns is what is read from a file. -/
theorem withLineFeeds_eq {text : List Char} (h : '\r' ∉ text) : withLineFeeds text = text := by
  induction text with
  | nil => rfl
  | cons c text ih =>
      rw [List.mem_cons, not_or] at h
      have hc : c ≠ '\r' := fun heq => h.1 heq.symm
      rw [withLineFeeds]
      · rw [ih h.2, if_neg hc]
      · rintro rest rfl
        exact absurd rfl hc

end CallChain.Files
