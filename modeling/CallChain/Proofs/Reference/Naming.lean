/-
# The names of steps

A step is named by its id or by its place. An id is given out once and has the shape
of `IsGenerated`; a place is `step` with a number. Both are words, of letters, digits,
low lines and hyphens, and no id that is given out writes a place.

The number of a place is read with leading zeros and written without, so that reading
what has been written gives the number back.
-/

import CallChain.Reference.Renaming
import Mathlib.Algebra.Group.Nat.Defs

namespace CallChain

/-! ## The numbers of places -/

namespace Text

theorem digitValue?_of_isDigit {c : Char} (h : c.isDigit = true) :
    digitValue? c = some (c.toNat - 48) := by
  have hbounds : 48 ≤ c.toNat ∧ c.toNat ≤ 57 := by
    simpa [Char.isDigit, UInt32.le_iff_toNat_le] using h
  have hfind : zeros.find? (fun first => first ≤ c.toNat && c.toNat ≤ first + 9) = some 48 := by
    rw [zeros, List.find?_cons_of_pos]
    simp [hbounds.1, hbounds.2]
  rw [digitValue?, hfind]
  rfl

theorem isDigit_of_isDigit {c : Char} (h : c.isDigit = true) : isDigit c = true := by
  rw [isDigit, digitValue?_of_isDigit h]
  rfl

theorem digitValue?_le {c : Char} {n : Nat} (h : digitValue? c = some n) : n ≤ 9 := by
  obtain ⟨first, hfirst, rfl⟩ := Option.map_eq_some_iff.mp h
  have hrange := List.find?_some hfirst
  simp only [Bool.and_eq_true, decide_eq_true_eq] at hrange
  omega

/-- Reading the digits that a number is written with gives the number. -/
theorem digitsValue_toDigits (n : Nat) : digitsValue (Nat.toDigits 10 n) = n := by
  have hfold : ∀ (digits : List Char) (value : Nat), (∀ c ∈ digits, c.isDigit = true) →
      digits.foldl (fun value c => 10 * value + (digitValue? c).getD 0) value =
        Nat.ofDigitChars 10 digits value := by
    intro digits
    induction digits with
    | nil => intros; rfl
    | cons c rest ih =>
        intro value hdigits
        rw [List.foldl_cons, Nat.ofDigitChars_cons,
          digitValue?_of_isDigit (hdigits c List.mem_cons_self)]
        exact ih _ fun d hd => hdigits d (List.mem_cons_of_mem c hd)
  rw [digitsValue, hfold _ _ fun c hc => Nat.isDigit_of_mem_toDigits (by decide) (by decide) hc,
    Nat.ofDigitChars_ten_toDigits]

/-- A number has no more digits than any text that writes it. -/
theorem digitsValue_lt (digits : List Char) : digitsValue digits < 10 ^ digits.length := by
  have hfold : ∀ (digits : List Char) (value : Nat),
      digits.foldl (fun value c => 10 * value + (digitValue? c).getD 0) value <
        10 ^ digits.length * (value + 1) := by
    intro digits
    induction digits with
    | nil => intro value; simp
    | cons c rest ih =>
        intro value
        have hdigit : (digitValue? c).getD 0 ≤ 9 := by
          cases h : digitValue? c with
          | none => exact Nat.zero_le 9
          | some n => exact digitValue?_le h
        rw [List.foldl_cons, List.length_cons, Nat.pow_succ, Nat.mul_assoc]
        refine Nat.lt_of_lt_of_le (ih _) (Nat.mul_le_mul_left _ ?_)
        omega
  simpa [digitsValue] using hfold digits 0

end Text

namespace Reference

theorem placeDigits?_ofPlace (n : Nat) :
    placeDigits? (ofPlace n) = some (Nat.toDigits 10 n) := by
  have hdigit : ∀ c ∈ Nat.toDigits 10 n, c.isDigit = true :=
    fun c hc => Nat.isDigit_of_mem_toDigits (by decide) (by decide) hc
  have hlast : (Nat.toDigits 10 n).getLast? ≠ some '\n' := by
    intro h
    exact absurd (hdigit _ (List.mem_of_getLast? h)) (by decide)
  have hall : (Nat.toDigits 10 n).all Text.isDigit = true :=
    List.all_eq_true.mpr fun c hc => Text.isDigit_of_isDigit (hdigit c hc)
  have hlist : (ofPlace n).toList = placeWord ++ Nat.toDigits 10 n := by
    simp [ofPlace, Text.natText, placeWord]
  simp only [placeDigits?, hlist]
  rw [if_pos (by simp [placeWord])]
  have hdrop : (placeWord ++ Nat.toDigits 10 n).drop 4 = Nat.toDigits 10 n := rfl
  rw [hdrop, if_neg hlast, hall]
  simp

/-- A place that can be read is read as it was written. -/
theorem place_ofPlace {n : Nat} (h : n < 10 ^ digitLimit) : place (ofPlace n) = .ok (some n) := by
  have hlength : (Nat.toDigits 10 n).length ≤ digitLimit :=
    (Nat.length_toDigits_le_iff (by decide) (by decide)).mpr h
  rw [place, placeDigits?_ofPlace]
  simp only
  rw [Text.readNumber_eq_ok_iff.mpr ⟨hlength, Text.digitsValue_toDigits n⟩]
  rfl

theorem place_lt {reference : String} {n : Nat} (h : place reference = .ok (some n)) :
    n < 10 ^ digitLimit := by
  unfold place at h
  split at h
  · cases h
  · next digits _ =>
    cases hread : Text.readNumber digits with
    | error problem => rw [hread] at h; cases h
    | ok value =>
        rw [hread] at h
        cases h
        obtain ⟨hlength, rfl⟩ := Text.readNumber_eq_ok_iff.mp hread
        exact Nat.lt_of_lt_of_le (Text.digitsValue_lt digits)
          (Nat.pow_le_pow_right (by decide) hlength)

/-- What writes a place is the word for places, digits, and perhaps a line feed. -/
theorem eq_of_placeDigits? {reference : String} {digits : List Char}
    (h : placeDigits? reference = some digits) :
    (∀ c ∈ digits, Text.isDigit c = true) ∧
      (reference.toList = placeWord ++ digits ∨
        reference.toList = placeWord ++ (digits ++ ['\n'])) := by
  unfold placeDigits? at h
  dsimp only at h
  split at h
  · next hword =>
    obtain ⟨number, hnumber⟩ := List.isPrefixOf_iff_prefix.mp hword
    have hdrop : reference.toList.drop 4 = number := by
      rw [← hnumber]
      rfl
    rw [hdrop] at h
    rw [← hnumber]
    by_cases hlast : number.getLast? = some '\n'
    · rw [if_pos hlast] at h
      split at h
      · cases h
      · next hdigits =>
        cases h
        simp only [Bool.or_eq_true, Bool.not_eq_true', not_or, Bool.not_eq_false,
          List.all_eq_true] at hdigits
        obtain ⟨front, rfl⟩ := List.getLast?_eq_some_iff.mp hlast
        exact ⟨hdigits.2, Or.inr (by rw [List.dropLast_concat])⟩
    · rw [if_neg hlast] at h
      split at h
      · cases h
      · next hdigits =>
        cases h
        simp only [Bool.or_eq_true, Bool.not_eq_true', not_or, Bool.not_eq_false,
          List.all_eq_true] at hdigits
        exact ⟨hdigits.2, Or.inl rfl⟩
  · cases h

/-- What writes a place starts with the word for places, and no brace follows. -/
theorem exists_of_place {reference : String} {n : Nat} (h : place reference = .ok (some n)) :
    ∃ number, reference.toList = placeWord ++ number ∧
      ∀ c ∈ number, Template.isInner c = true := by
  rw [place] at h
  split at h
  · cases h
  · next digits hdigits =>
    obtain ⟨hdigit, hlist⟩ := eq_of_placeDigits? hdigits
    have hinner : ∀ c ∈ digits, Template.isInner c = true := by
      intro c hc
      have hopen : c ≠ '\x7b' := by
        rintro rfl
        exact absurd (hdigit _ hc) (by decide)
      have hclose : c ≠ '\x7d' := by
        rintro rfl
        exact absurd (hdigit _ hc) (by decide)
      simp [Template.isInner, hopen, hclose]
    rcases hlist with hlist | hlist
    · exact ⟨digits, hlist, hinner⟩
    · refine ⟨digits ++ ['\n'], hlist, fun c hc => ?_⟩
      rcases List.mem_append.mp hc with hc | hc
      · exact hinner c hc
      · rw [List.mem_singleton.mp hc]
        decide

/-- No brace stands in what writes a place. -/
theorem isInner_of_place {reference : String} {n : Nat} (h : place reference = .ok (some n)) :
    reference.toList ≠ [] ∧ ∀ c ∈ reference.toList, Template.isInner c = true := by
  have hword : ∀ c ∈ placeWord, Template.isInner c = true := List.all_eq_true.mp (by decide)
  obtain ⟨number, hreference, hnumber⟩ := exists_of_place h
  rw [hreference]
  refine ⟨List.cons_ne_nil _ _, fun c hc => ?_⟩
  rcases List.mem_append.mp hc with hc | hc
  · exact hword c hc
  · exact hnumber c hc

/-! ## Words -/

/-- Whether a text is a word that can stand as a reference in a placeholder. -/
def IsWord (text : List Char) : Prop :=
  ∃ c rest, text = c :: rest ∧ HoleParts.startsReference c = true ∧
    ∀ d ∈ rest, HoleParts.continuesReference d = true

/-- Whether a text has the shape of the ids that are given out: a word, a time in
milliseconds and nine letters or digits. -/
def IsGenerated (id : String) : Prop :=
  ∃ clock suffix : List Char, id.toList = ['s', 'e', 'q', '_'] ++ (clock ++ '_' :: suffix) ∧
    clock ≠ [] ∧ (∀ c ∈ clock, c.isDigit = true) ∧
    suffix.length = 9 ∧ ∀ c ∈ suffix, c.isLower = true ∨ c.isDigit = true

theorem continuesReference_of_mem {c : Char} {first last : Nat}
    (hmem : (first, last) ∈ Text.wordRanges) (hfirst : first ≤ c.toNat) (hlast : c.toNat ≤ last) :
    HoleParts.continuesReference c = true := by
  have hword : Text.isWordChar c = true :=
    List.any_eq_true.mpr ⟨_, hmem, by simp [hfirst, hlast]⟩
  rw [HoleParts.continuesReference, hword, Bool.true_or]

theorem continuesReference_of_isDigit {c : Char} (h : c.isDigit = true) :
    HoleParts.continuesReference c = true := by
  have hbounds : 48 ≤ c.toNat ∧ c.toNat ≤ 57 := by
    simpa [Char.isDigit, UInt32.le_iff_toNat_le] using h
  have hmem : (48, 57) ∈ Text.wordRanges := List.Mem.head _
  exact continuesReference_of_mem hmem hbounds.1 hbounds.2

theorem toNat_of_isLower {c : Char} (h : c.isLower = true) : 97 ≤ c.toNat ∧ c.toNat ≤ 122 := by
  have hbounds : (decide (97 ≤ c.val) && decide (c.val ≤ 122)) = true := h
  rwa [Bool.and_eq_true, decide_eq_true_eq, decide_eq_true_eq, UInt32.le_iff_toNat_le,
    UInt32.le_iff_toNat_le] at hbounds

theorem continuesReference_of_isLower {c : Char} (h : c.isLower = true) :
    HoleParts.continuesReference c = true := by
  have hbounds := toNat_of_isLower h
  have hmem : (97, 122) ∈ Text.wordRanges := .tail _ (.tail _ (.tail _ (.head _)))
  exact continuesReference_of_mem hmem hbounds.1 hbounds.2

theorem isWord_ofPlace (n : Nat) : IsWord (ofPlace n).toList := by
  refine ⟨'s', ['t', 'e', 'p'] ++ Nat.toDigits 10 n, by simp [ofPlace, Text.natText],
    by decide, ?_⟩
  have hlower : ∀ c ∈ ['t', 'e', 'p'], c.isLower = true := List.all_eq_true.mp (by decide)
  intro c hc
  rcases List.mem_append.mp hc with hc | hc
  · exact continuesReference_of_isLower (hlower c hc)
  · exact continuesReference_of_isDigit (Nat.isDigit_of_mem_toDigits (by decide) (by decide) hc)

theorem IsGenerated.isWord {id : String} (h : IsGenerated id) : IsWord id.toList := by
  obtain ⟨clock, suffix, hid, -, hclock, -, hsuffix⟩ := h
  refine ⟨'s', ['e', 'q', '_'] ++ (clock ++ '_' :: suffix), hid, by decide, ?_⟩
  intro c hc
  simp only [List.mem_append, List.mem_cons] at hc
  rcases hc with (rfl | rfl | rfl | hc) | hc | rfl | hc
  · decide
  · decide
  · decide
  · cases hc
  · exact continuesReference_of_isDigit (hclock c hc)
  · decide
  · rcases hsuffix c hc with hc | hc
    · exact continuesReference_of_isLower hc
    · exact continuesReference_of_isDigit hc

/-- No id that is given out writes a place. -/
theorem IsGenerated.place_eq {id : String} (h : IsGenerated id) : place id = .ok none := by
  obtain ⟨clock, suffix, hid, -⟩ := h
  rw [place, placeDigits?, hid]
  rfl

theorem IsGenerated.ne_ofPlace {id : String} (h : IsGenerated id) (n : Nat) : id ≠ ofPlace n := by
  rintro rfl
  obtain ⟨clock, suffix, hid, -⟩ := h
  simp [ofPlace] at hid

/-- Ids that differ in their times only. -/
def countedId (n : Nat) : String := "seq_" ++ Text.natText n ++ "_000000000"

theorem toList_countedId (n : Nat) : (countedId n).toList =
    ['s', 'e', 'q', '_'] ++ (Nat.toDigits 10 n ++ '_' :: List.replicate 9 '0') := by
  simp [countedId, Text.natText, List.replicate_succ]

theorem isGenerated_countedId (n : Nat) : IsGenerated (countedId n) := by
  refine ⟨Nat.toDigits 10 n, List.replicate 9 '0', toList_countedId n, Nat.toDigits_ne_nil, ?_,
    by simp, ?_⟩
  · exact fun c hc => Nat.isDigit_of_mem_toDigits (by decide) (by decide) hc
  · intro c hc
    rw [List.eq_of_mem_replicate hc]
    exact Or.inr rfl

theorem countedId_injective {m n : Nat} (h : countedId m = countedId n) : m = n := by
  have hlists := congrArg String.toList h
  rw [toList_countedId, toList_countedId] at hlists
  have hdigits := List.append_cancel_right (List.append_cancel_left hlists)
  rw [← Nat.ofDigitChars_ten_toDigits (n := m), hdigits, Nat.ofDigitChars_ten_toDigits]

end Reference

end CallChain
