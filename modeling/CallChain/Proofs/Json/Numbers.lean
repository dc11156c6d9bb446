/-
# Reading written numbers

A number is read from its text where nothing follows that a number could go on with. A whole
number has to be short enough to be written. The text of a floating-point number has the
digits of its decimal in one of four shapes, and each is read as the same digits with the
same exponent, or with more zeros and a smaller one; so what is read is the number that the
decimal makes.
-/

import CallChain.Json.Reader
import CallChain.Json.Writer
import CallChain.Proofs.Number.Rounding
import CallChain.Proofs.Reference.Naming
import Mathlib.Tactic.IntervalCases

namespace CallChain

/-! ## Digits -/

namespace Text

theorem digitsValue_append (front back : List Char) :
    digitsValue (front ++ back) = digitsValue front * 10 ^ back.length + digitsValue back := by
  have hfold : ∀ (digits : List Char) (value : Nat),
      digits.foldl (fun value c => 10 * value + (digitValue? c).getD 0) value =
        value * 10 ^ digits.length + digitsValue digits := by
    intro digits
    induction digits with
    | nil => simp [digitsValue]
    | cons c digits ih =>
        intro value
        rw [digitsValue, List.foldl_cons, List.foldl_cons, ih, ih, List.length_cons, Nat.pow_succ]
        ring
  rw [digitsValue, List.foldl_append, hfold]
  rfl

theorem digitsValue_zeros (n : Nat) : digitsValue (List.replicate n '0') = 0 := by
  induction n with
  | zero => rfl
  | succ n ih =>
      have hzero : digitsValue ['0'] = 0 := by decide
      rw [List.replicate_succ, ← List.singleton_append, digitsValue_append, hzero, ih]
      simp

theorem isDigit_of_mem_toDigits {n : Nat} : ∀ c ∈ Nat.toDigits 10 n, c.isDigit = true :=
  fun _ hc => Nat.isDigit_of_mem_toDigits (by decide) (by decide) hc

theorem isDigit_of_mem_zeros {n : Nat} : ∀ c ∈ List.replicate n '0', c.isDigit = true := by
  intro c hc
  rw [List.eq_of_mem_replicate hc]
  rfl

theorem length_toDigits_le {n k : Nat} (hk : 0 < k) (h : n < Nat.pow 10 k) :
    (Nat.toDigits 10 n).length ≤ k :=
  (Nat.length_toDigits_le_iff (by decide) hk).mpr h

/-- The digits of a number start with a zero only if it is zero. -/
theorem head?_toDigits {n : Nat} (h : 0 < n) : (Nat.toDigits 10 n).head? ≠ some '0' := by
  induction n using Nat.strongRecOn with
  | ind n ih =>
      rw [Nat.toDigits_eq_if (by decide)]
      split
      · next hsmall =>
        interval_cases n <;> decide
      · next hlarge =>
        rw [List.head?_append_of_ne_nil _ Nat.toDigits_ne_nil]
        exact ih (n / 10) (by omega) (by omega)

end Text

namespace Json

/-! ## The parts of a number -/

/-- Whether a text starts with no character that a number could go on with. -/
def EndsNumber (rest : List Char) : Prop :=
  ∀ c ∈ rest.head?, c.isDigit = false ∧ c ≠ '.' ∧ c ≠ 'e' ∧ c ≠ 'E'

/-- Whether a text is the whole part of a number: a zero alone, or digits of which a zero is
not the first. -/
structure IsWhole (whole : List Char) : Prop where
  /-- There is a digit. -/
  ne_nil : whole ≠ []
  /-- There are only digits. -/
  digits : ∀ c ∈ whole, c.isDigit = true
  /-- A zero in front stands alone. -/
  zero : whole.head? = some '0' → whole = ['0']

theorem isWhole_toDigits (n : Nat) : IsWhole (Nat.toDigits 10 n) where
  ne_nil := Nat.toDigits_ne_nil
  digits := Text.isDigit_of_mem_toDigits
  zero h := by
    rcases Nat.eq_zero_or_pos n with rfl | hpos
    · rfl
    · exact absurd h (Text.head?_toDigits hpos)

theorem IsWhole.take {whole : List Char} (h : IsWhole whole) {n : Nat} (hn : 0 < n) :
    IsWhole (whole.take n) := by
  obtain ⟨m, rfl⟩ : ∃ m, n = m + 1 := ⟨n - 1, by omega⟩
  obtain ⟨c, rest, rfl⟩ := List.exists_cons_of_ne_nil h.ne_nil
  refine ⟨by simp, fun d hd => h.digits d (List.mem_of_mem_take hd), fun hzero => ?_⟩
  rw [h.zero (by simpa using hzero), List.take_succ_cons, List.take_nil]

/-- Digits behind a whole part go on with it, unless it is zero. -/
theorem IsWhole.append {whole more : List Char} (h : IsWhole whole)
    (hmore : ∀ c ∈ more, c.isDigit = true) (hzero : whole = ['0'] → more = []) :
    IsWhole (whole ++ more) := by
  obtain ⟨c, rest, rfl⟩ := List.exists_cons_of_ne_nil h.ne_nil
  refine ⟨by simp, fun d hd => ?_, fun hhead => ?_⟩
  · exact (List.mem_append.mp hd).elim (h.digits d) (hmore d)
  · have hwhole := h.zero (by simpa using hhead)
    rw [hwhole, hzero hwhole]
    rfl

variable {digits rest : List Char}

theorem spanDigits_append (h : ∀ c ∈ digits, c.isDigit = true)
    (hrest : ∀ c ∈ rest.head?, c.isDigit = false) :
    spanDigits (digits ++ rest) = (digits, rest) := by
  have hnone : rest.takeWhile Char.isDigit = [] ∧ rest.dropWhile Char.isDigit = rest := by
    cases rest with
    | nil => exact ⟨rfl, rfl⟩
    | cons c rest =>
        have hc := hrest c rfl
        simp [hc]
  rw [spanDigits, List.takeWhile_append_of_pos h, List.dropWhile_append_of_pos h, hnone.1, hnone.2,
    List.append_nil]

theorem spanWhole_append {whole : List Char} (h : IsWhole whole)
    (hrest : ∀ c ∈ rest.head?, c.isDigit = false) :
    spanWhole (whole ++ rest) = (whole, rest) := by
  obtain ⟨c, others, rfl⟩ := List.exists_cons_of_ne_nil h.ne_nil
  by_cases hc : c = '0'
  · subst hc
    obtain rfl : others = [] := by simpa using h.zero rfl
    rfl
  · rw [spanWhole, spanDigits_append h.digits hrest]
    rintro zeros heq
    exact hc (List.cons.inj heq).1

theorem spanFraction_point (h : ∀ c ∈ digits, c.isDigit = true) (hne : digits ≠ [])
    (hrest : ∀ c ∈ rest.head?, c.isDigit = false) :
    spanFraction ('.' :: (digits ++ rest)) = (digits, rest) := by
  simp [spanFraction, spanDigits_append h hrest, hne]

theorem spanFraction_none (hrest : ∀ c ∈ rest.head?, c ≠ '.') : spanFraction rest = ([], rest) := by
  unfold spanFraction
  split
  · exact absurd rfl (hrest '.' rfl)
  · rfl

theorem spanExponent_none (hrest : ∀ c ∈ rest.head?, c ≠ 'e' ∧ c ≠ 'E') :
    spanExponent rest = (none, rest) := by
  cases rest with
  | nil => rfl
  | cons c rest =>
      obtain ⟨hsmall, hcapital⟩ := hrest c rfl
      simp [spanExponent, hsmall, hcapital]

theorem exponentText_eq (f : DecimalFormat) (exponent : Int) :
    ∃ digits : List Char, digits ≠ [] ∧ (∀ c ∈ digits, c.isDigit = true) ∧
      Text.digitsValue digits = exponent.natAbs ∧
      f.exponentText exponent = (if exponent < 0 then '-' else '+') :: digits := by
  refine ⟨List.replicate (f.exponentDigits - (Nat.toDigits 10 exponent.natAbs).length) '0' ++
    Nat.toDigits 10 exponent.natAbs, by simp, ?_, ?_, rfl⟩
  · intro c hc
    exact (List.mem_append.mp hc).elim (Text.isDigit_of_mem_zeros c)
      (Text.isDigit_of_mem_toDigits c)
  · rw [Text.digitsValue_append, Text.digitsValue_zeros, Text.digitsValue_toDigits, Nat.zero_mul,
      Nat.zero_add]

theorem spanExponent_exponentText (f : DecimalFormat) (exponent : Int)
    (hrest : ∀ c ∈ rest.head?, c.isDigit = false) :
    spanExponent ('e' :: (f.exponentText exponent ++ rest)) = (some exponent, rest) := by
  obtain ⟨digits, hne, hdigits, hvalue, htext⟩ := exponentText_eq f exponent
  rw [htext, spanExponent]
  by_cases hnegative : exponent < 0
  · simp only [hnegative, if_true, List.cons_append, spanSign, spanDigits_append hdigits hrest,
      hvalue]
    simp [hne, -Nat.cast_natAbs]
    omega
  · simp only [hnegative, if_false, List.cons_append, spanSign, spanDigits_append hdigits hrest,
      hvalue]
    simp [hne, -Nat.cast_natAbs]
    omega

/-! ## Numbers -/

/-- Digits are read as a whole number. -/
theorem readUnsigned?_toDigits (negative : Bool) {n : Nat} (h : n < Nat.pow 10 digitLimit)
    (hrest : EndsNumber rest) :
    readUnsigned? negative (Nat.toDigits 10 n ++ rest) =
      some (.ok (.int (if negative then -(n : Int) else n)), rest) := by
  have hlength : (Nat.toDigits 10 n).length ≤ digitLimit :=
    Text.length_toDigits_le (by decide) h
  have hnumber : Text.readNumber (Nat.toDigits 10 n) = .ok n :=
    Text.readNumber_eq_ok_iff.mpr ⟨hlength, Text.digitsValue_toDigits n⟩
  rw [readUnsigned?]
  simp only [spanWhole_append (isWhole_toDigits n) fun c hc => (hrest c hc).1,
    spanFraction_none fun c hc => (hrest c hc).2.1,
    spanExponent_none fun c hc => (hrest c hc).2.2, hnumber]
  simp [Except.map]

/-- Digits with a fraction are read as a floating-point number. -/
theorem readUnsigned?_fraction (negative : Bool) {whole : List Char} (hwhole : IsWhole whole)
    (fraction : List Char) (hne : fraction ≠ []) (hfraction : ∀ c ∈ fraction, c.isDigit = true)
    (hrest : EndsNumber rest) :
    readUnsigned? negative (whole ++ '.' :: (fraction ++ rest)) =
      some (.ok (.float (Binary64.ofDecimal negative (Text.digitsValue (whole ++ fraction))
        (-(fraction.length : Int)))), rest) := by
  have hpoint : ∀ c ∈ ('.' :: (fraction ++ rest)).head?, c.isDigit = false := by
    rintro c hc
    cases hc
    rfl
  rw [readUnsigned?]
  simp only [spanWhole_append hwhole hpoint,
    spanFraction_point hfraction hne fun c hc => (hrest c hc).1,
    spanExponent_none fun c hc => (hrest c hc).2.2]
  simp [hwhole.ne_nil, hne]

/-- Digits with an exponent, and perhaps a fraction, are read as a floating-point number. -/
theorem readUnsigned?_exponent (negative : Bool) {whole : List Char} (hwhole : IsWhole whole)
    (fraction : List Char) (hfraction : ∀ c ∈ fraction, c.isDigit = true) (f : DecimalFormat)
    (exponent : Int) (hrest : EndsNumber rest) :
    readUnsigned? negative (whole ++ ((if fraction.isEmpty then [] else '.' :: fraction) ++
        'e' :: (f.exponentText exponent ++ rest))) =
      some (.ok (.float (Binary64.ofDecimal negative (Text.digitsValue (whole ++ fraction))
        (exponent - fraction.length))), rest) := by
  have hexponent : ∀ c ∈ ('e' :: (f.exponentText exponent ++ rest)).head?,
      c.isDigit = false ∧ c ≠ '.' := by
    rintro c hc
    cases hc
    exact ⟨rfl, by decide⟩
  rw [readUnsigned?]
  cases fraction with
  | nil =>
      simp only [List.isEmpty_nil, if_true, List.nil_append,
        spanWhole_append hwhole fun c hc => (hexponent c hc).1,
        spanFraction_none fun c hc => (hexponent c hc).2,
        spanExponent_exponentText f exponent fun c hc => (hrest c hc).1]
      simp [hwhole.ne_nil]
  | cons d fraction =>
      have hpoint :
          ∀ c ∈ ('.' :: (d :: fraction ++ 'e' :: (f.exponentText exponent ++ rest))).head?,
            c.isDigit = false := by
        rintro c hc
        cases hc
        rfl
      have hspan := spanFraction_point hfraction (List.cons_ne_nil d fraction)
        fun c hc => (hexponent c hc).1
      simp only [List.isEmpty_cons, Bool.false_eq_true, if_false, List.cons_append]
        at hpoint hspan ⊢
      simp only [spanWhole_append hwhole hpoint, hspan,
        spanExponent_exponentText f exponent fun c hc => (hrest c hc).1]
      simp [hwhole.ne_nil]

/-- The text of a decimal is read as the number that the decimal makes. -/
theorem readUnsigned?_decimalText (negative : Bool) {d : Decimal}
    (hd : d.digits = 0 → d.exponent ≤ 0) (hrest : EndsNumber rest) :
    readUnsigned? negative (jsonFormat.decimalText d ++ rest) =
      some (.ok (.float (Binary64.ofDecimal negative d.digits d.exponent)), rest) := by
  have hwhole := isWhole_toDigits d.digits
  have hvalue : Text.digitsValue (Nat.toDigits 10 d.digits) = d.digits :=
    Text.digitsValue_toDigits _
  have hlength : 0 < (Nat.toDigits 10 d.digits).length := Nat.length_toDigits_pos
  rw [DecimalFormat.decimalText]
  generalize Nat.toDigits 10 d.digits = digits at *
  have hdrop : ∀ n, ∀ c ∈ digits.drop n, c.isDigit = true :=
    fun _ c hc => hwhole.digits c (List.mem_of_mem_drop hc)
  dsimp only
  split
  · -- one digit, the others as a fraction, and an exponent
    have hread := readUnsigned?_exponent negative (hwhole.take Nat.one_pos) (digits.drop 1)
      (hdrop 1) jsonFormat (d.exponent + digits.length - 1) hrest
    rw [List.take_append_drop, hvalue] at hread
    rw [List.append_assoc, List.append_assoc, List.cons_append, hread, List.length_drop]
    congr 5
    omega
  split
  · -- zeros between the point and the digits
    have hread := readUnsigned?_fraction negative (isWhole_toDigits 0)
      (List.replicate (-(d.exponent + digits.length - 1) - 1).toNat '0' ++ digits)
      (by simp [hwhole.ne_nil])
      (fun c hc => (List.mem_append.mp hc).elim (Text.isDigit_of_mem_zeros c) (hwhole.digits c))
      hrest
    have hzero : Text.digitsValue (Nat.toDigits 10 0) = 0 := Text.digitsValue_toDigits 0
    rw [Text.digitsValue_append, Text.digitsValue_append, Text.digitsValue_zeros, hvalue, hzero,
      Nat.zero_mul, Nat.zero_mul, Nat.zero_add, Nat.zero_add] at hread
    simp only [List.cons_append, List.append_assoc] at hread ⊢
    rw [Nat.toDigits_of_lt_base (by decide)] at hread
    refine hread.trans ?_
    rw [List.length_append, List.length_replicate]
    congr 5
    omega
  split
  · -- zeros between the digits and the point, and one behind it
    next htop hwide =>
    obtain ⟨zeros, hzeros⟩ : ∃ zeros : Nat, d.exponent = zeros :=
      Int.eq_ofNat_of_zero_le (by omega)
    have hcount : (d.exponent + digits.length - 1 + 1).toNat - digits.length = zeros := by omega
    have hmore : IsWhole (digits ++ List.replicate zeros '0') := by
      refine hwhole.append Text.isDigit_of_mem_zeros ?_
      rintro rfl
      have hzero : zeros = 0 := by
        have := hd (hvalue.symm.trans (by decide))
        omega
      rw [hzero, List.replicate_zero]
    have hread := readUnsigned?_fraction negative hmore (List.replicate 1 '0') (by simp)
      Text.isDigit_of_mem_zeros hrest
    rw [Text.digitsValue_append, Text.digitsValue_append, Text.digitsValue_zeros,
      Text.digitsValue_zeros, hvalue, List.length_replicate, List.length_replicate, Nat.add_zero,
      Nat.add_zero, Nat.mul_assoc, ← Nat.pow_add, Binary64.ofDecimal_mul_pow] at hread
    rw [hcount, List.append_assoc]
    refine hread.trans ?_
    congr 5
    omega
  · -- the point between the digits
    next htop hnarrow =>
    have hread := readUnsigned?_fraction negative
      (hwhole.take (n := (d.exponent + digits.length - 1 + 1).toNat) (by omega))
      (digits.drop (d.exponent + digits.length - 1 + 1).toNat)
      (by rw [ne_eq, List.drop_eq_nil_iff]; omega) (hdrop _) hrest
    rw [List.take_append_drop, hvalue] at hread
    rw [List.append_assoc, List.cons_append, hread, List.length_drop]
    congr 5
    omega

/-- The decimal that is written for a rank. -/
def decimalOf (rank : Fin finiteRanks) : Decimal :=
  if rank.val = 0 then ⟨0, 0⟩ else Decimal.shortest rank

/-- The decimal that is written for a rank makes it, and is no zero with more zeros. -/
theorem ofDecimal_written (negative : Bool) (rank : Fin finiteRanks) :
    Binary64.ofDecimal negative (decimalOf rank).digits (decimalOf rank).exponent =
        .finite negative rank ∧
      ((decimalOf rank).digits = 0 → (decimalOf rank).exponent ≤ 0) := by
  rw [decimalOf]
  have hzero : ∀ exponent, Binary64.ofDecimal negative 0 exponent =
      .finite negative ⟨0, by decide⟩ := fun _ => rfl
  split
  · next hrank =>
    have hleast : rank = ⟨0, by decide⟩ := Fin.ext hrank
    exact ⟨by rw [hleast, hzero], fun _ => le_rfl⟩
  · next hrank =>
    have hshortest := Decimal.ofDecimal_shortest negative rank (Nat.pos_of_ne_zero hrank)
    refine ⟨hshortest, fun hdigits => ?_⟩
    rw [hdigits, hzero] at hshortest
    cases hshortest
    exact absurd rfl hrank

/-! ## Values without parts -/

/-- A text that starts as a number does is no word. -/
theorem readWord?_digit {c : Char} (h : c.isDigit = true) (rest : List Char) :
    readWord? (c :: rest) = none ∧ readWord? ('-' :: c :: rest) = none := by
  have hne : ∀ d : Char, d.isDigit = false → d ≠ c := by
    rintro d hd rfl
    rw [h] at hd
    cases hd
  constructor
  · simp [readWord?, words, hne 'n' rfl, hne 't' rfl, hne 'f' rfl, hne 'N' rfl, hne 'I' rfl,
      hne '-' rfl]
  · simp [readWord?, words, hne 'I' rfl]

/-- A number is read after its sign. -/
theorem readScalar?_signed (negative : Bool) {text whole more : List Char} (h : IsWhole whole)
    (htext : text = whole ++ more) :
    readScalar? ((if negative then ['-'] else []) ++ text) = readUnsigned? negative text := by
  obtain ⟨c, others, rfl⟩ := List.exists_cons_of_ne_nil h.ne_nil
  have hc := h.digits c List.mem_cons_self
  obtain ⟨hplain, hminus⟩ := readWord?_digit hc (others ++ more)
  have hne : c ≠ '-' := by
    rintro rfl
    cases hc
  rw [htext, List.cons_append]
  cases negative <;> simp [readScalar?, readNumber?, hplain, hminus, hne]

/-- The text of a decimal starts with the whole part of a number. -/
theorem exists_whole_decimalText (d : Decimal) :
    ∃ whole more, IsWhole whole ∧ jsonFormat.decimalText d = whole ++ more := by
  have hwhole := isWhole_toDigits d.digits
  rw [DecimalFormat.decimalText]
  dsimp only
  split
  · exact ⟨_, _, hwhole.take Nat.one_pos, List.append_assoc _ _ _⟩
  split
  · exact ⟨_, _, isWhole_toDigits 0, rfl⟩
  split
  · exact ⟨_, _, hwhole, List.append_assoc _ _ _⟩
  · exact ⟨_, _, hwhole.take (by omega), rfl⟩

/-- Whether a value is a word or a number, and no whole number too long to be written. -/
def IsScalar : Value → Prop
  | .null | .bool _ | .float _ => True
  | .int n => isWritable n
  | .text _ | .list _ | .object _ => False

theorem scalar_int (char : Char → List Char) (n : Int) : scalar char (.int n) =
    (if decide (n < 0) then ['-'] else []) ++ Nat.toDigits 10 n.natAbs := by
  rw [scalar, Text.intText, Text.natText]
  by_cases hn : n < 0 <;> simp [hn]

theorem scalar_finite (char : Char → List Char) (negative : Bool) (rank : Fin finiteRanks) :
    scalar char (.float (.finite negative rank)) =
      (if negative then ['-'] else []) ++ jsonFormat.decimalText (decimalOf rank) := by
  have hsign : ∀ negative : Bool, (if negative then "-" else "").toList =
      if negative then ['-'] else [] := by decide
  rw [scalar, DecimalFormat.numberText, String.toList_append, hsign, String.toList_ofList,
    decimalOf]

/-- A word or a number is read from what is written for it. -/
theorem readScalar?_scalar (char : Char → List Char) {v : Value} (h : IsScalar v)
    (hrest : EndsNumber rest) : readScalar? (scalar char v ++ rest) = some (.ok v, rest) := by
  cases v with
  | null => rfl
  | bool b => cases b <;> rfl
  | int n =>
      have hsize : n.natAbs < Nat.pow 10 digitLimit := of_decide_eq_true h
      rw [scalar_int, List.append_assoc, readScalar?_signed _ (isWhole_toDigits n.natAbs) rfl,
        readUnsigned?_toDigits _ hsize hrest]
      by_cases hn : n < 0 <;> simp [hn, -Nat.cast_natAbs] <;> omega
  | float x =>
      cases x with
      | nan => rfl
      | infinite negative => cases negative <;> rfl
      | finite negative rank =>
          obtain ⟨hmakes, hzero⟩ := ofDecimal_written negative rank
          obtain ⟨whole, more, hwhole, hmore⟩ := exists_whole_decimalText (decimalOf rank)
          rw [scalar_finite, List.append_assoc,
            readScalar?_signed _ hwhole (by rw [hmore, List.append_assoc]),
            readUnsigned?_decimalText _ hzero hrest, hmakes]
  | text s => exact h.elim
  | list items => exact h.elim
  | object fields => exact h.elim

end Json

end CallChain
