/-
# Rounding to a binary floating-point number

The rank nearest to a quotient depends on the quotient alone and not on the whole numbers
that it is given by: of all exponents there is one at which the quotient has as many binary
digits as the format keeps, and that one is found whatever the two numbers are. So a decimal
may be written with more zeros and a smaller exponent, and the magnitude of a rank is rounded
to that rank.
-/

import CallChain.Number.Shortest
import Mathlib.Algebra.Order.Field.Power
import Mathlib.Algebra.Order.Ring.Rat
import Mathlib.Tactic.FieldSimp
import Mathlib.Tactic.Linarith
import Mathlib.Tactic.NormNum
import Mathlib.Tactic.Positivity
import Mathlib.Tactic.Ring

namespace CallChain.Binary64

/-! ## The exponent of a quotient -/

/-- Whether a positive number has an exponent in the format: at it, its significand has at
most 53 binary digits, and no fewer unless the exponent is the least one. -/
structure HasExponent (x : ℚ) (q : ℤ) : Prop where
  /-- The exponent is one of the format. -/
  least : -1074 ≤ q
  /-- The significand has no more digits than are kept. -/
  below : x < 2 ^ (q + 53)
  /-- It has no fewer, save at the least exponent. -/
  above : q = -1074 ∨ (2 : ℚ) ^ (q + 52) ≤ x

theorem HasExponent.le {x : ℚ} {q r : ℤ} (hq : HasExponent x q) (hr : HasExponent x r) :
    q ≤ r := by
  by_contra hlt
  rcases hq.above with rfl | habove
  · exact hlt hr.least
  · have hpow : (2 : ℚ) ^ (q + 52) < 2 ^ (r + 53) := habove.trans_lt hr.below
    have := (zpow_lt_zpow_iff_right₀ (by norm_num : (1 : ℚ) < 2)).mp hpow
    omega

/-- A number has one exponent. -/
theorem HasExponent.unique {x : ℚ} {q r : ℤ} (hq : HasExponent x q) (hr : HasExponent x r) :
    q = r :=
  le_antisymm (hq.le hr) (hr.le hq)

variable {num den : ℕ}

theorem two_pow_toNat (q : ℤ) :
    ((Nat.pow 2 q.toNat : ℕ) : ℚ) / (Nat.pow 2 (-q).toNat : ℕ) = 2 ^ q := by
  simp only [Nat.pow_eq, Nat.cast_pow, Nat.cast_ofNat]
  rcases Int.le_total 0 q with hq | hq
  · obtain ⟨n, rfl⟩ := Int.eq_ofNat_of_zero_le hq
    simp
  · obtain ⟨n, hn⟩ := Int.eq_ofNat_of_zero_le (Int.neg_nonneg_of_nonpos hq)
    obtain rfl : q = -n := by omega
    simp

theorem two_pow_pos (n : ℕ) : 0 < Nat.pow 2 n := Nat.two_pow_pos n

theorem ten_pow_pos (n : ℕ) : 0 < Nat.pow 10 n := Nat.pow_pos (by decide)

theorem scaled_snd_pos (hden : 0 < den) (q : ℤ) : 0 < (scaled num den q).2 :=
  Nat.mul_pos hden (two_pow_pos _)

/-- A scaled quotient is the quotient divided by the power. -/
theorem scaled_ratio (num den : ℕ) (q : ℤ) :
    ((scaled num den q).1 : ℚ) / (scaled num den q).2 = num / den / 2 ^ q := by
  rw [← two_pow_toNat q]
  simp only [scaled, Nat.cast_mul]
  have hpos : ∀ n, ((Nat.pow 2 n : ℕ) : ℚ) ≠ 0 := fun n =>
    Nat.cast_ne_zero.mpr (two_pow_pos n).ne'
  field_simp

/-- The whole part of a scaled quotient, compared with a bound, compares the quotient. -/
theorem scaled_div_lt_iff (hden : 0 < den) (q : ℤ) (bound : ℕ) :
    (scaled num den q).1 / (scaled num den q).2 < bound ↔ (num : ℚ) / den < bound * 2 ^ q := by
  have hscaled : (0 : ℚ) < (scaled num den q).2 := Nat.cast_pos.mpr (scaled_snd_pos hden q)
  rw [Nat.div_lt_iff_lt_mul (scaled_snd_pos hden q), ← div_lt_iff₀ (by positivity),
    ← scaled_ratio, div_lt_iff₀ hscaled]
  exact_mod_cast Iff.rfl

theorem log2_ratio (hnum : 0 < num) (hden : 0 < den) :
    (2 : ℚ) ^ ((num.log2 : ℤ) - den.log2 - 1) ≤ num / den ∧
      (num : ℚ) / den < 2 ^ ((num.log2 : ℤ) - den.log2 + 1) := by
  have hpos : (0 : ℚ) < den := Nat.cast_pos.mpr hden
  have hnumLow : (2 : ℚ) ^ (num.log2 : ℤ) ≤ num := by
    exact_mod_cast Nat.log2_self_le hnum.ne'
  have hnumHigh : (num : ℚ) < 2 ^ ((num.log2 : ℤ) + 1) := by
    exact_mod_cast Nat.lt_log2_self (n := num)
  have hdenLow : (2 : ℚ) ^ (den.log2 : ℤ) ≤ den := by
    exact_mod_cast Nat.log2_self_le hden.ne'
  have hdenHigh : (den : ℚ) < 2 ^ ((den.log2 : ℤ) + 1) := by
    exact_mod_cast Nat.lt_log2_self (n := den)
  constructor
  · rw [le_div_iff₀ hpos]
    calc (2 : ℚ) ^ ((num.log2 : ℤ) - den.log2 - 1) * den
        ≤ 2 ^ ((num.log2 : ℤ) - den.log2 - 1) * 2 ^ ((den.log2 : ℤ) + 1) := by gcongr
      _ = 2 ^ (num.log2 : ℤ) := by rw [← zpow_add₀ (by norm_num)]; congr 1; omega
      _ ≤ num := hnumLow
  · rw [div_lt_iff₀ hpos]
    calc (num : ℚ) < 2 ^ ((num.log2 : ℤ) + 1) := hnumHigh
      _ = 2 ^ ((num.log2 : ℤ) - den.log2 + 1) * 2 ^ (den.log2 : ℤ) := by
        rw [← zpow_add₀ (by norm_num)]; congr 1; omega
      _ ≤ 2 ^ ((num.log2 : ℤ) - den.log2 + 1) * den := by gcongr

/-- The exponent that is found for a quotient is its own. -/
theorem hasExponent_nearest (hnum : 0 < num) (hden : 0 < den) :
    let high : ℤ := max ((num.log2 : ℤ) - den.log2 - 52) (-1074)
    HasExponent (num / den)
      (if (scaled num den high).1 / (scaled num den high).2 < Nat.pow 2 52 then
        max (high - 1) (-1074) else high) := by
  intro high
  obtain ⟨hlow, hhigh⟩ := log2_ratio hnum hden
  have hmono : ∀ {a b : ℤ}, a ≤ b → (2 : ℚ) ^ a ≤ 2 ^ b :=
    fun h => zpow_le_zpow_right₀ (by norm_num) h
  have hbound : ((Nat.pow 2 52 : ℕ) : ℚ) * 2 ^ high = 2 ^ (high + 52) := by
    rw [zpow_add₀ (by norm_num), Nat.pow_eq]
    norm_num [mul_comm]
  split
  · next hsmall =>
    rw [scaled_div_lt_iff hden, hbound] at hsmall
    refine ⟨le_max_right _ _, ?_, ?_⟩
    · exact hsmall.trans_le (hmono (by omega))
    · rcases le_total high (-1073) with hle | hge
      · exact Or.inl (by omega)
      · exact Or.inr ((hmono (by omega)).trans hlow)
  · next hlarge =>
    rw [scaled_div_lt_iff hden, hbound] at hlarge
    exact ⟨le_max_right _ _, hhigh.trans_le (hmono (by omega)), Or.inr (not_lt.mp hlarge)⟩

/-- The nearest rank, from the exponent of the quotient. -/
theorem nearestRank_eq (hnum : 0 < num) (hden : 0 < den) {q : ℤ}
    (hq : HasExponent (num / den) q) :
    nearestRank num den = (q + 1074).toNat * Nat.pow 2 52 +
      roundHalfEven (scaled num den q).1 (scaled num den q).2 := by
  rw [nearestRank, (hasExponent_nearest hnum hden).unique hq]

/-! ## Rounding depends on the quotient alone -/

theorem roundHalfEven_mul_right (num den : ℕ) {c : ℕ} (hc : 0 < c) :
    roundHalfEven (num * c) (den * c) = roundHalfEven num den := by
  have hlt : 2 * (num % den * c) < den * c ↔ 2 * (num % den) < den := by
    rw [← Nat.mul_assoc]
    exact Nat.mul_lt_mul_right hc
  have heq : 2 * (num % den * c) = den * c ↔ 2 * (num % den) = den := by
    rw [← Nat.mul_assoc]
    exact Nat.mul_left_inj hc.ne'
  simp only [roundHalfEven, Nat.mul_div_mul_right _ _ hc, Nat.mul_mod_mul_right, Bool.or_eq_true,
    decide_eq_true_eq, Bool.and_eq_true, beq_iff_eq, hlt, heq]

variable {num' den' : ℕ}

theorem roundHalfEven_congr (hden : 0 < den) (hden' : 0 < den')
    (h : num * den' = num' * den) : roundHalfEven num den = roundHalfEven num' den' := by
  rw [← roundHalfEven_mul_right num den hden', ← roundHalfEven_mul_right num' den' hden, h,
    Nat.mul_comm den den']

theorem nearestRank_congr (hnum : 0 < num) (hnum' : 0 < num') (hden : 0 < den) (hden' : 0 < den')
    (h : num * den' = num' * den) : nearestRank num den = nearestRank num' den' := by
  have hratio : (num : ℚ) / den = num' / den' := by
    rw [div_eq_div_iff (Nat.cast_ne_zero.mpr hden.ne') (Nat.cast_ne_zero.mpr hden'.ne')]
    exact_mod_cast h
  have hq := hasExponent_nearest hnum hden
  have hscaled : ∀ q, (scaled num den q).1 * (scaled num' den' q).2 =
      (scaled num' den' q).1 * (scaled num den q).2 := by
    intro q
    simp only [scaled]
    calc num * Nat.pow 2 (-q).toNat * (den' * Nat.pow 2 q.toNat)
        = num * den' * (Nat.pow 2 (-q).toNat * Nat.pow 2 q.toNat) := by ring
      _ = num' * den * (Nat.pow 2 (-q).toNat * Nat.pow 2 q.toNat) := by rw [h]
      _ = num' * Nat.pow 2 (-q).toNat * (den * Nat.pow 2 q.toNat) := by ring
  rw [nearestRank_eq hnum hden hq, nearestRank_eq hnum' hden' (hratio ▸ hq),
    roundHalfEven_congr (scaled_snd_pos hden _) (scaled_snd_pos hden' _) (hscaled _)]

theorem ofQuotient_congr (negative : Bool) (hden : 0 < den) (hden' : 0 < den')
    (h : num * den' = num' * den) :
    ofQuotient negative num den = ofQuotient negative num' den' := by
  rw [ofQuotient, ofQuotient]
  rcases Nat.eq_zero_or_pos num with rfl | hnum
  · have hzero : num' = 0 := by
      rw [Nat.zero_mul] at h
      exact (Nat.mul_eq_zero.mp h.symm).resolve_right hden.ne'
    rw [if_pos rfl, if_pos hzero]
  · have hnum' : 0 < num' := by
      apply Nat.pos_of_ne_zero
      rintro rfl
      rw [Nat.zero_mul] at h
      exact (Nat.mul_pos hnum hden').ne' h
    rw [if_neg hnum.ne', if_neg hnum'.ne', nearestRank_congr hnum hnum' hden hden' h]

/-! ## The magnitude of a rank -/

theorem roundHalfEven_exact (n : ℕ) {den : ℕ} (hden : 0 < den) :
    roundHalfEven (n * den) den = n := by
  simp [roundHalfEven, Nat.mul_div_cancel _ hden, hden]

theorem significand_pos {rank : ℕ} (h : 0 < rank) : 0 < significand rank := by
  rw [significand]
  split
  · exact h
  · exact Nat.add_pos_left (two_pow_pos 52) _

theorem hasExponent_rank {rank : ℕ} :
    HasExponent (significand rank * 2 ^ exponent rank) (exponent rank) := by
  have hpow : (0 : ℚ) < 2 ^ exponent rank := by positivity
  have hbelow : significand rank < 2 ^ 53 := by
    rw [significand]
    simp only [Nat.pow_eq]
    split <;> omega
  have hsplit : ∀ n : ℕ, (2 : ℚ) ^ (exponent rank + n) = ((2 ^ n : ℕ) : ℚ) * 2 ^ exponent rank := by
    intro n
    rw [zpow_add₀ (by norm_num), mul_comm]
    norm_cast
  refine ⟨?_, ?_, ?_⟩
  · rw [exponent]
    simp only [Nat.pow_eq]
    split
    · exact le_rfl
    · omega
  · rw [show (53 : ℤ) = (53 : ℕ) from rfl, hsplit]
    gcongr
  · by_cases hsmall : rank < 2 ^ 52
    · left
      rw [exponent, Nat.pow_eq, if_pos hsmall]
    · right
      rw [show (52 : ℤ) = (52 : ℕ) from rfl, hsplit]
      have habove : 2 ^ 52 ≤ significand rank := by
        rw [significand, Nat.pow_eq, if_neg hsmall]
        exact Nat.le_add_right _ _
      gcongr

/-- The magnitude of a rank is rounded to that rank. -/
theorem nearestRank_quotient {rank : ℕ} (h : 0 < rank) :
    nearestRank (quotient rank).1 (quotient rank).2 = rank := by
  have hnum : 0 < (quotient rank).1 := Nat.mul_pos (significand_pos h) (two_pow_pos _)
  have hden : 0 < (quotient rank).2 := two_pow_pos _
  have hratio : ((quotient rank).1 : ℚ) / (quotient rank).2 =
      significand rank * 2 ^ exponent rank := by
    rw [← two_pow_toNat]
    simp only [quotient, Nat.cast_mul]
    ring
  rw [nearestRank_eq hnum hden (hratio ▸ hasExponent_rank)]
  have hround : roundHalfEven (scaled (quotient rank).1 (quotient rank).2 (exponent rank)).1
      (scaled (quotient rank).1 (quotient rank).2 (exponent rank)).2 = significand rank := by
    have hscaled : (scaled (quotient rank).1 (quotient rank).2 (exponent rank)).1 =
        significand rank * (scaled (quotient rank).1 (quotient rank).2 (exponent rank)).2 := by
      simp only [scaled, quotient]
      ring
    rw [hscaled, roundHalfEven_exact _ (scaled_snd_pos hden _)]
  rw [hround, exponent, significand]
  simp only [Nat.pow_eq]
  split <;> omega

/-! ## Decimals -/

theorem length_toDigits_mul_ten {n : ℕ} (h : 0 < n) :
    (Nat.toDigits 10 (n * 10)).length = (Nat.toDigits 10 n).length + 1 := by
  have hdigits := Nat.toDigits_append_toDigits (by decide : 1 < 10) h (by decide : 0 < 10)
  rw [Nat.add_zero, Nat.mul_comm] at hdigits
  rw [← hdigits, List.length_append]
  rfl

/-- A zero more and a smaller exponent make the same number. -/
theorem ofDecimal_mul_ten (negative : Bool) (digits : ℕ) (exponent10 : ℤ) :
    ofDecimal negative (digits * 10) exponent10 = ofDecimal negative digits (exponent10 + 1) := by
  rcases Nat.eq_zero_or_pos digits with rfl | hpos
  · simp [ofDecimal]
  have hsize : ((Nat.toDigits 10 (digits * 10)).length : ℤ) + exponent10 =
      (Nat.toDigits 10 digits).length + (exponent10 + 1) := by
    rw [length_toDigits_mul_ten hpos]
    omega
  have hquotient :
      digits * 10 * Nat.pow 10 exponent10.toNat * Nat.pow 10 (-(exponent10 + 1)).toNat =
      digits * Nat.pow 10 (exponent10 + 1).toNat * Nat.pow 10 (-exponent10).toNat := by
    have hpow : 10 * Nat.pow 10 exponent10.toNat * Nat.pow 10 (-(exponent10 + 1)).toNat =
        Nat.pow 10 (exponent10 + 1).toNat * Nat.pow 10 (-exponent10).toNat := by
      simp only [Nat.pow_eq, ← Nat.pow_succ', ← Nat.pow_add]
      congr 1
      omega
    rw [Nat.mul_assoc digits, Nat.mul_assoc digits, hpow, ← Nat.mul_assoc]
  have hzero : digits * 10 = 0 ↔ digits = 0 := by omega
  simp only [ofDecimal, hsize, hzero, ofQuotient_congr negative (ten_pow_pos _)
    (ten_pow_pos _) hquotient]

/-- More zeros and a smaller exponent make the same number. -/
theorem ofDecimal_mul_pow (negative : Bool) (digits zeros : ℕ) (exponent10 : ℤ) :
    ofDecimal negative (digits * 10 ^ zeros) exponent10 =
      ofDecimal negative digits (exponent10 + zeros) := by
  induction zeros generalizing exponent10 with
  | zero => simp
  | succ zeros ih =>
      rw [Nat.pow_succ, ← Nat.mul_assoc, ofDecimal_mul_ten, ih]
      congr 1
      omega

theorem ofDecimal_sign {digits : ℕ} {exponent10 : ℤ} {rank : Fin finiteRanks}
    (h : ofDecimal false digits exponent10 = .finite false rank) (negative : Bool) :
    ofDecimal negative digits exponent10 = .finite negative rank := by
  have hrank : ∀ n, ofRank false n = .finite false rank →
      ofRank negative n = .finite negative rank := by
    intro n hn
    unfold ofRank at hn ⊢
    split at hn
    · next hlt =>
      rw [dif_pos hlt]
      cases hn
      rfl
    · cases hn
  unfold ofDecimal at h ⊢
  dsimp only at h ⊢
  split at h
  · next hzero => rw [if_pos hzero, hrank _ h]
  · next hzero =>
    rw [if_neg hzero]
    split at h
    · cases h
    · next hlarge =>
      rw [if_neg hlarge]
      unfold ofQuotient at h ⊢
      split at h
      · next hnum => rw [if_pos hnum, hrank _ h]
      · next hnum => rw [if_neg hnum, hrank _ h]

theorem significand_lt (rank : ℕ) : significand rank < 2 ^ 53 := by
  rw [significand]
  simp only [Nat.pow_eq]
  split <;> omega

theorem exponent_bounds {rank : ℕ} (h : rank < finiteRanks) :
    -1074 ≤ exponent rank ∧ exponent rank ≤ 971 := by
  rw [finiteRanks] at h
  rw [exponent]
  simp only [Nat.pow_eq] at h ⊢
  split <;> omega

end CallChain.Binary64

namespace CallChain.Decimal

open Binary64

/-- A decimal without its trailing zeros makes the same number. -/
theorem ofDecimal_reduced (negative : Bool) (d : Decimal) :
    ofDecimal negative d.reduced.digits d.reduced.exponent =
      ofDecimal negative d.digits d.exponent := by
  have hdrop : ∀ (fuel : ℕ) (d : Decimal),
      ofDecimal negative (dropZeros fuel d).digits (dropZeros fuel d).exponent =
        ofDecimal negative d.digits d.exponent := by
    intro fuel
    induction fuel with
    | zero => exact fun _ => rfl
    | succ fuel ih =>
        intro d
        rw [dropZeros]
        split
        · next hzero =>
          have hten : d.digits % 10 = 0 := by simp_all
          rw [ih, ← ofDecimal_mul_ten, Nat.div_mul_cancel (Nat.dvd_of_mod_eq_zero hten)]
        · rfl
  exact hdrop _ d

theorem exact_digits_pos {rank : ℕ} (h : 0 < rank) : 0 < (exact rank).digits := by
  rw [exact]
  split
  · exact Nat.mul_pos (significand_pos h) (two_pow_pos _)
  · exact Nat.mul_pos (significand_pos h) (Nat.pow_pos (by decide))

/-- The exact magnitude of a rank lies within the exponents of which the power is computed. -/
theorem exact_size {rank : ℕ} (hpos : 0 < rank) (h : rank < finiteRanks) :
    -400 ≤ ((Nat.toDigits 10 (exact rank).digits).length : ℤ) + (exact rank).exponent ∧
      ((Nat.toDigits 10 (exact rank).digits).length : ℤ) + (exact rank).exponent ≤ 400 := by
  obtain ⟨hleast, hgreatest⟩ := exponent_bounds h
  have hsignificand := significand_lt rank
  have hpositive := significand_pos hpos
  rw [exact]
  split
  · next hq =>
    have hlength : (Nat.toDigits 10
        (significand rank * Nat.pow 2 (Binary64.exponent rank).toNat)).length ≤ 400 := by
      rw [Nat.length_toDigits_le_iff (by decide) (by decide)]
      calc significand rank * Nat.pow 2 (Binary64.exponent rank).toNat
          ≤ 2 ^ 53 * 2 ^ 971 :=
            Nat.mul_le_mul hsignificand.le (Nat.pow_le_pow_right (by decide) (by omega))
        _ < 10 ^ 400 := by decide +kernel
    dsimp only
    omega
  · next hq =>
    generalize hn : (-Binary64.exponent rank).toNat = n
    have hsmall : n ≤ 1074 := by omega
    have hpow : 5 ^ n * 2 ^ n = 10 ^ n := by rw [← Nat.mul_pow]
    dsimp only
    generalize hlength : (Nat.toDigits 10 (significand rank * Nat.pow 5 n)).length = length
    have hlengthPos : 0 < length := hlength ▸ Nat.length_toDigits_pos
    have hvalue := (Nat.length_toDigits_le_iff (by decide) hlengthPos).mp hlength.le
    constructor
    · by_contra hlow
      have hfive : 5 ^ n < 10 ^ length :=
        (Nat.le_mul_of_pos_left (5 ^ n) hpositive).trans_lt hvalue
      have htwo : 2 ^ n ≤ 10 ^ 401 :=
        (Nat.pow_le_pow_right (by decide) hsmall).trans (by decide +kernel)
      have hpast : 10 ^ (length + 401) < 10 ^ (length + 401) :=
        calc 10 ^ (length + 401) ≤ 10 ^ n := Nat.pow_le_pow_right (by decide) (by omega)
          _ = 5 ^ n * 2 ^ n := hpow.symm
          _ < 10 ^ length * 2 ^ n := Nat.mul_lt_mul_of_pos_right hfive (Nat.two_pow_pos n)
          _ ≤ 10 ^ length * 10 ^ 401 := by gcongr
          _ = 10 ^ (length + 401) := by rw [Nat.pow_add]
      exact lt_irrefl _ hpast
    · have hhigh : length ≤ 400 + n := by
        rw [← hlength, Nat.length_toDigits_le_iff (by decide) (by omega)]
        calc significand rank * Nat.pow 5 n
            < 2 ^ 53 * 10 ^ n := Nat.mul_lt_mul_of_lt_of_le hsignificand
              (Nat.pow_le_pow_left (by decide) n) (Nat.pow_pos (by decide))
          _ ≤ 10 ^ 400 * 10 ^ n := Nat.mul_le_mul_right _ (by decide +kernel)
          _ = 10 ^ (400 + n) := by rw [Nat.pow_add]
      omega

/-- The exact magnitude of a rank makes that rank. -/
theorem ofDecimal_exact (rank : Fin finiteRanks) (hpos : 0 < rank.val) :
    ofDecimal false (exact rank).digits (exact rank).exponent = .finite false rank := by
  obtain ⟨hlow, hhigh⟩ := exact_size hpos rank.isLt
  have hdigits := exact_digits_pos hpos
  have hquotient : (exact rank).digits * Nat.pow 10 (exact rank).exponent.toNat *
      (quotient rank).2 = (quotient rank).1 * Nat.pow 10 (-(exact rank).exponent).toNat := by
    rw [exact, quotient]
    dsimp only
    split
    · next hq =>
      have hzero : (-Binary64.exponent rank).toNat = 0 := by omega
      simp [hzero]
    · next hq =>
      have hzero : (Binary64.exponent rank).toNat = 0 := by omega
      have hpow : 10 ^ (-Binary64.exponent rank).toNat =
          5 ^ (-Binary64.exponent rank).toNat * 2 ^ (-Binary64.exponent rank).toNat := by
        rw [← Nat.mul_pow]
      simp only [hzero, Nat.pow_eq, hpow]
      ring
  have hnum : 0 < (quotient rank).1 := Nat.mul_pos (significand_pos hpos) (two_pow_pos _)
  have hrank : ofQuotient false (quotient rank).1 (quotient rank).2 = .finite false rank := by
    rw [ofQuotient, if_neg hnum.ne', nearestRank_quotient hpos, ofRank, dif_pos rank.isLt]
  have hnotLow :
      ¬((Nat.toDigits 10 (exact rank).digits).length : ℤ) + (exact rank).exponent < -400 := by
    omega
  rw [ofDecimal]
  simp only [hdigits.ne', hnotLow, decide_false, Bool.or_self, Bool.false_eq_true, if_false,
    if_neg (not_lt.mpr hhigh)]
  exact (ofQuotient_congr false (ten_pow_pos _) (two_pow_pos _) hquotient).trans hrank

/-- What is written for a rank makes that rank, with either sign. -/
theorem ofDecimal_shortest (negative : Bool) (rank : Fin finiteRanks) (hpos : 0 < rank.val) :
    ofDecimal negative (shortest rank).digits (shortest rank).exponent = .finite negative rank := by
  apply ofDecimal_sign
  rw [shortest, ofDecimal_reduced]
  cases hfound : List.find? (readsAs rank) _ with
  | none => exact ofDecimal_exact rank hpos
  | some d =>
      have hreads := List.find?_some hfound
      simp only [readsAs, Bool.and_eq_true, beq_iff_eq] at hreads
      exact hreads.2

end CallChain.Decimal
