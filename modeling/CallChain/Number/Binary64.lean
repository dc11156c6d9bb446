/-
# Binary floating-point numbers

A number with a fraction or an exponent is held as the nearest 64-bit binary
floating-point number. The finite magnitudes are numbered in increasing order;
the number of a magnitude, its rank, is its bit pattern without the sign, so that
rank and magnitude determine each other and the invariant of the format is the
bound of the rank. Rounding a quotient gives the rank of the nearest magnitude,
and of two equally near ones the one with an even rank.
-/

namespace CallChain

-- Powers are written with `Nat.pow` here and in the modules on numbers, so that they are the
-- same terms whichever algebra a later module imports.

/-- How many finite magnitudes there are. -/
def finiteRanks : Nat := 2047 * Nat.pow 2 52

/-- A binary floating-point number of 64 bits. -/
inductive Binary64 where
  /-- The result of an operation without a result. -/
  | nan
  /-- A magnitude beyond all finite ones. -/
  | infinite (negative : Bool)
  /-- The finite magnitude of a rank, with a sign. -/
  | finite (negative : Bool) (rank : Fin finiteRanks)
  deriving DecidableEq

namespace Binary64

/-- The whole number `m` of the magnitude `m * 2 ^ q` of a rank. -/
def significand (rank : Nat) : Nat :=
  if rank < Nat.pow 2 52 then rank else Nat.pow 2 52 + rank % Nat.pow 2 52

/-- The exponent `q` of the magnitude `m * 2 ^ q` of a rank. -/
def exponent (rank : Nat) : Int :=
  if rank < Nat.pow 2 52 then -1074 else (rank / Nat.pow 2 52 : Nat) - 1075

/-- The magnitude of a rank as a quotient of whole numbers. -/
def quotient (rank : Nat) : Nat × Nat :=
  let q := exponent rank
  (significand rank * Nat.pow 2 q.toNat, Nat.pow 2 (-q).toNat)

/-- A quotient of whole numbers divided by a power of two. -/
def scaled (num den : Nat) (q : Int) : Nat × Nat :=
  (num * Nat.pow 2 (-q).toNat, den * Nat.pow 2 q.toNat)

/-- The whole number nearest to a quotient; a half goes to the even neighbour. -/
def roundHalfEven (num den : Nat) : Nat :=
  let whole := num / den
  let rest := 2 * (num % den)
  if rest < den || (rest == den && whole % 2 == 0) then whole else whole + 1

/-- The rank nearest to the quotient of two positive whole numbers. It may lie
beyond the finite ranks, and does exactly when the quotient rounds beyond all
finite magnitudes. -/
def nearestRank (num den : Nat) : Nat :=
  let high : Int := max ((num.log2 : Int) - den.log2 - 52) (-1074)
  let whole := (scaled num den high).1 / (scaled num den high).2
  let q := if whole < Nat.pow 2 52 then max (high - 1) (-1074) else high
  (q + 1074).toNat * Nat.pow 2 52 + roundHalfEven (scaled num den q).1 (scaled num den q).2

/-- The number of a rank, infinite beyond the finite ranks. -/
def ofRank (negative : Bool) (rank : Nat) : Binary64 :=
  if h : rank < finiteRanks then finite negative ⟨rank, h⟩ else infinite negative

/-- The number nearest to a quotient of whole numbers. -/
def ofQuotient (negative : Bool) (num den : Nat) : Binary64 :=
  if num = 0 then ofRank negative 0 else ofRank negative (nearestRank num den)

/-- The number nearest to `digits * 10 ^ exponent10`. Exponents far outside the
format are answered without computing the power. -/
def ofDecimal (negative : Bool) (digits : Nat) (exponent10 : Int) : Binary64 :=
  let size : Int := (Nat.toDigits 10 digits).length + exponent10
  if digits = 0 || size < -400 then ofRank negative 0
  else if size > 400 then infinite negative
  else ofQuotient negative (digits * Nat.pow 10 exponent10.toNat) (Nat.pow 10 (-exponent10).toNat)

/-- The number nearest to an integer. -/
def ofInt (n : Int) : Binary64 := ofQuotient (n < 0) n.natAbs 1

/-- Whether a number is zero, of either sign. -/
def isZero : Binary64 → Bool
  | finite _ rank => rank.val == 0
  | _ => false

/-- Whether a number is greater than zero. -/
def isPositive : Binary64 → Bool
  | finite negative rank => !negative && rank.val != 0
  | infinite negative => !negative
  | nan => false

/-- The number with the other sign. -/
def opposite : Binary64 → Binary64
  | nan => nan
  | infinite negative => infinite !negative
  | finite negative rank => finite (!negative) rank

/-- The number nearest to the sum of two magnitudes; signs do not count. -/
def plus : Binary64 → Binary64 → Binary64
  | finite _ a, finite _ b =>
    let (m, d) := quotient a.val
    let (n, e) := quotient b.val
    ofQuotient false (m * e + n * d) (d * e)
  | nan, _ | _, nan => nan
  | _, _ => infinite false

/-- The number nearest to the product of two magnitudes; signs do not count. -/
def times : Binary64 → Binary64 → Binary64
  | finite _ a, finite _ b =>
    let (m, d) := quotient a.val
    let (n, e) := quotient b.val
    ofQuotient false (m * n) (d * e)
  | nan, _ | _, nan => nan
  | a, b => if a.isZero || b.isZero then nan else infinite false

/-- The integer that a number is, if it is one. -/
def toInt? : Binary64 → Option Int
  | finite negative rank =>
    let (num, den) := quotient rank.val
    if num % den == 0 then
      some (if negative then -((num / den : Nat) : Int) else (num / den : Nat))
    else none
  | _ => none

end Binary64

end CallChain
