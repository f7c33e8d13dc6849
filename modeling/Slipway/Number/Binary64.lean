/-!
# Binary floating point

A number of the format binary64 of IEEE 754 as what it denotes: a sign, a natural number `m` below
`2 ^ 53` and an exponent `q`, with the value `m * 2 ^ q`. A decimal is read by rounding the exact
quotient to the nearest such number, ties to even (`ofDecimal`); a number is written with the fewest
digits that read back as it (`shortest`), always in positional notation (`toText`).
-/

namespace Slipway.Number

/-- A value of binary64. A finite one is `m * 2 ^ q` with `m < 2 ^ 53` and `-1074 ≤ q ≤ 971`. -/
inductive Binary64 where
  | nan
  | infinite (negative : Bool)
  | finite (negative : Bool) (m : Nat) (q : Int)
  deriving Repr, DecidableEq, BEq

/-- The natural number nearest to `num / den`, a tie going to the even one. -/
def roundHalfEven (num den : Nat) : Nat :=
  let d := num / den
  let r := num % den
  if 2 * r < den then d
  else if 2 * r = den then d + d % 2
  else d + 1

/-- `n * b ^ e` as a fraction. -/
def scaled (n b : Nat) (e : Int) : Nat × Nat :=
  if 0 ≤ e then (n * Nat.pow b e.toNat, 1) else (n, Nat.pow b (-e).toNat)

/-- The largest natural number of 64 bits. -/
def largestWord : Nat := 0xffffffffffffffff

namespace Binary64

/-- The first of the 53 bits of `m` in a value that is not small, `2 ^ 52`. -/
def leadingBit : Nat := 0x10000000000000

/-- The largest exponent `q` of a finite value. -/
def maxExponent : Int := 971

/-- The smallest exponent `q` of a finite value. -/
def minExponent : Int := -1074

/-- The value nearest to `num / den`, a tie going to the even `m`. -/
def ofRatio (negative : Bool) (num den : Nat) : Binary64 :=
  if num = 0 then .finite negative 0 minExponent
  else
    let q₀ : Int := (num.log2 : Int) - (den.log2 : Int) - 53
    let (n₀, d₀) := scaled num 2 (-q₀)
    let q₁ := if 2 * leadingBit * (den * d₀) ≤ n₀ then q₀ + 1 else q₀
    let q := max q₁ minExponent
    let (n, d) := scaled num 2 (-q)
    let m := roundHalfEven n (den * d)
    let (m, q) := if m = 2 * leadingBit then (leadingBit, q + 1) else (m, q)
    if maxExponent < q then .infinite negative else .finite negative m q

/-- The value nearest to `digits * 10 ^ exponent`. Exponents far outside the range of the format
are settled without computing the power. -/
def ofDecimal (negative : Bool) (digits : Nat) (exponent : Int) : Binary64 :=
  let magnitude : Int := (Nat.toDigits 10 digits).length + exponent
  if digits = 0 then .finite negative 0 minExponent
  else if 310 < magnitude then .infinite negative
  else if magnitude < -330 then .finite negative 0 minExponent
  else
    let (num, den) := scaled digits 10 exponent
    ofRatio negative num den

/-- Whether the value is zero of either sign. -/
def isZero : Binary64 → Bool
  | .finite _ m _ => m == 0
  | _ => false

/-- Whether the value is one of the infinities. -/
def isInfinite : Binary64 → Bool
  | .infinite _ => true
  | _ => false

/-! ### The shortest decimal -/

/-- Whether the decimal `d * 10 ^ u` reads back as `m * 2 ^ q`. The ends of the interval belong to
it when `m` is even; below a power of two the neighbour is half as far away. -/
def readsBack (m : Nat) (q : Int) (d : Nat) (u : Int) : Bool :=
  let (n, b) := scaled d 10 u
  let (v, c) := scaled 1 2 (q - 2)
  -- four times the distances, so that both halves and quarters are whole
  let x := n * c
  let low := (if m = leadingBit ∧ minExponent < q then 4 * m - 1 else 4 * m - 2) * v * b
  let high := (4 * m + 2) * v * b
  if m % 2 = 0 then decide (low ≤ x ∧ x ≤ high) else decide (low < x ∧ x < high)

/-- The decimal exponent of the first digit of the positive fraction `num / den`, found by stepping
from the estimate `k`. -/
def leadingExponent (num den : Nat) : (steps : Nat) → (k : Int) → Int
  | 0, k => k
  | steps + 1, k =>
    let (p, r) := scaled 1 10 k
    let (p', r') := scaled 1 10 (k + 1)
    if num * r < p * den then leadingExponent num den steps (k - 1)
    else if p' * den ≤ num * r' then leadingExponent num den steps (k + 1)
    else k

/-- The first grid of `n`, `n + 1`, … digits on which a neighbour of `m * 2 ^ q` reads back as it;
of two such neighbours the nearer one, and the larger of two equally near. -/
def searchGrid (m : Nat) (q : Int) (k : Int) : (fuel n : Nat) → Nat × Int
  | 0, n =>
    let u := k - n + 1
    let (num, den) := scaled m 2 q
    let (a, b) := scaled 1 10 u
    (num * b / (den * a), u)
  | fuel + 1, n =>
    let u := k - n + 1
    let (num, den) := scaled m 2 q
    let (a, b) := scaled 1 10 u
    let d := num * b / (den * a)
    let r := num * b % (den * a)
    let lower := d != 0 && readsBack m q d u
    let upper := readsBack m q (d + 1) u
    if lower && upper then (if 2 * r < den * a then (d, u) else (d + 1, u))
    else if lower then (d, u)
    else if upper then (d + 1, u)
    else searchGrid m q k fuel (n + 1)

/-- The fewest digits `d` and the exponent `u` for which `d * 10 ^ u` reads back as `m * 2 ^ q`. -/
def shortest (m : Nat) (q : Int) : Nat × Int :=
  let (num, den) := scaled m 2 q
  let estimate : Int := (((num.log2 : Int) - (den.log2 : Int)) * 30103) / 100000
  searchGrid m q (leadingExponent num den 5 estimate) 17 1

/-- `d * 10 ^ u` in positional notation, without zeros after the last digit of the fraction. -/
def positional (d : Nat) (u : Int) : List Char :=
  let digits := (Nat.toDigits 10 d)
  if 0 ≤ u then digits ++ List.replicate u.toNat '0'
  else
    let places := (-u).toNat
    let padded := List.replicate (places + 1 - digits.length) '0' ++ digits
    let (whole, fraction) := padded.splitAt (padded.length - places)
    let fraction := (fraction.reverse.dropWhile (· == '0')).reverse
    if fraction.isEmpty then whole else whole ++ '.' :: fraction

/-- The value in positional notation with the fewest digits that read back as it; `inf`, `-inf`
and `NaN` otherwise. A whole number has no point, and zero keeps its sign. -/
def toText : Binary64 → String
  | .nan => "NaN"
  | .infinite negative => if negative then "-inf" else "inf"
  | .finite negative m q =>
    let body :=
      if m = 0 then ['0']
      else
        let (d, u) := shortest m q
        positional d u
    String.ofList (if negative then '-' :: body else body)

/-! ### To natural numbers -/

/-- The natural number below `2 ^ 64` that the value rounds to, halves away from zero; values
outside the range go to its nearer end, and NaN to zero. -/
def toWord : Binary64 → Nat
  | .nan => 0
  | .infinite negative => if negative then 0 else largestWord
  | .finite negative m q =>
    if negative then 0
    else if 64 < q then (if m = 0 then 0 else largestWord)
    else
      let (num, den) := scaled m 2 q
      min ((2 * num + den) / (2 * den)) largestWord

end Binary64

end Slipway.Number
