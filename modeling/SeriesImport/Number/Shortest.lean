import SeriesImport.Number.Binary
/-!
# Shortest digits of a double

A positive double `m · 2^e` stands for every real that rounds to it: the interval reaching
half-way to its two neighbours, ends included when `m` is even. Its shortest digits are found
by trying grids of one, two, up to seventeen significant digits: on each grid only the two
points next to the value can lie in the interval, and the first grid with such a point wins,
the nearer of two, and of two equally near the one with the even last digit. Seventeen digits
always suffice. All arithmetic is exact, on natural numbers scaled to a common denominator.
-/

namespace SeriesImport.Number

-- Naturals are raised to powers with the core instance, also where Mathlib's monoid power is
-- in scope; a literal exponent is written as a natural, so that no default power claims it.
attribute [local instance (high + 1)] instPowNat

/-- The decimal number `digits · 10^exp`. -/
structure Decimal where
  digits : Nat
  exp : Int
  deriving Repr, DecidableEq

/-- Remove trailing zeros from the digits, raising the exponent to match. -/
def Decimal.normalize (d : Decimal) : Decimal :=
  go d.digits d.exp d.digits
where
  /-- Fuel `n` bounds the number of zeros removed. -/
  go (c : Nat) (x : Int) : Nat → Decimal
    | 0 => ⟨c, x⟩
    | n + 1 => if c ≠ 0 ∧ c % 10 = 0 then go (c / 10) (x + 1) n else ⟨c, x⟩

/-- `⌊log₁₀ (num / den)⌋` for positive `num` and `den`. The digit counts give it up to one. -/
def ratioLog10 (num den : Nat) : Int :=
  let a : Int := (decimalLength num : Int) - decimalLength den
  if num * pow10 (-a) < den * pow10 a then a - 1 else a

/-- The point of the grid `10^k` that the shortest search keeps, if one of the two next to
the value lies in its rounding interval: the nearer, or the even one when both are as near.
The value and the interval ends are given as numerators over a common denominator; `unit` is
`10^k` over that denominator. -/
def gridHit (value low high unit : Nat) (closed : Bool) : Option Nat :=
  let c := value / unit
  if value % unit == 0 then some c
  else
    let inside (x : Nat) : Bool :=
      if closed then low ≤ x * unit && x * unit ≤ high else low < x * unit && x * unit < high
    match inside c, inside (c + 1) with
    | true, true =>
      let below := value - c * unit
      let above := (c + 1) * unit - value
      if below < above || (below == above && c % 2 == 0) then some c else some (c + 1)
    | true, false => some c
    | false, true => some (c + 1)
    | false, false => none

/-- The shortest digits of the positive double `m · 2^e`, trying grids of `n` up to
`n + fuel` significant digits. -/
def shortestFrom (m : Nat) (e : Int) (n : Nat) : Nat → Decimal
  | 0 => ⟨m, 0⟩
  | fuel + 1 =>
    let b : Int := max 0 (2 - e)
    let top : Int := ratioLog10 (m * pow2 e) (pow2 (-e))
    let k : Int := top + 1 - n
    let t : Int := max 0 (-k)
    let scale := pow2 (e - 2 + b) * pow10 t
    let unit := pow10 (k + t) * pow2 b
    let lowGap := if m == 2 ^ (52 : Nat) && e > -1074 then 1 else 2
    match gridHit (4 * m * scale) ((4 * m - lowGap) * scale) ((4 * m + 2) * scale) unit
        (m % 2 == 0) with
    | some c => Decimal.normalize ⟨c, k⟩
    | none => shortestFrom m e (n + 1) fuel

/-- The shortest decimal that reads back as the positive double `m · 2^e`, nearest to it
among those of its length, an even last digit winning a tie. -/
def shortest (m : Nat) (e : Int) : Decimal := shortestFrom m e 1 17

theorem normalize_go_exact (c : Nat) (x : Int) (n : Nat) (h : c % 10 ≠ 0) :
    Decimal.normalize.go c x n = ⟨c, x⟩ := by
  cases n <;> simp [Decimal.normalize.go, h]

end SeriesImport.Number
