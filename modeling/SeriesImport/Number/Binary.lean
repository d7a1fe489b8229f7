/-!
# Doubles as exact binary numbers

A double is read off its 64 bits as a sign and either an exact value `m · 2^e`, an infinity,
or not-a-number. The other way, `nearestBits` rounds a positive fraction to the nearest double,
a tie going to the even significand; values past the largest finite double become infinity.
-/

namespace SeriesImport.Number

-- Naturals are raised to powers with the core instance, also where Mathlib's monoid power is
-- in scope; a literal exponent is written as a natural, so that no default power claims it.
attribute [local instance (high + 1)] instPowNat

/-- What a double holds. -/
inductive Binary where
  /-- The value `(-1)^neg · m · 2^e`. -/
  | finite (neg : Bool) (m : Nat) (e : Int)
  | infinite (neg : Bool)
  | nan
  deriving Repr, DecidableEq

/-- Read a double's bits. -/
def Binary.ofBits (b : Nat) : Binary :=
  let neg := b / 2 ^ (63 : Nat) % 2 == 1
  let ef : Nat := b / 2 ^ (52 : Nat) % 2048
  let fr : Nat := b % 2 ^ (52 : Nat)
  if ef == 2047 then (if fr == 0 then .infinite neg else .nan)
  else if ef == 0 then .finite neg fr (-1074)
  else .finite neg (fr + 2 ^ (52 : Nat)) ((ef : Int) - 1075)

def Binary.ofFloat (x : Float) : Binary := Binary.ofBits x.toBits.toNat

/-- `2 ^ k` for an integer `k ≥ 0`, and `1` below. -/
def pow2 (k : Int) : Nat := 2 ^ k.toNat

/-- `10 ^ k` for an integer `k ≥ 0`, and `1` below. -/
def pow10 (k : Int) : Nat := 10 ^ k.toNat

/-- `⌊log₂ (num / den)⌋` for positive `num` and `den`. The bit lengths give it up to one. -/
def ratioLog2 (num den : Nat) : Int :=
  let b : Int := (num.log2 : Int) - den.log2
  if num * pow2 (-b) < den * pow2 b then b - 1 else b

/-- `n / d` rounded to the nearest integer, a tie going to the even one. -/
def divRoundEven (n d : Nat) : Nat :=
  let q := n / d
  let r := n % d
  if 2 * r > d || (2 * r == d && q % 2 == 1) then q + 1 else q

/-- Bits of the double nearest to `num / den`, which is positive; infinity when it is too
large. -/
def nearestBits (num den : Nat) : Nat :=
  if num == 0 then 0 else
  let q : Int := max (ratioLog2 num den - 52) (-1074)
  let m := divRoundEven (num * pow2 (-q)) (den * pow2 q)
  let (m, q) := if m == 2 ^ (53 : Nat) then (2 ^ (52 : Nat), q + 1) else (m, q)
  if m < 2 ^ (52 : Nat) then m
  else
    let ef := q + 1075
    if ef ≥ 2047 then 0x7FF0000000000000 else ef.toNat * 2 ^ (52 : Nat) + (m - 2 ^ (52 : Nat))

/-- The double nearest to `(-1)^neg · num / den`. -/
def nearest (neg : Bool) (num den : Nat) : Float :=
  let b := nearestBits num den
  Float.ofBits (UInt64.ofNat (if neg then b + 2 ^ (63 : Nat) else b))

def infinity (neg : Bool) : Float :=
  Float.ofBits (UInt64.ofNat (if neg then 0xFFF0000000000000 else 0x7FF0000000000000))

def notANumber : Float := Float.ofBits 0x7FF8000000000000

/-- Number of decimal digits of `n`, with `0` having one. -/
def decimalLength (n : Nat) : Nat := (Nat.toDigits 10 n).length

/-- The double nearest to `(-1)^neg · digits · 10^exp`. Exponents far outside the range of
doubles give zero or infinity at once. -/
def ofDecimal (neg : Bool) (digits : Nat) (exp : Int) : Float :=
  if digits == 0 then nearest neg 0 1
  else if (decimalLength digits : Int) + exp > 400 then infinity neg
  else if (decimalLength digits : Int) + exp < -400 then nearest neg 0 1
  else nearest neg (digits * pow10 exp) (pow10 (-exp))

/-- The double nearest to an integer, or `none` when it rounds past the largest double. -/
def ofInt? (i : Int) : Option Float :=
  let b := nearestBits i.natAbs 1
  if b == 0x7FF0000000000000 then none
  else some (Float.ofBits (UInt64.ofNat (if i < 0 then b + 2 ^ (63 : Nat) else b)))

/-- The integer part of a finite value, cut toward zero. -/
def Binary.truncate : Binary → Option Int
  | .finite neg m e =>
    let n : Nat := if e ≥ 0 then m * pow2 e else m / pow2 (-e)
    some (if neg then -(n : Int) else n)
  | _ => none

theorem divRoundEven_le (n d : Nat) : n / d ≤ divRoundEven n d := by
  simp only [divRoundEven]
  split <;> omega

theorem divRoundEven_exact (n d : Nat) (h : n % d = 0) (hd : 0 < d) :
    divRoundEven n d = n / d := by
  simp [divRoundEven, h]
  omega

end SeriesImport.Number
