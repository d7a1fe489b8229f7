import SeriesImport.Value.Access
import SeriesImport.Number.Binary
/-!
# Scaling by a multiplier

An integer times a value, and an integer floor-divided by one, as the language of the settings
computes them; this is how timestamps move between a precision and nanoseconds.

An integer or truth value gives an integer, and floor division by zero fails. A double first
turns the integer into the nearest double, which fails when the integer is too large for one.
The product is then rounded once. The floor quotient is built from the exact remainder: the
remainder is moved to the sign of the divisor, the difference over the divisor is rounded and
then snapped to the nearest whole number, and a zero quotient takes the sign of the true one. A text, byte string or list times an integer is repeated, and is empty for a count
that is not positive. Any other value cannot take part.
-/

namespace SeriesImport

open SeriesImport.Number

-- Naturals are raised to powers with the core instance, also where Mathlib's monoid power is
-- in scope; a literal exponent is written as a natural, so that no default power claims it.
attribute [local instance (high + 1)] instPowNat

/-- The largest size a sequence can have. -/
def sizeLimit : Nat := 2 ^ (63 : Nat) - 1

/-- The most items a repeated sequence is built with; a larger one cannot be held. -/
def buildLimit : Nat := 2 ^ (30 : Nat)

/-- The remainder of `x` by `y` cut toward zero, exactly. It has the sign of `x`, and it is a
double: below `|y|`, on the grid of the finer of the two exponents. An infinite or missing
operand gives not-a-number, except a finite `x` by an infinite `y`, which is `x`. -/
def truncRemainder (x y : Float) : Float :=
  match Binary.ofFloat x, Binary.ofFloat y with
  | .finite nx a p, .finite _ b q =>
    if b == 0 then notANumber
    else
      let e := min p q
      let r := (a * pow2 (p - e)) % (b * pow2 (q - e))
      nearest nx (r * pow2 e) (pow2 (-e))
  | .finite .., .infinite _ => x
  | _, _ => notANumber

def signBit (x : Float) : Bool := x.toBits >>> 63 == 1

def signedZero (x : Float) : Float := if signBit x then -0.0 else 0.0

/-- The floor quotient of two doubles, the divisor not zero. The difference of `x` and its
remainder is a multiple of `y`, so the rounded quotient lies within rounding of a whole number;
the snap picks it. -/
def floorQuotient (x y : Float) : Float :=
  let m := truncRemainder x y
  let d := (x - m) / y
  let d := if m != 0 && (y < 0) != (m < 0) then d - 1 else d
  if d != 0 then
    let f := d.floor
    if d - f > 0.5 then f + 1 else f
  else signedZero (x / y)

/-- How many times a sequence of `size` items is repeated for a count `n`, or why it cannot be:
the count must fit a size, and `tooLong` is the failure when the total passes the limit. -/
def repeatCount (n : Int) (size : Nat) (tooLong : Error) : Except Error Nat :=
  if n > sizeLimit || n < -((sizeLimit : Int) + 1) then
    .error (.overflow "cannot fit 'int' into an index-sized integer")
  else if n ≤ 0 || size == 0 then .ok 0
  else if size > sizeLimit / n.toNat then .error tooLong
  else if size * n.toNat > buildLimit then .error .outOfMemory
  else .ok n.toNat

def repeatList {α : Type} (k : Nat) (xs : List α) : List α := (List.replicate k xs).flatten

namespace Value

/-- The message for operands that an operator cannot take. -/
def unsupported (op : String) (v : Value) : Error :=
  .wrongKind ("unsupported operand type(s) for " ++ op ++ ": 'int' and '" ++ v.typeName ++ "'")

/-- The double nearest an integer, or the failure for one too large. -/
def intAsFloat (n : Int) : Except Error Float :=
  match ofInt? n with
  | some x => .ok x
  | none => .error .floatOverflow

/-- `n * v`. -/
def timesInt (n : Int) : Value → Except Error Value
  | .int m => .ok (.int (n * m))
  | .bool b => .ok (.int (if b then n else 0))
  | .float x => do pure (.float ((← intAsFloat n) * x))
  | .str s => do
    let k ← repeatCount n s.length (.overflow "repeated string is too long")
    pure (.str (String.ofList (repeatList k s.toList)))
  | .bytes bs => do
    let k ← repeatCount n bs.length (.overflow "repeated bytes are too long")
    pure (.bytes (repeatList k bs))
  | .list items => do
    let k ← repeatCount n items.length .outOfMemory
    pure (.list (repeatList k items))
  | v => .error (unsupported "*" v)

/-- `n // v`, rounding the quotient down. -/
def floorDivInt (n : Int) : Value → Except Error Value
  | .int m => if m == 0 then .error .divisionByZero else .ok (.int (n.fdiv m))
  | .bool b => if b then .ok (.int n) else .error .divisionByZero
  | .float y => do
    let x ← intAsFloat n
    if y == 0 then throw .floatDivisionByZero
    pure (.float (floorQuotient x y))
  | v => .error (unsupported "//" v)

end Value

theorem timesInt_int (n m : Int) : Value.timesInt n (.int m) = .ok (.int (n * m)) := rfl

end SeriesImport
