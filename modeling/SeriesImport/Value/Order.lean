import SeriesImport.Value
import SeriesImport.Error
/-!
# Ordering values

Values of some kinds are ordered. Numbers are ordered by their values, exactly, whatever kinds
hold them, and not-a-number is ordered with nothing. Texts and bytes are ordered character by
character, dates by their day, moments by their instant when both have offsets and by their
fields when neither has, and lists item by item: at the first items that are not equal, or by
length when one list begins the other. Values of other kinds, or of two kinds that do not
compare, are not ordered, and asking for their order is an error that names the comparison
and both kinds.

A list is sorted by inserting each value after the values it is not less than, so equal values
keep their order; a pair that does not compare fails the sort.
-/

namespace SeriesImport

open SeriesImport.Number

-- Naturals are raised to powers with the core instance, also where Mathlib's monoid power is
-- in scope.
attribute [local instance (high + 1)] instPowNat

/-- How a finite double `(-1)^neg · m · 2^e` compares with an integer. -/
def compareFinite (neg : Bool) (m : Nat) (e : Int) (i : Int) : Ordering :=
  let v : Int := if neg then -(m : Int) else m
  if e ≥ 0 then compare (v * 2 ^ e.toNat) i else compare v (i * 2 ^ (-e).toNat)

/-- How a double compares with an integer; `none` for not-a-number. -/
def compareFloatInt (x : Float) (i : Int) : Option Ordering :=
  match Binary.ofFloat x with
  | .nan => none
  | .infinite neg => some (if neg then .lt else .gt)
  | .finite neg m e => some (compareFinite neg m e i)

/-- How two doubles compare; `none` when not-a-number takes part. -/
def compareFloats (x y : Float) : Option Ordering :=
  if x < y then some .lt else if x == y then some .eq else if y < x then some .gt else none

/-- Bytes in order, the first difference deciding and a prefix coming first. -/
def compareBytes : List UInt8 → List UInt8 → Ordering
  | [], [] => .eq
  | [], _ :: _ => .lt
  | _ :: _, [] => .gt
  | a :: as, b :: bs => if a < b then .lt else if b < a then .gt else compareBytes as bs

namespace Value

/-- How two numbers compare: the outer `none` when one is no number, the inner `none` when
not-a-number takes part. -/
def compareNumbers (a b : Value) : Option (Option Ordering) :=
  match a, b with
  | .float x, .float y => some (compareFloats x y)
  | .float x, b => b.asInt?.map fun j => compareFloatInt x j
  | a, .float y => a.asInt?.map fun i => (compareFloatInt y i).map Ordering.swap
  | a, b => match a.asInt?, b.asInt? with
    | some i, some j => some (some (compare i j))
    | _, _ => none

mutual
/-- How two values are ordered: the outer `none` when their kinds do not compare, the inner
`none` when they compare but are not ordered. -/
def order? : Value → Value → Option (Option Ordering)
  | .str s, .str t => some (some (compare s t))
  | .bytes s, .bytes t => some (some (compareBytes s t))
  | .date y m d, .date y' m' d' =>
    some (some ((compare y y').then ((compare m m').then (compare d d'))))
  | .moment x, .moment y =>
    match x.offset, y.offset with
    | some o, some p =>
      some (some (compare (x.localMicros - o * 60000000) (y.localMicros - p * 60000000)))
    | none, none => some (some (compare x.localMicros y.localMicros))
    | _, _ => none
  | .list as, .list bs => listOrder? as bs
  | a, b => compareNumbers a b

/-- How two lists are ordered: by their first unequal items, or by length. -/
def listOrder? : List Value → List Value → Option (Option Ordering)
  | [], [] => some (some .eq)
  | [], _ :: _ => some (some .lt)
  | _ :: _, [] => some (some .gt)
  | a :: as, b :: bs => if a.equals b then listOrder? as bs else order? a b
end

/-- Compare two values with the operator `op`, true for the orders `holds` accepts; false when
they are not ordered, and an error when their kinds do not compare. -/
def compareWith (op : String) (holds : Ordering → Bool) (a b : Value) : Except Error Bool :=
  match a.order? b with
  | none => .error (.wrongKind ("'" ++ op ++ "' not supported between instances of '" ++
      a.typeName ++ "' and '" ++ b.typeName ++ "'"))
  | some none => .ok false
  | some (some o) => .ok (holds o)

def lt (a b : Value) : Except Error Bool := compareWith "<" (· == .lt) a b

def le (a b : Value) : Except Error Bool := compareWith "<=" (· != .gt) a b

def gt (a b : Value) : Except Error Bool := compareWith ">" (· == .gt) a b

def ge (a b : Value) : Except Error Bool := compareWith ">=" (· != .lt) a b

end Value

/-- Insert a value into a sorted list, after the values it is not less than. -/
def insertSorted (x : Value) : List Value → Except Error (List Value)
  | [] => .ok [x]
  | y :: ys => do
    if ← x.lt y then pure (x :: y :: ys) else pure (y :: (← insertSorted x ys))

/-- Sort values, equal values keeping their order. -/
def sortValues (xs : List Value) : Except Error (List Value) :=
  xs.foldlM (fun acc x => insertSorted x acc) []

theorem order?_int_self (i : Int) : (Value.int i).order? (.int i) = some (some .eq) := by
  simp [Value.order?, Value.compareNumbers, Value.asInt?]

end SeriesImport
