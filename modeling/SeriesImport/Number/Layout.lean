import SeriesImport.Number.Shortest
/-!
# Writing a double

A double is written from its shortest digits. A layout decides where the decimal point
stands: positionally, or after the first digit with a power of ten behind (`1e+22`), and
whether a whole number keeps a point and a zero. Not-a-number is `nan` and the infinities are
`inf` and `-inf` in every layout.

Two layouts are in use. `Layout.exact` writes a value as a reader of program text would:
positionally while the decimal exponent lies in `-4 ≤ x < 16`, always with a point. `Layout.plain`
never uses an exponent and writes whole numbers without a point.
-/

namespace SeriesImport.Number

/-- Where the point stands and how whole numbers end. -/
structure Layout where
  /-- Decimal exponents `x` (value in `[10^x, 10^(x+1))`) written positionally. -/
  positional : Int → Bool
  /-- Whole numbers end in `.0`. -/
  pointZero : Bool

/-- The layout of exact program text: the fewest digits, positional for `-4 ≤ x < 16`. -/
def Layout.exact : Layout := ⟨fun x => -4 ≤ x && x < 16, true⟩

/-- The plain layout: always positional, no point on whole numbers. -/
def Layout.plain : Layout := ⟨fun _ => true, false⟩

def digitChars (n : Nat) : List Char := Nat.toDigits 10 n

/-- Write the positive decimal `d` (no trailing zeros) in a layout. -/
def Layout.writeDecimal (l : Layout) (d : Decimal) : String :=
  let ds := digitChars d.digits
  let n := ds.length
  let point : Int := d.exp + n
  if l.positional (point - 1) then
    if point ≤ 0 then
      String.ofList ('0' :: '.' :: (List.replicate (-point).toNat '0' ++ ds))
    else if point < n then
      String.ofList (ds.take point.toNat ++ '.' :: ds.drop point.toNat)
    else
      String.ofList (ds ++ List.replicate (point.toNat - n) '0') ++
        (if l.pointZero then ".0" else "")
  else
    let x := point - 1
    let mant := match ds with
      | [] => []
      | [c] => [c]
      | c :: rest => c :: '.' :: rest
    let expDigits := digitChars x.natAbs
    let expDigits := if expDigits.length < 2 then '0' :: expDigits else expDigits
    String.ofList (mant ++ 'e' :: (if x < 0 then '-' else '+') :: expDigits)

/-- Write a double in a layout. -/
def Layout.write (l : Layout) (x : Float) : String :=
  match Binary.ofFloat x with
  | .nan => "nan"
  | .infinite neg => if neg then "-inf" else "inf"
  | .finite neg m e =>
    let sign := if neg then "-" else ""
    if m == 0 then sign ++ (if l.pointZero then "0.0" else "0")
    else sign ++ l.writeDecimal (shortest m e)

end SeriesImport.Number
