import SeriesImport.Number.Read
import SeriesImport.Error
/-!
# Numbers found in text

A cell of text may hold a number: after stripping blanks it reads as an integer, or else as a
real that is neither not-a-number nor infinite; a run of digits too long for an integer is
read as a real. A number scales to nanoseconds by cutting it toward zero and multiplying by the
precision's multiplier; a double without integer part is an error.
-/

namespace SeriesImport.Number

/-- Read a decimal integer from text, failing as integer conversion does. -/
def readInt (s : String) : Except Error Int :=
  match readIntText s with
  | .value i => .ok i
  | .tooLong n => .error (.tooManyDigits n)
  | .malformed => .error (.notInteger s)

/-- A number read from text. -/
inductive Finite where
  | int (i : Int)
  | float (x : Float)
  deriving Inhabited

/-- Read a number from text, if it holds one: an integer first, then a finite real. -/
def Finite.read? (s : String) : Option Finite :=
  let t := Text.strip s
  if t.isEmpty then none
  else match readInt? t with
    | some i => some (.int i)
    | none =>
      match readReal? t with
      | some (.finite neg d x) =>
        let f := ofDecimal neg d x
        match Binary.ofFloat f with
        | .finite .. => some (.float f)
        | _ => none
      | _ => none

/-- The integer part of a double, cut toward zero. -/
def truncate (x : Float) : Except Error Int :=
  match Binary.ofFloat x with
  | .nan => .error .nanToInteger
  | .infinite _ => .error .infinityToInteger
  | b => .ok ((b.truncate).getD 0)

/-- A number at some precision, in nanoseconds: its integer part times the multiplier. -/
def Finite.scale (n : Finite) (multiplier : Int) : Except Error Int :=
  match n with
  | .int i => .ok (i * multiplier)
  | .float x => (truncate x).map (· * multiplier)

theorem scale_int (i m : Int) : (Finite.int i).scale m = .ok (i * m) := rfl

end SeriesImport.Number
