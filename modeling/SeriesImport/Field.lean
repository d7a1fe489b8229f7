import SeriesImport.Value.Arith
import SeriesImport.Time.Instant
import SeriesImport.Number.Layout
/-!
# Field values

A value used as a field is a text, a double, an integer or a truth value; anything else is no
field value. Each is written as line protocol text: doubles in plain positional form
(`nan`, `inf` and `-inf` for the others), integers in decimal, truth values as `true` and
`false`, texts between double quotes as they are, and a missing value as two quotes.

A value used as a timestamp is written without scaling when it is a number. A text must name an
RFC 3339 instant, which is written in units of the precision, rounded down; any other value,
and a text that names no instant, is written as nothing.
-/

namespace SeriesImport

open SeriesImport.Number

/-- A typed field value. -/
inductive FieldValue where
  | str (s : String)
  | float (x : Float)
  | int (i : Int)
  | bool (b : Bool)
  deriving Inhabited

/-- The field value a document value stands for, if any. -/
def FieldValue.ofValue? : Value → Option FieldValue
  | .bool b => some (.bool b)
  | .int i => some (.int i)
  | .float x => some (.float x)
  | .str s => some (.str s)
  | _ => none

def plainFloat (x : Float) : String := Layout.plain.write x

/-- Line protocol text of a field value; a missing value is two quotes. -/
def FieldValue.render : Option FieldValue → String
  | some (.float x) => plainFloat x
  | some (.int i) => toString i
  | some (.bool b) => if b then "true" else "false"
  | some (.str s) => "\"" ++ s ++ "\""
  | none => "\"\""

/-- Line protocol text of a timestamp value at a precision given by its multiplier; empty when
the value names no time. A time text is floor-divided by the multiplier, which fails for a
multiplier of zero or of the wrong kind. -/
def FieldValue.renderTime (v : Option FieldValue) (multiplier : Value) : Except Error String :=
  match v with
  | some (.int i) => .ok (toString i)
  | some (.float x) => .ok (plainFloat x)
  | some (.str s) => do
    match ← Time.parseInstant s with
    | some ns => pure (← Value.floorDivInt ns multiplier).display
    | none => pure ""
  | _ => .ok ""

theorem render_int (i : Int) : FieldValue.render (some (.int i)) = toString i := rfl

end SeriesImport
