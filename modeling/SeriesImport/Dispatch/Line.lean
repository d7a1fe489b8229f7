import SeriesImport.Point
import SeriesImport.Field
import SeriesImport.Number.Finite
import SeriesImport.Value.Access
/-!
# Points as line protocol

A point is written as one line: the measurement with commas and spaces escaped, each tag as
`,key=value` with commas, equal signs and spaces escaped in both, a space, the fields as
`key=value` joined by commas, a space, and the timestamp as it shows. The measurement and the
names of tags and fields are escaped by a text method, so they must be texts; a tag value is
shown as text first.

A field value is written by its kind: a truth value as `true` or `false`, an integer with the
suffix `i`, a double in plain positional form. Any other value is taken as text; text that
reads as a truth value or a finite number is written bare after stripping blanks, other text is
quoted with backslashes before backslashes and double quotes.

An integer is shown as text only up to 4300 digits; a longer one, as timestamp, tag value or
field, makes the line fail with a value error.
-/

namespace SeriesImport.Dispatch

def escapeChars (special : List Char) (s : String) : String :=
  String.ofList (s.toList.flatMap fun c => if special.contains c then ['\\', c] else [c])

def escapeMeasurement (s : String) : String := escapeChars [',', ' '] s

def escapeKey (s : String) : String := escapeChars [',', '=', ' '] s

def truthLiterals : List String :=
  ["t", "T", "true", "True", "TRUE", "f", "F", "false", "False", "FALSE"]

/-- The message of an integer with too many digits to be shown as text. -/
def intTextLimitMessage : String :=
  "Exceeds the limit (4300 digits) for integer string conversion; " ++
    "use sys.set_int_max_str_digits() to increase the limit"

/-- The text of an integer; one of more digits than an integer is shown with is refused. -/
def intText (i : Int) : Except Error String :=
  if Number.intDigitLimit < (toString i.natAbs).length then .error (.badValue intTextLimitMessage)
  else .ok (toString i)

/-- The text a value shows as, an integer with too many digits refused. -/
def shownText : Value → Except Error String
  | .int i => intText i
  | v => .ok v.display

/-- The text of a field value in a written line. -/
def renderField (v : Value) : Except Error String :=
  match v with
  | .bool b => .ok (if b then "true" else "false")
  | .int i => return (← intText i) ++ "i"
  | .float x => .ok (plainFloat x)
  | v =>
    let text := v.display
    if truthLiterals.contains text || (Number.Finite.read? text).isSome then .ok (Text.strip text)
    else .ok ("\"" ++ escapeChars ['\\', '"'] text ++ "\"")

/-- The line of a point. -/
def Point.toLine (p : Point) : Except Error String := do
  let measurement ← p.measurement.textFor "translate"
  let head ← p.tags.foldlM (fun h (k, v) => do
    pure (h ++ "," ++ escapeKey (← k.textFor "translate") ++ "=" ++ escapeKey (← shownText v)))
    (escapeMeasurement measurement)
  let fields ← p.fields.mapM fun (k, v) => do
    pure (escapeKey (← k.textFor "translate") ++ "=" ++ (← renderField v))
  pure (head ++ " " ++ ",".intercalate fields ++ " " ++ (← shownText p.timestamp))

theorem renderField_int (i : Int) : renderField (.int i) = (· ++ "i") <$> intText i := rfl

end SeriesImport.Dispatch
