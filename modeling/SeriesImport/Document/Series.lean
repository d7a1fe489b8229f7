import SeriesImport.Context
import SeriesImport.Settings
import SeriesImport.Field
/-!
# Importing series documents

A series document holds series: a name, tags, the names of its columns and rows of values. The
start of the records array takes the target and the measurement from the settings, with
`autogen` for a missing retention policy, moves the import to data, and asks to create the
database if one is named.

Each series maps its own columns: the column `time` holds the time, every other column is a
field, each named by its text. Each row becomes one line: the series name (or the configured
measurement) with its tags, then the fields in column order, then the time if the row has one.
A missing cell and a cell that is neither text, number nor truth value are written as empty
text; texts are quoted; a time is kept as a number, or an RFC 3339 instant is written in the
configured precision.

The members of a record are used as values whose kind is not known: an array is iterated item
by item, an object name by name and a text character by character, and anything else cannot be
iterated. The head of a line grows by `,key=value` for each tag. A text grows into a new text;
a list grows in place by the characters, so when the head is the measurement of the context,
which is the list of the settings, both see it grown.
-/

namespace SeriesImport.Document

/-- A member of a record, with absent and empty members replaced by `dflt`. -/
def memberOr (ms : List (Value × Value)) (k : String) (dflt : Value) : Value :=
  match getKey? ms k with
  | some v => if v.truthy then v else dflt
  | none => dflt

/-- The members of a value that must be a dictionary. -/
def itemsOf (v : Value) : Except Error (List (Value × Value)) :=
  match v with
  | .dict ms => .ok ms
  | v => .error (.missingAttribute ("'" ++ v.typeName ++ "' object has no attribute 'items'"))

/-- The step on the start of a records array. -/
def start (c : Context) (s : Settings) : Context × Action :=
  let c := { c with
    database := s.database
    retentionPolicy := if s.retentionPolicy.truthy then s.retentionPolicy else .str "autogen"
    measurement := s.measurement
    phase := .dml }
  (c, if s.database.truthy then .query ("CREATE DATABASE " ++ s.database.display) else .noop)

/-- Set the column of a name, keeping the place of a name set before. -/
def putColumn (m : List (Value × Column)) (name : String) (col : Column) :
    List (Value × Column) :=
  if m.any (·.1.equals (.str name)) then
    m.map fun (k, d) => if k.equals (.str name) then (k, col) else (k, d)
  else m ++ [(.str name, col)]

/-- Map the columns of a series: `time` is the time column, the others are fields. -/
def mapColumns (names : List Value) (c : Context) : Context :=
  names.zipIdx.foldl (fun c (v, pos) =>
    let name := v.display
    if name == "time" then { c with timeField := ⟨.str name, pos⟩ }
    else { c with fieldMap := putColumn c.fieldMap name ⟨.str name, pos⟩ }) c.resetColumns

def growHead (head : Value) (tags : List (Value × Value)) : Except Error Value :=
  tags.foldlM (fun h (k, v) => h.appendText ("," ++ k.display ++ "=" ++ v.display)) head

/-- Grow the head of the context's measurement: a list grows in place, so the context and the
settings it shares the list with see it grown. -/
def growShared (c : Context) (s : Settings) (tags : List (Value × Value)) :
    Context × Settings × Except Error Value :=
  match growHead c.measurement tags with
  | .ok grown@(.list _) =>
    ({ c with measurement := grown }, { s with measurement := grown }, .ok grown)
  | r => (c, s, r)

def cellIn (row : List Value) (col : Column) : Option Value :=
  if col.pos < 0 then none else row[col.pos.toNat]?

/-- The line of one row. -/
def rowLine (head : Value) (row : List Value) (c : Context) (s : Settings) :
    Except Error String := do
  let fields := ",".intercalate (c.fieldMap.map fun (name, col) =>
    name.display ++ "=" ++ FieldValue.render ((cellIn row col).bind FieldValue.ofValue?))
  let line := head.display ++ " " ++ fields
  if c.timeField.resolved then
    let v := (cellIn row c.timeField).bind FieldValue.ofValue?
    let ts ← FieldValue.renderTime v (.int (← s.timeMultiplier))
    pure (if ts.isEmpty then line else line ++ " " ++ ts)
  else pure line

/-- The message that no field is left, showing the series name cut short. -/
def noFields (name : Value) : Error :=
  match name with
  | .str n => .parse "no fields input" none n
  | v => match v.headLiteral 100 with
    | .ok shown => .parse ("no fields input (" ++ shown ++ ")") none ""
    | .error e => e

/-- The lines of the rows of a series under a head. -/
def seriesLines (ms : List (Value × Value)) (head : Value) (c : Context) (s : Settings) :
    Except Error Action := do
  let rows ← (memberOr ms "values" (.list [])).iterate
  let lines ← rows.mapM fun row =>
    match row with
    | .list cells => rowLine head cells c s
    | v => throw (.parse ("series value row must be an array: " ++ v.literal) none "")
  pure (if lines.isEmpty then .noop else .lines lines)

/-- The step on a series record. -/
def seriesStep (record : Value) (c : Context) (s : Settings) :
    Context × Settings × Except Error Action :=
  match record with
  | .dict ms =>
    let own := memberOr ms "name" .null
    let name := if own.truthy then own else c.measurement
    if !name.truthy then (c, s, .error (.parse "measurement is required" none ""))
    else
      match (memberOr ms "columns" (.list [])).iterate with
      | .error e => (c.resetColumns, s, .error e)
      | .ok columns =>
        let c := mapColumns columns c
        if c.fieldMap.isEmpty then (c, s, .error (noFields name))
        else
          match itemsOf (memberOr ms "tags" (.dict [])) with
          | .error e => (c, s, .error e)
          | .ok tags =>
            let (c, s, head) :=
              if own.truthy then (c, s, growHead own tags) else growShared c s tags
            (c, s, do seriesLines ms (← head) c s)
  | v => (c, s, .error (.parse ("series record must be an object, got " ++ v.kindName) none ""))

theorem start_phase (c : Context) (s : Settings) : (start c s).1.phase = .dml := rfl

end SeriesImport.Document
