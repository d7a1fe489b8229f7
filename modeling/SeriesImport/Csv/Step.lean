import SeriesImport.Context
import SeriesImport.Settings
import SeriesImport.Number.Finite
import SeriesImport.Time.Instant
/-!
# Importing comma-separated rows

The first row is the header. A byte order mark before its first name is dropped, and each name
stands at its first place in the header. The configured tags, fields and time column must all
be found there, and no name may be both a tag and a field; the other columns become fields only
when no fields are configured. The header needs a measurement in the settings and leaves at
least one field. It sets the target from the settings, with `autogen` for a missing retention
policy, moves the import to data, and asks to create the database if one is named.

Every later row that is present and has a cell which is not blank becomes one point, its cells
taken by position. A row too short for a column is an error that shows the row. The time cell
is a number in the configured precision, or an RFC 3339 instant, or else the time now.

Rows are whatever values the units are: a row is iterated for its cells, measured, and indexed,
and names are looked up as keys, each failing as those operations fail on values that do not
support them.
-/

namespace SeriesImport.Csv

/-- Each name of a header at its first place; every name must be able to be a key. -/
def positions (header : List Value) : Except Error (List (Value × Nat)) :=
  header.zipIdx.foldlM (fun acc (name, pos) => do
    name.requireKey
    pure (if acc.any (·.1.equals name) then acc else acc ++ [(name, pos)])) []

/-- The place of a name in a header; the name must be able to be a key. -/
def placeOf (pos : List (Value × Nat)) (name : Value) : Except Error (Option Nat) := do
  name.requireKey
  pure ((pos.find? (·.1.equals name)).map (·.2))

/-- Set the column of a name, keeping the place and the first form of an equal name. -/
def putColumn (m : List (Value × Column)) (name : Value) (c : Column) : List (Value × Column) :=
  if m.any (·.1.equals name) then m.map fun (k, d) => if k.equals name then (k, c) else (k, d)
  else m ++ [(name, c)]

/-- Map each configured name to its column, or fail with the message for a missing one. -/
def mapNames (pos : List (Value × Nat)) (names : List Value) (missing : Value → String) :
    Except Error (List (Value × Column)) :=
  names.foldlM (fun m name => do
    match ← placeOf pos name with
    | some p => pure (putColumn m name ⟨name, p⟩)
    | none => throw (.header (missing name))) []

/-- The first configured tag that is also a configured field, if any. -/
def tagInFields (tags : List Value) (fields : Value) : Except Error (Option Value) :=
  tags.foldlM (fun found name => do
    match found with
    | some _ => pure found
    | none => pure (if ← fields.contains name then some name else none)) none

/-- The tag, field and time columns of a header under the settings. -/
def resolveHeader (header : List Value) (s : Settings) :
    Except Error (List (Value × Column) × List (Value × Column) × Column) := do
  let pos ← positions header
  if let some name ← tagInFields (← s.tags.iterate) s.fields then
    throw (.header (name.display ++ " is in both tags and fields"))
  let tagMap ← mapNames pos (← s.tags.iterate) fun n =>
    "tag name (" ++ n.display ++ ") not in csv header"
  let fieldMap ← mapNames pos (← s.fields.iterate) fun n =>
    "field name (" ++ n.display ++ ") not in csv header"
  let timeName := s.timeField
  let some tp ← placeOf pos timeName
    | throw (.header ("time name not in csv header " ++ timeName.display))
  let rest := pos.filter fun (name, _) =>
    !(tagMap.any (·.1.equals name) || fieldMap.any (·.1.equals name) || name.equals timeName)
  let fieldMap := if s.fields.truthy then fieldMap
    else rest.foldl (fun m (e : Value × Nat) => putColumn m e.1 ⟨e.1, e.2⟩) fieldMap
  pure (tagMap, fieldMap, ⟨timeName, tp⟩)

/-- Drop byte order marks before the first name of a header, which must be a text. -/
def dropMark : List Value → Except Error (List Value)
  | [] => .ok []
  | first :: rest => do
    let t ← first.textFor "startswith"
    if t.startsWith "\uFEFF" then
      pure (.str (String.ofList (t.toList.dropWhile (· == '\uFEFF'))) :: rest)
    else pure (first :: rest)

/-- The step on a header row. -/
def headerStep (unit : Value) (c : Context) (s : Settings) : Except Error (Context × Action) := do
  let header ← dropMark (← unit.iterate)
  if !s.measurement.truthy then throw (.header "measurement is required")
  let (tagMap, fieldMap, timeField) ← resolveHeader header s
  if fieldMap.isEmpty then throw (.header "no fields input")
  let c := { c with
    tagMap, fieldMap, timeField
    measurement := s.measurement
    database := s.database
    retentionPolicy := if s.retentionPolicy.truthy then s.retentionPolicy else .str "autogen"
    phase := .dml }
  pure (c, if s.database.truthy then .query ("CREATE DATABASE " ++ s.database.display) else .noop)

/-- The cell of a row in a column. -/
def cellAt (row : Value) (col : Column) : Except Error Value := do
  let n ← row.length
  if col.pos ≥ n then
    let content ← row.joinWith ","
    throw (.parse ("row has " ++ toString n ++ " columns, column " ++ col.name.literal ++
      " expected at position " ++ toString col.pos) none content)
  row.index (.int col.pos)

/-- Whether every cell is blank, looking no further than the first that is not; each cell
looked at must be a text. -/
def allBlank : List Value → Except Error Bool
  | [] => .ok true
  | cell :: rest => do
    if (Text.strip (← cell.textFor "strip")).isEmpty then allBlank rest else pure false

/-- The time of a cell in nanoseconds: a number in the precision of `multiplier`, an RFC 3339
instant, or else `now`. -/
def cellTime (cell : String) (multiplier : Int) (now : Int) : Except Error Int :=
  match Number.Finite.read? cell with
  | some n => n.scale multiplier
  | none => do
    match ← Time.parseInstant cell with
    | some ns => pure ns
    | none => pure now

def cellsOf (row : Value) (m : List (Value × Column)) : Except Error (List (Value × Value)) :=
  m.mapM fun (name, col) => do pure (name, ← cellAt row col)

/-- The step on a data row. -/
def rowStep (unit : Value) (c : Context) (s : Settings) (now : Int) : Except Error Action := do
  if !unit.truthy then return .noop
  if ← allBlank (← unit.iterate) then return .noop
  let tags ← cellsOf unit c.tagMap
  let fields ← cellsOf unit c.fieldMap
  let timeCell ← cellAt unit c.timeField
  let multiplier ← s.timeMultiplier
  let ts ← cellTime (← timeCell.textFor "strip") multiplier now
  let p ← Point.make c.measurement tags fields (.int ts)
  pure (.points [p])

/-- One step of a comma-separated import. -/
def step (unit : Value) (c : Context) (s : Settings) (now : Int) : Context × Except Error Action :=
  match c.phase with
  | .ddl =>
    match headerStep unit c s with
    | .ok (c', a) => (c', .ok a)
    | .error e => (c, .error e)
  | .dml => (c, rowStep unit c s now)

theorem step_absent (c : Context) (s : Settings) (now : Int) (h : c.phase = .dml) :
    step .null c s now = (c, .ok .noop) := by
  simp [step, h, rowStep, Value.truthy]
  rfl

end SeriesImport.Csv
