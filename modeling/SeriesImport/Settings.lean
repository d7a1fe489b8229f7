import SeriesImport.Value.Order
import SeriesImport.Value.Access
import SeriesImport.Text.Case
/-!
# Import settings

Settings say where the store is, what to write where, how to read the input and how to batch.
Every entry keeps the value it was given, whatever its kind, and each use of an entry treats it
the way the language of configuration files does: comparisons, lookups and text methods fail
on values that do not support them, when and only when they are used.

Settings come from a configuration document with sections `connection`, `target` and `import`,
where numbers are read as integers and the column switch as a truth value; from `TS_INGEST_*`
environment variables, where a number that does not read keeps its default; or entry by entry,
where an unknown entry is refused. Making settings compares the batch size with zero, and a
batch size that is not positive becomes 100; a format that counts as absent becomes
`line_protocol`. Names of tags and fields are given as a collection, each shown as text, or as
one text split at commas.

The precision names the unit of timestamps: `ns`, `us`, `ms` or `s`, with the empty text taken
as nanoseconds.
-/

namespace SeriesImport

/-- Settings of one import. -/
structure Settings where
  host : Value := .str "localhost"
  port : Value := .int 8086
  username : Value := .str ""
  password : Value := .str ""
  requestTimeoutMs : Value := .int 5000
  columnWritePort : Value := .int 8305
  database : Value := .str ""
  retentionPolicy : Value := .str ""
  measurement : Value := .str ""
  tags : Value := .list []
  fields : Value := .list []
  timeField : Value := .str "time"
  path : Value := .str ""
  format : Value := .str "line_protocol"
  precision : Value := .str "ns"
  batchSize : Value := .int 100
  columnWrite : Value := .bool false
  deriving Inhabited

def knownFormats : List String := ["csv", "jsoni", "jsonp", "line_protocol"]

/-- Nanoseconds per unit of a precision. -/
def precisionMultiplier? : String → Option Int
  | "ns" => some 1
  | "us" => some 1000
  | "ms" => some 1000000
  | "s" => some 1000000000
  | "" => some 1
  | _ => none

def badPrecision : String := "incorrect timestamp precision, only support (s, ms, us, ns)"

def isOneOf (v : Value) (names : List String) : Bool :=
  match v with
  | .str t => names.contains t
  | _ => false

/-- Nanoseconds per unit of a precision value, looked up by key: the value must be able to be
a key, and only the names of precisions are found. -/
def multiplierOf (p : Value) : Except Error (Option Int) := do
  p.requireKey
  match p with
  | .str t => pure (precisionMultiplier? t)
  | _ => pure none

namespace Settings

/-- Make the settings consistent: a batch size that is not positive becomes 100, and a format
that counts as absent becomes `line_protocol`. -/
def normalize (s : Settings) : Except Error Settings := do
  let small ← s.batchSize.le (.int 0)
  pure { s with
    batchSize := if small then .int 100 else s.batchSize
    format := if s.format.truthy then s.format else .str "line_protocol" }

/-- Nanoseconds per unit of the configured precision. -/
def timeMultiplier (s : Settings) : Except Error Int := do
  match ← multiplierOf s.precision with
  | some m => pure m
  | none => throw (.config badPrecision)

def dropTrailingSlashes (t : String) : String :=
  String.ofList (t.toList.reverse.dropWhile (· == '/')).reverse

/-- The address of the store: `http://` unless the host names a scheme, then the port. -/
def baseUrl (s : Settings) : Except Error String :=
  match s.host with
  | .str h =>
    let h := if h.startsWith "http://" || h.startsWith "https://" then h else "http://" ++ h
    .ok (dropTrailingSlashes h ++ ":" ++ s.port.display)
  | .bytes _ => .error (.wrongKind "a bytes-like object is required, not 'str'")
  | v => .error (.missingAttribute ("'" ++ v.typeName ++ "' object has no attribute 'startswith'"))

/-- The distinct members of a collection, the first of equal ones kept; each must be able to
be a key. -/
def distinctOf (v : Value) : Except Error (List Value) := do
  let items ← v.iterate
  items.foldlM (fun acc x => do
    x.requireKey
    pure (if acc.any x.equals then acc else acc ++ [x])) []

/-- The names that are both tags and fields, sorted. The members come from the smaller of the
two collections, from the fields when they are as many. -/
def overlap (tags fields : Value) : Except Error (List Value) := do
  let ts ← distinctOf tags
  let fs ← distinctOf fields
  let (outer, inner) := if fs.length > ts.length then (ts, fs) else (fs, ts)
  sortValues (outer.filter fun x => inner.any x.equals)

/-- Problems with the settings, in a fixed order. -/
def validate (s : Settings) : Except Error (List String) := do
  s.format.requireKey
  let formatProblem := if isOneOf s.format knownFormats then []
    else ["unknown format '" ++ s.format.display ++ "', must be one of: " ++
      ", ".intercalate knownFormats]
  let precisionProblem := if (← multiplierOf s.precision).isSome then [] else [badPrecision]
  let batchProblem := if ← s.batchSize.le (.int 0) then
    ["batch_size must be > 0, got " ++ s.batchSize.display] else []
  let portOk ← do
    if ← (Value.int 0).lt s.port then s.port.lt (.int 65536) else pure false
  let portProblem := if portOk then [] else ["port must be 1-65535, got " ++ s.port.display]
  let overlapProblems :=
    (← overlap s.tags s.fields).map (·.display ++ " is in both tags and fields")
  let dbProblem := if isOneOf s.format ["csv", "jsoni", "jsonp"] && !s.database.truthy then
    ["database is required for " ++ s.format.display ++ " import"] else []
  let mProblem := if isOneOf s.format ["csv", "jsonp"] && !s.measurement.truthy then
    ["measurement is required for " ++ s.format.display ++ " import"] else []
  pure (formatProblem ++ precisionProblem ++ batchProblem ++ portProblem ++ overlapProblems ++
    dbProblem ++ mProblem)

/-- The settings as a dictionary, with a password shown as `***` and the names of tags and
fields as lists. -/
def toDoc (s : Settings) : Except Error Value := do
  let tags ← s.tags.iterate
  let fields ← s.fields.iterate
  pure (.dict (textEntries [("host", s.host), ("port", s.port), ("username", s.username),
    ("password", .str (if s.password.truthy then "***" else "")),
    ("request_timeout_ms", s.requestTimeoutMs), ("column_write_port", s.columnWritePort),
    ("database", s.database), ("retention_policy", s.retentionPolicy),
    ("measurement", s.measurement), ("tags", .list tags), ("fields", .list fields),
    ("time_field", s.timeField), ("path", s.path), ("format", s.format),
    ("precision", s.precision), ("batch_size", s.batchSize), ("column_write", s.columnWrite)]))

/-- Set the entry of a name, if there is one. -/
def set? (s : Settings) (k : String) (v : Value) : Option Settings :=
  match k with
  | "host" => some { s with host := v }
  | "port" => some { s with port := v }
  | "username" => some { s with username := v }
  | "password" => some { s with password := v }
  | "request_timeout_ms" => some { s with requestTimeoutMs := v }
  | "column_write_port" => some { s with columnWritePort := v }
  | "database" => some { s with database := v }
  | "retention_policy" => some { s with retentionPolicy := v }
  | "measurement" => some { s with measurement := v }
  | "tags" => some { s with tags := v }
  | "fields" => some { s with fields := v }
  | "time_field" => some { s with timeField := v }
  | "path" => some { s with path := v }
  | "format" => some { s with format := v }
  | "precision" => some { s with precision := v }
  | "batch_size" => some { s with batchSize := v }
  | "column_write" => some { s with columnWrite := v }
  | _ => none

end Settings

/-- Settings given entry by entry, then made consistent; an unknown entry is refused. -/
def Settings.ofEntries (entries : List (String × Value)) : Except Error Settings := do
  let s ← entries.foldlM (fun (s : Settings) (k, v) =>
    match s.set? k v with
    | some s' => pure s'
    | none => throw (Error.wrongKind
        ("ImportSettings.__init__() got an unexpected keyword argument '" ++ k ++ "'"))) {}
  s.normalize

/-- A member of a dictionary, or a default; other values have no members to ask for. -/
def memberOr (d : Value) (k : String) (dflt : Value) : Except Error Value :=
  match d with
  | .dict entries => .ok ((getKey? entries k).getD dflt)
  | v => .error (.missingAttribute ("'" ++ v.typeName ++ "' object has no attribute 'get'"))

/-- A section of a configuration: its value when present, else an empty dictionary. -/
def sectionOf (config : Value) (name : String) : Except Error Value := do
  let v ← memberOr config name (.dict [])
  pure (if v.truthy then v else .dict [])

/-- Names given as one text split at commas, with blanks stripped and empty names dropped, or
as a collection whose members are shown as texts; nothing and the empty text give none. -/
def namesOf (v : Value) : Except Error Value := do
  if v.equals .null || v.equals (.str "") then return .list []
  match v with
  | .str t => pure (.list ((((t.splitOn ",").map Text.strip).filter (!·.isEmpty)).map .str))
  | v => pure (.list ((← v.iterate).map fun n => .str n.display))

/-- Settings from a configuration document, its sections read as the entries need them. -/
def Settings.ofDoc (config : Value) : Except Error Settings := do
  let conn ← sectionOf config "connection"
  let target ← sectionOf config "target"
  let imp ← sectionOf config "import"
  let host ← memberOr conn "host" (.str "localhost")
  let port ← (← memberOr conn "port" (.int 8086)).toInt
  let username ← memberOr conn "username" (.str "")
  let password ← memberOr conn "password" (.str "")
  let timeout ← (← memberOr conn "timeout_ms" (.int 5000)).toInt
  let columnPort ← (← memberOr imp "column_write_port" (.int 8305)).toInt
  let database ← memberOr target "database" (.str "")
  let retentionPolicy ← memberOr target "retention_policy" (.str "")
  let measurement ← memberOr target "measurement" (.str "")
  let tags ← namesOf (← memberOr target "tags" .null)
  let fields ← namesOf (← memberOr target "fields" .null)
  let timeField ← memberOr target "time_field" (.str "time")
  let path ← memberOr imp "path" (.str "")
  let format ← memberOr imp "format" (.str "line_protocol")
  let precision ← memberOr imp "precision" (.str "ns")
  let batch ← (← memberOr imp "batch_size" (.int 100)).toInt
  let columnWrite ← memberOr imp "column_write" (.bool false)
  Settings.normalize {
    host := host, port := .int port, username := username, password := password
    requestTimeoutMs := .int timeout, columnWritePort := .int columnPort, database := database
    retentionPolicy := retentionPolicy, measurement := measurement, tags := tags
    fields := fields, timeField := timeField, path := path, format := format
    precision := precision, batchSize := .int batch, columnWrite := .bool columnWrite.truthy }

/-- Names from a variable: one text split at commas, with blanks stripped and empty names
dropped. -/
def splitNames (t : String) : List Value :=
  (((t.splitOn ",").map Text.strip).filter (!·.isEmpty)).map .str

/-- Settings from environment variables; numbers that do not read keep their defaults. -/
def Settings.ofEnv (env : List (String × String)) : Settings :=
  let get (k d : String) : String := (env.find? (·.1 == k)).map (·.2) |>.getD d
  let getInt (k : String) (d : Int) : Int := (Number.readInt? (get k (toString d))).getD d
  let names (k : String) : Value := .list (splitNames (get k ""))
  let batch := getInt "TS_INGEST_BATCH_SIZE" 100
  let format := get "TS_INGEST_FORMAT" "line_protocol"
  { host := .str (get "TS_INGEST_HOST" "localhost")
    port := .int (getInt "TS_INGEST_PORT" 8086)
    username := .str (get "TS_INGEST_USERNAME" "")
    password := .str (get "TS_INGEST_PASSWORD" "")
    requestTimeoutMs := .int (getInt "TS_INGEST_TIMEOUT_MS" 5000)
    columnWritePort := .int (getInt "TS_INGEST_COLUMN_WRITE_PORT" 8305)
    database := .str (get "TS_INGEST_DATABASE" "")
    retentionPolicy := .str (get "TS_INGEST_RETENTION_POLICY" "")
    measurement := .str (get "TS_INGEST_MEASUREMENT" "")
    tags := names "TS_INGEST_TAGS"
    fields := names "TS_INGEST_FIELDS"
    timeField := .str (get "TS_INGEST_TIME_FIELD" "time")
    path := .str (get "TS_INGEST_PATH" "")
    format := .str (if format.isEmpty then "line_protocol" else format)
    precision := .str (get "TS_INGEST_PRECISION" "ns")
    batchSize := .int (if batch ≤ 0 then 100 else batch)
    columnWrite := .bool (Text.lower (get "TS_INGEST_COLUMN_WRITE" "false") == "true") }

theorem ofEntries_nil : Settings.ofEntries [] = .ok {} := by
  rfl

end SeriesImport
