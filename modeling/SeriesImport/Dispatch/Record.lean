import SeriesImport.Point
import SeriesImport.Value.Access
/-!
# Column records and write requests

A column write sends records, one per measurement. A record holds its rows column by column:
the timestamps, and one column per tag and per field name, in the order the names were first
seen over the rows. A row without a value for a column has none there, so every column has one
entry per row. Names of tags and fields are keys, so they must be values that can be keys.

A request builder collects records for one database and retention policy, with the credentials
last given to it; building hands out the collected records and starts over. A registry keeps one
builder per key `database.retention_policy`, made on first use; two targets with the same key
share a builder.
-/

namespace SeriesImport.Dispatch

-- Sums of naturals start from the core zero, also where Mathlib's is in scope.
attribute [local instance (high + 1)] Zero.ofOfNat0

/-- One row of a record before it is turned into columns. -/
structure RecordLine where
  tags : List (Value × Value)
  fields : List (Value × Value)
  timestamp : Value

/-- Set a member by a name that must be able to be a key. -/
def putKeyed (m : List (Value × Value)) (kv : Value × Value) :
    Except Error (List (Value × Value)) := do
  kv.1.requireKey
  pure (putEntry m kv.1 kv.2)

/-- A row from tags and fields given one by one: a name given again takes the later value. -/
def RecordLine.make (tags fields : List (Value × Value)) (timestamp : Value) :
    Except Error RecordLine := do
  pure ⟨← tags.foldlM putKeyed [], ← fields.foldlM putKeyed [], timestamp⟩

def RecordLine.ofPoint (p : Point) : Except Error RecordLine :=
  RecordLine.make p.tags p.fields p.timestamp

/-- The values of one tag or field over the rows of a record. -/
structure Cells where
  name : Value
  values : List (Option Value)

/-- Rows of one measurement, column by column. -/
structure Record where
  measurement : Value
  timestamps : List Value
  tags : List (Value × Cells)
  fields : List (Value × Cells)

def Record.rowCount (r : Record) : Nat := r.timestamps.length

/-- Names in the order first seen, each once. -/
def firstSeen (names : List Value) : List Value :=
  names.foldl (fun acc n => if acc.any n.equals then acc else acc ++ [n]) []

/-- The columns of some names over rows, each row giving its members by `part`. -/
def columnsOf (lines : List RecordLine) (part : RecordLine → List (Value × Value)) :
    List (Value × Cells) :=
  (firstSeen (lines.flatMap fun l => (part l).map (·.1))).map fun n =>
    (n, ⟨n, lines.map fun l => entryValue? (part l) n⟩)

def Record.build (measurement : Value) (lines : List RecordLine) : Record :=
  ⟨measurement, lines.map (·.timestamp), columnsOf lines (·.tags), columnsOf lines (·.fields)⟩

/-- A built column write request. -/
structure WriteRequest where
  database : Value
  retentionPolicy : Value
  records : List Record
  username : Value
  password : Value

def WriteRequest.rowCount (w : WriteRequest) : Nat := (w.records.map Record.rowCount).sum

/-- Records gathered for one target, with the credentials last given. -/
structure RequestBuilder where
  database : Value
  retentionPolicy : Value
  username : Value
  password : Value
  records : List Record

def RequestBuilder.new (database retentionPolicy : Value) : RequestBuilder :=
  ⟨database, retentionPolicy, .str "", .str "", []⟩

def RequestBuilder.authenticate (b : RequestBuilder) (username password : Value) : RequestBuilder :=
  { b with username, password }

def RequestBuilder.addRecord (b : RequestBuilder) (r : Record) : RequestBuilder :=
  { b with records := b.records ++ [r] }

def RequestBuilder.build (b : RequestBuilder) : WriteRequest × RequestBuilder :=
  (⟨b.database, b.retentionPolicy, b.records, b.username, b.password⟩, { b with records := [] })

/-- Request builders by key. -/
structure BuilderRegistry where
  builders : List (String × RequestBuilder)

/-- The key of a target: the database and retention policy shown as text, joined by a dot. -/
def BuilderRegistry.key (database retentionPolicy : Value) : String :=
  database.display ++ "." ++ retentionPolicy.display

/-- The builder of a target, made and kept if there is none under its key. -/
def BuilderRegistry.get (r : BuilderRegistry) (database retentionPolicy : Value) :
    RequestBuilder × BuilderRegistry :=
  let k := BuilderRegistry.key database retentionPolicy
  match r.builders.find? (·.1 == k) with
  | some (_, b) => (b, r)
  | none =>
    let b := RequestBuilder.new database retentionPolicy
    (b, ⟨r.builders ++ [(k, b)]⟩)

def BuilderRegistry.put (r : BuilderRegistry) (k : String) (b : RequestBuilder) : BuilderRegistry :=
  ⟨r.builders.map fun (k', b') => if k' == k then (k', b) else (k', b')⟩

/-- The keys, sorted. -/
def BuilderRegistry.keys (r : BuilderRegistry) : List String :=
  (r.builders.map (·.1)).mergeSort fun a b => decide (a ≤ b)

def BuilderRegistry.contains (r : BuilderRegistry) (k : String) : Bool :=
  r.builders.any (·.1 == k)

theorem build_rowCount (m : Value) (lines : List RecordLine) :
    (Record.build m lines).rowCount = lines.length := by
  simp [Record.build, Record.rowCount]

end SeriesImport.Dispatch
