import SeriesImport.Point
/-!
# Import context and actions

An import reads one file as a state machine. The context is its state: the phase (schema
definition, then data), the database and retention policy written to, the measurement, where
the tag, field and time columns stand in the current header, and the data waiting to be
written together with the target it was gathered for. Target and measurement come from
directives as texts, or from the settings as whatever values they hold; a column is named by
the value it was configured or found under.

Each step on a unit of input gives an action for the importer to carry out: nothing, a query,
lines to queue, or points to queue.
-/

namespace SeriesImport

/-- The phase of an import: schema definition, then data. -/
inductive Phase where
  | ddl
  | dml
  deriving DecidableEq, Inhabited

/-- Where a named column stands in a header. The empty name at `-1` stands for none. -/
structure Column where
  name : Value
  pos : Int
  deriving Inhabited

def Column.none : Column := ⟨.str "", -1⟩

/-- Whether a column was found in a header: it has a name other than the empty text and a
place. -/
def Column.resolved (c : Column) : Bool := !c.name.equals (.str "") && decide (0 ≤ c.pos)

/-- The state of an import of one file. -/
structure Context where
  phase : Phase := .ddl
  database : Value := .str ""
  retentionPolicy : Value := .str ""
  measurement : Value := .str ""
  tagMap : List (Value × Column) := []
  fieldMap : List (Value × Column) := []
  timeField : Column := Column.none
  pendingLines : List String := []
  pendingPoints : List Point := []
  pendingTarget : Option (Value × Value) := none
  deriving Inhabited

def Context.target (c : Context) : Value × Value := (c.database, c.retentionPolicy)

/-- Whether two parts of targets are the same. A target is compared with a target copied from
the same context, so a part not replaced since is one value both times and matches itself, even
when it holds a not-a-number, which equals nothing: such a part is told by its literal form. -/
def samePart (a b : Value) : Bool :=
  a.equals b || (!b.equals b && a.literal == b.literal)

def sameTarget (a b : Value × Value) : Bool := samePart a.1 b.1 && samePart a.2 b.2

def Context.hasPending (c : Context) : Bool := !c.pendingLines.isEmpty || !c.pendingPoints.isEmpty

def Context.resetColumns (c : Context) : Context :=
  { c with tagMap := [], fieldMap := [], timeField := Column.none }

/-- What a step asks the importer to do. -/
inductive Action where
  /-- Nothing: the unit only changed the context, or was ignored. -/
  | noop
  /-- Run a query. -/
  | query (command : String)
  /-- Queue lines of line protocol. -/
  | lines (lines : List String)
  /-- Queue points. -/
  | points (points : List Point)
  deriving Inhabited

theorem resetColumns_timeField (c : Context) : c.resetColumns.timeField.resolved = false := by
  simp [Context.resetColumns, Column.resolved, Column.none, Value.equals, Value.isContainer,
    Value.sameScalar]

end SeriesImport
