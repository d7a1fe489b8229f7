import SeriesImport.InputFile
import SeriesImport.Csv.Rows
import SeriesImport.Json.Records
/-!
# Input formats

An import reads one of four formats. Line protocol is read line by line, with directive lines
among the data. Comma-separated files have a header row, then one row per point; comment lines
are dropped before the rows are read, whatever they stand in. Series documents and result
documents hold their records in an array under `series` or `result`, somewhere in the
document; the records come after a marker that the array begins.

A format reads its file as a list of units. When reading stops at a fault, the units before it
are kept, and the fault comes after them.
-/

namespace SeriesImport

/-- How batches are written: as lines of text, or as columns. -/
inductive Transport where
  | row
  | column
  deriving DecidableEq, Inhabited

/-- The formats an import reads. -/
inductive InputFormat where
  /-- Line protocol with directives. -/
  | lineProtocol
  /-- Comma-separated values with a header row. -/
  | csv
  /-- Series documents: named series with columns and rows of values. -/
  | series
  /-- Result documents: metrics with samples of time and value. -/
  | result
  deriving DecidableEq, Inhabited

/-- The name of a format. -/
def InputFormat.name : InputFormat → String
  | .lineProtocol => "line_protocol"
  | .csv => "csv"
  | .series => "jsoni"
  | .result => "jsonp"

/-- The transport a format must be written with, if any. -/
def InputFormat.forcedTransport : InputFormat → Option Transport
  | .lineProtocol => none
  | .csv => some .column
  | .series => some .row
  | .result => some .row

/-- One unit of input: what one step of an import takes. A line format reads lines as texts
without their ends, a comma-separated format reads rows as lists of texts, and a document
format reads its records as they are. -/
inductive Entry where
  /-- The start of a document's records array, with the name it is stored under. -/
  | arrayStart (key : String)
  /-- A line, a row or a record. -/
  | unit (value : Value)
  deriving Inhabited

/-- The name the records of a document format are stored under. -/
def InputFormat.recordsKey : InputFormat → String
  | .result => "result"
  | _ => "series"

/-- Whether a line is a comment of a comma-separated file: its first character after blanks
is `#`. -/
def isCommentLine (line : String) : Bool := (Text.stripStart line).toList.head? == some '#'

/-- The units of a document text, after the marker that the records begin. -/
def documentEntries (text : String) (key : String) : List Entry × Option Error :=
  match Json.records text key with
  | .ok xs => (.arrayStart key :: xs.map .unit, none)
  | .error e => ([], some e)

/-- Read the units of a file in a format, with the fault that stopped reading, if any. The
outer failure is a file that cannot be opened. -/
def InputFormat.read (f : InputFormat) (file : InputFile) :
    Except Error (List Entry × Option Error) :=
  match f with
  | .lineProtocol => do
    let (ls, fault) ← file.lines
    pure (ls.map fun l => .unit (.str (Text.dropLineEnd l)), fault)
  | .csv => do
    let (ls, fault) ← file.lines
    let rows := Csv.rows fault.isNone (ls.filter fun l => !isCommentLine l)
    pure (rows.map fun cells => .unit (.list (cells.map .str)), fault)
  | .series | .result => do
    let r ← file.read
    match r.fault with
    | some e => pure ([], some e)
    | none => pure (documentEntries r.text f.recordsKey)

theorem read_missing_file (f : InputFormat) (name : String) :
    (f.read ⟨name, none⟩).toOption = none := by
  cases f <;> rfl

end SeriesImport
