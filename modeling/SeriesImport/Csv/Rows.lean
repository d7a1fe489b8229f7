/-!
# Rows of comma-separated text

Rows are read line by line with a small machine. Cells are parted by commas. A cell that
starts with a double quote runs to the next lone double quote, and may hold commas and line
ends; two double quotes inside it stand for one, and text after its closing quote is kept as
part of the cell. A line end outside quotes ends the row, a line with nothing on it is a row of
no cells, and one carriage return or line feed may follow another before the line is over.

A row breaks when a cell grows past `cellLimit` characters or when text follows a line end
within a line; such a row is dropped with the rest of its line, and reading goes on from the
next line. When the text ends inside a quoted cell, the cell and its row end there too, unless
the text was cut off by a fault.
-/

namespace SeriesImport.Csv

/-- Where the machine stands within a row. -/
inductive RowState where
  /-- Before the first character of a row. -/
  | startRecord
  /-- Before the first character of a cell. -/
  | startField
  /-- Within a cell without quotes. -/
  | inField
  /-- Within the quoted part of a cell. -/
  | inQuoted
  /-- Just after a double quote within the quoted part. -/
  | quoteInQuoted
  /-- After a line end, until the line is over. -/
  | eatLineEnd
  deriving DecidableEq, Inhabited

/-- The longest cell, in characters. -/
def cellLimit : Nat := 131072

/-- A row being read: the state, the finished cells in reverse, and the current cell in
reverse with its length. -/
structure RowReader where
  state : RowState
  cells : List String
  cell : List Char
  cellLength : Nat

def RowReader.start : RowReader := ⟨.startRecord, [], [], 0⟩

def RowReader.saveCell (r : RowReader) : RowReader :=
  { r with cells := String.ofList r.cell.reverse :: r.cells, cell := [], cellLength := 0 }

/-- Add a character to the current cell; `none` past the longest cell. -/
def RowReader.addChar (r : RowReader) (c : Char) : Option RowReader :=
  if r.cellLength ≥ cellLimit then none
  else some { r with cell := c :: r.cell, cellLength := r.cellLength + 1 }

def isLineEndChar (c : Char) : Bool := c == '\n' || c == '\r'

/-- Move the machine by one character, or by the end of a line (`none`); `none` when the row
breaks. -/
def RowReader.feed (r : RowReader) (input : Option Char) : Option RowReader :=
  let endRow (r : RowReader) : RowReader :=
    { r.saveCell with state := if input.isNone then .startRecord else .eatLineEnd }
  let startField (r : RowReader) : Option RowReader :=
    match input with
    | none => some (endRow r)
    | some c =>
      if isLineEndChar c then some (endRow r)
      else if c == '"' then some { r with state := .inQuoted }
      else if c == ',' then some r.saveCell
      else (r.addChar c).map fun r => { r with state := .inField }
  match r.state, input with
  | .startRecord, none => some r
  | .startRecord, some c =>
    if isLineEndChar c then some { r with state := .eatLineEnd }
    else startField { r with state := .startField }
  | .startField, _ => startField r
  | .inField, none => some (endRow r)
  | .inField, some c =>
    if isLineEndChar c then some (endRow r)
    else if c == ',' then some { r.saveCell with state := .startField }
    else r.addChar c
  | .inQuoted, none => some r
  | .inQuoted, some c =>
    if c == '"' then some { r with state := .quoteInQuoted } else r.addChar c
  | .quoteInQuoted, none => some (endRow r)
  | .quoteInQuoted, some c =>
    if c == '"' then (r.addChar c).map fun r => { r with state := .inQuoted }
    else if c == ',' then some { r.saveCell with state := .startField }
    else if isLineEndChar c then some (endRow r)
    else (r.addChar c).map fun r => { r with state := .inField }
  | .eatLineEnd, none => some { r with state := .startRecord }
  | .eatLineEnd, some c => if isLineEndChar c then some r else none

/-- Feed a line and its end; `none` when the row breaks. -/
def RowReader.feedLine (r : RowReader) (line : String) : Option RowReader :=
  match (line.toList.map some).foldlM RowReader.feed r with
  | some r => r.feed none
  | none => none

/-- The rows of lines, `r` holding a row begun on earlier lines. With `complete`, the lines
are the whole text, and a quoted cell left open at the end ends its row. -/
def rowsFrom (complete : Bool) (r : RowReader) : List String → List (List String)
  | [] =>
    if complete && (r.cellLength != 0 || r.state == .inQuoted) then [r.saveCell.cells.reverse]
    else []
  | line :: rest =>
    match r.feedLine line with
    | none => rowsFrom complete .start rest
    | some r =>
      if r.state == .startRecord then r.cells.reverse :: rowsFrom complete .start rest
      else rowsFrom complete r rest

/-- The rows of lines, each line with its end. -/
def rows (complete : Bool) (lines : List String) : List (List String) :=
  rowsFrom complete .start lines

example : rows true ["a,b\n"] = [["a", "b"]] := by decide +kernel

end SeriesImport.Csv
