import SeriesImport.Context
import SeriesImport.Text.Blank
/-!
# Importing line protocol files

A line protocol file mixes directives with its lines. `# DDL` starts the schema part, where
every line is a query; `# DML` starts the data part, where every line is queued as it stands,
and sets the retention policy to `autogen`. `# CONTEXT-DATABASE:` and
`# CONTEXT-RETENTION-POLICY:` name the target, with the text after the first colon, stripped.
A directive must start its line exactly. Blank lines and other lines that start with `#` after
blanks are ignored; the others are stripped before use.
-/

namespace SeriesImport.LineProtocol

/-- The value of a directive: the text after its first colon, stripped. -/
def directiveValue (line : String) : String :=
  Text.strip (String.ofList ((line.toList.dropWhile (· ≠ ':')).drop 1))

/-- One step of a line protocol import. -/
def step (line : String) (c : Context) : Context × Action :=
  if line.startsWith "# DDL" then ({ c with phase := .ddl }, .noop)
  else if line.startsWith "# DML" then
    ({ c with phase := .dml, retentionPolicy := .str "autogen" }, .noop)
  else if line.startsWith "# CONTEXT-DATABASE:" then
    ({ c with database := .str (directiveValue line) }, .noop)
  else if line.startsWith "# CONTEXT-RETENTION-POLICY:" then
    ({ c with retentionPolicy := .str (directiveValue line) }, .noop)
  else
    let data := Text.strip line
    if data.isEmpty || data.startsWith "#" then (c, .noop)
    else match c.phase with
      | .ddl => (c, .query data)
      | .dml => (c, .lines [data])

theorem step_comment (c : Context) : step "# note" c = (c, .noop) := by
  have h : Text.strip "# note" = "# note" := by decide +kernel
  simp only [step, h]
  simp

end SeriesImport.LineProtocol
