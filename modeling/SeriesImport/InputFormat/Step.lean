import SeriesImport.InputFormat
import SeriesImport.LineProtocol.Step
import SeriesImport.Csv.Step
import SeriesImport.Document.Result
/-!
# Stepping an import

One step takes a unit of input in the context of the import and gives the next context and an
action, or an error. An error leaves the context as the step had changed it by then, and the
next unit is stepped all the same. A step on a document may grow the measurement the settings
share with the context, so the settings go from step to step as well.

A unit of the wrong kind for its format fails as the format fails on it: a line format asks it
for a text method, a comma-separated format iterates it, and a document format needs an object.
The marker that a records array starts is none of these.

A run shows the context after each step. A list measurement is the settings' own list, held by
every context that took it, so each of them shows it as it is at the end of the run.
-/

namespace SeriesImport

/-- One step of an import in a format. -/
def InputFormat.step (f : InputFormat) (e : Entry) (c : Context) (s : Settings) (now : Int) :
    Context × Settings × Except Error Action :=
  match f, e with
  | .lineProtocol, .unit v =>
    match v.textFor "startswith" with
    | .ok l => let (c, a) := LineProtocol.step l c; (c, s, .ok a)
    | .error e => (c, s, .error e)
  | .lineProtocol, .arrayStart _ =>
    (c, s, .error (.missingAttribute "'ArrayStart' object has no attribute 'startswith'"))
  | .csv, .unit v => let (c, r) := Csv.step v c s now; (c, s, r)
  | .csv, .arrayStart _ => (c, s, .error (.wrongKind "'ArrayStart' object is not iterable"))
  | .series, .arrayStart _ => let (c, a) := Document.start c s; (c, s, .ok a)
  | .series, .unit v => Document.seriesStep v c s
  | .result, .arrayStart _ => let (c, r) := Document.resultStart c s; (c, s, r)
  | .result, .unit v => Document.resultStep v c s

/-- What one step showed: the action or error, and the context after it. -/
structure Step where
  outcome : Except Error Action
  context : Context

/-- The context as shown at the end of a run: a list measurement as the settings hold it. -/
def Context.shownWith (c : Context) (s : Settings) : Context :=
  match c.measurement with
  | .list _ => { c with measurement := s.measurement }
  | _ => c

/-- Step a fresh import through units. -/
def InputFormat.run (f : InputFormat) (s : Settings) (now : Int) (entries : List Entry) :
    List Step :=
  let (_, s', steps) := entries.foldl (fun (acc : Context × Settings × List Step) e =>
    let (c, s, out) := f.step e acc.1 acc.2.1 now
    (c, s, ⟨out, c⟩ :: acc.2.2)) ({}, s, [])
  steps.reverse.map fun st => { st with context := st.context.shownWith s' }

theorem step_line_ok (l : String) (c : Context) (s : Settings) (now : Int) :
    ((InputFormat.lineProtocol).step (.unit (.str l)) c s now).2.2 =
      .ok (LineProtocol.step l c).2 := rfl

end SeriesImport
