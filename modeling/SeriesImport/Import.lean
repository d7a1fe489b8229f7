import SeriesImport.Dispatch.Batch
import SeriesImport.InputFormat.Registry
import SeriesImport.InputFormat.Step
/-!
# Importing a file

An import reads a file unit by unit in its format, steps the import with each unit, and carries
out the actions: queries go to the store, lines and points are queued for the dispatcher, and
units that ask for nothing are counted as skipped. Data before any database is named is a
failed unit.

A unit that fails is counted and its message kept, and the import goes on; a failed batch is
kept on the failed list without failing a unit. A file that cannot be read as a whole keeps its
message too. At the end everything waiting is drained.

Three things end an import early. A header that does not fit the settings ends it with that
error, and nothing is drained. Cancellation ends it with what was done so far, nothing drained,
and the import marked cancelled. Any failure that is not one of the import's own drains what
waits and then ends the import with that failure.

The transport is the one the format requires, or columns when the settings ask for them, or
else text.
-/

namespace SeriesImport

open SeriesImport.Dispatch

/-- What an import counts as it reads. -/
structure Tally where
  processed : Nat
  skipped : Nat
  failed : Nat
  queries : Nat
  errors : List String

/-- Steps of an import of a file: the session and the tally change, and an error keeps the
changes made before it. -/
abbrev ImportRun := ExceptT Error (StateM (Session × Tally))

def liftRun {α : Type} (r : Run α) : ImportRun α :=
  ExceptT.mk fun st => let (res, s) := r.run.run st.1; pure (res, (s, st.2))

def tally (f : Tally → Tally) : ImportRun Unit := modify fun st => (st.1, f st.2)

def keepErrors (es : List Error) : ImportRun Unit :=
  tally fun t => { t with errors := t.errors ++ es.map Error.message }

/-- Queue records, keeping the failures of flushes; a cancellation and a failure outside
those of an import are passed on. -/
def enqueue (add : Run Unit) : ImportRun Unit :=
  try liftRun add
  catch e =>
    match e with
    | .cancelled _ => throw e
    | .drain causes => keepErrors causes
    | e => if e.isImportFailure then keepErrors [e] else throw e

/-- Carry out an action. -/
def applyAction (a : Action) : ImportRun Unit := do
  match a with
  | .query command =>
    liftRun checkToken
    liftRun (runQuery command)
    tally fun t => { t with queries := t.queries + 1 }
  | .lines ls =>
    if !(← get).1.context.database.truthy then throw (Error.noDatabase "")
    enqueue (addLines ls)
  | .points ps =>
    if !(← get).1.context.database.truthy then throw (Error.noDatabase "")
    enqueue (addPoints ps)
  | .noop => tally fun t => { t with skipped := t.skipped + 1 }

/-- Step the import with one unit and carry out its action; the settings after the step. -/
def importUnit (f : InputFormat) (settings : Settings) (e : Entry) : ImportRun Settings := do
  tally fun t => { t with processed := t.processed + 1 }
  let (s, _) ← get
  let (c, settings, out) := f.step e s.context settings s.now
  modify fun st => ({ st.1 with context := c }, st.2)
  try
    match out with
    | .ok a => applyAction a
    | .error err => throw err
  catch err =>
    match err with
    | .header _ | .cancelled _ => throw err
    | err =>
      if err.isImportFailure then
        tally fun t => { t with failed := t.failed + 1, errors := t.errors ++ [err.message] }
      else throw err
  pure settings

/-- Step the import with each unit in turn, the settings passed on from step to step. -/
def importUnits (f : InputFormat) : Settings → List Entry → ImportRun Unit
  | _, [] => pure ()
  | settings, e :: rest => do
    let settings ← importUnit f settings e
    importUnits f settings rest

/-- Step the import with every unit; a file that cannot be read as a whole keeps its message,
other faults of reading end the import. -/
def importEntries (f : InputFormat) (settings : Settings) (entries : List Entry)
    (fault : Option Error) : ImportRun Unit := do
  importUnits f settings entries
  match fault with
  | some (.parse m line content) => keepErrors [.parse m line content]
  | some e => throw e
  | none => pure ()

/-- Drain at the end, keeping the failures. -/
def finalDrain : ImportRun Unit :=
  try
    let _ ← liftRun drain
    pure ()
  catch e =>
    match e with
    | .drain causes => keepErrors causes
    | e => throw e

/-- Run an import over its units: `true` when it was cancelled. -/
def importAll (f : InputFormat) (settings : Settings) (entries : List Entry)
    (fault : Option Error) : ImportRun Bool := do
  let cancelled (e : Error) : ImportRun Bool := do
    keepErrors [e]
    pure true
  try
    try importEntries f settings entries fault
    catch e =>
      match e with
      | .header _ | .cancelled _ => throw e
      | e =>
        finalDrain
        throw e
    finalDrain
    pure false
  catch e =>
    match e with
    | .cancelled _ => cancelled e
    | e => throw e

/-- The outcome of an import: how it went, and the numbers of its batches. -/
structure Report where
  format : InputFormat
  transport : Transport
  success : Bool
  cancelled : Bool
  tally : Tally
  stats : Stats
  failedBatches : List FailedBatch

def importTransport (f : InputFormat) (s : Settings) : Transport :=
  match f.forcedTransport with
  | some t => t
  | none => if s.columnWrite.truthy then .column else .row

def Transport.name : Transport → String
  | .row => "row"
  | .column => "column"

/-- The format the settings name, which must be a text. -/
def formatOf (s : Settings) : Except Error InputFormat :=
  Registry.builtin.findValue s.format

/-- Import a file into a store, with a cancellation token and the time now: the report or the
error that ended the import, and the store after it. -/
def importFile (s : Settings) (file : InputFile) (client : Client) (token : Token) (now : Int) :
    Except Error Report × Store :=
  let store := Store.new client
  let prepared : Except Error (InputFormat × List Entry × Option Error × Dispatcher) := do
    let f ← formatOf s
    let (entries, fault) ← f.read file
    let d ← Dispatcher.ofSettings s (importTransport f s).name client.rows client.columns
    pure (f, entries, fault, d)
  match prepared with
  | .error e => (.error e, store)
  | .ok (f, entries, fault, d) =>
    let session : Session := ⟨{}, store, token, d, now⟩
    let (res, (s', t)) := (importAll f s entries fault).run.run (session, ⟨0, 0, 0, 0, []⟩)
    match res with
    | .error e => (.error e, s'.store)
    | .ok cancelled =>
      (.ok ⟨f, importTransport f s, t.errors.isEmpty && !cancelled, cancelled, t,
        s'.dispatcher.stats, s'.dispatcher.failed⟩, s'.store)

theorem importFile_unknown_format (s : Settings) (file : InputFile) (client : Client)
    (token : Token) (now : Int) (e : Error) (h : formatOf s = .error e) :
    importFile s file client token now = (.error e, Store.new client) := by
  simp [importFile, h, bind, Except.bind]

end SeriesImport
