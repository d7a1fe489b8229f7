import SeriesImport.Dispatch.Store
import SeriesImport.Dispatch.Line
import SeriesImport.LineProtocol.Read
import SeriesImport.Settings
/-!
# Batching writes

Lines and points wait in the context until a batch is full, that is until at least as many wait
as the batch size. A batch of lines holds at most the batch size, which must then be an
integer, and the rest keep waiting; a batch of points holds all waiting points. Before data
for another target is queued, what waits for the old target is drained; a failure of that drain
is reported after the new data is queued. Draining sends every waiting batch of lines, even
after one fails, then the points once, and reports all failures together.

A batch goes to the target it was gathered for. Text batches are written as lines joined by
line feeds, points always at nanosecond precision. Column batches are read back into points
when they are lines, grouped into one record per measurement in the order first seen (each
measurement must be able to be a key), and sent
through the request builder of the target; a code other than zero is a failure. A batch that
fails is kept on the list of failed batches, and the numbers of records written and failed
count each batch.

A cancelled import sends nothing more and leaves its batches waiting.
-/

namespace SeriesImport.Dispatch

-- Sums of naturals start from the core zero, also where Mathlib's is in scope.
attribute [local instance (high + 1)] Zero.ofOfNat0

/-- The failure a column write code stands for, if any. -/
def checkResponse (code : Int) : Except Error Unit :=
  if code == 0 then .ok ()
  else if code == 1 then .error (.rejected 1 "write failed, code: 1, partial write failure")
  else if code == 2 then .error (.rejected 2 "write failed, code: 2, write failure")
  else .error (.rejected code ("unexpected response code: " ++ toString code))

/-- A dispatcher for a transport named by `transport`, given which kinds of write the store
takes. -/
def Dispatcher.ofSettings (s : Settings) (transport : String) (rows columns : Bool) :
    Except Error Dispatcher := do
  let strategy ← if transport == "column" then do
      if !columns then throw (.config "column write client is required for column transport")
      pure (Strategy.column s.username s.password (← s.timeMultiplier))
    else if transport == "row" then do
      if !rows then throw (.config "row write client is required for row transport")
      pure (Strategy.row s.precision)
    else throw (.config ("unknown transport: " ++ transport))
  let size := if ← s.batchSize.gt (.int 0) then s.batchSize else .int 100
  pure ⟨strategy, size, ⟨0, 0, 0, 0⟩, [], ⟨[]⟩, []⟩

def liftResult {α : Type} (r : Except Error α) : Run α :=
  match r with
  | .ok a => pure a
  | .error e => throw e

/-- Points grouped by measurement, in the order the measurements were first seen. -/
def groupByMeasurement (ps : List Point) : Except Error (List (Value × List Point)) :=
  ps.foldlM (fun acc p => do
    p.measurement.requireKey
    if acc.any (·.1.equals p.measurement) then
      pure (acc.map fun (m, qs) => if m.equals p.measurement then (m, qs ++ [p]) else (m, qs))
    else pure (acc ++ [(p.measurement, [p])])) []

/-- The records of points, one per measurement. -/
def recordsOf (ps : List Point) : Except Error (List Record) := do
  (← groupByMeasurement ps).mapM fun (m, qs) => do
    pure (Record.build m (← qs.mapM RecordLine.ofPoint))

/-- Send points as a column write to a target. -/
def writePointColumns (database retentionPolicy : Value) (ps : List Point)
    (username password : Value) : Run Unit := do
  let records ← liftResult (recordsOf ps)
  let s ← get
  let (b, reg) := s.dispatcher.builders.get database retentionPolicy
  let b := records.foldl RequestBuilder.addRecord (b.authenticate username password)
  let (request, b) := b.build
  let reg := reg.put (BuilderRegistry.key database retentionPolicy) b
  set { s with dispatcher := { s.dispatcher with builders := reg } }
  let code ← writeColumns request
  liftResult (checkResponse code)

/-- Send a batch to a target. -/
def writeBatch (database retentionPolicy : Value) (b : Batch) : Run Unit := do
  let s ← get
  match s.dispatcher.strategy, b with
  | .row precision, .lines ls => writeRows ⟨database, retentionPolicy, "\n".intercalate ls, precision⟩
  | .row _, .points ps =>
    let lines ← liftResult (ps.mapM Point.toLine)
    writeRows ⟨database, retentionPolicy, "\n".intercalate lines, .str "ns"⟩
  | .column u p m, .lines ls => do
    let ps ← liftResult (ls.filterMapM fun l => LineProtocol.readLine l (.int m) s.now)
    writePointColumns database retentionPolicy ps u p
  | .column u p _, .points ps => writePointColumns database retentionPolicy ps u p

def noteHandoff (h : Handoff) : Run Unit :=
  modify fun s => { s with dispatcher := { s.dispatcher with handed := s.dispatcher.handed ++ [h] } }

/-- Send a batch to the target it was gathered for, keeping it on the failed list if it
fails. -/
def send (b : Batch) : Run Unit := do
  let c := (← get).context
  let (database, retentionPolicy) := c.pendingTarget.getD c.target
  try writeBatch database retentionPolicy b
  catch e =>
    noteHandoff ⟨database, retentionPolicy, b, some e⟩
    if e.isImportFailure then
      modify fun s => { s with dispatcher := { s.dispatcher with
        failed := s.dispatcher.failed ++ [⟨database, retentionPolicy, e, b⟩]
        stats := { s.dispatcher.stats with
          batchesFailed := s.dispatcher.stats.batchesFailed + 1
          recordsFailed := s.dispatcher.stats.recordsFailed + b.size } } }
    throw e
  noteHandoff ⟨database, retentionPolicy, b, none⟩
  modify fun s => { s with dispatcher := { s.dispatcher with
    stats := { s.dispatcher.stats with
      flushes := s.dispatcher.stats.flushes + 1
      recordsWritten := s.dispatcher.stats.recordsWritten + b.size } } }

/-- How many items a slice up to a bound takes; the bound must be an integer. -/
def sliceBound (v : Value) : Except Error Nat :=
  match v.asInt? with
  | some i => .ok i.toNat
  | none => .error (.wrongKind "slice indices must be integers or None or have an __index__ method")

def fills (n : Nat) : Run Bool := do
  liftResult ((Value.int n).ge (← get).dispatcher.batchSize)

/-- Send one batch of waiting lines. -/
def flushLines : Run Unit := do
  let s ← get
  if s.context.pendingLines.isEmpty then return
  checkToken
  let n ← liftResult (sliceBound s.dispatcher.batchSize)
  let batch := s.context.pendingLines.take n
  modify fun s =>
    { s with context := { s.context with pendingLines := s.context.pendingLines.drop n } }
  send (.lines batch)

/-- Send all waiting points. -/
def flushPoints : Run Unit := do
  let s ← get
  if s.context.pendingPoints.isEmpty then return
  checkToken
  let batch := s.context.pendingPoints
  modify fun s => { s with context := { s.context with pendingPoints := [] } }
  send (.points batch)

/-- Run a flush during a drain: a cancellation and a failure outside the import stop the
drain, other failures are gathered. -/
def drainRound (flush : Run Unit) (errors : List Error) : Run (List Error) :=
  try
    flush
    pure errors
  catch e =>
    match e with
    | .cancelled _ => throw e
    | e => if e.isImportFailure then pure (errors ++ [e]) else throw e

/-- Flush lines until none wait, counting rounds and gathering failures. -/
def drainLines : Nat → Nat → List Error → Run (Nat × List Error)
  | 0, rounds, errors => pure (rounds, errors)
  | fuel + 1, rounds, errors => do
    if (← get).context.pendingLines.isEmpty then return (rounds, errors)
    let errors ← drainRound flushLines errors
    drainLines fuel (rounds + 1) errors

/-- Send everything waiting; the number of flushes, or all failures together. Each round
sends at least one line, so the number of waiting lines bounds the rounds. -/
def drain : Run Nat := do
  let (rounds, errors) ← drainLines ((← get).context.pendingLines.length + 1) 0 []
  let (rounds, errors) ← if (← get).context.pendingPoints.isEmpty then pure (rounds, errors)
    else do pure (rounds + 1, ← drainRound flushPoints errors)
  if errors.isEmpty then pure rounds else throw (.drain errors)

/-- Drain what waits for another target, and make the context's target the target of what
waits; the failure of that drain, if any. -/
def switchTarget : Run (Option Error) := do
  let c := (← get).context
  if c.pendingTarget.any (sameTarget · c.target) then return none
  let err ← if c.pendingTarget.isSome && c.hasPending then
      try
        let _ ← drain
        pure none
      catch e =>
        match e with
        | .drain _ => pure (some e)
        | e => throw e
    else pure none
  modify fun s => { s with context := { s.context with pendingTarget := some c.target } }
  pure err

/-- Flush lines while a full batch waits. -/
def flushFull : Nat → Run Unit
  | 0 => pure ()
  | fuel + 1 => do
    if ← fills (← get).context.pendingLines.length then
      flushLines
      flushFull fuel
    else pure ()

/-- Queue lines and send full batches. -/
def addLines (ls : List String) : Run Unit := do
  let err ← switchTarget
  modify fun s =>
    { s with context := { s.context with pendingLines := s.context.pendingLines ++ ls } }
  flushFull ((← get).context.pendingLines.length + 1)
  if let some e := err then throw e

/-- Queue points and send them once a batch is full. -/
def addPoints (ps : List Point) : Run Unit := do
  let err ← switchTarget
  modify fun s =>
    { s with context := { s.context with pendingPoints := s.context.pendingPoints ++ ps } }
  if ← fills (← get).context.pendingPoints.length then flushPoints
  if let some e := err then throw e

def Dispatcher.failedRecords (d : Dispatcher) : Nat := (d.failed.map fun f => f.batch.size).sum

theorem checkResponse_zero : checkResponse 0 = .ok () := rfl

end SeriesImport.Dispatch
