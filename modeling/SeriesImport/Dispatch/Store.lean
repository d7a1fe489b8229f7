import SeriesImport.Dispatch.Record
import SeriesImport.Context
/-!
# The store and the import session

An import talks to a store through three kinds of request: queries, writes of line protocol
text, and column writes. The store is given by its clients, which answer each request from
every exchange before it: a client may take the request or raise any failure, answer a column
write with any code, and cancel the import during the call. The store keeps every exchange, the
refused requests included, in order.

A cancellation token stops an import once cancel is asked for, or once its deadline has passed.

The session holds what an import changes as it runs: its context, the store, the token, and
the state of the dispatcher. Steps of an import run in `Run`: they change the session, and an
error keeps the changes made before it.
-/

namespace SeriesImport.Dispatch

/-- Cancellation of an import: asked for, or past its deadline. -/
structure Token where
  requested : Bool
  expired : Bool

def Token.cancelled (t : Token) : Bool := t.requested || t.expired

/-- Fail if the import must stop, naming why. -/
def Token.check (t : Token) : Except Error Unit :=
  if t.requested then .error (.cancelled "import cancelled")
  else if t.expired then .error (.cancelled "import deadline exceeded")
  else .ok ()

/-- A write of line protocol text. -/
structure RowWrite where
  database : Value
  retentionPolicy : Value
  raw : String
  precision : Value

/-- A request the import makes of the store. -/
inductive Request where
  | rows (w : RowWrite)
  | columns (w : WriteRequest)
  | query (command : String)

/-- A request with the failure the store answered it with, if any. -/
structure Exchange where
  request : Request
  failure : Option Error

/-- The store's answer to a request: whether the import is cancelled during the call, and what
the call returns or raises. -/
structure Answer (α : Type) where
  cancels : Bool
  result : Except Error α

def Answer.failure {α : Type} (a : Answer α) : Option Error :=
  match a.result with
  | .ok _ => none
  | .error e => some e

/-- The clients an import talks to: whether a client for text writes and one for column writes
are set up, and how each request is answered, given every exchange before it. A column write is
answered with the store's response code. -/
structure Client where
  rows : Bool
  columns : Bool
  row : List Exchange → RowWrite → Answer Unit
  column : List Exchange → WriteRequest → Answer Int
  query : List Exchange → String → Answer Unit

/-- The store: its clients, and every exchange so far, in order. -/
structure Store where
  client : Client
  log : List Exchange

/-- A store that has had no request. -/
def Store.new (c : Client) : Store := ⟨c, []⟩

def Exchange.rowWrite? : Exchange → Option RowWrite
  | ⟨.rows w, none⟩ => some w
  | _ => none

def Exchange.columnWrite? : Exchange → Option WriteRequest
  | ⟨.columns w, none⟩ => some w
  | _ => none

def Exchange.query? : Exchange → Option String
  | ⟨.query q, none⟩ => some q
  | _ => none

/-- The text writes the store took, in order. -/
def Store.rowWrites (st : Store) : List RowWrite := st.log.filterMap Exchange.rowWrite?

/-- The column writes the store took, in order. -/
def Store.columnWrites (st : Store) : List WriteRequest := st.log.filterMap Exchange.columnWrite?

/-- The queries the store ran, in order. -/
def Store.queries (st : Store) : List String := st.log.filterMap Exchange.query?

/-- The numbers a session keeps about batches. -/
structure Stats where
  flushes : Nat
  recordsWritten : Nat
  recordsFailed : Nat
  batchesFailed : Nat

/-- A batch of lines or of points. -/
inductive Batch where
  | lines (lines : List String)
  | points (points : List Point)

def Batch.size : Batch → Nat
  | .lines ls => ls.length
  | .points ps => ps.length

/-- A batch that could not be sent, with its target and the error that stopped it. -/
structure FailedBatch where
  database : Value
  retentionPolicy : Value
  error : Error
  batch : Batch

/-- A batch handed to the strategy, with its target and the failure it met, if any. -/
structure Handoff where
  database : Value
  retentionPolicy : Value
  batch : Batch
  error : Option Error

/-- How batches reach the store: as text at a precision, or as columns with credentials and
the precision of timestamps in lines. -/
inductive Strategy where
  | row (precision : Value)
  | column (username password : Value) (multiplier : Int)

/-- The state of the dispatcher. The batch size is the value the settings gave, when it is
positive: an integer, a truth value or a double. `handed` records every batch handed to the
strategy, in order; nothing the dispatcher does reads it, it is the history its laws speak of. -/
structure Dispatcher where
  strategy : Strategy
  batchSize : Value
  stats : Stats
  failed : List FailedBatch
  builders : BuilderRegistry
  handed : List Handoff

/-- What an import changes as it runs, and the time now. -/
structure Session where
  context : Context
  store : Store
  token : Token
  dispatcher : Dispatcher
  now : Int

/-- Steps of an import: they change the session, and may fail keeping the changes so far. -/
abbrev Run := ExceptT Error (StateM Session)

def checkToken : Run Unit := do
  match (← get).token.check with
  | .ok () => pure ()
  | .error e => throw e

def cancel : Run Unit :=
  modify fun s => { s with token := { s.token with requested := true } }

/-- Hand the request `r` to the store, which answers `a`: the exchange is logged, the import is
cancelled during the call if the answer says so, and the answer is returned or raised. -/
def exchange {α : Type} (r : Request) (a : Answer α) : Run α := do
  modify fun s => { s with store := { s.store with log := s.store.log ++ [⟨r, a.failure⟩] } }
  if a.cancels then cancel
  match a.result with
  | .ok x => pure x
  | .error e => throw e

def writeRows (w : RowWrite) : Run Unit := do
  let st := (← get).store
  exchange (.rows w) (st.client.row st.log w)

/-- Send a column write; the answer is the store's code. -/
def writeColumns (w : WriteRequest) : Run Int := do
  let st := (← get).store
  exchange (.columns w) (st.client.column st.log w)

def runQuery (command : String) : Run Unit := do
  let st := (← get).store
  exchange (.query command) (st.client.query st.log command)

theorem check_clear (t : Token) (h1 : t.requested = false) (h2 : t.expired = false) :
    t.check = .ok () := by
  simp [Token.check, h1, h2]

/-! ## The clients of the tests -/

def Exchange.isRows : Exchange → Bool
  | ⟨.rows _, _⟩ => true
  | _ => false

def Exchange.isColumns : Exchange → Bool
  | ⟨.columns _, _⟩ => true
  | _ => false

def Exchange.isQuery : Exchange → Bool
  | ⟨.query _, _⟩ => true
  | _ => false

/-- What the clients of the tests are set up with. Calls are counted from one, per kind of
request: a text write fails at the calls `rowFailCalls` names, a column write at the calls
`columnFailCalls` names and otherwise answers with the codes `columnCodes` in turn (zero when
they run out), and a query fails when `queryFailOn` names its command. The import may be
cancelled during a numbered write or query, which still completes. -/
structure Script where
  rows : Bool
  columns : Bool
  rowFailCalls : List Nat
  columnCodes : List Int
  columnFailCalls : List Nat
  cancelOnWrite : Option Nat
  queryFailOn : List String
  cancelOnQuery : Option Nat

/-- The client a script sets up. -/
def Script.client (sc : Script) : Client where
  rows := sc.rows
  columns := sc.columns
  row log _ :=
    let n := (log.filter Exchange.isRows).length + 1
    ⟨sc.cancelOnWrite == some n,
      if sc.rowFailCalls.contains n then .error (.transport "write refused" (some 500) "boom")
      else .ok ()⟩
  column log _ :=
    let n := (log.filter Exchange.isColumns).length + 1
    let answered := (log.filterMap Exchange.columnWrite?).length
    ⟨sc.cancelOnWrite == some n,
      if sc.columnFailCalls.contains n then
        .error (.transport "column write refused" (some 503) "")
      else .ok (sc.columnCodes[answered]?.getD 0)⟩
  query log command :=
    let n := (log.filter Exchange.isQuery).length + 1
    if sc.queryFailOn.contains command then
      ⟨false, .error (.transport ("query refused: " ++ command) (some 400) "")⟩
    else ⟨sc.cancelOnQuery == some n, .ok ()⟩

end SeriesImport.Dispatch
