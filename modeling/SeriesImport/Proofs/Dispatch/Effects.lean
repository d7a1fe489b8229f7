import Mathlib
import SeriesImport.Dispatch.Batch
/-!
# What each step of the dispatcher does

One specification for each step of the dispatcher, as a triple over sessions. A write touches
only the store, the token and the request builders. Sending a batch records the hand-off against
the target its records were gathered for and keeps the books balanced. Flushing and draining move
records from the buffers to the strategy without losing, repeating or reordering any and without
changing where any of them goes. A switch of target drains first, so the records that wait were
all gathered for the target they will go to. An add takes its records in behind all the others,
unless the switch it begins with fails; then the add fails too.

The dispatcher keeps no target per record: the records that wait share one recorded target. The
specifications therefore speak of routes, every record handed on or waiting paired with the
target it went or will go to, and of the books, which `Ledger` balances against the hand-offs.
-/

namespace SeriesImport

/-- Whether a drain gathers a failure and goes on, rather than stopping at it. -/
def Error.gathered : Error → Bool
  | .cancelled _ => false
  | e => e.isImportFailure

theorem Error.gathered_of_not_cancelled {e : Error} (h : ∀ m, e = .cancelled m → False) :
    e.gathered = e.isImportFailure := by
  cases e with
  | cancelled m => exact absurd rfl (h m)
  | _ => rfl

namespace Dispatch

open Std.Do

set_option mvcgen.warning false

abbrev Target := Value × Value

/-- A triple about a step gives its postcondition at the step's outcome. -/
theorem Triple.outcome {σ α : Type} {P : σ → Prop} {Qok : α → σ → Prop}
    {Qerr : Error → σ → Prop} {m : ExceptT Error (StateM σ) α}
    (h : ⦃fun s => ⌜P s⌝⦄ m ⦃post⟨fun a s => ⌜Qok a s⌝, fun e s => ⌜Qerr e s⌝⟩⦄)
    {s : σ} (hs : P s) :
    match m.run.run s with
    | (.ok a, s') => Qok a s'
    | (.error e, s') => Qerr e s' := by
  have hwp := h s hs
  simp [wp, ExceptT.run] at hwp
  change match (StateT.run m s).run with
    | (.ok a, s') => Qok a s'
    | (.error e, s') => Qerr e s'
  generalize (StateT.run m s).run = x at hwp ⊢
  obtain ⟨_ | a, s'⟩ := x <;> exact hwp

/-- A step whose outcome from every state meets a postcondition meets it as a triple. -/
theorem Triple.of_outcome {σ α : Type} {P : σ → Prop} {Qok : α → σ → Prop}
    {Qerr : Error → σ → Prop} {m : ExceptT Error (StateM σ) α}
    (h : ∀ s0, P s0 → match m.run.run s0 with
      | (.ok a, s') => Qok a s'
      | (.error e, s') => Qerr e s') :
    ⦃fun s => ⌜P s⌝⦄ m ⦃post⟨fun a s => ⌜Qok a s⌝, fun e s => ⌜Qerr e s⌝⟩⦄ := by
  intro s hs
  have h := h s hs
  simp [wp, ExceptT.run]
  change match (StateT.run m s).run with
    | (.ok a, s') => Qok a s'
    | (.error e, s') => Qerr e s' at h
  generalize (StateT.run m s).run = x at h ⊢
  obtain ⟨_ | a, s'⟩ := x <;> exact h

/-! ## Writes -/

/-- What a write leaves alone: the context, and the dispatcher but for its request builders. -/
@[mk_iff] structure Session.Untouched (s0 s : Session) : Prop where
  context : s.context = s0.context
  strategy : s.dispatcher.strategy = s0.dispatcher.strategy
  batchSize : s.dispatcher.batchSize = s0.dispatcher.batchSize
  stats : s.dispatcher.stats = s0.dispatcher.stats
  failed : s.dispatcher.failed = s0.dispatcher.failed
  handed : s.dispatcher.handed = s0.dispatcher.handed

theorem Session.Untouched.refl (s : Session) : s.Untouched s := ⟨rfl, rfl, rfl, rfl, rfl, rfl⟩

@[spec] theorem exchange_spec {α : Type} (r : Request) (a : Answer α) (s0 : Session) :
    ⦃fun s => ⌜s0.Untouched s⌝⦄ exchange r a
    ⦃post⟨fun _ s => ⌜s0.Untouched s⌝, fun _ s => ⌜s0.Untouched s⌝⟩⦄ := by
  mvcgen [exchange, cancel]
  all_goals simp_all +zetaDelta [Session.untouched_iff]

@[spec] theorem writeRows_spec (w : RowWrite) (s0 : Session) :
    ⦃fun s => ⌜s0.Untouched s⌝⦄ writeRows w
    ⦃post⟨fun _ s => ⌜s0.Untouched s⌝, fun _ s => ⌜s0.Untouched s⌝⟩⦄ := by
  mvcgen [writeRows]

@[spec] theorem writeColumns_spec (w : WriteRequest) (s0 : Session) :
    ⦃fun s => ⌜s0.Untouched s⌝⦄ writeColumns w
    ⦃post⟨fun _ s => ⌜s0.Untouched s⌝, fun _ s => ⌜s0.Untouched s⌝⟩⦄ := by
  mvcgen [writeColumns]

@[spec] theorem liftResult_spec {α : Type} (r : Except Error α) (s0 : Session) :
    ⦃fun s => ⌜s0.Untouched s⌝⦄ liftResult r
    ⦃post⟨fun a s => ⌜s0.Untouched s ∧ r = .ok a⌝, fun e s => ⌜s0.Untouched s ∧ r = .error e⌝⟩⦄ := by
  mvcgen [liftResult]

@[spec] theorem writePointColumns_spec (db rp u p : Value) (ps : List Point) (s0 : Session) :
    ⦃fun s => ⌜s0.Untouched s⌝⦄ writePointColumns db rp ps u p
    ⦃post⟨fun _ s => ⌜s0.Untouched s⌝, fun _ s => ⌜s0.Untouched s⌝⟩⦄ := by
  mvcgen [writePointColumns]
  all_goals simp_all +zetaDelta [Session.untouched_iff]

@[spec] theorem writeBatch_spec (db rp : Value) (b : Batch) (s0 : Session) :
    ⦃fun s => ⌜s0.Untouched s⌝⦄ writeBatch db rp b
    ⦃post⟨fun _ s => ⌜s0.Untouched s⌝, fun _ s => ⌜s0.Untouched s⌝⟩⦄ := by
  mvcgen [writeBatch]
  all_goals simp_all +zetaDelta [Session.untouched_iff]

/-! ## The books -/

/-- The dead-letter entry a hand-off leaves: one for a batch that met one of the import's own
failures, none for a written batch or for one that met any other failure. -/
def Handoff.deadLetter (h : Handoff) : Option FailedBatch :=
  match h.error with
  | some e => if e.isImportFailure then some ⟨h.database, h.retentionPolicy, e, h.batch⟩ else none
  | none => none

def Handoff.written (h : Handoff) : Bool := h.error.isNone

@[simp] theorem Handoff.written_mk (db rp : Value) (b : Batch) (err : Option Error) :
    (⟨db, rp, b, err⟩ : Handoff).written = err.isNone := rfl

/-- The failed list and the counters of a dispatcher agree with its hand-offs. -/
structure Ledger (d : Dispatcher) : Prop where
  failed : d.failed = d.handed.filterMap Handoff.deadLetter
  flushes : d.stats.flushes = (d.handed.filter Handoff.written).length
  recordsWritten : d.stats.recordsWritten = ((d.handed.filter Handoff.written).map (·.batch.size)).sum
  recordsFailed : d.stats.recordsFailed = d.failedRecords
  batchesFailed : d.stats.batchesFailed = d.failed.length

theorem Ledger.congr {d d' : Dispatcher} (h : Ledger d) (hf : d'.failed = d.failed)
    (hh : d'.handed = d.handed) (hs : d'.stats = d.stats) : Ledger d' := by
  obtain ⟨h1, h2, h3, h4, h5⟩ := h
  exact ⟨by rw [hf, hh, h1], by rw [hs, hh, h2], by rw [hs, hh, h3],
    by rw [hs, h4, Dispatcher.failedRecords, Dispatcher.failedRecords, hf],
    by rw [hs, hf, h5]⟩

theorem Ledger.fresh {d : Dispatcher} (hh : d.handed = []) (hf : d.failed = [])
    (hs : d.stats = ⟨0, 0, 0, 0⟩) : Ledger d := by
  constructor <;> simp [hh, hf, hs, Dispatcher.failedRecords]

theorem Ledger.write {d : Dispatcher} (h : Ledger d) (reg : BuilderRegistry) (db rp : Value)
    (b : Batch) :
    Ledger { d with
      builders := reg
      handed := d.handed ++ [⟨db, rp, b, none⟩]
      stats := { d.stats with
        flushes := d.stats.flushes + 1
        recordsWritten := d.stats.recordsWritten + b.size } } := by
  obtain ⟨hf, hn, hw, hr, hb⟩ := h
  constructor <;> simp_all [Handoff.deadLetter, Dispatcher.failedRecords, List.filter_cons]

theorem Ledger.deadLetter {d : Dispatcher} (h : Ledger d) (reg : BuilderRegistry) (db rp : Value)
    (b : Batch) (e : Error) (he : e.isImportFailure = true) :
    Ledger { d with
      builders := reg
      handed := d.handed ++ [⟨db, rp, b, some e⟩]
      failed := d.failed ++ [⟨db, rp, e, b⟩]
      stats := { d.stats with
        recordsFailed := d.stats.recordsFailed + b.size
        batchesFailed := d.stats.batchesFailed + 1 } } := by
  obtain ⟨hf, hn, hw, hr, hb⟩ := h
  constructor <;> simp_all [Handoff.deadLetter, Dispatcher.failedRecords]

theorem Ledger.drop {d : Dispatcher} (h : Ledger d) (reg : BuilderRegistry) (db rp : Value)
    (b : Batch) (e : Error) (he : e.isImportFailure = false) :
    Ledger { d with builders := reg, handed := d.handed ++ [⟨db, rp, b, some e⟩] } := by
  obtain ⟨hf, hn, hw, hr, hb⟩ := h
  constructor <;> simp_all [Handoff.deadLetter, Dispatcher.failedRecords]


/-! ## Sending a batch -/

/-- The target the next batch goes to: the one the waiting records were gathered for, or the
context's own when nothing has been gathered yet. -/
def Session.destination (s : Session) : Target :=
  s.context.pendingTarget.getD s.context.target

def Handoff.target (h : Handoff) : Target := (h.database, h.retentionPolicy)

/-- `s` is `s0` after `b` was handed to the strategy with outcome `err`: the hand-off is recorded
against the destination, the context is as it was, and the books still balance. -/
structure Sent (s0 s : Session) (b : Batch) (err : Option Error) : Prop where
  context : s.context = s0.context
  batchSize : s.dispatcher.batchSize = s0.dispatcher.batchSize
  handed : s.dispatcher.handed =
    s0.dispatcher.handed ++ [⟨s0.destination.1, s0.destination.2, b, err⟩]
  ledger : Ledger s0.dispatcher → Ledger s.dispatcher

@[spec] theorem send_spec (b : Batch) (s0 : Session) :
    ⦃fun s => ⌜s = s0⌝⦄ send b
    ⦃post⟨fun _ s => ⌜Sent s0 s b none⌝, fun e s => ⌜Sent s0 s b (some e)⌝⟩⦄ := by
  mvcgen [send, noteHandoff]
  case vc1 => simp_all [Session.untouched_iff]
  all_goals
    simp only [Session.untouched_iff] at *
    constructor <;> simp_all +zetaDelta [Session.destination]
  case vc2.post.success.ledger => exact fun h => h.write _ _ _ _
  case vc3.post.except.handle.isTrue.ledger => exact fun h => h.deadLetter _ _ _ _ _ ‹_›
  case vc4.post.except.handle.isFalse.ledger => exact fun h => h.drop _ _ _ _ _ ‹_›


/-! ## Routes -/

/-- The records of a batch of lines. -/
def Batch.lineList : Batch → List String
  | .lines ls => ls
  | .points _ => []

/-- The records of a batch of points. -/
def Batch.pointList : Batch → List Point
  | .lines _ => []
  | .points ps => ps

/-- Every record of one kind handed to the strategy or waiting, in order, each with the target
it went to or will go to. -/
def Session.route {α : Type} (part : Batch → List α) (waiting : Context → List α) (s : Session) :
    List (α × Target) :=
  s.dispatcher.handed.flatMap (fun h => (part h.batch).map (·, h.target)) ++
    (waiting s.context).map (·, s.destination)

/-- Every line handed to the strategy or waiting, with its target. -/
def Session.lineRoute (s : Session) : List (String × Target) :=
  s.route Batch.lineList Context.pendingLines

/-- Every point handed to the strategy or waiting, with its target. -/
def Session.pointRoute (s : Session) : List (Point × Target) :=
  s.route Batch.pointList Context.pendingPoints

/-- Every record of one kind handed to the strategy or waiting, in order. -/
def Session.stream {α : Type} (part : Batch → List α) (waiting : Context → List α) (s : Session) :
    List α :=
  s.dispatcher.handed.flatMap (fun h => part h.batch) ++ waiting s.context

theorem Session.route_records {α : Type} (part : Batch → List α) (waiting : Context → List α)
    (s : Session) : (s.route part waiting).map Prod.fst = s.stream part waiting := by
  simp [Session.route, Session.stream, List.map_flatMap, Function.comp_def]

/-- Every line handed to the strategy or waiting, in order. -/
def Session.lineStream (s : Session) : List String := s.stream Batch.lineList Context.pendingLines

/-- Every point handed to the strategy or waiting, in order. -/
def Session.pointStream (s : Session) : List Point := s.stream Batch.pointList Context.pendingPoints

theorem Session.lineRoute_records (s : Session) : s.lineRoute.map Prod.fst = s.lineStream :=
  s.route_records _ _

theorem Session.pointRoute_records (s : Session) : s.pointRoute.map Prod.fst = s.pointStream :=
  s.route_records _ _

def Drained (s : Session) : Prop := s.context.pendingLines = [] ∧ s.context.pendingPoints = []

/-- What flushing and draining keep: every record in its place and bound for its target, the
target of the context, the batch size, and balanced books. -/
structure Flushed (s0 s : Session) : Prop where
  lineRoute : s.lineRoute = s0.lineRoute
  pointRoute : s.pointRoute = s0.pointRoute
  pendingTarget : s.context.pendingTarget = s0.context.pendingTarget
  target : s.context.target = s0.context.target
  batchSize : s.dispatcher.batchSize = s0.dispatcher.batchSize
  ledger : Ledger s0.dispatcher → Ledger s.dispatcher
  drained : Drained s0 → Drained s

theorem Flushed.refl (s : Session) : Flushed s s := ⟨rfl, rfl, rfl, rfl, rfl, id, id⟩

@[simp] theorem Flushed.rfl {s : Session} : Flushed s s := .refl s

theorem Flushed.trans {s0 s1 s2 : Session} (h1 : Flushed s0 s1) (h2 : Flushed s1 s2) :
    Flushed s0 s2 :=
  ⟨h2.lineRoute.trans h1.lineRoute, h2.pointRoute.trans h1.pointRoute,
    h2.pendingTarget.trans h1.pendingTarget, h2.target.trans h1.target,
    h2.batchSize.trans h1.batchSize, h2.ledger ∘ h1.ledger, h2.drained ∘ h1.drained⟩

/-- A slice up to the batch size takes at least one line. -/
def Dispatcher.BatchOk (d : Dispatcher) : Prop := ∀ n, sliceBound d.batchSize = .ok n → 0 < n

theorem Flushed.batchOk {s0 s : Session} (h : Flushed s0 s) (hok : s0.dispatcher.BatchOk) :
    s.dispatcher.BatchOk := by
  unfold Dispatcher.BatchOk
  rw [h.batchSize]
  exact hok

/-- Handing on the first records that wait, taken off the buffer just before, keeps every route:
the records move from the buffer to the hand-offs and keep the destination they had. -/
theorem Sent.route {α : Type} {s0 s : Session} {b : Batch} {err : Option Error}
    (h : Sent s0 s b err) (part : Batch → List α) (waiting : Context → List α) :
    s.route part waiting =
      s0.dispatcher.handed.flatMap (fun h => (part h.batch).map (·, h.target)) ++
        (part b ++ waiting s0.context).map (·, s0.destination) := by
  simp [Session.route, h.handed, h.context, Session.destination, Handoff.target]

/-- A flush of lines shortens a buffer that holds lines, when a batch holds at least one. -/
def Shrinks (s0 s : Session) : Prop :=
  s0.context.pendingLines ≠ [] → s0.dispatcher.BatchOk →
    s.context.pendingLines.length < s0.context.pendingLines.length

theorem Flushed.of_untouched {s0 s : Session} (h : s0.Untouched s) : Flushed s0 s := by
  obtain ⟨hc, -, hb, hs, hf, hh⟩ := h
  exact ⟨by simp [Session.lineRoute, Session.route, Session.destination, hc, hh],
    by simp [Session.pointRoute, Session.route, Session.destination, hc, hh],
    by rw [hc], by rw [hc], hb, fun hl => Ledger.congr hl hf hh hs,
    fun hd => by rw [Drained, hc]; exact hd⟩

theorem Token.check_gathered {t : Token} {e : Error} (h : t.check = .error e) :
    e.gathered = false := by
  unfold Token.check at h
  split at h
  · cases h; rfl
  · split at h
    · cases h; rfl
    · cases h

theorem sliceBound_gathered {v : Value} {e : Error} (h : sliceBound v = .error e) :
    e.gathered = false := by
  unfold sliceBound at h
  split at h
  · cases h
  · cases h; rfl

/-- A batch of lines taken from the front of the buffer and handed on: the records keep their
places and targets, and the buffer loses that front. -/
theorem Sent.flushedLines {s0 s1 s : Session} {n : Nat} {err : Option Error} (h1 : s0.Untouched s1)
    (h : Sent { s1 with context := { s1.context with
      pendingLines := s1.context.pendingLines.drop n } } s
      (.lines (s0.context.pendingLines.take n)) err) :
    Flushed s0 s ∧ s.context.pendingLines = s0.context.pendingLines.drop n := by
  obtain ⟨hc, -, hb, hs, hf, hh⟩ := h1
  refine ⟨⟨?_, ?_, ?_, ?_, ?_, ?_, ?_⟩, ?_⟩
  · rw [Session.lineRoute, h.route]
    simp [Session.lineRoute, Session.route, hc, hh, Batch.lineList, Session.destination,
      Context.target]
  · rw [Session.pointRoute, h.route]
    simp [Session.pointRoute, Session.route, hc, hh, Batch.pointList, Session.destination,
      Context.target]
  · simp [h.context, hc]
  · simp [h.context, hc, Context.target]
  · simp [h.batchSize, hb]
  · exact fun hl => h.ledger (Ledger.congr hl hf hh hs)
  · exact fun ⟨hl, hp⟩ => ⟨by simp [h.context, hc, hl], by simp [h.context, hc, hp]⟩
  · simp [h.context, hc]

@[spec] theorem flushLines_spec (s0 : Session) :
    ⦃fun s => ⌜s = s0⌝⦄ flushLines
    ⦃post⟨fun _ s => ⌜Flushed s0 s ∧ Shrinks s0 s⌝,
      fun e s => ⌜Flushed s0 s ∧ (Shrinks s0 s ∨ e.gathered = false)⌝⟩⦄ := by
  mvcgen [flushLines, checkToken]
  case vc1 =>
    subst_vars
    exact ⟨.rfl, fun hne => absurd (List.isEmpty_iff.mp ‹_›) hne⟩
  case vc2 =>
    subst_vars
    exact .refl _
  case vc3 =>
    intro h
    obtain ⟨hu, hn⟩ := ‹Session.Untouched _ _ ∧ _›
    subst_vars
    obtain ⟨hf, hp⟩ := h.flushedLines hu
    refine ⟨hf, fun hne hok => ?_⟩
    have hpos := hok _ hn
    have hlen := List.length_pos_of_ne_nil hne
    rw [hp, List.length_drop]
    omega
  case vc4 =>
    intro h
    obtain ⟨hu, hn⟩ := ‹Session.Untouched _ _ ∧ _›
    subst_vars
    obtain ⟨hf, hp⟩ := h.flushedLines hu
    refine ⟨hf, .inl fun hne hok => ?_⟩
    have hpos := hok _ hn
    have hlen := List.length_pos_of_ne_nil hne
    rw [hp, List.length_drop]
    omega
  case vc5 =>
    intro hu he
    subst_vars
    exact ⟨.of_untouched hu, .inr (sliceBound_gathered he)⟩
  case vc6 =>
    subst_vars
    exact ⟨.rfl, .inr (Token.check_gathered ‹_›)⟩

/-- The points that wait, taken off the buffer and handed on as one batch: the records keep their
places and targets, and the buffer is empty. -/
theorem Sent.flushedPoints {s0 s : Session} {err : Option Error}
    (h : Sent { s0 with context := { s0.context with pendingPoints := [] } } s
      (.points s0.context.pendingPoints) err) :
    Flushed s0 s ∧ s.context.pendingPoints = [] ∧
      s.context.pendingLines = s0.context.pendingLines := by
  refine ⟨⟨?_, ?_, ?_, ?_, ?_, ?_, ?_⟩, ?_, ?_⟩
  · rw [Session.lineRoute, h.route]
    simp [Session.lineRoute, Session.route, Batch.lineList, Session.destination, Context.target]
  · rw [Session.pointRoute, h.route]
    simp [Session.pointRoute, Session.route, Batch.pointList, Session.destination, Context.target]
  · simp [h.context]
  · simp [h.context, Context.target]
  · simp [h.batchSize]
  · exact h.ledger
  · exact fun ⟨hl, _⟩ => ⟨by simp [h.context, hl], by simp [h.context]⟩
  · simp [h.context]
  · simp [h.context]

@[spec] theorem flushPoints_spec (s0 : Session) :
    ⦃fun s => ⌜s = s0⌝⦄ flushPoints
    ⦃post⟨fun _ s => ⌜Flushed s0 s ∧ s.context.pendingLines = s0.context.pendingLines ∧
        s.context.pendingPoints = []⌝,
      fun e s => ⌜Flushed s0 s ∧ s.context.pendingLines = s0.context.pendingLines ∧
        (s.context.pendingPoints = [] ∨ e.gathered = false)⌝⟩⦄ := by
  mvcgen [flushPoints, checkToken]
  case vc1 =>
    subst_vars
    exact ⟨.rfl, rfl, List.isEmpty_iff.mp ‹_›⟩
  case vc2 =>
    intro h
    subst_vars
    obtain ⟨hf, hp, hl⟩ := h.flushedPoints
    exact ⟨hf, hl, hp⟩
  case vc3 =>
    intro h
    subst_vars
    obtain ⟨hf, hp, hl⟩ := h.flushedPoints
    exact ⟨hf, hl, .inl hp⟩
  case vc4 =>
    subst_vars
    exact ⟨.rfl, rfl, .inr (Token.check_gathered ‹_›)⟩

/-! ## Draining -/

/-- A round of a drain ends as its flush does, except that a failure the drain gathers is
turned into a normal end. -/
theorem drainRound_spec (flush : Run Unit) (errors : List Error) {P : Session → Prop}
    {Q : Session → Prop} {E : Error → Session → Prop}
    (h : ⦃fun s => ⌜P s⌝⦄ flush ⦃post⟨fun _ s => ⌜Q s⌝, fun e s => ⌜E e s⌝⟩⦄) :
    ⦃fun s => ⌜P s⌝⦄ drainRound flush errors
    ⦃post⟨fun _ s => ⌜Q s ∨ ∃ e, e.gathered = true ∧ E e s⌝,
      fun e s => ⌜E e s ∧ e.gathered = false⌝⟩⦄ := by
  mvcgen [drainRound, h]
  case vc2 => exact .inl ‹_›
  case vc4 hc _ himport _ hE =>
    rw [← Error.gathered_of_not_cancelled hc] at himport
    exact .inr ⟨_, himport, hE⟩
  case vc5 hc _ himport _ hE =>
    rw [← Error.gathered_of_not_cancelled hc] at himport
    exact ⟨hE, by simpa using himport⟩

/-- A round that flushes lines shortens the buffer, unless it stops the drain. -/
@[spec] theorem drainRound_flushLines_spec (errors : List Error) (s0 : Session) :
    ⦃fun s => ⌜s = s0⌝⦄ drainRound flushLines errors
    ⦃post⟨fun _ s => ⌜Flushed s0 s ∧ Shrinks s0 s⌝, fun e s => ⌜Flushed s0 s ∧ e.gathered = false⌝⟩⦄ := by
  have h := drainRound_spec flushLines errors (flushLines_spec s0)
  mvcgen [h]
  case vc2 =>
    rintro (h | ⟨e, hg, hf, hs | hng⟩)
    · exact h
    · exact ⟨hf, hs⟩
    · simp [hg] at hng
  case vc3 =>
    intro hf _ hg
    exact ⟨hf, hg⟩

/-- Draining lines keeps every record in its place and bound for its target; it stops only at a
failure it does not gather, and given more rounds than lines wait it empties the buffer. -/
theorem drainLines_spec (fuel rounds : Nat) (errors : List Error) (s0 : Session) :
    ⦃fun s => ⌜s = s0⌝⦄ drainLines fuel rounds errors
    ⦃post⟨fun _ s => ⌜Flushed s0 s ∧ (s0.dispatcher.BatchOk →
        s0.context.pendingLines.length < fuel → s.context.pendingLines = [])⌝,
      fun e s => ⌜Flushed s0 s ∧ e.gathered = false⌝⟩⦄ := by
  induction fuel generalizing rounds errors s0 with
  | zero =>
    mvcgen [drainLines]
    subst_vars
    exact ⟨.rfl, fun _ h => absurd h (Nat.not_lt_zero _)⟩
  | succ fuel ih =>
    mvcgen [drainLines, ih]
    case vc1 =>
      subst_vars
      exact ⟨.rfl, fun _ _ => List.isEmpty_iff.mp ‹_›⟩
    case vc2 hne _ _ hround _ _ =>
      intro hf2 hempty
      obtain ⟨hf1, hshr⟩ := hround
      subst_vars
      refine ⟨hf1.trans hf2, fun hok hlt => hempty (hf1.batchOk hok) ?_⟩
      have := hshr (fun h => hne (List.isEmpty_iff.mpr h)) hok
      omega
    case vc3 _ _ _ hround _ _ =>
      intro hf2 hg
      subst_vars
      exact ⟨hround.1.trans hf2, hg⟩
    case vc4 =>
      intro hf hg
      subst_vars
      exact ⟨hf, hg⟩

/-- A round that flushes points empties their buffer and leaves the lines, unless it stops the
drain. -/
@[spec] theorem drainRound_flushPoints_spec (errors : List Error) (s0 : Session) :
    ⦃fun s => ⌜s = s0⌝⦄ drainRound flushPoints errors
    ⦃post⟨fun _ s => ⌜Flushed s0 s ∧ s.context.pendingLines = s0.context.pendingLines ∧
        s.context.pendingPoints = []⌝,
      fun e s => ⌜Flushed s0 s ∧ e.gathered = false⌝⟩⦄ := by
  have h := drainRound_spec flushPoints errors (flushPoints_spec s0)
  mvcgen [h]
  case vc2 =>
    rintro (h | ⟨e, hg, hf, hl, hp | hng⟩)
    · exact h
    · exact ⟨hf, hl, hp⟩
    · simp [hg] at hng
  case vc3 =>
    intro hf _ _ hg
    exact ⟨hf, hg⟩

/-- Draining keeps every record in its place and bound for its target. It stops early only at a
failure it does not gather; when it ends otherwise, normally or with the failures it gathered,
both buffers are empty, provided a batch holds at least one line. -/
@[spec] theorem drain_spec (s0 : Session) :
    ⦃fun s => ⌜s = s0⌝⦄ drain
    ⦃post⟨fun _ s => ⌜Flushed s0 s ∧ (s0.dispatcher.BatchOk → Drained s)⌝,
      fun e s => ⌜Flushed s0 s ∧ (e.gathered = true → s0.dispatcher.BatchOk → Drained s) ∧
        ((∃ es, e = .drain es) ∨ e.gathered = false)⌝⟩⦄ := by
  mvcgen [drain, drainLines_spec]
  case vc1 hl _ hp _ =>
    obtain ⟨hf, hl⟩ := hl
    subst_vars
    exact ⟨hf, fun hok => ⟨hl hok (by omega), List.isEmpty_iff.mp hp⟩⟩
  case vc2 hl _ hp _ =>
    obtain ⟨hf, hl⟩ := hl
    subst_vars
    exact ⟨hf, fun _ hok => ⟨hl hok (by omega), List.isEmpty_iff.mp hp⟩, .inl ⟨_, rfl⟩⟩
  case vc3 hl _ _ _ _ hp _ =>
    obtain ⟨hf1, hl⟩ := hl
    obtain ⟨hf2, hl2, hp2⟩ := hp
    subst_vars
    exact ⟨hf1.trans hf2, fun hok => ⟨hl2 ▸ hl hok (by omega), hp2⟩⟩
  case vc4 hl _ _ _ _ hp _ =>
    obtain ⟨hf1, hl⟩ := hl
    obtain ⟨hf2, hl2, hp2⟩ := hp
    subst_vars
    exact ⟨hf1.trans hf2, fun _ hok => ⟨hl2 ▸ hl hok (by omega), hp2⟩, .inl ⟨_, rfl⟩⟩
  case vc5 hl _ _ _ _ =>
    intro hf2 hg
    subst_vars
    exact ⟨hl.1.trans hf2, fun h => by simp [h] at hg, .inr hg⟩
  case vc6 =>
    intro hf hg
    subst_vars
    exact ⟨hf, fun h => by simp [h] at hg, .inr hg⟩

/-! ## Switching target -/

/-- Records wait only for a target that was recorded for them. -/
def Orderly (s : Session) : Prop := s.context.pendingTarget = none → Drained s

theorem Drained.route_setPending {s : Session} (h : Drained s) (p : Option Target) :
    ({ s with context := { s.context with pendingTarget := p } } : Session).lineRoute = s.lineRoute ∧
    ({ s with context := { s.context with pendingTarget := p } } : Session).pointRoute =
      s.pointRoute := by
  obtain ⟨hl, hp⟩ := h
  simp [Session.lineRoute, Session.pointRoute, Session.route, hl, hp]

/-- With records waiting only for a recorded target, a session that has either no recorded target
or nothing waiting is drained. -/
theorem Orderly.drained {s : Session} (ho : Orderly s)
    (h : ¬(s.context.pendingTarget.isSome && s.context.hasPending) = true) : Drained s := by
  cases hp : s.context.pendingTarget with
  | none => exact ho hp
  | some p =>
    simp only [hp, Option.isSome_some, Bool.true_and, Context.hasPending, Bool.or_eq_true,
      Bool.not_eq_true', List.isEmpty_eq_false_iff, not_or, ne_eq, not_not] at h
    exact h

/-- Whether a target recorded for waiting records stands for the context's target: it is that
target, or one the dispatcher takes for it. -/
def SameAs (p t : Target) : Prop := p = t ∨ sameTarget p t = true

/-- `s` follows `s0` by a switch that let an add go on: no record moved or changed place, the
waiting records belong to a target that stands for the context's, and when records waited only
for a recorded target and a batch holds a line, no route changed either. -/
structure Switched (s0 s : Session) : Prop where
  lines : s.lineStream = s0.lineStream
  points : s.pointStream = s0.pointStream
  target : s.context.target = s0.context.target
  batchSize : s.dispatcher.batchSize = s0.dispatcher.batchSize
  ledger : Ledger s0.dispatcher → Ledger s.dispatcher
  bound : ∃ p, s.context.pendingTarget = some p ∧ SameAs p s.context.target
  routes : Orderly s0 → s0.dispatcher.BatchOk → s.lineRoute = s0.lineRoute ∧ s.pointRoute = s0.pointRoute

/-- Recording the context's target for the waiting records after a flush: the records stay in
their places, and the routes stay too when the flush left nothing waiting. -/
theorem Switched.of_flushed {s0 s1 : Session} (hf : Flushed s0 s1)
    (hd : Orderly s0 → s0.dispatcher.BatchOk → Drained s1) :
    Switched s0 { s1 with context := { s1.context with pendingTarget := some s0.context.target } } := by
  refine ⟨?_, ?_, ?_, hf.batchSize, hf.ledger, ?_, fun ho hok => ?_⟩
  · change s1.lineStream = s0.lineStream
    rw [← Session.lineRoute_records, ← Session.lineRoute_records, hf.lineRoute]
  · change s1.pointStream = s0.pointStream
    rw [← Session.pointRoute_records, ← Session.pointRoute_records, hf.pointRoute]
  · simpa [Context.target] using hf.target
  · exact ⟨_, rfl, .inl (by simpa [Context.target] using hf.target.symm)⟩
  · obtain ⟨hl, hp⟩ := (hd ho hok).route_setPending (some s0.context.target)
    exact ⟨hl.trans hf.lineRoute, hp.trans hf.pointRoute⟩

theorem switchTarget_spec (s0 : Session) :
    ⦃fun s => ⌜s = s0⌝⦄ switchTarget
    ⦃post⟨fun _ s => ⌜Switched s0 s⌝, fun _ s => ⌜Flushed s0 s⌝⟩⦄ := by
  mvcgen [switchTarget]
  case vc1 hsame =>
    subst_vars
    obtain ⟨p, hp, hs⟩ := (Option.any_eq_true _ _).mp hsame
    exact ⟨rfl, rfl, rfl, rfl, id, ⟨p, hp, .inr hs⟩, fun _ _ => ⟨rfl, rfl⟩⟩
  case vc2 h _ =>
    subst_vars
    exact .of_flushed h.1 fun _ => h.2
  case vc3 h _ =>
    subst_vars
    exact .of_flushed h.1 fun _ => h.2.1 rfl
  case vc4 h =>
    subst_vars
    exact h.1
  case vc5 hquiet _ =>
    subst_vars
    exact .of_flushed (.refl _) fun ho _ => ho.drained hquiet

/-! ## Adding records -/

@[spec] theorem fills_spec (n : Nat) (s0 : Session) :
    ⦃fun s => ⌜s = s0⌝⦄ fills n ⦃post⟨fun _ s => ⌜s = s0⌝, fun _ s => ⌜s = s0⌝⟩⦄ := by
  mvcgen [fills, liftResult]

/-- Flushing full batches keeps every record in its place and bound for its target. -/
@[spec] theorem flushFull_spec (fuel : Nat) (s0 : Session) :
    ⦃fun s => ⌜Flushed s0 s⌝⦄ flushFull fuel
    ⦃post⟨fun _ s => ⌜Flushed s0 s⌝, fun _ s => ⌜Flushed s0 s⌝⟩⦄ := by
  induction fuel with
  | zero => mvcgen [flushFull]
  | succ fuel ih =>
    mvcgen [flushFull, ih]
    case vc1 hf _ _ _ heq _ _ hflush =>
      subst heq
      exact hf.trans hflush.1
    case vc2 hf _ _ _ heq _ _ =>
      intro hflush _
      subst heq
      exact hf.trans hflush
    case vc3 hf _ _ _ heq =>
      subst heq
      exact hf
    case vc4 hf _ _ =>
      intro heq
      subst heq
      exact hf

/-- Whether an add takes its records: the switch of target it begins with goes through. -/
def Session.admits (s : Session) : Bool :=
  match (switchTarget.run.run s).1 with
  | .ok _ => true
  | .error _ => false

@[spec] theorem switchTarget_admits_spec (s0 : Session) :
    ⦃fun s => ⌜s = s0⌝⦄ switchTarget
    ⦃post⟨fun _ s => ⌜s0.admits = true ∧ Switched s0 s⌝,
      fun _ s => ⌜s0.admits = false ∧ Flushed s0 s⌝⟩⦄ := by
  apply Triple.of_outcome
  intro s hs
  rw [hs]
  have h := Triple.outcome (switchTarget_spec s0) rfl
  unfold Session.admits
  split at h <;> simp_all

theorem Flushed.lineStream {s0 s : Session} (h : Flushed s0 s) : s.lineStream = s0.lineStream := by
  rw [← Session.lineRoute_records, h.lineRoute, Session.lineRoute_records]

theorem Flushed.pointStream {s0 s : Session} (h : Flushed s0 s) :
    s.pointStream = s0.pointStream := by
  rw [← Session.pointRoute_records, h.pointRoute, Session.pointRoute_records]

theorem Flushed.orderly {s0 s : Session} (h : Flushed s0 s) (ho : Orderly s0) : Orderly s :=
  fun hnone => h.drained (ho (h.pendingTarget ▸ hnone))

/-- `s` follows `s0` by a call that took in `lines` and `points`: they join the records behind
all the others, the books stay balanced, records still wait only for a recorded target, and
when they did before and a batch holds a line, the new records are bound for a target that
stands for the context's while no other record changes its target. -/
structure Took (s0 s : Session) (lines : List String) (points : List Point) : Prop where
  lineStream : s.lineStream = s0.lineStream ++ lines
  pointStream : s.pointStream = s0.pointStream ++ points
  batchSize : s.dispatcher.batchSize = s0.dispatcher.batchSize
  ledger : Ledger s0.dispatcher → Ledger s.dispatcher
  orderly : Orderly s0 → Orderly s
  routes : Orderly s0 → s0.dispatcher.BatchOk → ∃ d, SameAs d s0.context.target ∧
    s.lineRoute = s0.lineRoute ++ lines.map (·, d) ∧ s.pointRoute = s0.pointRoute ++ points.map (·, d)

theorem Flushed.took {s0 s : Session} (h : Flushed s0 s) : Took s0 s [] [] :=
  ⟨by simpa using h.lineStream, by simpa using h.pointStream, h.batchSize, h.ledger, h.orderly,
    fun _ _ => ⟨s0.context.target, .inl (Eq.refl _), by simpa using h.lineRoute, by simpa using h.pointRoute⟩⟩

@[simp] theorem Session.lineRoute_appendLines (s : Session) (ls : List String) :
    ({ s with context := { s.context with pendingLines := s.context.pendingLines ++ ls } } :
      Session).lineRoute = s.lineRoute ++ ls.map (·, s.destination) := by
  simp [Session.lineRoute, Session.route, Session.destination, Context.target]

@[simp] theorem Session.pointRoute_appendLines (s : Session) (ls : List String) :
    ({ s with context := { s.context with pendingLines := s.context.pendingLines ++ ls } } :
      Session).pointRoute = s.pointRoute := by
  simp [Session.pointRoute, Session.route, Session.destination, Context.target]

@[simp] theorem Session.pointRoute_appendPoints (s : Session) (ps : List Point) :
    ({ s with context := { s.context with pendingPoints := s.context.pendingPoints ++ ps } } :
      Session).pointRoute = s.pointRoute ++ ps.map (·, s.destination) := by
  simp [Session.pointRoute, Session.route, Session.destination, Context.target]

@[simp] theorem Session.lineRoute_appendPoints (s : Session) (ps : List Point) :
    ({ s with context := { s.context with pendingPoints := s.context.pendingPoints ++ ps } } :
      Session).lineRoute = s.lineRoute := by
  simp [Session.lineRoute, Session.route, Session.destination, Context.target]

/-- An add that got past its switch takes its records in: they join the buffers behind the
records that wait, bound for the target the switch recorded, and the flushes after keep them so. -/
theorem Switched.took {s0 s1 s2 s : Session} {ls : List String} {ps : List Point}
    (hs : Switched s0 s1) (hf : Flushed s2 s)
    (hl : s2.lineRoute = s1.lineRoute ++ ls.map (·, s1.destination))
    (hp : s2.pointRoute = s1.pointRoute ++ ps.map (·, s1.destination))
    (hd : s2.dispatcher = s1.dispatcher)
    (ht : s2.context.pendingTarget = s1.context.pendingTarget) :
    Took s0 s ls ps := by
  obtain ⟨p, hbound, hsame⟩ := hs.bound
  refine ⟨?_, ?_, ?_, ?_, ?_, fun ho hok => ?_⟩
  · rw [hf.lineStream, ← Session.lineRoute_records, hl, ← hs.lines, ← Session.lineRoute_records]
    simp [Function.comp_def]
  · rw [hf.pointStream, ← Session.pointRoute_records, hp, ← hs.points,
      ← Session.pointRoute_records]
    simp [Function.comp_def]
  · rw [hf.batchSize, hd, hs.batchSize]
  · intro hl0
    exact hf.ledger (hd ▸ hs.ledger hl0)
  · intro _ hnone
    rw [hf.pendingTarget, ht, hbound] at hnone
    cases hnone
  · obtain ⟨hl1, hp1⟩ := hs.routes ho hok
    have hdest : s1.destination = p := by simp [Session.destination, hbound]
    refine ⟨p, hs.target ▸ hsame, ?_, ?_⟩
    · rw [hf.lineRoute, hl, hl1, hdest]
    · rw [hf.pointRoute, hp, hp1, hdest]

theorem Switched.tookLines {s0 s1 s : Session} {ls : List String} (hs : Switched s0 s1)
    (hf : Flushed { s1 with context := { s1.context with
      pendingLines := s1.context.pendingLines ++ ls } } s) : Took s0 s ls [] :=
  hs.took hf (by simp) (by simp) rfl rfl

theorem Switched.tookPoints {s0 s1 s : Session} {ps : List Point} (hs : Switched s0 s1)
    (hf : Flushed { s1 with context := { s1.context with
      pendingPoints := s1.context.pendingPoints ++ ps } } s) : Took s0 s [] ps :=
  hs.took hf (by simp) (by simp) rfl rfl

/-- An add takes its lines in, unless the switch it begins with fails; it succeeds only when it
took them. -/
@[spec] theorem addLines_spec (ls : List String) (s0 : Session) :
    ⦃fun s => ⌜s = s0⌝⦄ addLines ls
    ⦃post⟨fun _ s => ⌜s0.admits = true ∧ Took s0 s ls []⌝,
      fun _ s => ⌜Took s0 s (if s0.admits then ls else []) []⌝⟩⦄ := by
  mvcgen [addLines]
  case vc1 => exact .rfl
  case vc2 =>
    subst_vars
    obtain ⟨hadm, hsw⟩ := ‹_ ∧ Switched _ _›
    rw [if_pos hadm]
    exact hsw.tookLines ‹Flushed _ _›
  case vc3 =>
    subst_vars
    obtain ⟨hadm, hsw⟩ := ‹_ ∧ Switched _ _›
    exact ⟨hadm, hsw.tookLines ‹Flushed _ _›⟩
  case vc4 =>
    intro hf
    subst_vars
    obtain ⟨hadm, hsw⟩ := ‹_ ∧ Switched _ _›
    rw [if_pos hadm]
    exact hsw.tookLines hf
  case vc5 =>
    intro hrefused hf
    subst_vars
    simpa [hrefused] using hf.took

/-- An add takes its points in, unless the switch it begins with fails; it succeeds only when
it took them. -/
@[spec] theorem addPoints_spec (ps : List Point) (s0 : Session) :
    ⦃fun s => ⌜s = s0⌝⦄ addPoints ps
    ⦃post⟨fun _ s => ⌜s0.admits = true ∧ Took s0 s [] ps⌝,
      fun _ s => ⌜Took s0 s [] (if s0.admits then ps else [])⌝⟩⦄ := by
  mvcgen [addPoints]
  case vc1 =>
    subst_vars
    obtain ⟨hadm, hsw⟩ := ‹_ ∧ Switched _ _›
    rw [if_pos hadm]
    exact hsw.tookPoints ‹Flushed _ _ ∧ _›.1
  case vc2 =>
    subst_vars
    obtain ⟨hadm, hsw⟩ := ‹_ ∧ Switched _ _›
    exact ⟨hadm, hsw.tookPoints ‹Flushed _ _ ∧ _›.1⟩
  case vc3 =>
    intro hf _ _
    subst_vars
    obtain ⟨hadm, hsw⟩ := ‹_ ∧ Switched _ _›
    rw [if_pos hadm]
    exact hsw.tookPoints hf
  case vc4 =>
    subst_vars
    obtain ⟨hadm, hsw⟩ := ‹_ ∧ Switched _ _›
    rw [if_pos hadm]
    exact hsw.tookPoints .rfl
  case vc5 =>
    subst_vars
    obtain ⟨hadm, hsw⟩ := ‹_ ∧ Switched _ _›
    exact ⟨hadm, hsw.tookPoints .rfl⟩
  case vc6 =>
    intro _
    subst_vars
    obtain ⟨hadm, hsw⟩ := ‹_ ∧ Switched _ _›
    rw [if_pos hadm]
    exact hsw.tookPoints .rfl
  case vc7 =>
    intro hrefused hf
    subst_vars
    simpa [hrefused] using hf.took

end Dispatch

end SeriesImport
