import Mathlib
import SeriesImport.Import
import SeriesImport.Proofs.Dispatch.Steady
import SeriesImport.Proofs.Import.Isolation
/-!
# An import when every write and query goes through

When the store takes every batch and every query, an import is a fold of a pure function over
its units. `Flow` holds what the fold needs and what it shows: the context with its waiting
records, the settings, the batches handed on, the queries run and the tally. `Flow.unit` steps
the context with a unit and carries out the action: a query joins the queries, records go
through the plain dispatcher, and a unit that asks for nothing, or fails, is counted.

A session and a tally `Match` a flow when they hold the same context, hand-offs, queries and
tally. The import's own steps keep that match, unit by unit, as long as every step has an
outcome the store admits (`Sink.Clean`).
-/

namespace SeriesImport

open SeriesImport.Dispatch

/-- What an import holds when every write and query goes through. -/
structure Flow where
  context : Context
  settings : Settings
  sent : List Handoff
  queries : List String
  tally : Tally

/-- A step from `c` to `c'` that leaves the waiting records and their target as they were. -/
def Context.Keeps (c c' : Context) : Prop :=
  c'.pendingLines = c.pendingLines ∧ c'.pendingPoints = c.pendingPoints ∧
    c'.pendingTarget = c.pendingTarget

namespace Flow

/-- The flow of an import with the settings `s`, before its first unit. -/
def start (s : Settings) : Flow := ⟨{}, s, [], [], ⟨0, 0, 0, 0, []⟩⟩

def plain (w : Flow) : Plain :=
  ⟨w.context.pendingLines, w.context.pendingPoints, w.context.pendingTarget, w.sent⟩

/-- The flow with its dispatcher's part taken from a plain state. -/
def withPlain (w : Flow) (p : Plain) : Flow :=
  { w with context := w.context.withPlain p, sent := p.sent }

/-- The flow with one more unit counted as failed, with the message of `e`. -/
def fail (e : Error) (w : Flow) : Flow :=
  { w with tally := { w.tally with
    failed := w.tally.failed + 1
    errors := w.tally.errors ++ [e.message] } }

variable (n : Nat)

/-- Carry out an action, in batches of `n`. -/
def act (w : Flow) : Action → Flow
  | .query q =>
    { w with
      queries := w.queries ++ [q]
      tally := { w.tally with queries := w.tally.queries + 1 } }
  | .lines ls =>
    if w.context.database.truthy then w.withPlain (w.plain.addLines n w.context.target ls)
    else w.fail (.noDatabase "")
  | .points ps =>
    if w.context.database.truthy then w.withPlain (w.plain.addPoints n w.context.target ps)
    else w.fail (.noDatabase "")
  | .noop => { w with tally := { w.tally with skipped := w.tally.skipped + 1 } }

/-- The flow after the final drain. -/
def drained (w : Flow) : Flow := w.withPlain (w.plain.drain n w.context.target)

variable (f : InputFormat) (now : Int)

/-- The flow stepped with a unit of format `f` at time `now`, before its action. -/
def stepped (w : Flow) (e : Entry) : Flow :=
  let r := f.step e w.context w.settings now
  { w with
    context := r.1
    settings := r.2.1
    tally := { w.tally with processed := w.tally.processed + 1 } }

/-- Step with one unit and carry out its action, or count the unit as failed. -/
def unit (w : Flow) (e : Entry) : Flow :=
  match (f.step e w.context w.settings now).2.2 with
  | .ok a => (w.stepped f now e).act n a
  | .error err => (w.stepped f now e).fail err

def run (w : Flow) (es : List Entry) : Flow := es.foldl (unit n f now) w

@[simp] theorem run_nil (w : Flow) : w.run n f now [] = w := rfl

@[simp] theorem run_cons (w : Flow) (e : Entry) (es : List Entry) :
    w.run n f now (e :: es) = (w.unit n f now e).run n f now es := rfl

theorem run_append (w : Flow) (es es' : List Entry) :
    w.run n f now (es ++ es') = (w.run n f now es).run n f now es' := by
  simp only [run, List.foldl_append]

@[simp] theorem settings_act (w : Flow) (a : Action) : (w.act n a).settings = w.settings := by
  cases a with
  | lines ls | points ps =>
    simp only [act]
    split <;> rfl
  | query q | noop => rfl

@[simp] theorem settings_unit (w : Flow) (e : Entry) :
    (w.unit n f now e).settings = (w.stepped f now e).settings := by
  unfold unit
  split
  · exact settings_act n _ _
  · rfl

@[simp] theorem plain_act_query (w : Flow) (q : String) :
    (w.act n (.query q)).plain = w.plain := rfl

@[simp] theorem plain_act_noop (w : Flow) : (w.act n .noop).plain = w.plain := rfl

@[simp] theorem plain_fail (e : Error) (w : Flow) : (w.fail e).plain = w.plain := rfl

@[simp] theorem plain_withPlain (w : Flow) (p : Plain) : (w.withPlain p).plain = p := rfl

@[simp] theorem context_withPlain_target (w : Flow) (p : Plain) :
    (w.withPlain p).context.target = w.context.target := rfl

end Flow

theorem readsAs_of_check {f : InputFile} {t : String}
    (h : (match f.read with
      | .ok r => r.text == t && r.fault.isNone
      | .error _ => false) = true) :
    f.read = .ok ⟨t, none⟩ := by
  cases hr : f.read with
  | error e => simp [hr] at h
  | ok r =>
    obtain ⟨text, fault⟩ := r
    simp only [hr, Bool.and_eq_true, beq_iff_eq, Option.isNone_iff_eq_none] at h
    rw [h.1, h.2]

theorem Dispatch.Dispatcher.ofSettings_fresh {s : Settings} {transport : String}
    {rows columns : Bool} {d : Dispatcher}
    (h : Dispatcher.ofSettings s transport rows columns = .ok d) :
    d.handed = [] ∧ d.failed = [] ∧ d.stats = ⟨0, 0, 0, 0⟩ := by
  unfold Dispatcher.ofSettings at h
  simp only [bind, Except.bind, pure, Except.pure] at h
  repeat' split at h
  all_goals (cases h <;> exact ⟨rfl, rfl, rfl⟩)

theorem applyAction_lines_noDatabase {st : Session × Tally} (ls : List String)
    (hdb : st.1.context.database.truthy = false) :
    (applyAction (.lines ls)).run.run st = (.error (.noDatabase ""), st) := by
  simp only [applyAction, run_bind, run_get, hdb, Bool.not_false, if_true, run_throw]

theorem applyAction_points_noDatabase {st : Session × Tally} (ps : List Point)
    (hdb : st.1.context.database.truthy = false) :
    (applyAction (.points ps)).run.run st = (.error (.noDatabase ""), st) := by
  simp only [applyAction, run_bind, run_get, hdb, Bool.not_false, if_true, run_throw]

namespace Dispatch.Sink

variable (k : Sink)

/-- What a sink needs of an outcome of a step that left the context `c` for the import to absorb
it: the records queued can be written, and a failure is one the import counts. -/
def Admits (c : Context) : Except Error Action → Prop
  | .ok (.lines ls) => c.database.truthy = true → ∀ l ∈ ls, k.line l
  | .ok (.points ps) => c.database.truthy = true → ∀ p ∈ ps, k.point p
  | .ok (.query _) | .ok .noop => True
  | .error e => e.isImportFailure = true ∧ (∀ m, e ≠ .header m) ∧ (∀ m, e ≠ .cancelled m)

variable (n : Nat) (f : InputFormat) (now : Int)

/-- Every step of an import from `w` over the units `es` keeps the waiting records and has an
outcome the sink admits. -/
def Clean : Flow → List Entry → Prop
  | _, [] => True
  | w, e :: es =>
    w.context.Keeps (f.step e w.context w.settings now).1 ∧
      k.Admits (f.step e w.context w.settings now).1 (f.step e w.context w.settings now).2.2 ∧
      Clean (w.unit n f now e) es

/-- A session and a tally stand for a flow: the same context, hand-offs, queries and tally, a
steady store with balanced books, at the time `now`. -/
structure Matches (st : Session × Tally) (w : Flow) : Prop where
  context : st.1.context = w.context
  handed : st.1.dispatcher.handed = w.sent
  queries : st.1.store.queries = w.queries
  tally : st.2 = w.tally
  steady : k.Steady st.1
  ledger : Ledger st.1.dispatcher
  now : st.1.now = now

variable {k n f now}

theorem Matches.plain {st : Session × Tally} {w : Flow} (hm : k.Matches now st w) :
    st.1.plain = w.plain := by
  simp [Session.plain, Flow.plain, hm.context, hm.handed]

theorem Matches.target {st : Session × Tally} {w : Flow} (hm : k.Matches now st w) :
    st.1.context.target = w.context.target := by
  rw [hm.context]

/-- A dispatcher step that settled at a plain state keeps the match with the flow whose
dispatcher's part is that state. -/
theorem Matches.settle {st : Session × Tally} {w : Flow} {s : Session} {p : Plain}
    (hm : k.Matches now st w) (hs : k.Settled st.1 s p) : k.Matches now (s, st.2) (w.withPlain p) :=
  ⟨by rw [hs.context, hm.context]; rfl, hs.handed, hs.queries.trans hm.queries, hm.tally,
    hs.steady, hs.ledger hm.ledger, hs.now.trans hm.now⟩

/-! ## One unit -/

theorem Takes.applyAction_query (hk : k.Takes n) {st : Session × Tally} {w : Flow}
    (hm : k.Matches now st w) (q : String) :
    ∃ st', (applyAction (.query q)).run.run st = (.ok (), st') ∧
      k.Matches now st' (w.act n (.query q)) := by
  obtain ⟨store, hq, hqs, hb⟩ := hk.query st.1 q hm.steady.base
  refine ⟨({ st.1 with store := store }, { st.2 with queries := st.2.queries + 1 }), ?_, ?_⟩
  · simp only [applyAction, run_bind, liftRun_run, checkToken, run_get, hk.token _ hm.steady.base,
      run_pure, hq, tally, run_modify]
  · exact ⟨hm.context, hm.handed, by rw [hqs, hm.queries]; rfl, by rw [hm.tally]; rfl,
      ⟨hb, hm.steady.lines, hm.steady.points⟩, hm.ledger, hm.now⟩

theorem Takes.applyAction_lines (hk : k.Takes n) {st : Session × Tally} {w : Flow}
    (hm : k.Matches now st w) {ls : List String} (hdb : w.context.database.truthy = true)
    (hls : ∀ l ∈ ls, k.line l) :
    ∃ st', (applyAction (.lines ls)).run.run st = (.ok (), st') ∧
      k.Matches now st' (w.act n (.lines ls)) := by
  obtain ⟨s', h, hset⟩ := hk.addLines_run hm.steady ls hls
  rw [hm.plain, hm.target] at hset
  refine ⟨(s', st.2), ?_, ?_⟩
  · simp only [applyAction, run_bind, run_get, hm.context, hdb, Bool.not_true, Bool.false_eq_true,
      if_false, enqueue, run_tryCatch, liftRun_run, h]
  · simp only [Flow.act, hdb, if_true]
    exact hm.settle hset

theorem Takes.applyAction_points (hk : k.Takes n) {st : Session × Tally} {w : Flow}
    (hm : k.Matches now st w) {ps : List Point} (hdb : w.context.database.truthy = true)
    (hps : ∀ p ∈ ps, k.point p) :
    ∃ st', (applyAction (.points ps)).run.run st = (.ok (), st') ∧
      k.Matches now st' (w.act n (.points ps)) := by
  obtain ⟨s', h, hset⟩ := hk.addPoints_run hm.steady ps hps
  rw [hm.plain, hm.target] at hset
  refine ⟨(s', st.2), ?_, ?_⟩
  · simp only [applyAction, run_bind, run_get, hm.context, hdb, Bool.not_true, Bool.false_eq_true,
      if_false, enqueue, run_tryCatch, liftRun_run, h]
  · simp only [Flow.act, hdb, if_true]
    exact hm.settle hset

/-- An action the sink admits goes through as `Flow.act` says, or is records with no database
named, which fail and change nothing. -/
theorem Takes.applyAction_run (hk : k.Takes n) {st : Session × Tally} {w : Flow}
    (hm : k.Matches now st w) (a : Action) (hadm : k.Admits w.context (.ok a)) :
    (∃ st', (applyAction a).run.run st = (.ok (), st') ∧ k.Matches now st' (w.act n a)) ∨
      ((applyAction a).run.run st = (.error (.noDatabase ""), st) ∧
        w.act n a = w.fail (.noDatabase "")) := by
  cases a with
  | query q => exact .inl (hk.applyAction_query hm q)
  | lines ls =>
    cases hdb : w.context.database.truthy
    case true => exact .inl (hk.applyAction_lines hm hdb (hadm hdb))
    case false =>
      refine .inr ⟨applyAction_lines_noDatabase ls (hm.context ▸ hdb), ?_⟩
      simp only [Flow.act, hdb, Bool.false_eq_true, if_false]
  | points ps =>
    cases hdb : w.context.database.truthy
    case true => exact .inl (hk.applyAction_points hm hdb (hadm hdb))
    case false =>
      refine .inr ⟨applyAction_points_noDatabase ps (hm.context ▸ hdb), ?_⟩
      simp only [Flow.act, hdb, Bool.false_eq_true, if_false]
  | noop =>
    refine .inl ⟨(st.1, { st.2 with skipped := st.2.skipped + 1 }), rfl, ?_⟩
    exact ⟨hm.context, hm.handed, hm.queries, by rw [hm.tally]; rfl, hm.steady, hm.ledger, hm.now⟩

/-- Each unit of a clean import runs as `Flow.unit` says. -/
theorem Takes.importUnit_run (hk : k.Takes n) {st : Session × Tally} {w : Flow}
    (hm : k.Matches now st w) (e : Entry)
    (hkeep : w.context.Keeps (f.step e w.context w.settings now).1)
    (hadm : k.Admits (f.step e w.context w.settings now).1 (f.step e w.context w.settings now).2.2) :
    ∃ st', (importUnit f w.settings e).run.run st = (.ok (w.stepped f now e).settings, st') ∧
      k.Matches now st' (w.unit n f now e) := by
  have hstep : f.step e st.1.context w.settings st.1.now = f.step e w.context w.settings now := by
    rw [hm.context, hm.now]
  rcases hr : f.step e w.context w.settings now with ⟨c, settings', out⟩
  rw [hr] at hstep hkeep hadm
  obtain ⟨hl, hp, -⟩ := hkeep
  simp only at hl hp hadm
  have hm1 : k.Matches now ({ st.1 with context := c }, { st.2 with processed := st.2.processed + 1 })
      (w.stepped f now e) := by
    refine ⟨by simp [Flow.stepped, hr], hm.handed, hm.queries, ?_, ?_, hm.ledger, hm.now⟩
    · simp [Flow.stepped, hm.tally]
    · refine ⟨hk.context _ _ hm.steady.base, ?_, ?_⟩
      · rw [hl, ← hm.context]
        exact hm.steady.lines
      · rw [hp, ← hm.context]
        exact hm.steady.points
  have hset : (w.stepped f now e).settings = settings' := by simp [Flow.stepped, hr]
  have hctx : (w.stepped f now e).context = c := by simp [Flow.stepped, hr]
  rw [hset]
  cases out with
  | error err =>
    obtain ⟨himport, hheader, hcancel⟩ := hadm
    have hunit : w.unit n f now e = (w.stepped f now e).fail err := by simp only [Flow.unit, hr]
    refine ⟨_, importUnit_counts_failure f w.settings e st hstep himport hheader hcancel, ?_⟩
    rw [hunit]
    exact ⟨hctx.symm, hm.handed, hm.queries, by simp [Flow.fail, Flow.stepped, hm.tally],
      hm1.steady, hm.ledger, hm.now⟩
  | ok a =>
    have hunit : w.unit n f now e = (w.stepped f now e).act n a := by simp only [Flow.unit, hr]
    rw [hunit]
    rw [← hctx] at hadm
    rcases hk.applyAction_run hm1 a hadm with ⟨st', ha, hm'⟩ | ⟨ha, hfail⟩
    · refine ⟨st', ?_, hm'⟩
      simp only [importUnit, tally, run_bind, run_modify, run_get, hstep, run_tryCatch, ha,
        run_pure]
    · refine ⟨({ st.1 with context := c }, { st.2 with
          processed := st.2.processed + 1
          failed := st.2.failed + 1
          errors := st.2.errors ++ [(Error.noDatabase "").message] }), ?_, ?_⟩
      · simp only [importUnit, tally, run_bind, run_modify, run_get, hstep, run_tryCatch, ha,
          Error.noDatabase, Error.isImportFailure, if_true, run_pure]
      · rw [hfail]
        exact ⟨hm1.context, hm.handed, hm.queries, by simp [Flow.fail, Flow.stepped, hm.tally],
          hm1.steady, hm.ledger, hm.now⟩

/-! ## A whole import -/

/-- A clean import runs its units as the fold says. -/
theorem Takes.importUnits_run (hk : k.Takes n) (es : List Entry) {st : Session × Tally}
    {w : Flow} (hm : k.Matches now st w) (hc : k.Clean n f now w es) :
    ∃ st', (importUnits f w.settings es).run.run st = (.ok (), st') ∧
      k.Matches now st' (w.run n f now es) := by
  induction es generalizing st w with
  | nil => exact ⟨st, rfl, hm⟩
  | cons e es ih =>
    obtain ⟨hkeep, hadm, hrest⟩ := hc
    obtain ⟨st1, h1, hm1⟩ := hk.importUnit_run hm e hkeep hadm
    obtain ⟨st2, h2, hm2⟩ := ih hm1 hrest
    refine ⟨st2, ?_, hm2⟩
    rw [Flow.settings_unit] at h2
    simp only [importUnits, run_bind, h1]
    exact h2

theorem Takes.finalDrain_run (hk : k.Takes n) {st : Session × Tally} {w : Flow}
    (hm : k.Matches now st w) :
    ∃ st', finalDrain.run.run st = (.ok (), st') ∧ k.Matches now st' (w.drained n) := by
  obtain ⟨s', r, h, hset⟩ := hk.drain_run hm.steady
  rw [hm.plain, hm.target] at hset
  refine ⟨(s', st.2), ?_, hm.settle hset⟩
  simp only [finalDrain, run_tryCatch, run_bind, liftRun_run, h, run_pure]

theorem Takes.importAll_run (hk : k.Takes n) (es : List Entry) {st : Session × Tally}
    {w : Flow} (hm : k.Matches now st w) (hc : k.Clean n f now w es) :
    ∃ st', (importAll f w.settings es none).run.run st = (.ok false, st') ∧
      k.Matches now st' ((w.run n f now es).drained n) := by
  obtain ⟨st1, h1, hm1⟩ := hk.importUnits_run es hm hc
  obtain ⟨st2, h2, hm2⟩ := hk.finalDrain_run hm1
  refine ⟨st2, ?_, hm2⟩
  simp only [importAll, importEntries, run_tryCatch, run_bind, h1, run_pure, h2]

/-- An import of a file read without fault, into a store that takes every batch and query and
over units whose steps are clean, succeeds: its report holds the tally of the fold, its books
those of a dispatcher that handed on the fold's batches and drained everything. -/
theorem Takes.importFile_run (hk : k.Takes n) {s : Settings} {file : InputFile} {client : Client}
    {token : Token} {f : InputFormat} {entries : List Entry} {d : Dispatcher}
    (hf : formatOf s = .ok f) (hr : f.read file = .ok (entries, none))
    (hd : Dispatcher.ofSettings s (importTransport f s).name client.rows client.columns = .ok d)
    (hbase : k.base ⟨{}, Store.new client, token, d, now⟩)
    (hc : k.Clean n f now (Flow.start s) entries) :
    ∃ st, k.Matches now st (((Flow.start s).run n f now entries).drained n) ∧
      importFile s file client token now =
        (.ok ⟨f, importTransport f s, st.2.errors.isEmpty, false, st.2, st.1.dispatcher.stats,
          st.1.dispatcher.failed⟩, st.1.store) := by
  obtain ⟨hh, hfd, hstats⟩ := Dispatcher.ofSettings_fresh hd
  have hm0 : k.Matches now (⟨{}, Store.new client, token, d, now⟩, ⟨0, 0, 0, 0, []⟩)
      (Flow.start s) :=
    ⟨rfl, hh, rfl, rfl, ⟨hbase, by simp, by simp⟩, Ledger.fresh hh hfd hstats, rfl⟩
  obtain ⟨st, h, hm⟩ := hk.importAll_run entries hm0 hc
  refine ⟨st, hm, ?_⟩
  simp only [importFile, hf, hr, hd, bind, Except.bind, pure, Except.pure, Flow.start] at h ⊢
  rw [h]
  simp

end Dispatch.Sink

end SeriesImport
