import Mathlib
import SeriesImport.Proofs.Import.Flow
import SeriesImport.Proofs.Dispatch.Rows
import SeriesImport.Proofs.LineProtocol.Directives
/-!
# Importing a line protocol file

Into a text store whose client takes everything, an uncancelled import of a line protocol file does what
its directives say. The store runs as queries the data read in the DDL phase, in order. Its
writes, split at line feeds, are the data read in the DML phase with a database named, in
order, each written to the database and retention policy in force when it was read, and the
records written are those lines. Each unit of data read in the DML phase with no database named
fails.

The import is the fold of `Flow.unit` over the units. `Follows` is what the fold keeps over the
units read so far, `Follows.unit` its step and `Follows.run` the run.
-/

namespace SeriesImport.LineProtocol

open SeriesImport.Dispatch

/-- The units of a line protocol file as the import reads them. -/
def entries (us : List String) : List Entry := us.map fun u => .unit (.str u)

theorem samePart_str {v : Value} {x : String} (h : samePart v (.str x) = true) : v = .str x := by
  cases v <;> simp_all [samePart, Value.equals, Value.sameScalar, Value.isContainer, Value.asInt?]

theorem sameTarget_str {b : Target} {x y : String} (h : sameTarget b (.str x, .str y) = true) :
    b = (.str x, .str y) := by
  obtain ⟨b1, b2⟩ := b
  simp only [sameTarget, Bool.and_eq_true] at h
  rw [samePart_str h.1, samePart_str h.2]

variable (n : Nat) (now : Int)

theorem unit_lineProtocol (w : Flow) (u : String) :
    w.unit n .lineProtocol now (.unit (.str u)) =
      (w.stepped .lineProtocol now (.unit (.str u))).act n (step u w.context).2 := rfl

/-- What the fold keeps over the units `pre` read so far: the context agrees with them, a
target is recorded once lines wait, and the queries run, the lines handed on or waiting with
their targets, and the failed units are those the units ask for. -/
structure Follows (pre : List String) (w : Flow) : Prop where
  agrees : Agrees pre w.context
  orderly : w.plain.bound.isSome ∨ w.plain.lines = []
  queries : w.queries = queriesOf pre
  lines : ∀ t, w.plain.lineRoute t = linesOf pre
  failed : w.tally.failed = orphansOf pre

theorem Follows.start (s : Settings) : Follows [] (Flow.start s) :=
  ⟨Agrees.nil, .inr rfl, rfl, fun _ => rfl, rfl⟩

variable {n now}

theorem Follows.extend {pre : List String} {u : String} {w w' : Flow} (h : Follows pre w)
    (hag : Agrees (pre ++ [u]) w'.context) (hord : w'.plain.bound.isSome ∨ w'.plain.lines = [])
    (hq : w'.queries = w.queries ++ (queryOf pre u).toList)
    (hl : ∀ t, w'.plain.lineRoute t = w.plain.lineRoute t ++ (lineOf pre u).toList)
    (hf : w'.tally.failed = w.tally.failed + if orphan pre u then 1 else 0) :
    Follows (pre ++ [u]) w' :=
  ⟨hag, hord, by rw [hq, h.queries, queriesOf_append_singleton],
    fun t => by rw [hl, h.lines, linesOf_append_singleton],
    by rw [hf, h.failed, orphansOf_append_singleton]⟩

/-- The step of the fold: one more unit. -/
theorem Follows.unit {pre : List String} {w : Flow} (h : Follows pre w) (u : String) :
    Follows (pre ++ [u]) (w.unit n .lineProtocol now (.unit (.str u))) := by
  rw [unit_lineProtocol]
  set w1 := w.stepped .lineProtocol now (.unit (.str u)) with hw1
  have hag : Agrees (pre ++ [u]) w1.context := h.agrees.step u
  obtain ⟨hl, hp, ht⟩ := step_keeps u w.context
  have hplain : w1.plain = w.plain := by
    simp only [hw1, Flow.stepped, Flow.plain]
    exact Plain.mk.injEq _ _ _ _ _ _ _ _ ▸ ⟨hl, hp, ht, rfl⟩
  have hord : w1.plain.bound.isSome ∨ w1.plain.lines = [] := hplain ▸ h.orderly
  have hroute : ∀ t, w1.plain.lineRoute t = w.plain.lineRoute t := fun t => by rw [hplain]
  cases hk : kind u
  case data d =>
    have hd : w1.context = w.context := by
      show (step u w.context).1 = w.context
      rw [step_fst, hk]
    cases hph : phaseAfter pre
    case ddl =>
      have ha : (step u w.context).2 = .query d := by rw [step_snd, hk, h.agrees.phase, hph]
      rw [ha]
      refine h.extend hag hord ?_ (fun t => by simp [hroute, lineOf, hk, hph]) ?_
      · simp [Flow.act, hw1, Flow.stepped, queryOf, hk, hph]
      · simp [Flow.act, hw1, Flow.stepped, orphan, hk, hph]
    case dml =>
      have ha : (step u w.context).2 = .lines [d] := by rw [step_snd, hk, h.agrees.phase, hph]
      rw [ha]
      cases hdb : (databaseAfter pre).isEmpty
      case true =>
        have hfalse : w1.context.database.truthy = false := by
          rw [hd, h.agrees.database]
          simp [Value.truthy, hdb]
        simp only [Flow.act, hfalse, Bool.false_eq_true, if_false]
        refine h.extend hag hord ?_ (fun t => by simp [hroute, lineOf, hk, hph, hdb]) ?_
        · simp [Flow.fail, hw1, Flow.stepped, queryOf, hk, hph]
        · simp [Flow.fail, hw1, Flow.stepped, orphan, hk, hph, hdb]
      case false =>
        have htrue : w1.context.database.truthy = true := by
          rw [hd, h.agrees.database]
          simp [Value.truthy, hdb]
        have htarget : w1.context.target =
            (.str (databaseAfter pre), .str (retentionAfter pre)) := by
          rw [hd, Context.target, h.agrees.database, h.agrees.retentionPolicy]
        have hdest := Plain.dest_switch_of_exact (n := n)
          (t := (.str (databaseAfter pre), .str (retentionAfter pre))) (fun _ => sameTarget_str) w.plain
        simp only [Flow.act, htrue, if_true, hplain, htarget]
        refine h.extend ⟨hag.phase, hag.database, hag.retentionPolicy⟩
          (.inl (Plain.bound_addLines_isSome _ _)) ?_ ?_ ?_
        · simp [Flow.withPlain, hw1, Flow.stepped, queryOf, hk, hph]
        · intro t
          rw [Flow.plain_withPlain,
            Plain.lineRoute_congr (.inl (Plain.bound_addLines_isSome _ _)) t
              (.str (databaseAfter pre), .str (retentionAfter pre)),
            (Plain.routes_addLines _ _).1, hdest, Plain.lineRoute_congr h.orderly _ t]
          simp [lineOf, hk, hph, hdb]
        · simp [Flow.withPlain, hw1, Flow.stepped, orphan, hk, hph, hdb]
  all_goals
    have ha : (step u w.context).2 = .noop := by rw [step_snd, hk]
    rw [ha]
    refine h.extend hag hord ?_ (fun t => by simp [hroute, lineOf, hk]) ?_
    · simp [Flow.act, hw1, Flow.stepped, queryOf, hk]
    · simp [Flow.act, hw1, Flow.stepped, orphan, hk]

/-- The run of the fold: the flow after all units follows them. -/
theorem Follows.run {pre : List String} {w : Flow} (h : Follows pre w) (us : List String) :
    Follows (pre ++ us) (w.run n .lineProtocol now (entries us)) := by
  induction us generalizing pre w with
  | nil => simpa [entries] using h
  | cons u us ih =>
    simpa [entries, List.append_assoc] using ih (h.unit u)

/-- Every step of a line protocol import over units without line feeds is clean for a text
store. -/
theorem clean_lineProtocol (b : Nat) (precision : Value) :
    ∀ (us : List String), (∀ u ∈ us, '\n' ∉ u.toList) → ∀ w : Flow,
      (rowSink b precision).Clean b .lineProtocol now w (entries us)
  | [], _, _ => trivial
  | u :: us, hus, w => by
    refine ⟨step_keeps u w.context, ?_, clean_lineProtocol b precision us
      (fun v hv => hus v (List.mem_cons_of_mem u hv)) _⟩
    show (rowSink b precision).Admits (step u w.context).1 (.ok (step u w.context).2)
    rw [step_snd]
    cases hk : kind u
    case data d =>
      cases w.context.phase
      case ddl => trivial
      case dml =>
        intro _ l hl
        rw [List.mem_singleton] at hl
        subst hl
        rw [eq_strip_of_kind_eq_data hk]
        exact noLineFeed_strip (hus u List.mem_cons_self)
    all_goals trivial

theorem ofSettings_row {s : Settings} {b : Nat} {rows columns : Bool} (hrows : rows = true)
    (hsize : s.batchSize = .int b) (hb : 0 < b) :
    Dispatcher.ofSettings s "row" rows columns =
      .ok ⟨.row s.precision, .int b, ⟨0, 0, 0, 0⟩, [], ⟨[]⟩, []⟩ := by
  simp [Dispatcher.ofSettings, hrows, hsize, Value.gt_int_int, hb, bind, Except.bind, pure,
    Except.pure]

/-- An uncancelled import of a line protocol file into a text store whose client takes every
text write and query does
what the file's directives say: the queries are the data read in the DDL phase, the lines
written, split at line feeds and each with its target, are the data read in the DML phase with
a database named, the records written are those lines, and the failed units those read in the
DML phase with no database named. -/
theorem lineProtocol_import_follows_directives (s : Settings) (file : InputFile) (text : String)
    (client : Client) (now : Int) (b : Nat)
    (hformat : formatOf s = .ok .lineProtocol) (hfile : file.read = .ok ⟨text, none⟩)
    (hcolumn : s.columnWrite.truthy = false) (hsize : s.batchSize = .int b) (hb : 0 < b)
    (hrows : client.rows = true) (hwrites : client.TakesRows) (hqueries : client.TakesQueries) :
    ∃ r store, importFile s file client ⟨false, false⟩ now = (.ok r, store) ∧
      store.queries = queriesOf (units text) ∧
      store.rowWrites.flatMap RowWrite.route = linesOf (units text) ∧
      r.stats.recordsWritten = (linesOf (units text)).length ∧
      r.tally.failed = orphansOf (units text) := by
  have hread : InputFormat.lineProtocol.read file = .ok (entries (units text), none) := by
    simp [InputFormat.read, InputFile.lines, hfile, entries, units, bind, Except.bind, pure,
      Except.pure]
  have hd : Dispatcher.ofSettings s "row" client.rows client.columns = _ :=
    ofSettings_row hrows hsize hb
  have htransport : (importTransport .lineProtocol s).name = "row" := by
    simp [importTransport, InputFormat.forcedTransport, hcolumn, Transport.name]
  rw [← htransport] at hd
  have hbase : RowStore b s.precision
      ⟨{}, Store.new client, ⟨false, false⟩, ⟨.row s.precision, .int b, ⟨0, 0, 0, 0⟩, [], ⟨[]⟩, []⟩,
        now⟩ :=
    ⟨rfl, rfl, rfl, hwrites, hqueries, rfl, rfl⟩
  obtain ⟨st, hm, himport⟩ := (rowSink_takes hb s.precision).importFile_run hformat hread hd hbase
    (clean_lineProtocol b s.precision (units text) (fun _ => noLineFeed_of_mem_units) _)
  have hf : Follows (units text) ((Flow.start s).run b .lineProtocol now (entries (units text))) := by
    simpa using (Follows.start s).run (units text)
  set w := (Flow.start s).run b .lineProtocol now (entries (units text))
  have hstore : RowStore b s.precision st.1 := hm.steady.base
  have hroutes : st.1.store.rowWrites.flatMap RowWrite.route = linesOf (units text) := by
    rw [hstore.routes, hm.handed, ← hf.lines w.context.target, ← Plain.lineRoute_drain (n := b)]
    simp only [Flow.drained, Flow.withPlain, Plain.lineRoute, Plain.lines_drain, List.map_nil,
      List.append_nil]
  refine ⟨_, _, himport, ?_, hroutes, ?_, ?_⟩
  · rw [hm.queries, ← hf.queries]
    rfl
  · rw [hstore.counted, hroutes]
  · rw [hm.tally, ← hf.failed]
    rfl

theorem lineProtocol_import_of_one_line :
    ∃ r store, importFile {} ⟨"m.lp", some "# DML\n# CONTEXT-DATABASE: db\nm v=1\n".toUTF8.data⟩
        (Script.client ⟨true, false, [], [], [], none, [], none⟩) ⟨false, false⟩ 0 =
          (.ok r, store) ∧
      store.queries = queriesOf (units "# DML\n# CONTEXT-DATABASE: db\nm v=1\n") ∧
      store.rowWrites.flatMap RowWrite.route = linesOf (units "# DML\n# CONTEXT-DATABASE: db\nm v=1\n") ∧
      r.stats.recordsWritten = (linesOf (units "# DML\n# CONTEXT-DATABASE: db\nm v=1\n")).length ∧
      r.tally.failed = orphansOf (units "# DML\n# CONTEXT-DATABASE: db\nm v=1\n") :=
  lineProtocol_import_follows_directives {} _ _ _ 0 100 rfl (readsAs_of_check (by decide +kernel))
    rfl rfl (by decide) rfl (Script.takesRows rfl rfl) (Script.takesQueries rfl rfl)

end SeriesImport.LineProtocol
