import Mathlib
import SeriesImport.Proofs.Import.LineProtocol
import SeriesImport.Proofs.Dispatch.ColumnStore
/-!
# Text and column writes of a line protocol file agree

An import of a line protocol file steps its units alike whether the settings ask for column
writes or not: no step reads that setting. Both imports hand the dispatcher the same batches, in
order, and a store whose client takes everything gets one write for each: a text write of the
batch's lines joined by line feeds, or a column write of the records of the points those lines
read as.
The two agree write by write (`Transcribes`): the same target, and records that read back as the
points of the text write's lines grouped by measurement. That needs every line queued to read
as a point, and no two targets written to to share a key in the registry of request builders;
the records written are then counted alike.

A column write needs a precision the column transport knows: with any other, the import with
column writes fails before it starts while the text import goes through
(`columnImport_refuses_hour_precision`).
-/

namespace SeriesImport

open SeriesImport.Dispatch

namespace Flow

variable (n : Nat)

theorem act_settings (w : Flow) (s : Settings) (a : Action) :
    ({ w with settings := s } : Flow).act n a = { w.act n a with settings := s } := by
  cases a with
  | lines ls | points ps =>
    by_cases hdb : w.context.database.truthy = true <;>
      simp only [act, hdb, if_true, if_false, Bool.false_eq_true] <;> rfl
  | query q | noop => rfl

variable {n} (now : Int)

theorem unit_settings_lineProtocol (w : Flow) (s : Settings) (u : String) :
    ({ w with settings := s } : Flow).unit n .lineProtocol now (.unit (.str u)) =
      { w.unit n .lineProtocol now (.unit (.str u)) with settings := s } := by
  rw [LineProtocol.unit_lineProtocol, LineProtocol.unit_lineProtocol]
  exact act_settings n (w.stepped .lineProtocol now (.unit (.str u))) s _

theorem run_settings_lineProtocol (w : Flow) (s : Settings) (us : List String) :
    ({ w with settings := s } : Flow).run n .lineProtocol now (LineProtocol.entries us) =
      { w.run n .lineProtocol now (LineProtocol.entries us) with settings := s } := by
  induction us generalizing w with
  | nil => rfl
  | cons u us ih =>
    simp only [LineProtocol.entries, List.map_cons, run_cons] at ih ⊢
    rw [unit_settings_lineProtocol, ih]

end Flow

namespace LineProtocol

variable {n : Nat} {now : Int}

/-- A fold that follows the units before it is clean for a store over the units after them, if
the store can write every line they queue. -/
theorem Follows.clean (k : Sink) {pre : List String} {w : Flow} (h : Follows pre w)
    (us : List String) (hk : ∀ r ∈ readsFrom pre us, ∀ x ∈ lineOf r.1 r.2, k.line x.1) :
    k.Clean n .lineProtocol now w (entries us) := by
  induction us generalizing pre w with
  | nil => trivial
  | cons u us ih =>
    refine ⟨step_keeps u w.context, ?_,
      ih (h.unit u) fun r hr => hk r (List.mem_cons_of_mem _ hr)⟩
    show k.Admits (step u w.context).1 (.ok (step u w.context).2)
    rw [step_snd]
    cases hkd : kind u
    case data d =>
      cases hph : w.context.phase
      case ddl => trivial
      case dml =>
        intro hdb l hl
        rw [List.mem_singleton.1 hl]
        have hd : (step u w.context).1 = w.context := by rw [step_fst, hkd]
        have hnamed : (databaseAfter pre).isEmpty = false := by
          rw [hd, h.agrees.database] at hdb
          simpa [Value.truthy] using hdb
        refine hk (pre, u) List.mem_cons_self
          (d, .str (databaseAfter pre), .str (retentionAfter pre)) ?_
        simp [lineOf, hkd, ← h.agrees.phase, hph, hnamed]
    all_goals trivial

/-- After the final drain, the lines handed on, each with its target, are those the units
queue. -/
theorem Follows.sent_drained {us : List String} {w : Flow} (h : Follows us w) :
    (w.drained n).sent.flatMap (fun b => b.batch.lineList.map (·, b.target)) = linesOf us := by
  rw [← h.lines w.context.target, ← Plain.lineRoute_drain (n := n)]
  simp only [Flow.drained, Flow.withPlain, Plain.lineRoute, Plain.lines_drain, List.map_nil,
    List.append_nil]

/-- A column write transcribes a text write: it goes to the same target, and its records read
back as the points the text's lines read as, at the multiplier `m` and the time `now`. -/
def Transcribes (m now : Int) (w : RowWrite) (q : WriteRequest) : Prop :=
  q.target = (w.database, w.retentionPolicy) ∧
    ∃ ps, List.Forall₂ (fun l p => readLine l (.int m) now = .ok (some p)) w.lines ps ∧
      ReadsBack q.records ps

/-- Column requests logged for writable hand-offs whose targets share no key transcribe the
text writes of those hand-offs, one for one. -/
theorem Logged.transcribes {m now : Int} (precision : Value) {hs : List Handoff}
    {qs : List WriteRequest} (hl : Logged m now hs qs) (hw : ∀ h ∈ hs, h.batch.Writable)
    (hkeys : ∀ h ∈ hs, ∀ h' ∈ hs, BuilderRegistry.key h.target.1 h.target.2 =
      BuilderRegistry.key h'.target.1 h'.target.2 → h.target = h'.target) :
    List.Forall₂ (Transcribes m now) (hs.map (Handoff.rowWrite precision)) qs := by
  rw [List.forall₂_map_left_iff]
  refine ((List.forall₂_and_left hs qs).2 ⟨hw, hl.pairs hkeys⟩).imp ?_
  rintro h q ⟨hwh, htarget, ps, hps, hrec⟩
  obtain ⟨ls, hb, -, -⟩ := id hwh
  rw [hb] at hps
  obtain ⟨recs, hrecs, hback⟩ := recordsOf_readsBack (keyed_of_readLine hps)
  rw [hrec, Except.ok.injEq] at hrecs
  refine ⟨htarget, ps, ?_, hrecs ▸ hback⟩
  rw [Handoff.lines_rowWrite hwh, hb]
  exact hps

theorem mem_of_mem_readsFrom {pre us : List String} {r : List String × String}
    (h : r ∈ readsFrom pre us) : r.2 ∈ us := by
  induction us generalizing pre with
  | nil => cases h
  | cons u us ih =>
    rcases List.mem_cons.1 h with rfl | h
    · exact List.mem_cons_self
    · exact List.mem_cons_of_mem _ (ih h)

theorem lineOf_some {pre : List String} {u : String} {x : String × Value × Value}
    (h : x ∈ lineOf pre u) : kind u = .data x.1 ∧ ∃ a b, x.2 = (.str a, .str b) := by
  unfold lineOf at h
  split at h
  · next d hk _ =>
    split at h
    · cases h
    · cases h
      exact ⟨hk, _, _, rfl⟩
  · cases h

theorem noLineFeed_of_lineOf {text : String} {r : List String × String}
    (hr : r ∈ readsFrom [] (units text)) {x : String × Value × Value} (hx : x ∈ lineOf r.1 r.2) :
    '\n' ∉ x.1.toList := by
  rw [eq_strip_of_kind_eq_data (lineOf_some hx).1]
  exact noLineFeed_strip (noLineFeed_of_mem_units (mem_of_mem_readsFrom hr))

/-- The dispatcher of a text import with an integer batch size `b`: batches of `b` when it is
positive, of 100 otherwise. -/
theorem ofSettings_row_int {s : Settings} {b : Int} {rows columns : Bool} (hrows : rows = true)
    (hsize : s.batchSize = .int b) :
    Dispatcher.ofSettings s "row" rows columns =
      .ok ⟨.row s.precision, .int (if 0 < b then b else 100), ⟨0, 0, 0, 0⟩, [], ⟨[]⟩, []⟩ := by
  by_cases hb : 0 < b <;>
    simp [Dispatcher.ofSettings, hrows, hsize, Value.gt_int_int, hb, bind, Except.bind, pure,
      Except.pure]

/-- An uncancelled import of a line protocol file with column writes transcribes, write by
write, the same import with text writes, into stores whose client takes every write and query,
at a precision the column transport knows: if every line queued reads as a point and no
two targets written to share a key. Both count the same records written. -/
theorem columnWrites_transcribe_rowWrites (s : Settings) (file : InputFile) (text : String)
    (client : Client) (now b m : Int) (hformat : formatOf s = .ok .lineProtocol)
    (hfile : file.read = .ok ⟨text, none⟩) (hsize : s.batchSize = .int b)
    (hmult : s.timeMultiplier = .ok m) (hrows : client.rows = true)
    (hcolumns : client.columns = true) (hwrites : client.TakesRows)
    (hcolumnWrites : client.TakesColumns) (hqueries : client.TakesQueries)
    (hread : ∀ x ∈ linesOf (units text), ∃ p, readLine x.1 (.int m) now = .ok (some p))
    (hkeys : ∀ x ∈ linesOf (units text), ∀ y ∈ linesOf (units text),
      BuilderRegistry.key x.2.1 x.2.2 = BuilderRegistry.key y.2.1 y.2.2 → x.2 = y.2) :
    ∃ rowReport rowStore columnReport columnStore,
      importFile { s with columnWrite := .bool false } file client ⟨false, false⟩ now =
        (.ok rowReport, rowStore) ∧
      importFile { s with columnWrite := .bool true } file client ⟨false, false⟩ now =
        (.ok columnReport, columnStore) ∧
      List.Forall₂ (Transcribes m now) rowStore.rowWrites columnStore.columnWrites ∧
      columnReport.stats.recordsWritten = rowReport.stats.recordsWritten := by
  obtain ⟨n, hn, hcast⟩ := batch_of_int b
  have hread' : InputFormat.lineProtocol.read file = .ok (entries (units text), none) := by
    simp [InputFormat.read, InputFile.lines, hfile, entries, units, bind, Except.bind, pure,
      Except.pure]
  have hdRow : Dispatcher.ofSettings { s with columnWrite := .bool false }
      (importTransport .lineProtocol { s with columnWrite := .bool false }).name client.rows
      client.columns = .ok ⟨.row s.precision, .int n, ⟨0, 0, 0, 0⟩, [], ⟨[]⟩, []⟩ := by
    rw [hcast]
    exact ofSettings_row_int hrows hsize
  have hbase1 : RowLog n s.precision ⟨{}, Store.new client, ⟨false, false⟩,
      ⟨.row s.precision, .int n, ⟨0, 0, 0, 0⟩, [], ⟨[]⟩, []⟩, now⟩ :=
    ⟨⟨rfl, rfl, rfl, hwrites, hqueries, rfl, rfl⟩, rfl, by simp⟩
  obtain ⟨st1, hm1, himport1⟩ := (rowLogSink_takes hn s.precision).importFile_run
    (s := { s with columnWrite := .bool false }) hformat hread' hdRow hbase1
    (Follows.clean _ (Follows.start _) _ fun r hr x hx => noLineFeed_of_lineOf hr hx)
  have hdCol : Dispatcher.ofSettings { s with columnWrite := .bool true }
      (importTransport .lineProtocol { s with columnWrite := .bool true }).name client.rows
      client.columns =
        .ok ⟨.column s.username s.password m, .int n, ⟨0, 0, 0, 0⟩, [], ⟨[]⟩, []⟩ := by
    rw [hcast]
    exact ofSettings_column_int hcolumns hsize hmult
  have hbase2 : ColumnStore n s.username s.password m now ⟨{}, Store.new client, ⟨false, false⟩,
      ⟨.column s.username s.password m, .int n, ⟨0, 0, 0, 0⟩, [], ⟨[]⟩, []⟩, now⟩ :=
    ⟨rfl, rfl, rfl, hcolumnWrites, hqueries, rfl, fun _ => rfl, by simp, .nil⟩
  obtain ⟨st2, hm2, himport2⟩ := (columnSink_takes hn s.username s.password m now).importFile_run
    (s := { s with columnWrite := .bool true }) hformat hread' hdCol hbase2
    (Follows.clean _ (Follows.start _) _ fun r hr x hx =>
      hread x (List.mem_filterMap.2 ⟨r, hr, hx⟩))
  set w := (Flow.start { s with columnWrite := .bool false }).run n .lineProtocol now
    (entries (units text)) with hw
  have hflow : (Flow.start { s with columnWrite := .bool true }).run n .lineProtocol now
      (entries (units text)) = { w with settings := { s with columnWrite := .bool true } } :=
    Flow.run_settings_lineProtocol now (Flow.start _) _ _
  have hsame : st2.1.dispatcher.handed = st1.1.dispatcher.handed := by
    rw [hm2.handed, hm1.handed, hflow]
    rfl
  have hf : Follows (units text) w := by simpa using (Follows.start _).run (units text)
  have hlog : RowLog n s.precision st1.1 := hm1.steady.base
  have hcol : ColumnStore n s.username s.password m now st2.1 := hm2.steady.base
  have htargets : ∀ h ∈ st1.1.dispatcher.handed, ∃ x ∈ linesOf (units text), x.2 = h.target := by
    intro h hh
    obtain ⟨ls, hb, hne, -⟩ := hlog.batches h hh
    obtain ⟨l, hl⟩ := List.exists_mem_of_ne_nil ls hne
    refine ⟨(l, h.target), ?_, rfl⟩
    rw [← hf.sent_drained, ← hm1.handed]
    exact List.mem_flatMap.2 ⟨h, hh, by simp [hb, Batch.lineList, hl]⟩
  refine ⟨_, _, _, _, himport1, himport2, ?_, ?_⟩
  · rw [hlog.log]
    have hlogged := hcol.logged
    rw [hsame] at hlogged
    refine Logged.transcribes s.precision hlogged hlog.batches fun h hh h' hh' hkey => ?_
    obtain ⟨x, hx, hxt⟩ := htargets h hh
    obtain ⟨y, hy, hyt⟩ := htargets h' hh'
    rw [← hxt, ← hyt] at hkey ⊢
    exact hkeys x hx y hy hkey
  · show st2.1.dispatcher.stats.recordsWritten = st1.1.dispatcher.stats.recordsWritten
    rw [hm2.ledger.recordsWritten, hm1.ledger.recordsWritten, hsame]

theorem readLines_of_check {xs : List (String × Value × Value)} {m now : Int}
    (h : (xs.all fun x => match readLine x.1 (.int m) now with
      | .ok (some _) => true
      | _ => false) = true) :
    ∀ x ∈ xs, ∃ p, readLine x.1 (.int m) now = .ok (some p) := by
  intro x hx
  have hx' := List.all_eq_true.1 h x hx
  split at hx'
  · next p hp => exact ⟨p, hp⟩
  · cases hx'

/-- Targets of queued lines checked by computation to share a key only when they are one. -/
theorem distinctKeys_of_check {us : List String}
    (h : ((linesOf us).all fun x => (linesOf us).all fun y =>
      BuilderRegistry.key x.2.1 x.2.2 != BuilderRegistry.key y.2.1 y.2.2 ||
        (x.2.1.display == y.2.1.display && x.2.2.display == y.2.2.display)) = true) :
    ∀ x ∈ linesOf us, ∀ y ∈ linesOf us,
      BuilderRegistry.key x.2.1 x.2.2 = BuilderRegistry.key y.2.1 y.2.2 → x.2 = y.2 := by
  intro x hx y hy hkey
  have hxy := List.all_eq_true.1 (List.all_eq_true.1 h x hx) y hy
  obtain ⟨r, -, hrx⟩ := List.mem_filterMap.1 hx
  obtain ⟨a, b, hab⟩ := (lineOf_some hrx).2
  obtain ⟨r', -, hry⟩ := List.mem_filterMap.1 hy
  obtain ⟨a', b', hab'⟩ := (lineOf_some hry).2
  rw [hab, hab'] at hxy hkey ⊢
  simp_all [Value.display]

/-- Two lines of two measurements written to one database in one batch, and a line written to
another: the column writes transcribe the text writes. -/
theorem columnWrites_transcribe_rowWrites_two_databases :
    ∃ rowReport rowStore columnReport columnStore,
      importFile { batchSize := .int 2, columnWrite := .bool false }
          ⟨"m.lp", some ("# DML\n# CONTEXT-DATABASE: a\nm,t=x v=1 1\nn v=2 2\n" ++
            "# CONTEXT-DATABASE: b\nm v=3 3\n").toUTF8.data⟩
          (Script.client ⟨true, true, [], [], [], none, [], none⟩) ⟨false, false⟩ 0 =
        (.ok rowReport, rowStore) ∧
      importFile { batchSize := .int 2, columnWrite := .bool true }
          ⟨"m.lp", some ("# DML\n# CONTEXT-DATABASE: a\nm,t=x v=1 1\nn v=2 2\n" ++
            "# CONTEXT-DATABASE: b\nm v=3 3\n").toUTF8.data⟩
          (Script.client ⟨true, true, [], [], [], none, [], none⟩) ⟨false, false⟩ 0 =
        (.ok columnReport, columnStore) ∧
      List.Forall₂ (Transcribes 1 0) rowStore.rowWrites columnStore.columnWrites ∧
      columnReport.stats.recordsWritten = rowReport.stats.recordsWritten :=
  columnWrites_transcribe_rowWrites { batchSize := .int 2 } _
    ("# DML\n# CONTEXT-DATABASE: a\nm,t=x v=1 1\nn v=2 2\n" ++ "# CONTEXT-DATABASE: b\nm v=3 3\n")
    _ 0 2 1 rfl
    (readsAs_of_check (by decide +kernel)) rfl rfl rfl rfl (Script.takesRows rfl rfl)
    (Script.takesColumns rfl rfl (by simp)) (Script.takesQueries rfl rfl)
    (readLines_of_check (by decide +kernel)) (distinctKeys_of_check (by decide +kernel))

/-- With the precision `h`, which the column transport does not know, the import with column
writes fails on its settings before any request, while the text import writes the line. -/
theorem columnImport_refuses_hour_precision :
    ((match importFile { precision := .str "h", batchSize := .int 10, columnWrite := .bool true }
        ⟨"m.lp", some "# DML\n# CONTEXT-DATABASE: db\nm v=1\n".toUTF8.data⟩
        (Script.client ⟨true, true, [], [], [], none, [], none⟩) ⟨false, false⟩ 0 with
      | (.error (.config msg), store) => msg == badPrecision && store.columnWrites.isEmpty
      | _ => false) &&
    (match importFile { precision := .str "h", batchSize := .int 10, columnWrite := .bool false }
        ⟨"m.lp", some "# DML\n# CONTEXT-DATABASE: db\nm v=1\n".toUTF8.data⟩
        (Script.client ⟨true, true, [], [], [], none, [], none⟩) ⟨false, false⟩ 0 with
      | (.ok r, store) => store.rowWrites.length == 1 && r.stats.recordsWritten == 1
      | _ => false)) = true := by
  decide +kernel

end LineProtocol

end SeriesImport
