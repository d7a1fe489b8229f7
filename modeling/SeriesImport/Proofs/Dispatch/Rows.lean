import Mathlib
import SeriesImport.Proofs.Dispatch.Steady
/-!
# A text store that takes everything

A store whose client takes every text write and every query takes every batch of lines that
hold no line feed. The text of each write, split at line feeds,
gives back the lines of its batch, so the lines the store holds, in order and each with the
target it was written to, are those of the batches handed on (`RowStore.routes`).
-/

namespace SeriesImport.Dispatch

/-- The lines of a row write's text, split at line feeds. -/
def RowWrite.lines (w : RowWrite) : List String := (w.raw.toList.splitOn '\n').map String.ofList

/-- Every line of a row write, with the target it was written to. -/
def RowWrite.route (w : RowWrite) : List (String × Target) :=
  w.lines.map (·, (w.database, w.retentionPolicy))

theorem RowWrite.lines_intercalate {ls : List String} (hne : ls ≠ [])
    (hl : ∀ l ∈ ls, '\n' ∉ l.toList) (db rp precision : Value) :
    (⟨db, rp, "\n".intercalate ls, precision⟩ : RowWrite).lines = ls := by
  have hx : ∀ l ∈ ls.map String.toList, '\n' ∉ l := by simpa using hl
  have hsplit : (['\n'].intercalate (ls.map String.toList)).splitOn '\n' = ls.map String.toList :=
    List.splitOn_intercalate '\n' hx (by simpa using hne)
  simp only [RowWrite.lines, String.toList_intercalate]
  rw [show "\n".toList = ['\n'] from rfl, hsplit, List.map_map]
  simp [Function.comp_def]

/-- A session writing text at `precision` in batches of `n` to a store that refuses and cancels
nothing, whose written lines are those handed on and counted as written. -/
structure RowStore (n : Nat) (precision : Value) (s : Session) : Prop where
  token : s.token.check = .ok ()
  size : s.dispatcher.batchSize = .int n
  strategy : s.dispatcher.strategy = .row precision
  writes : s.store.client.TakesRows
  queries : s.store.client.TakesQueries
  routes : s.store.rowWrites.flatMap RowWrite.route =
    s.dispatcher.handed.flatMap fun h => h.batch.lineList.map (·, h.target)
  counted : s.dispatcher.stats.recordsWritten = (s.store.rowWrites.flatMap RowWrite.route).length

/-- A batch of lines without line feeds goes through to a text store that refuses and cancels
nothing, as one write of the lines joined by line feeds. -/
theorem RowStore.send_lines {n : Nat} {precision : Value} {s : Session}
    (h : RowStore n precision s) {ls : List String} (hne : ls ≠ [])
    (hls : ∀ l ∈ ls, '\n' ∉ l.toList) :
    ∃ s', (send (.lines ls)).run.run s = (.ok (), s') ∧ RowStore n precision s' ∧
      Sink.Wrote s s' (.lines ls) ∧
      s'.store.rowWrites = s.store.rowWrites ++
        [⟨s.destination.1, s.destination.2, "\n".intercalate ls, precision⟩] := by
  have hbatch := writeRows_run ⟨s.destination.1, s.destination.2, "\n".intercalate ls, precision⟩
    h.writes
  have hsend := send_run_of_write (s := s) (b := .lines ls) (by
    simp only [writeBatch, run_bind, run_get, h.strategy]
    exact hbatch)
  have hsent := Triple.outcome (send_spec (.lines ls) s) rfl
  rw [hsend] at hsent
  have hroute : (⟨s.destination.1, s.destination.2, "\n".intercalate ls, precision⟩ : RowWrite).route =
      ls.map (·, s.destination) := by
    simp only [RowWrite.route, RowWrite.lines_intercalate hne hls]
  refine ⟨_, hsend, ⟨h.token, h.size, h.strategy, h.writes, h.queries, ?_, ?_⟩,
    ⟨hsent, rfl, by simp [Exchange.query?]⟩, by simp [Exchange.rowWrite?]⟩
  · simp only [Store.rowWrites_append, Exchange.rowWrite?, Option.toList_some,
      List.flatMap_append, h.routes, List.flatMap_singleton, hroute, Batch.lineList, Handoff.target]
  · simp only [Store.rowWrites_append, Exchange.rowWrite?, Option.toList_some,
      List.flatMap_append, List.flatMap_singleton, hroute, List.length_append, List.length_map,
      h.counted, Batch.size]

/-- A text store as a sink: it takes lines without line feeds and no points. -/
def rowSink (n : Nat) (precision : Value) : Sink :=
  ⟨RowStore n precision, fun l => '\n' ∉ l.toList, fun _ => False⟩

/-- A text store whose client takes every write and query takes every batch of lines without
line feeds, and every query. -/
theorem rowSink_takes {n : Nat} (hn : 0 < n) (precision : Value) :
    (rowSink n precision).Takes n where
  pos := hn
  token _ h := h.token
  size _ h := h.size
  context _ _ h := ⟨h.token, h.size, h.strategy, h.writes, h.queries, h.routes, h.counted⟩
  lines s ls h hne hls := by
    obtain ⟨s', hrun, hstore, hwrote, -⟩ := RowStore.send_lines h hne hls
    exact ⟨s', hrun, hstore, hwrote⟩
  points _ ps _ hne hps := by
    obtain ⟨p, hp⟩ := List.exists_mem_of_ne_nil ps hne
    exact (hps p hp).elim
  query s q h :=
    ⟨_, runQuery_run q h.queries, by simp [Exchange.query?],
      ⟨h.token, h.size, h.strategy, h.writes, h.queries, by simpa [Exchange.rowWrite?] using h.routes,
        by simpa [Exchange.rowWrite?] using h.counted⟩⟩

/-- The text write of the lines of a hand-off, joined by line feeds, at `precision`. -/
def Handoff.rowWrite (precision : Value) (h : Handoff) : RowWrite :=
  ⟨h.database, h.retentionPolicy, "\n".intercalate h.batch.lineList, precision⟩

/-- A batch of lines that holds a line and no line feed in any. -/
def Batch.Writable (b : Batch) : Prop :=
  ∃ ls, b = .lines ls ∧ ls ≠ [] ∧ ∀ l ∈ ls, '\n' ∉ l.toList

/-- A text store whose client takes everything, whose writes are those of the hand-offs, one each,
every hand-off a batch of lines that holds a line and no line feed. -/
structure RowLog (n : Nat) (precision : Value) (s : Session) : Prop where
  store : RowStore n precision s
  log : s.store.rowWrites = s.dispatcher.handed.map (Handoff.rowWrite precision)
  batches : ∀ h ∈ s.dispatcher.handed, h.batch.Writable

/-- A text store as a sink that keeps its writes one for each hand-off. -/
def rowLogSink (n : Nat) (precision : Value) : Sink :=
  ⟨RowLog n precision, fun l => '\n' ∉ l.toList, fun _ => False⟩

/-- A text store whose client takes everything writes each batch it takes as one write. -/
theorem rowLogSink_takes {n : Nat} (hn : 0 < n) (precision : Value) :
    (rowLogSink n precision).Takes n where
  pos := hn
  token _ h := h.store.token
  size _ h := h.store.size
  context s c h := ⟨(rowSink_takes hn precision).context s c h.store, h.log, h.batches⟩
  lines s ls h hne hls := by
    obtain ⟨s', hrun, hstore, hwrote, hwrites⟩ := RowStore.send_lines h.store hne hls
    refine ⟨s', hrun, ⟨hstore, ?_, ?_⟩, hwrote⟩
    · rw [hwrites, hwrote.sent.handed, h.log, List.map_append]
      rfl
    · rw [hwrote.sent.handed]
      intro b hb
      rcases List.mem_append.1 hb with hb | hb
      · exact h.batches b hb
      · rw [List.mem_singleton.1 hb]
        exact ⟨ls, rfl, hne, hls⟩
  points _ ps _ hne hps := by
    obtain ⟨p, hp⟩ := List.exists_mem_of_ne_nil ps hne
    exact (hps p hp).elim
  query s q h := by
    obtain ⟨st, hrun, hq, hbase⟩ := (rowSink_takes hn precision).query s q h.store
    rw [runQuery_run q h.store.queries, Prod.mk.injEq] at hrun
    obtain ⟨-, hst⟩ := hrun
    refine ⟨st, by rw [runQuery_run q h.store.queries, hst], hq, hbase, ?_, ?_⟩
    · rw [← hst]
      simpa [Exchange.rowWrite?] using h.log
    · rw [← hst]
      exact h.batches

/-- The write of a batch of lines that holds a line and no line feed splits back into its
lines. -/
theorem Handoff.lines_rowWrite {h : Handoff} (hw : h.batch.Writable) (precision : Value) :
    (h.rowWrite precision).lines = h.batch.lineList := by
  obtain ⟨ls, hb, hne, hls⟩ := hw
  simp only [Handoff.rowWrite, hb, Batch.lineList]
  exact RowWrite.lines_intercalate hne hls _ _ _

end SeriesImport.Dispatch
