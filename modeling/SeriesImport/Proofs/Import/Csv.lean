import Mathlib
import SeriesImport.Proofs.Csv.Step
import SeriesImport.Proofs.Import.Flow
import SeriesImport.Proofs.Dispatch.ColumnStore
/-!
# A comma-separated import from end to end

When every write and query goes through, an import of a comma-separated text is a fold over its
rows (`Flow.run`). The header row sets up the context (`Ready`); after it each data row counts on
its own (`Ready.rowStep`): a blank row is skipped, a row too short for the resolved columns
fails, and every other row is one point, queued alone, so that the dispatcher hands on a batch
each time `n` points wait (`Tabulated`, kept row by row by `Tabulated.step`). The final drain
hands on the rest. A column store that takes everything writes each batch as one request for the
header's target, holding one record for the measurement, whose rows read back as the batch's
points (`Logged.records_of_batches`).
-/

namespace SeriesImport.Csv

open SeriesImport.Dispatch

/-! ## Lists related item by item -/

section Related

variable {α β γ : Type}

theorem forall₂_span {R : α → β → Prop} {S : α → γ → Prop} {T : β → γ → Prop}
    (h : ∀ a b c, R a b → S a c → T b c) :
    ∀ {l₀ : List α} {l₁ : List β} {l₂ : List γ}, List.Forall₂ R l₀ l₁ → List.Forall₂ S l₀ l₂ →
      List.Forall₂ T l₁ l₂
  | [], [], [], .nil, .nil => .nil
  | _ :: _, _ :: _, _ :: _, .cons hab hr, .cons hac hs =>
    .cons (h _ _ _ hab hac) (forall₂_span h hr hs)

theorem forall₂_exists_of_mem_right {R : α → β → Prop} {l₁ : List α} {l₂ : List β}
    (h : List.Forall₂ R l₁ l₂) {b : β} (hb : b ∈ l₂) : ∃ a ∈ l₁, R a b := by
  induction h with
  | nil => simp at hb
  | @cons a b' l₁ l₂ hab _ ih =>
    rcases List.mem_cons.1 hb with rfl | hb
    · exact ⟨a, by simp, hab⟩
    · obtain ⟨a', ha', h'⟩ := ih hb
      exact ⟨a', by simp [ha'], h'⟩

theorem forall₂_exists_of_mem_left {R : α → β → Prop} {l₁ : List α} {l₂ : List β}
    (h : List.Forall₂ R l₁ l₂) {a : α} (ha : a ∈ l₁) : ∃ b ∈ l₂, R a b :=
  forall₂_exists_of_mem_right (List.Forall₂.flip (R := flip R) h) ha

theorem forall₂_dropLast {R : α → β → Prop} {l₁ : List α} {l₂ : List β}
    (h : List.Forall₂ R l₁ l₂) : List.Forall₂ R l₁.dropLast l₂.dropLast := by
  rw [List.dropLast_eq_take, List.dropLast_eq_take, h.length_eq]
  exact List.forall₂_take _ h

end Related

/-! ## Reading and the rows -/

/-- The rows of a comma-separated text, comment lines left out. -/
def textRows (text : String) : List (List String) :=
  rows true ((Text.fileLines text).filter fun l => !isCommentLine l)

def rowEntry (row : List String) : Entry := .unit (.list (row.map .str))

theorem read_textRows {file : InputFile} {text : String} (h : file.read = .ok ⟨text, none⟩) :
    InputFormat.csv.read file = .ok ((textRows text).map rowEntry, none) := by
  simp [InputFormat.read, InputFile.lines, h, textRows, rowEntry, bind, Except.bind, pure,
    Except.pure]

section Rows

variable (tags fields : List (Value × Column)) (time : Column) (m now : Int)

/-- Whether a data row is written: it is not blank and has a cell at every resolved column. -/
def writes (row : List String) : Bool :=
  !isBlankRow row && reaches (rowColumns tags fields time) row

/-- Whether a data row fails: it is not blank and lacks a cell at some resolved column. -/
def fails (row : List String) : Bool :=
  !isBlankRow row && !reaches (rowColumns tags fields time) row

/-- The time of a data row: what its time cell gives at the multiplier `m`, at the time `now`. -/
def RowTime (row : List String) (t : Int) : Prop :=
  cellTime (row.getD time.pos.toNat "") m now = .ok t

/-- A row of a record that reads back as a data row: the cells at the tag and field columns
under their names, at the row's time. -/
def RowLine (line : RecordLine) (row : List String) : Prop :=
  ∃ t, RowTime time m now row t ∧ line.Same ⟨cellsIn row tags, cellsIn row fields, .int t⟩

end Rows

/-- The point a data row is written as under the context `c`. -/
def RowPoint (c : Context) (m now : Int) (p : Point) (row : List String) : Prop :=
  ∃ t, RowTime c.timeField m now row t ∧
    p = ⟨c.measurement, cellsIn row c.tagMap, cellsIn row c.fieldMap, .int t⟩

/-! ## The context a header sets up -/

/-- A context that a header set up for data rows under the settings `s`: in the data phase, with
a database and a target that is itself, a text measurement, tag and field columns named by texts,
each once, some field, every column at a place, and a precision of multiplier `m`. -/
structure Ready (s : Settings) (m : Int) (c : Context) : Prop where
  phase : c.phase = .dml
  database : c.database.truthy = true
  target : sameTarget c.target c.target = true
  measurement : ∃ t, c.measurement = .str t ∧ t ≠ ""
  tags : Named c.tagMap
  fields : Named c.fieldMap
  someField : c.fieldMap ≠ []
  time : 0 ≤ c.timeField.pos
  multiplier : s.timeMultiplier = .ok m

theorem Named.cellsIn {cols : List (Value × Column)} (h : Named cols) (row : List String) :
    TextKeyed (Csv.cellsIn row cols) := by
  have hkeys : (Csv.cellsIn row cols).map Prod.fst = cols.map Prod.fst := by
    simp [Csv.cellsIn, Function.comp_def]
  refine ⟨fun e he => ?_, hkeys ▸ h.nodup⟩
  obtain ⟨e', he', rfl⟩ := List.mem_map.1 he
  exact h.text e' he'

section Ready

variable {s : Settings} {m : Int} {c : Context}

theorem Ready.placed (hc : Ready s m c) :
    ∀ col ∈ rowColumns c.tagMap c.fieldMap c.timeField, 0 ≤ col.pos := by
  intro col hcol
  simp only [rowColumns, List.mem_append, List.mem_map, List.mem_singleton] at hcol
  rcases hcol with (⟨e, he, rfl⟩ | ⟨e, he, rfl⟩) | rfl
  · exact hc.tags.placed e he
  · exact hc.fields.placed e he
  · exact hc.time

theorem Ready.keyed (hc : Ready s m c) {now : Int} {p : Point} {row : List String}
    (h : RowPoint c m now p row) : p.Keyed := by
  obtain ⟨t, -, rfl⟩ := h
  obtain ⟨meas, hmeas, -⟩ := hc.measurement
  exact ⟨⟨meas, hmeas⟩, hc.tags.cellsIn row, hc.fields.cellsIn row⟩

/-- Under a context a header set up, a data row is blank and asks for nothing, or is written as
one point, or is too short and fails, showing the row. -/
theorem Ready.rowStep (hc : Ready s m c) (p : Plain) (now : Int) (row : List String)
    (htime : writes c.tagMap c.fieldMap c.timeField row = true →
      ∃ t, RowTime c.timeField m now row t) :
    (isBlankRow row = true ∧ Csv.rowStep (.list (row.map .str)) (c.withPlain p) s now = .ok .noop) ∨
    (writes c.tagMap c.fieldMap c.timeField row = true ∧ ∃ q, RowPoint c m now q row ∧
      Csv.rowStep (.list (row.map .str)) (c.withPlain p) s now = .ok (.points [q])) ∨
    (fails c.tagMap c.fieldMap c.timeField row = true ∧ ∃ msg,
      Csv.rowStep (.list (row.map .str)) (c.withPlain p) s now =
        .error (.parse msg none (",".intercalate row))) := by
  by_cases hb : isBlankRow row = true
  · exact .inl ⟨hb, rowStep_blank hb⟩
  have hb' : isBlankRow row = false := by simpa using hb
  by_cases hr : reaches (rowColumns c.tagMap c.fieldMap c.timeField) row = true
  · have hw : writes c.tagMap c.fieldMap c.timeField row = true := by simp [writes, hb', hr]
    obtain ⟨t, ht⟩ := htime hw
    obtain ⟨meas, hmeas, hne⟩ := hc.measurement
    refine .inr (.inl ⟨hw, _, ⟨t, ht, rfl⟩, ?_⟩)
    exact rowStep_point (c := c.withPlain p) hc.placed hb' hr hc.multiplier ht
      (by simp [Context.withPlain, hmeas, Value.truthy, hne]) hc.someField
  · have hr' : reaches (rowColumns c.tagMap c.fieldMap c.timeField) row = false := by simpa using hr
    exact .inr (.inr ⟨by simp [fails, hb', hr'], rowStep_short (c := c.withPlain p) hc.placed hb' hr'⟩)

end Ready

/-! ## The fold over the data rows -/

theorem unit_rowEntry (n : Nat) (now : Int) {w : Flow} (h : w.context.phase = .dml)
    (row : List String) :
    w.unit n .csv now (rowEntry row) =
      match Csv.rowStep (.list (row.map .str)) w.context w.settings now with
      | .ok a => ({ w with tally := { w.tally with processed := w.tally.processed + 1 } }).act n a
      | .error e =>
        ({ w with tally := { w.tally with processed := w.tally.processed + 1 } }).fail e := by
  cases hr : Csv.rowStep (.list (row.map .str)) w.context w.settings now <;>
    simp only [Flow.unit, Flow.stepped, InputFormat.step, Csv.step, rowEntry, h, hr]

section Fold

variable (n : Nat) (s : Settings) (c : Context) (m now : Int) (queries : List String)

/-- What the fold holds after the data rows `rows` under the context `c` a header set up: the
context is `c` with the dispatcher's part, the settings and the queries are as the header left
them, the points of the rows written are taken in batches of `n`, and the rows that failed are
counted. -/
structure Tabulated (rows : List (List String)) (w : Flow) : Prop where
  context : w.context = c.withPlain w.plain
  settings : w.settings = s
  queries : w.queries = queries
  batched : ∃ ps, List.Forall₂ (RowPoint c m now) ps
      (rows.filter (writes c.tagMap c.fieldMap c.timeField)) ∧
    w.plain.Batched n c.target ps
  failed : w.tally.failed = (rows.filter (fails c.tagMap c.fieldMap c.timeField)).length

variable {n s c m now queries}

/-- One data row keeps what the fold holds. -/
theorem Tabulated.step (hc : Ready s m c) {rows : List (List String)} {w : Flow}
    (h : Tabulated n s c m now queries rows w) (row : List String)
    (htime : writes c.tagMap c.fieldMap c.timeField row = true →
      ∃ t, RowTime c.timeField m now row t) :
    Tabulated n s c m now queries (rows ++ [row]) (w.unit n .csv now (rowEntry row)) := by
  obtain ⟨ps, hps, hbatched⟩ := h.batched
  have hphase : w.context.phase = .dml := by rw [h.context]; exact hc.phase
  rw [unit_rowEntry n now hphase]
  rcases hc.rowStep w.plain now row htime with ⟨hb, hstep⟩ | ⟨hw, q, hq, hstep⟩ | ⟨hf, msg, hstep⟩
  · rw [h.context, h.settings, hstep]
    have hw : writes c.tagMap c.fieldMap c.timeField row = false := by simp [writes, hb]
    have hf : fails c.tagMap c.fieldMap c.timeField row = false := by simp [fails, hb]
    refine ⟨rfl, rfl, h.queries, ⟨ps, by simpa [List.filter_append, hw] using hps, hbatched⟩, ?_⟩
    simp [Flow.act, List.filter_append, hf, h.failed]
  · rw [h.context, h.settings, hstep]
    have hf : fails c.tagMap c.fieldMap c.timeField row = false := by
      simp only [writes, Bool.and_eq_true, Bool.not_eq_true'] at hw
      simp [fails, hw.1, hw.2]
    have hdb : (c.withPlain w.plain).database.truthy = true := hc.database
    simp only [Flow.act, hdb, if_true]
    refine ⟨?_, rfl, h.queries, ⟨ps ++ [q], ?_, ?_⟩, ?_⟩
    · rw [Flow.plain_withPlain]
      exact Context.withPlain_withPlain c w.plain _
    · rw [List.filter_append, List.filter_singleton, hw]
      exact List.rel_append hps (.cons hq .nil)
    · rw [Flow.plain_withPlain, Context.withPlain_target]
      exact hbatched.addPoints hc.target q
    · simpa [Flow.withPlain, List.filter_append, hf] using h.failed
  · rw [h.context, h.settings, hstep]
    have hw : writes c.tagMap c.fieldMap c.timeField row = false := by
      simp only [fails, Bool.and_eq_true, Bool.not_eq_true'] at hf
      simp [writes, hf.1, hf.2]
    refine ⟨rfl, rfl, h.queries, ⟨ps, by simpa [List.filter_append, hw] using hps, hbatched⟩, ?_⟩
    simp [Flow.fail, List.filter_append, hf, h.failed]

/-- The data rows, one after another, keep what the fold holds. -/
theorem Tabulated.run (hc : Ready s m c) {pre : List (List String)} {w : Flow}
    (h : Tabulated n s c m now queries pre w) (rows : List (List String))
    (htime : ∀ row ∈ rows, writes c.tagMap c.fieldMap c.timeField row = true →
      ∃ t, RowTime c.timeField m now row t) :
    Tabulated n s c m now queries (pre ++ rows) (w.run n .csv now (rows.map rowEntry)) := by
  induction rows generalizing pre w with
  | nil => simpa using h
  | cons row rows ih =>
    have hnext := h.step hc row (htime row (by simp))
    simpa using ih hnext fun r hr => htime r (by simp [hr])

/-- Every step over the data rows keeps the waiting records and has an outcome that a column
store taking everything admits. -/
theorem Tabulated.clean (hc : Ready s m c) (user pass : Value) {pre : List (List String)}
    {w : Flow} (h : Tabulated n s c m now queries pre w) (rows : List (List String))
    (htime : ∀ row ∈ rows, writes c.tagMap c.fieldMap c.timeField row = true →
      ∃ t, RowTime c.timeField m now row t) :
    (columnSink n user pass m now).Clean n .csv now w (rows.map rowEntry) := by
  induction rows generalizing pre w with
  | nil => trivial
  | cons row rows ih =>
    have hphase : w.context.phase = .dml := by rw [h.context]; exact hc.phase
    have hstep : InputFormat.csv.step (rowEntry row) w.context w.settings now =
        (w.context, w.settings, Csv.rowStep (.list (row.map .str)) w.context w.settings now) := by
      simp [InputFormat.step, Csv.step, rowEntry, hphase]
    refine ⟨?_, ?_, ih (h.step hc row (htime row (by simp))) fun r hr => htime r (by simp [hr])⟩
    · rw [hstep]
      exact ⟨rfl, rfl, rfl⟩
    · rw [hstep]
      dsimp only
      rw [h.context, h.settings]
      rcases hc.rowStep w.plain now row (htime row (by simp)) with
        ⟨-, hs⟩ | ⟨-, q, hq, hs⟩ | ⟨-, msg, hs⟩
      · rw [hs]
        trivial
      · rw [hs]
        intro _ p hp
        rw [List.mem_singleton.1 hp]
        exact hc.keyed hq
      · rw [hs]
        exact ⟨rfl, by simp, by simp⟩

end Fold

/-! ## The header -/

/-- The context a header resolved to `tags`, `fields` and `time` sets up under the settings
`s`. -/
def headerContext (s : Settings) (tags fields : List (Value × Column)) (time : Column) :
    Context :=
  { tagMap := tags, fieldMap := fields, timeField := time, measurement := s.measurement
    database := s.database
    retentionPolicy := if s.retentionPolicy.truthy then s.retentionPolicy else .str "autogen"
    phase := .dml }

section Header

variable {s : Settings} {header : List String} {marked : List Value}
  {tags fields : List (Value × Column)} {time : Column}

/-- A header that resolves with some field, under settings that name a text measurement, a text
database and a text retention policy, at a precision of multiplier `m`, sets up a context ready
for data rows. -/
theorem headerContext_ready {m : Int} (hmark : dropMark (header.map .str) = .ok marked)
    (hh : resolveHeader marked s = .ok (tags, fields, time)) (hfields : fields ≠ [])
    (hmeasure : ∃ t, s.measurement = .str t ∧ t ≠ "") (hdb : ∃ d, s.database = .str d ∧ d ≠ "")
    (hrp : ∃ r, s.retentionPolicy = .str r) (hmult : s.timeMultiplier = .ok m) :
    Ready s m (headerContext s tags fields time) := by
  obtain ⟨htags, hfieldNames, htime⟩ := resolveHeader_named (dropMark_text hmark) hh
  obtain ⟨d, hd, hdne⟩ := hdb
  obtain ⟨r, hr⟩ := hrp
  have hsame : ∀ x : String, samePart (.str x) (.str x) = true := fun x => by simp [samePart]
  refine ⟨rfl, by simp [headerContext, hd, Value.truthy, hdne], ?_, hmeasure, htags,
    hfieldNames, hfields, htime, hmult⟩
  by_cases hrt : (Value.str r).truthy = true <;>
    simp [headerContext, Context.target, sameTarget, hd, hr, hrt, hsame]

variable (n : Nat) (now : Int)

/-- The header row, first in a fresh import, sets up the context and asks to create the
database. -/
theorem unit_header (hmark : dropMark (header.map .str) = .ok marked)
    (hmeasure : s.measurement.truthy = true) (hh : resolveHeader marked s = .ok (tags, fields, time))
    (hfields : fields ≠ []) (hdb : s.database.truthy = true) :
    (Flow.start s).unit n .csv now (rowEntry header) =
      ⟨headerContext s tags fields time, s, [], ["CREATE DATABASE " ++ s.database.display],
        ⟨1, 0, 0, 1, []⟩⟩ := by
  simp [Flow.unit, Flow.stepped, Flow.start, InputFormat.step, Csv.step, rowEntry,
    headerStep_ok hmark hmeasure hh hfields hdb, Flow.act, headerContext]

end Header

/-! ## The whole import -/

/-- An import of a comma-separated text whose header resolves to some field column, under
settings that name a measurement, a database and a precision, into stores that take every
request: the database is created, each column request is for the header's target and holds one
record for the measurement, the rows of the requests read back in order as the data rows that
have a cell at every resolved column, every request but the last holds a full batch, and the
report counts the rows written and the short rows that failed. -/
theorem csvImport_writes_rows (s : Settings) (file : InputFile) (text : String) (client : Client)
    (now b m : Int) (header : List String) (data : List (List String)) (marked : List Value)
    (tags fields : List (Value × Column)) (time : Column)
    (hformat : formatOf s = .ok .csv) (hfile : file.read = .ok ⟨text, none⟩)
    (hrows : textRows text = header :: data)
    (hmeasure : ∃ t, s.measurement = .str t ∧ t ≠ "")
    (hdb : ∃ d, s.database = .str d ∧ d ≠ "") (hrp : ∃ r, s.retentionPolicy = .str r)
    (hmark : dropMark (header.map .str) = .ok marked)
    (hheader : resolveHeader marked s = .ok (tags, fields, time)) (hfields : fields ≠ [])
    (hsize : s.batchSize = .int b) (hmult : s.timeMultiplier = .ok m)
    (hcolumns : client.columns = true) (hwrites : client.TakesColumns)
    (hqueries : client.TakesQueries)
    (htimes : ∀ row ∈ data, writes tags fields time row = true → ∃ t, RowTime time m now row t) :
    ∃ report store, importFile s file client ⟨false, false⟩ now = (.ok report, store) ∧
      store.queries = ["CREATE DATABASE " ++ s.database.display] ∧
      (∀ q ∈ store.columnWrites, q.target = (s.database,
        if s.retentionPolicy.truthy then s.retentionPolicy else .str "autogen") ∧
        ∃ r, q.records = [r] ∧ r.measurement = s.measurement) ∧
      List.Forall₂ (RowLine tags fields time m now)
        (store.columnWrites.flatMap fun q => q.records.flatMap Record.rows)
        (data.filter (writes tags fields time)) ∧
      (∀ q ∈ store.columnWrites.dropLast, (q.rowCount : Int) = if 0 < b then b else 100) ∧
      report.stats.recordsWritten = (data.filter (writes tags fields time)).length ∧
      report.tally.failed = (data.filter (fails tags fields time)).length := by
  obtain ⟨n, hn, hnb⟩ := batch_of_int b
  have hc : Ready s m (headerContext s tags fields time) :=
    headerContext_ready hmark hheader hfields hmeasure hdb hrp hmult
  obtain ⟨meas, hmeas, hmne⟩ := hmeasure
  have hread : InputFormat.csv.read file = .ok ((header :: data).map rowEntry, none) := by
    rw [read_textRows hfile, hrows]
  have hd : Dispatcher.ofSettings s (importTransport .csv s).name client.rows client.columns =
      .ok ⟨.column s.username s.password m, .int n, ⟨0, 0, 0, 0⟩, [], ⟨[]⟩, []⟩ := by
    rw [hnb]
    exact ofSettings_column_int hcolumns hsize hmult
  have hbase : ColumnStore n s.username s.password m now ⟨{}, Store.new client, ⟨false, false⟩,
      ⟨.column s.username s.password m, .int n, ⟨0, 0, 0, 0⟩, [], ⟨[]⟩, []⟩, now⟩ :=
    ⟨rfl, rfl, rfl, hwrites, hqueries, rfl, fun _ => rfl, by simp, .nil⟩
  have hmeasure' : s.measurement.truthy = true := by simp [hmeas, Value.truthy, hmne]
  set q := "CREATE DATABASE " ++ s.database.display
  have h1 : Tabulated n s (headerContext s tags fields time) m now [q] []
      ((Flow.start s).unit n .csv now (rowEntry header)) := by
    rw [unit_header n now hmark hmeasure' hheader hfields hc.database]
    exact ⟨rfl, rfl, rfl, ⟨[], .nil, Plain.Batched.start hn⟩, rfl⟩
  have hclean : (columnSink n s.username s.password m now).Clean n .csv now (Flow.start s)
      ((header :: data).map rowEntry) := by
    have hstep : InputFormat.csv.step (rowEntry header) (Flow.start s).context
        (Flow.start s).settings now = (headerContext s tags fields time, s, .ok (.query q)) := by
      simp [InputFormat.step, Csv.step, rowEntry, Flow.start,
        headerStep_ok hmark hmeasure' hheader hfields hc.database, headerContext, q]
    refine ⟨?_, ?_, h1.clean hc s.username s.password data htimes⟩
    · rw [hstep]
      exact ⟨rfl, rfl, rfl⟩
    · rw [hstep]
      trivial
  obtain ⟨st, hm, himport⟩ := (columnSink_takes hn s.username s.password m now).importFile_run
    hformat hread hd hbase hclean
  have hrun := h1.run hc data htimes
  rw [List.nil_append] at hrun
  have hflow : (Flow.start s).run n .csv now ((header :: data).map rowEntry) =
      ((Flow.start s).unit n .csv now (rowEntry header)).run n .csv now (data.map rowEntry) := by
    simp
  rw [hflow] at hm
  obtain ⟨ps, hps, hbatched⟩ := hrun.batched
  have hbatches : Plain.Batches n (headerContext s tags fields time).target ps
      st.1.dispatcher.handed := by
    rw [hm.handed]
    have htarget := congrArg Context.target hrun.context
    simp only [Context.withPlain_target] at htarget
    simp only [Flow.drained, Flow.withPlain, htarget]
    exact hbatched.drain hn
  have hkeyed : ∀ p ∈ ps, p.Keyed ∧ p.measurement = .str meas := by
    intro p hp
    obtain ⟨row, -, hrow⟩ := forall₂_exists_of_mem_left hps hp
    refine ⟨hc.keyed hrow, ?_⟩
    obtain ⟨t, -, rfl⟩ := hrow
    exact hmeas
  have hreqs := hm.steady.base.logged.records_of_batches hbatches hkeyed
  refine ⟨_, _, himport, ?_, ?_, ?_, ?_, ?_, ?_⟩
  · rw [hm.queries]
    exact hrun.queries
  · intro r hr
    obtain ⟨h, -, htarget, rec, hrec, hmeasure, -⟩ := forall₂_exists_of_mem_right hreqs hr
    exact ⟨htarget, rec, hrec, hmeasure.trans hmeas.symm⟩
  · have hlines : List.Forall₂ (fun p line => line.Same ⟨p.tags, p.fields, p.timestamp⟩)
        (st.1.dispatcher.handed.flatMap (·.batch.pointList))
        (st.1.store.columnWrites.flatMap fun r => r.records.flatMap Record.rows) :=
      List.rel_flatMap hreqs fun h r hr => by
        obtain ⟨-, rec, hrec, -, hrows⟩ := hr
        rw [hrec, List.flatMap_singleton]
        exact List.Forall₂.flip hrows
    rw [hbatches.points] at hlines
    refine forall₂_span ?_ hlines hps
    rintro p line row hline ⟨t, ht, rfl⟩
    exact ⟨t, ht, hline⟩
  · intro r hr
    obtain ⟨h, hh, -, rec, hrec, -, hrows⟩ :=
      forall₂_exists_of_mem_right (forall₂_dropLast hreqs) hr
    have hlen : rec.rows.length = n := hrows.length_eq.trans (hbatches.full h hh)
    simp only [Record.rows, List.length_map, List.length_range] at hlen
    simp [WriteRequest.rowCount, hrec, hlen, hnb]
  · show st.1.dispatcher.stats.recordsWritten = _
    rw [hm.ledger.recordsWritten, hbatches.written, hps.length_eq]
    rfl
  · show st.2.failed = _
    rw [hm.tally]
    exact hrun.failed

/-- Rows whose times, computed, all read where they are written. -/
theorem rowTimes_of_check {tags fields : List (Value × Column)} {time : Column} {m now : Int}
    {rows : List (List String)}
    (h : (rows.all fun row => !writes tags fields time row ||
      match cellTime (row.getD time.pos.toNat "") m now with
      | .ok _ => true
      | .error _ => false) = true) :
    ∀ row ∈ rows, writes tags fields time row = true → ∃ t, RowTime time m now row t := by
  intro row hrow hw
  have hc := List.all_eq_true.1 h row hrow
  simp only [hw, Bool.not_true, Bool.false_or] at hc
  unfold RowTime
  split at hc
  · next t ht => exact ⟨t, ht⟩
  · simp at hc

/-- Five data rows in batches of two: a blank row is skipped, a short row fails, and the three
others are written, two in the first request and one in the last. -/
theorem csvImport_writes_rows_in_batches :
    ∃ report store, importFile
        { format := .str "csv", measurement := .str "m", database := .str "db",
          tags := .list [.str "host"], batchSize := .int 2 }
        ⟨"m.csv", some "time,host,v\n1,a,10\n\n2,b\n3,c,30\n4,d,40\n".toUTF8.data⟩
        (Script.client ⟨true, true, [], [], [], none, [], none⟩) ⟨false, false⟩ 0 =
          (.ok report, store) ∧
      store.queries = ["CREATE DATABASE db"] ∧
      report.stats.recordsWritten = 3 ∧ report.tally.failed = 1 := by
  obtain ⟨report, store, himport, hqueries, -, -, -, hwritten, hfailed⟩ :=
    csvImport_writes_rows
      { format := .str "csv", measurement := .str "m", database := .str "db",
        tags := .list [.str "host"], batchSize := .int 2 }
      ⟨"m.csv", some "time,host,v\n1,a,10\n\n2,b\n3,c,30\n4,d,40\n".toUTF8.data⟩
      "time,host,v\n1,a,10\n\n2,b\n3,c,30\n4,d,40\n"
      (Script.client ⟨true, true, [], [], [], none, [], none⟩)
      0 2 1 ["time", "host", "v"] [["1", "a", "10"], [], ["2", "b"], ["3", "c", "30"],
        ["4", "d", "40"]] _ [(.str "host", ⟨.str "host", 1⟩)] [(.str "v", ⟨.str "v", 2⟩)]
      ⟨.str "time", 0⟩ rfl (readsAs_of_check (by decide +kernel)) (by decide +kernel)
      ⟨"m", rfl, by decide⟩ ⟨"db", rfl, by decide⟩ ⟨"", rfl⟩ (dropMark_unmarked (by decide +kernel))
      rfl (by simp) rfl rfl rfl (Script.takesColumns rfl rfl (by simp)) (Script.takesQueries rfl rfl)
      (rowTimes_of_check (by decide +kernel))
  exact ⟨report, store, himport, hqueries, hwritten.trans (by decide +kernel),
    hfailed.trans (by decide +kernel)⟩

/-- A header that resolves to no field column ends the import with a header error, before the
database is created and before any write. -/
theorem csvImport_needs_a_field_column :
    (match importFile
        { format := .str "csv", measurement := .str "m", database := .str "db",
          tags := .list [.str "host"] } ⟨"m.csv", some "time,host\n1,a\n".toUTF8.data⟩
        (Script.client ⟨true, true, [], [], [], none, [], none⟩) ⟨false, false⟩ 0 with
      | (.error (.header msg), store) =>
        msg == "no fields input" && store.queries.isEmpty && store.columnWrites.isEmpty
      | _ => false) = true := by
  decide +kernel

end SeriesImport.Csv
