import Mathlib
import SeriesImport.Proofs.Dispatch.Calls
import SeriesImport.Proofs.Dispatch.ColumnStore
/-!
# What a column write sends

A column write of points hands the store one request. The request holds one record per
measurement, in the order the measurements first appear; a record holds the timestamps of the
points of its measurement, in order, and one column per tag and per field name, in the order the
names first appear over those points, with one value per point: the point's own under that name,
or none. The request counts one row per point and carries the strategy's credentials.

A write gathers its records in the builder the registry keeps for its target and empties that
builder before the store sees the request, whatever the store then answers. So over any run of
writes, each with any outcome, a request holds the records of its own points and of no earlier
write. A write of lines is the write of the points its lines read as, blank and comment lines
giving none; a line that does not read fails the write before anything is sent.
-/

namespace SeriesImport.Dispatch

open SeriesImport.LineProtocol

/-! ## Records of points -/

/-- Columns of points, named by `part` (their tags, or their fields): the names in the order
they first appear over the points, each once, and under each name one value per point, the
point's own under that name or none. -/
structure ColumnsOf (part : Point → List (Value × Value)) (qs : List Point)
    (cols : List (Value × Cells)) : Prop where
  names : cols.map (·.1) = firstSeen (qs.flatMap fun q => (part q).map (·.1))
  named : ∀ c ∈ cols, c.2.name = c.1
  values : ∀ c ∈ cols,
    List.Forall₂ (fun v q => ∀ x, v = some x ↔ (c.1, x) ∈ part q) c.2.values qs

/-- The record of the points `qs` of the measurement `m`: their timestamps in order, and their
tags and fields as columns. -/
structure RecordOf (m : Value) (qs : List Point) (r : Record) : Prop where
  measurement : r.measurement = m
  timestamps : r.timestamps = qs.map (·.timestamp)
  tags : ColumnsOf (·.tags) qs r.tags
  fields : ColumnsOf (·.fields) qs r.fields

theorem RecordOf.rowCount {m : Value} {qs : List Point} {r : Record} (h : RecordOf m qs r) :
    r.rowCount = qs.length := by
  simp [Record.rowCount, h.timestamps]

theorem RecordOf.length_values {m : Value} {qs : List Point} {r : Record} (h : RecordOf m qs r) :
    ∀ c ∈ r.tags ++ r.fields, c.2.values.length = r.rowCount := by
  intro c hc
  rw [h.rowCount]
  rcases List.mem_append.1 hc with hc | hc
  · exact (h.tags.values c hc).length_eq
  · exact (h.fields.values c hc).length_eq

/-- The columns of the rows of points whose names are texts, each once. -/
theorem columnsOf_points (part : RecordLine → List (Value × Value)) {qs : List Point}
    (hk : ∀ q ∈ qs, TextKeyed (part ⟨q.tags, q.fields, q.timestamp⟩)) :
    ColumnsOf (fun q => part ⟨q.tags, q.fields, q.timestamp⟩) qs
      (columnsOf (qs.map fun q => ⟨q.tags, q.fields, q.timestamp⟩) part) where
  names := by simp [columnsOf, List.flatMap_map, Function.comp_def]
  named c hc := by
    obtain ⟨n, -, rfl⟩ := List.mem_map.1 hc
    rfl
  values c hc := by
    obtain ⟨n, -, rfl⟩ := List.mem_map.1 hc
    rw [List.map_map, List.forall₂_map_left_iff, List.forall₂_same]
    intro q hq x
    exact (hk q hq).entryValue?_eq_some

theorem build_recordOf (m : Value) {qs : List Point} (hk : ∀ q ∈ qs, q.Keyed) :
    RecordOf m qs (Record.build m (qs.map fun q => ⟨q.tags, q.fields, q.timestamp⟩)) where
  measurement := rfl
  timestamps := by simp [Record.build]
  tags := columnsOf_points (·.tags) fun q hq => (hk q hq).tags
  fields := columnsOf_points (·.fields) fun q hq => (hk q hq).fields

/-! ## One row per point -/

/-- A point joining the group of its text measurement, among groups of distinct measurements one
of which is its own, adds one row in all. -/
theorem sum_length_join {gs : List (Value × List Point)} {p : Point} {t : String}
    (hp : p.measurement = .str t) (hnd : (gs.map (·.1)).Nodup) (hin : .str t ∈ gs.map (·.1)) :
    ((gs.map fun (m, qs) => if m.equals p.measurement then (m, qs ++ [p]) else (m, qs)).map
      (·.2.length)).sum = (gs.map (·.2.length)).sum + 1 := by
  induction gs with
  | nil => simp at hin
  | cons g gs ih =>
    obtain ⟨m, qs⟩ := g
    rw [List.map_cons, List.nodup_cons] at hnd
    by_cases hm : m = .str t
    · subst hm
      have hrest : ∀ g ∈ gs, ¬ g.1 = .str t := fun g hg h =>
        hnd.1 (by simpa [h] using List.mem_map_of_mem (f := fun g : Value × List Point => g.1) hg)
      have hkeep : (gs.map fun (m, qs) => if m.equals p.measurement then (m, qs ++ [p])
          else (m, qs)) = gs := by
        refine (List.map_congr_left fun g hg => ?_).trans (List.map_id' gs)
        simp [hp, hrest g hg]
      simp [hp, hkeep]
      omega
    · have hin' : .str t ∈ gs.map (·.1) := by
        simpa [hm, eq_comm] using hin
      rw [List.map_cons, List.map_cons, List.sum_cons, ih hnd.2 hin']
      simp [hp, hm]
      omega

/-- The groups of points of text measurements hold, together, one row per point. -/
theorem sum_length_groups {ps : List Point} (h : AllText (ps.map (·.measurement))) :
    ((groups ps).map (·.2.length)).sum = ps.length := by
  induction ps using List.reverseRecOn with
  | nil => simp [groups, firstSeen]
  | append_singleton ps p ih =>
    obtain ⟨t, ht⟩ := h p.measurement (by simp)
    have hps : AllText (ps.map (·.measurement)) := fun v hv => h v (by simp_all)
    obtain ⟨-, hnd⟩ := firstSeen_text hps
    have hkeys : (groups ps).map (·.1) = firstSeen (ps.map (·.measurement)) := by
      simp [groups, Function.comp_def]
    rw [groups_append_singleton h, List.length_append, List.length_singleton, ← ih hps]
    split
    · next hany =>
      have hin : .str t ∈ (groups ps).map (·.1) := by
        obtain ⟨g, hg, hg'⟩ := List.any_eq_true.1 hany
        rw [ht, Value.equals_str_iff] at hg'
        exact hg' ▸ List.mem_map_of_mem hg
      exact sum_length_join ht (hkeys ▸ hnd) hin
    · simp

/-! ## The request -/

/-- The request a column write of the points `ps` with the credentials `u`, `p` sends: the
records of the groups of the points by measurement, one for one and no other; every column as
long as its record; one row per point; and the credentials given. -/
structure RequestOf (u p : Value) (ps : List Point) (q : WriteRequest) : Prop where
  records : List.Forall₂ (fun r g => RecordOf g.1 g.2 r) q.records (groups ps)
  columns : ∀ r ∈ q.records, ∀ c ∈ r.tags ++ r.fields, c.2.values.length = r.rowCount
  rowCount : q.rowCount = ps.length
  username : q.username = u
  password : q.password = p

/-- A registry whose builders have nothing gathered. -/
def BuilderRegistry.Emptied (r : BuilderRegistry) : Prop := ∀ e ∈ r.builders, e.2.records = []

theorem requestFor_emptied {r : BuilderRegistry} (h : r.Emptied) (d rp u p : Value)
    (recs : List Record) : (requestFor r d rp u p recs).2.Emptied :=
  BuilderRegistry.records_put (BuilderRegistry.records_get h d rp).2 _
    (RequestBuilder.records_build_snd _)

theorem RequestBuilder.foldl_addRecord (rs : List Record) (b : RequestBuilder) :
    rs.foldl RequestBuilder.addRecord b = { b with records := b.records ++ rs } := by
  induction rs generalizing b with
  | nil => simp
  | cons r rs ih => simp [ih, RequestBuilder.addRecord]

theorem requestFor_of_emptied {r : BuilderRegistry} (h : r.Emptied) (d rp u p : Value)
    (recs : List Record) :
    (requestFor r d rp u p recs).1.records = recs ∧ (requestFor r d rp u p recs).1.username = u ∧
      (requestFor r d rp u p recs).1.password = p := by
  simp [requestFor, RequestBuilder.foldl_addRecord, RequestBuilder.build,
    RequestBuilder.authenticate, (BuilderRegistry.records_get h d rp).1]

theorem rowCount_of_groups {ps : List Point} (hk : ∀ q ∈ ps, q.Keyed) {recs : List Record}
    (h : List.Forall₂ (fun r g => RecordOf g.1 g.2 r) recs (groups ps)) :
    (recs.map Record.rowCount).sum = ps.length := by
  have htext : AllText (ps.map (·.measurement)) := by
    intro v hv
    obtain ⟨q, hq, rfl⟩ := List.mem_map.1 hv
    exact (hk q hq).measurement
  have hcounts : recs.map Record.rowCount = (groups ps).map (·.2.length) := by
    rw [← List.forall₂_eq_eq_eq, List.forall₂_map_left_iff, List.forall₂_map_right_iff]
    exact h.imp fun r g hr => hr.rowCount
  rw [hcounts, sum_length_groups htext]

/-- The request built from an emptied registry for points whose measurement and names are texts,
each name once, is theirs. -/
theorem requestOf_requestFor {r : BuilderRegistry} (h : r.Emptied) (d rp u p : Value)
    {ps : List Point} (hk : ∀ q ∈ ps, q.Keyed) :
    RequestOf u p ps (requestFor r d rp u p ((groups ps).map fun g =>
      Record.build g.1 (g.2.map fun q => ⟨q.tags, q.fields, q.timestamp⟩))).1 := by
  obtain ⟨hrecs, hu, hp⟩ := requestFor_of_emptied h d rp u p ((groups ps).map fun g =>
    Record.build g.1 (g.2.map fun q => ⟨q.tags, q.fields, q.timestamp⟩))
  have hgroup : ∀ g ∈ groups ps,
      RecordOf g.1 g.2 (Record.build g.1 (g.2.map fun q => ⟨q.tags, q.fields, q.timestamp⟩)) := by
    intro g hg
    obtain ⟨m, -, rfl⟩ := List.mem_map.1 hg
    exact build_recordOf m fun q hq => hk q (List.mem_filter.1 hq).1
  have hrecords : List.Forall₂ (fun r g => RecordOf g.1 g.2 r)
      (requestFor r d rp u p ((groups ps).map fun g =>
        Record.build g.1 (g.2.map fun q => ⟨q.tags, q.fields, q.timestamp⟩))).1.records
      (groups ps) := by
    rw [hrecs, List.forall₂_map_left_iff, List.forall₂_same]
    exact hgroup
  refine ⟨hrecords, fun r' hr' => ?_, rowCount_of_groups hk hrecords, hu, hp⟩
  rw [hrecs] at hr'
  obtain ⟨g, hg, rfl⟩ := List.mem_map.1 hr'
  exact (hgroup g hg).length_values

/-! ## Writes in a session -/

/-- What a write that hands the store the column request `q` leaves: `q` logged with the
failure the client answered it with, asked with the log as it stood, and the write through
exactly when the client answered the code zero. -/
def Delivered (q : WriteRequest) (s : Session) (out : Except Error Unit × Session) : Prop :=
  out.2.store = { s.store with
    log := s.store.log ++ [⟨.columns q, (s.store.client.column s.store.log q).failure⟩] } ∧
  (out.1 = .ok () ↔ (s.store.client.column s.store.log q).result = .ok 0)

theorem checkResponse_eq_ok {code : Int} : checkResponse code = .ok () ↔ code = 0 := by
  unfold checkResponse
  split_ifs <;> simp_all

/-- A column write of points that make records files the emptied builder back, and hands the
store the request of those records. -/
theorem writePointColumns_delivers (d rp u p : Value) {ps : List Point} {recs : List Record}
    (s : Session) (hrec : recordsOf ps = .ok recs) :
    ((writePointColumns d rp ps u p).run.run s).2.dispatcher =
        { s.dispatcher with builders := (requestFor s.dispatcher.builders d rp u p recs).2 } ∧
      Delivered (requestFor s.dispatcher.builders d rp u p recs).1 s
        ((writePointColumns d rp ps u p).run.run s) := by
  simp only [writePointColumns, requestFor, run_bind, liftResult, hrec, run_pure, run_get,
    run_set, writeColumns, exchange_run]
  set a := s.store.client.column s.store.log
    (recs.foldl RequestBuilder.addRecord
      ((s.dispatcher.builders.get d rp).1.authenticate u p)).build.1
  cases hres : a.result with
  | error e => simp [Delivered, hres, a]
  | ok code =>
    cases hcode : checkResponse code <;> simp only [hcode, run_throw, run_pure] <;>
      simp [Delivered, hres, a, ← checkResponse_eq_ok, hcode]

theorem writeBatch_points_run {u p : Value} {m : Int} {s : Session}
    (h : s.dispatcher.strategy = .column u p m) (d rp : Value) (ps : List Point) :
    (writeBatch d rp (.points ps)).run.run s = (writePointColumns d rp ps u p).run.run s := by
  simp only [writeBatch, run_bind, run_get, h]

/-- A write of lines by a strategy that writes columns reads the lines first, and writes the
points they read as. -/
theorem writeBatch_lines_run {u p : Value} {m : Int} {s : Session}
    (h : s.dispatcher.strategy = .column u p m) (d rp : Value) (ls : List String) :
    (writeBatch d rp (.lines ls)).run.run s =
      match ls.filterMapM fun l => readLine l (.int m) s.now with
      | .ok ps => (writePointColumns d rp ps u p).run.run s
      | .error e => (.error e, s) := by
  simp only [writeBatch, run_bind, run_get, h, liftResult]
  cases ls.filterMapM fun l => readLine l (.int m) s.now <;> rfl

/-- Reading lines, dropping those that give nothing, is reading each of them and then dropping
the nothings. -/
theorem filterMapM_eq_map_mapM {α β ε : Type} (f : α → Except ε (Option β)) (l : List α) :
    l.filterMapM f = (l.mapM f).map List.reduceOption := by
  induction l with
  | nil => rfl
  | cons a l ih =>
    rw [List.filterMapM_cons, List.mapM_cons, ih]
    cases f a with
    | error e => rfl
    | ok o => cases l.mapM f <;> cases o <;> rfl

/-- Lines that all read give points whose measurement and names are texts, each name once. -/
theorem keyed_of_mapM_readLine {ls : List String} {mult : Value} {now : Int}
    {os : List (Option Point)} (h : ls.mapM (fun l => readLine l mult now) = .ok os) :
    ∀ q ∈ os.reduceOption, q.Keyed := by
  induction ls generalizing os with
  | nil =>
    cases h
    simp
  | cons l ls ih =>
    rw [List.mapM_cons] at h
    cases hl : readLine l mult now with
    | error e => simp [hl] at h; cases h
    | ok o =>
      cases hrest : ls.mapM (fun l => readLine l mult now) with
      | error e => simp [hl, hrest] at h; cases h
      | ok os' =>
        simp only [hl, hrest] at h
        have hos : os = o :: os' := (Except.ok.inj (h : Except.ok (o :: os') = .ok os)).symm
        subst hos
        intro q hq
        rw [List.reduceOption_mem_iff, List.mem_cons] at hq
        rcases hq with rfl | hq
        · exact readLine_keyed hl
        · exact ih hrest q (List.reduceOption_mem_iff.2 hq)

/-! ## Runs of writes -/

/-- A session whose strategy writes columns with the credentials `u`, `p` at the multiplier
`m`, and whose registry has nothing gathered. -/
structure ColumnWriter (u p : Value) (m : Int) (s : Session) : Prop where
  strategy : s.dispatcher.strategy = .column u p m
  emptied : s.dispatcher.builders.Emptied

/-- Writes one after another, each from the session the last one left, whatever it returned. -/
def writeAll : List (Value × Value × Batch) → Session → Session
  | [], s => s
  | (d, rp, b) :: cs, s => writeAll cs ((writeBatch d rp b).run.run s).2

section Writer

variable {u p : Value} {m : Int} {s : Session}

/-- A column write of points leaves the registry emptied, whatever it returns. -/
theorem ColumnWriter.afterPoints (h : ColumnWriter u p m s) (d rp u' p' : Value)
    (ps : List Point) : ColumnWriter u p m ((writePointColumns d rp ps u' p').run.run s).2 := by
  cases hrec : recordsOf ps with
  | error e =>
    have hrun : (writePointColumns d rp ps u' p').run.run s = (.error e, s) := by
      simp only [writePointColumns, run_bind, liftResult, hrec, run_throw]
    rw [hrun]
    exact h
  | ok recs =>
    obtain ⟨hd, -⟩ := writePointColumns_delivers d rp u' p' s hrec
    refine ⟨?_, ?_⟩
    · rw [hd]
      exact h.strategy
    · rw [hd]
      exact requestFor_emptied h.emptied d rp u' p' recs

theorem ColumnWriter.afterBatch (h : ColumnWriter u p m s) (d rp : Value) (b : Batch) :
    ColumnWriter u p m ((writeBatch d rp b).run.run s).2 := by
  cases b with
  | lines ls =>
    rw [writeBatch_lines_run h.strategy]
    cases ls.filterMapM fun l => readLine l (.int m) s.now with
    | ok ps => exact h.afterPoints d rp u p ps
    | error e => exact h
  | points ps =>
    rw [writeBatch_points_run h.strategy]
    exact h.afterPoints d rp u p ps

/-- Over any run of writes, the registry stays emptied. -/
theorem ColumnWriter.afterAll (h : ColumnWriter u p m s) (cs : List (Value × Value × Batch)) :
    ColumnWriter u p m (writeAll cs s) := by
  induction cs generalizing s with
  | nil => exact h
  | cons c cs ih =>
    obtain ⟨d, rp, b⟩ := c
    exact ih (h.afterBatch d rp b)

/-- A write of points whose measurement and names are texts, each name once, hands the store
the request of exactly those points. -/
theorem ColumnWriter.sends (h : ColumnWriter u p m s) (d rp : Value) {ps : List Point}
    (hk : ∀ q ∈ ps, q.Keyed) :
    ∃ q, RequestOf u p ps q ∧ Delivered q s ((writeBatch d rp (.points ps)).run.run s) := by
  rw [writeBatch_points_run h.strategy]
  exact ⟨_, requestOf_requestFor h.emptied d rp u p hk,
    (writePointColumns_delivers d rp u p s (recordsOf_keyed hk)).2⟩

/-- How a write of lines goes at the multiplier `m`: if every line reads, as the write of the
points they read as, blank and comment lines giving none, and those points have text names,
each once; otherwise it fails as the first line that does not read, and nothing changes. -/
def LinesAsPoints (m : Int) (d rp : Value) (ls : List String) (s : Session) : Prop :=
  match ls.mapM fun l => readLine l (.int m) s.now with
  | .ok os => (writeBatch d rp (.lines ls)).run.run s =
      (writeBatch d rp (.points os.reduceOption)).run.run s ∧ ∀ q ∈ os.reduceOption, q.Keyed
  | .error e => (writeBatch d rp (.lines ls)).run.run s = (.error e, s)

theorem linesAsPoints (h : s.dispatcher.strategy = .column u p m) (d rp : Value)
    (ls : List String) : LinesAsPoints m d rp ls s := by
  unfold LinesAsPoints
  rw [writeBatch_lines_run h, filterMapM_eq_map_mapM]
  cases hread : ls.mapM fun l => readLine l (.int m) s.now with
  | ok os => exact ⟨(writeBatch_points_run h d rp _).symm, keyed_of_mapM_readLine hread⟩
  | error e => rfl

end Writer

/-! ## The law -/

/-- The law of column writes from the session `s0`, for a strategy writing with the credentials
`u`, `p` at the multiplier `m`. -/
structure ColumnLaw (u p : Value) (m : Int) (s0 : Session) : Prop where
  /-- After any writes, whatever each returned, a write of points whose measurement and names
  are texts, each name once, hands the store's client the request of exactly those points: the
  store logs it with the client's answer, and the write goes through exactly when that answer
  is the code zero. -/
  points : ∀ (cs : List (Value × Value × Batch)) (d rp : Value) (ps : List Point),
    (∀ q ∈ ps, q.Keyed) → ∃ q, RequestOf u p ps q ∧
      Delivered q (writeAll cs s0) ((writeBatch d rp (.points ps)).run.run (writeAll cs s0))
  /-- After any writes, a write of lines goes as the write of the points they read as, or fails
  with nothing changed. -/
  lines : ∀ (cs : List (Value × Value × Batch)) (d rp : Value) (ls : List String),
    LinesAsPoints m d rp ls (writeAll cs s0)

/-- The column-write law. From a session whose strategy writes columns and whose registry has
nothing gathered, after any writes, whatever the store answered to each: a write of points hands
the store one request holding one record per measurement, in the order the measurements first
appear, each with the timestamps of its points in order and one column per tag and field name,
in the order the names first appear, with the value of each point under the name or none; every
column as long as its record; one row per point; the strategy's credentials; and no record of an
earlier write. A write of lines is the write of the points its lines read as, blank and comment
lines giving none, and sends nothing if a line does not read. -/
theorem column_writes_send_their_points (u p : Value) (m : Int) (s0 : Session)
    (hstrategy : s0.dispatcher.strategy = .column u p m)
    (hempty : s0.dispatcher.builders.Emptied) : ColumnLaw u p m s0 where
  points cs d rp _ hk := ((ColumnWriter.mk hstrategy hempty).afterAll cs).sends d rp hk
  lines cs d rp ls := linesAsPoints ((ColumnWriter.mk hstrategy hempty).afterAll cs).strategy d rp ls

theorem column_writes_send_their_points_from_sample :
    let s0 := Session.sample (.column (.str "u") (.str "p") 1) 2 []
    s0.dispatcher.strategy = .column (.str "u") (.str "p") 1 ∧ s0.dispatcher.builders.Emptied ∧
      ColumnLaw (.str "u") (.str "p") 1 s0 := by
  intro s0
  have hstrategy : s0.dispatcher.strategy = .column (.str "u") (.str "p") 1 := rfl
  have hempty : s0.dispatcher.builders.Emptied := fun e he => by
    simp [s0, Session.sample] at he
  exact ⟨hstrategy, hempty, column_writes_send_their_points _ _ _ s0 hstrategy hempty⟩

end SeriesImport.Dispatch
