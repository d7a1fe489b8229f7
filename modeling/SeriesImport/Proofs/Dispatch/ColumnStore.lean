import Mathlib
import SeriesImport.Proofs.Dispatch.Steady
import SeriesImport.Proofs.Dispatch.Registry
import SeriesImport.Proofs.Dispatch.Rows
import SeriesImport.Proofs.Dispatch.Columns
/-!
# A column store that takes everything

A column store whose client takes every query and answers every column write with the code zero,
cancelling nothing, takes every batch of lines that each read as a point, and every batch of
points whose names are texts. Each batch becomes one request. The request holds the
records of the batch's points, and goes to the target that the registry of request builders
files the batch's target under: the first target written to under the same key (`addressTo`).
`Logged` pairs the hand-offs with the requests, in order.
-/

namespace SeriesImport.Dispatch

open SeriesImport.LineProtocol

def WriteRequest.target (q : WriteRequest) : Value × Value := (q.database, q.retentionPolicy)

namespace RequestBuilder

@[simp] theorem target_authenticate (b : RequestBuilder) (u p : Value) :
    (b.authenticate u p).target = b.target := rfl

@[simp] theorem records_authenticate (b : RequestBuilder) (u p : Value) :
    (b.authenticate u p).records = b.records := rfl

@[simp] theorem target_foldl_addRecord (rs : List Record) (b : RequestBuilder) :
    (rs.foldl addRecord b).target = b.target := by
  induction rs generalizing b with
  | nil => rfl
  | cons r rs ih => exact ih _

@[simp] theorem records_foldl_addRecord (rs : List Record) (b : RequestBuilder) :
    (rs.foldl addRecord b).records = b.records ++ rs := by
  induction rs generalizing b with
  | nil => simp
  | cons r rs ih => simp [ih, addRecord]

@[simp] theorem target_build_fst (b : RequestBuilder) : b.build.1.target = b.target := rfl

@[simp] theorem records_build_fst (b : RequestBuilder) : b.build.1.records = b.records := rfl

@[simp] theorem target_build_snd (b : RequestBuilder) : b.build.2.target = b.target := rfl

@[simp] theorem records_build_snd (b : RequestBuilder) : b.build.2.records = [] := rfl

end RequestBuilder

namespace BuilderRegistry

/-- Storing back under a key a builder for the target filed there changes no key's target. -/
theorem targetOf_put (r : BuilderRegistry) {k : String} {b : RequestBuilder}
    (h : r.targetOf k = some b.target) (k' : String) :
    (r.put k b).targetOf k' = r.targetOf k' := by
  unfold put targetOf
  rw [List.find?_map]
  have hkey : ((fun e : String × RequestBuilder => e.1 == k') ∘
      fun (k₁, b₁) => if k₁ == k then (k₁, b) else (k₁, b₁)) = fun e => e.1 == k' := by
    funext e
    simp only [Function.comp_apply]
    split <;> rfl
  rw [hkey, Option.map_map]
  cases hf : r.builders.find? (·.1 == k') with
  | none => rfl
  | some e =>
    simp only [Option.map_some, Function.comp_apply]
    by_cases hk : e.1 = k
    · have hk' : e.1 = k' := by simpa using List.find?_some hf
      subst hk
      have he : r.targetOf e.1 = some e.2.target := by
        simp [targetOf, hk', hf]
      simp only [beq_self_eq_true, if_true]
      exact Option.some.inj (h.symm.trans he) ▸ rfl
    · simp [hk]

theorem firstUnder_append_singleton (ts : List (Value × Value)) (t : Value × Value) (k : String) :
    firstUnder (ts ++ [t]) k = (firstUnder ts k).or (if key t.1 t.2 = k then some t else none) := by
  unfold firstUnder
  rw [List.find?_append]
  by_cases hk : key t.1 t.2 = k <;>
    cases ts.find? (fun t => key t.1 t.2 == k) <;> simp [hk]

/-- Every builder a registry holds after a lookup has nothing gathered, if none had before. -/
theorem records_get {r : BuilderRegistry} (h : ∀ e ∈ r.builders, e.2.records = [])
    (d rp : Value) :
    (r.get d rp).1.records = [] ∧ ∀ e ∈ (r.get d rp).2.builders, e.2.records = [] := by
  unfold get
  dsimp only
  split
  · next e hf => exact ⟨h _ (List.mem_of_find?_eq_some hf), h⟩
  · refine ⟨rfl, fun e he => ?_⟩
    rcases List.mem_append.1 he with he | he
    · exact h e he
    · rw [List.mem_singleton.1 he]
      rfl

theorem records_put {r : BuilderRegistry} (h : ∀ e ∈ r.builders, e.2.records = [])
    (k : String) {b : RequestBuilder} (hb : b.records = []) :
    ∀ e ∈ (r.put k b).builders, e.2.records = [] := by
  intro e he
  obtain ⟨⟨k', b'⟩, he', rfl⟩ := List.mem_map.1 he
  dsimp only
  split
  · exact hb
  · exact h _ he'

end BuilderRegistry

/-- The target the registry addresses a request for `t` to, after requests to `before`: the
first of them under the key of `t`, or `t` itself. -/
def addressTo (before : List (Value × Value)) (t : Value × Value) : Value × Value :=
  (BuilderRegistry.firstUnder before (BuilderRegistry.key t.1 t.2)).getD t

/-- The points a batch is sent as: its lines, each read as a point at the multiplier `m` and the
time `now`, or its points. -/
def PointsOf (m now : Int) : Batch → List Point → Prop
  | .lines ls, ps => List.Forall₂ (fun l p => readLine l (.int m) now = .ok (some p)) ls ps
  | .points qs, ps => ps = qs

/-- Requests logged for hand-offs, in order: each holds the records of the points of its batch
and goes to the target the registry addresses its hand-off's target to. -/
inductive Logged (m now : Int) : List Handoff → List WriteRequest → Prop
  | nil : Logged m now [] []
  | snoc {hs : List Handoff} {qs : List WriteRequest} {h : Handoff} {q : WriteRequest}
      {ps : List Point} : Logged m now hs qs → PointsOf m now h.batch ps →
      recordsOf ps = .ok q.records → q.target = addressTo (hs.map Handoff.target) h.target →
      Logged m now (hs ++ [h]) (qs ++ [q])

theorem addressTo_of_distinct {ts : List (Value × Value)} {t : Value × Value}
    (h : ∀ t' ∈ ts, BuilderRegistry.key t'.1 t'.2 = BuilderRegistry.key t.1 t.2 → t' = t) :
    addressTo ts t = t := by
  unfold addressTo BuilderRegistry.firstUnder
  cases hf : ts.find? (fun t' => BuilderRegistry.key t'.1 t'.2 == BuilderRegistry.key t.1 t.2) with
  | none => rfl
  | some t' =>
    have hkey : BuilderRegistry.key t'.1 t'.2 = BuilderRegistry.key t.1 t.2 := by
      simpa using List.find?_some hf
    exact h t' (List.mem_of_find?_eq_some hf) hkey

/-- Requests logged for hand-offs whose targets share no key go, one for one, to the targets of
their hand-offs and hold the records of the points of their batches. -/
theorem Logged.pairs {m now : Int} {hs : List Handoff} {qs : List WriteRequest}
    (hl : Logged m now hs qs)
    (hkeys : ∀ h ∈ hs, ∀ h' ∈ hs, BuilderRegistry.key h.target.1 h.target.2 =
      BuilderRegistry.key h'.target.1 h'.target.2 → h.target = h'.target) :
    List.Forall₂ (fun h q => q.target = h.target ∧
      ∃ ps, PointsOf m now h.batch ps ∧ recordsOf ps = .ok q.records) hs qs := by
  induction hl with
  | nil => exact .nil
  | @snoc hs qs h q ps _ hps hrec htarget ih =>
    refine List.rel_append (ih fun a ha b hb => hkeys a (by simp [ha]) b (by simp [hb]))
      (.cons ⟨?_, ps, hps, hrec⟩ .nil)
    rw [htarget, addressTo_of_distinct]
    intro t ht hkey
    obtain ⟨h', hh', rfl⟩ := List.mem_map.1 ht
    exact hkeys h' (by simp [hh']) h (by simp) hkey

/-- The dispatcher of a column import with an integer batch size `b` and a precision of
multiplier `m`. -/
theorem ofSettings_column_int {s : Settings} {b m : Int} {rows columns : Bool}
    (hcolumns : columns = true) (hsize : s.batchSize = .int b) (hmult : s.timeMultiplier = .ok m) :
    Dispatcher.ofSettings s "column" rows columns =
      .ok ⟨.column s.username s.password m, .int (if 0 < b then b else 100), ⟨0, 0, 0, 0⟩, [],
        ⟨[]⟩, []⟩ := by
  by_cases hb : 0 < b <;>
    simp [Dispatcher.ofSettings, hcolumns, hsize, hmult, Value.gt_int_int, hb, bind, Except.bind,
      pure, Except.pure]

theorem batch_of_int (b : Int) :
    ∃ n : Nat, 0 < n ∧ ((n : Int)) = if 0 < b then b else 100 := by
  by_cases hb : 0 < b
  · exact ⟨b.toNat, by omega, by simp [hb, Int.toNat_of_nonneg hb.le]⟩
  · exact ⟨100, by omega, by simp [hb]⟩

/-- Requests logged for batches of points for one target, all of one text measurement, each go
to that target with one record for the measurement, whose rows read back as the points of the
batch. -/
theorem Logged.records_of_batches {m now : Int} {n : Nat} {t : Target} {ps : List Point}
    {meas : String} {hs : List Handoff} {qs : List WriteRequest} (hl : Logged m now hs qs)
    (hb : Plain.Batches n t ps hs) (hp : ∀ p ∈ ps, p.Keyed ∧ p.measurement = .str meas) :
    List.Forall₂ (fun h q => q.target = t ∧ ∃ r, q.records = [r] ∧ r.measurement = .str meas ∧
      List.Forall₂ (fun row p => row.Same ⟨p.tags, p.fields, p.timestamp⟩) r.rows
        h.batch.pointList) hs qs := by
  have hkeys : ∀ h ∈ hs, ∀ h' ∈ hs, BuilderRegistry.key h.target.1 h.target.2 =
      BuilderRegistry.key h'.target.1 h'.target.2 → h.target = h'.target := by
    intro h hh h' hh' _
    obtain ⟨_, rfl, -⟩ := hb.shape h hh
    obtain ⟨_, rfl, -⟩ := hb.shape h' hh'
    rfl
  have hshape : ∀ h ∈ hs, h ∈ hs ∧ ∃ qs, h = .to t (.points qs) ∧ qs ≠ [] ∧ qs.length ≤ n :=
    fun h hh => ⟨hh, hb.shape h hh⟩
  refine ((List.forall₂_and_left hs qs).2 ⟨hshape, hl.pairs hkeys⟩).imp ?_
  rintro h q ⟨⟨hh, ps', rfl, hne, -⟩, htarget, qs', hps, hrec⟩
  have hsame : qs' = ps' := hps
  subst hsame
  have hin : ∀ p ∈ qs', p.Keyed ∧ p.measurement = .str meas := fun p hp' =>
    hp p (hb.points ▸ List.mem_flatMap.2 ⟨_, hh, hp'⟩)
  obtain ⟨recs, hrecs, hback⟩ := recordsOf_readsBack fun p hp' => (hin p hp').1
  rw [hrec, Except.ok.injEq] at hrecs
  subst hrecs
  rw [ReadsBack, groups_of_measurement hne fun p hp' => (hin p hp').2] at hback
  obtain ⟨r, rest, ⟨hmeas, hrows⟩, hnil, hq⟩ := List.forall₂_cons_right_iff.1 hback
  rw [List.forall₂_nil_right_iff.1 hnil] at hq
  exact ⟨htarget, r, hq, hmeas, hrows⟩

/-- Lines that each read as a point read together as those points, in order. -/
theorem filterMapM_readLine {ls : List String} {mult : Value} {now : Int}
    (h : ∀ l ∈ ls, ∃ p, readLine l mult now = .ok (some p)) :
    ∃ ps, ls.filterMapM (fun l => readLine l mult now) = .ok ps ∧
      List.Forall₂ (fun l p => readLine l mult now = .ok (some p)) ls ps := by
  induction ls with
  | nil => exact ⟨[], rfl, .nil⟩
  | cons l ls ih =>
    obtain ⟨p, hp⟩ := h l (by simp)
    obtain ⟨ps, hps, hall⟩ := ih fun l' hl' => h l' (by simp [hl'])
    refine ⟨p :: ps, ?_, .cons hp hall⟩
    rw [List.filterMapM_cons, hp]
    simp only [bind, Except.bind, hps]
    rfl

/-- The request a column write of `recs` to `(d, rp)` with the credentials `u`, `p` builds from
the registry `r`, and the registry after it. -/
def requestFor (r : BuilderRegistry) (d rp u p : Value) (recs : List Record) :
    WriteRequest × BuilderRegistry :=
  let built := (recs.foldl RequestBuilder.addRecord ((r.get d rp).1.authenticate u p)).build
  (built.1, (r.get d rp).2.put (BuilderRegistry.key d rp) built.2)

/-- A column write of points to a store whose client takes every column write sends the request
built for their records and files its builder back. -/
theorem writePointColumns_run (d rp u p : Value) {ps : List Point} {recs : List Record}
    {s : Session} (hc : s.store.client.TakesColumns) (hrec : recordsOf ps = .ok recs) :
    (writePointColumns d rp ps u p).run.run s = (.ok (), { s with
      dispatcher := { s.dispatcher with
        builders := (requestFor s.dispatcher.builders d rp u p recs).2 }
      store := { s.store with
        log := s.store.log ++ [⟨.columns (requestFor s.dispatcher.builders d rp u p recs).1, none⟩] }
      }) := by
  simp only [writePointColumns, run_bind, liftResult, hrec, run_pure, run_get, run_set,
    writeColumns_run, hc, checkResponse_zero]
  rfl

/-- The registry after a request for `(d, rp)` files the builder of the first target under its
key, and the request goes to that target. -/
theorem requestFor_target (r : BuilderRegistry) (d rp u p : Value) (recs : List Record) :
    (requestFor r d rp u p recs).1.target = (r.targetOf (BuilderRegistry.key d rp)).getD (d, rp) ∧
      ∀ k, (requestFor r d rp u p recs).2.targetOf k =
        (r.targetOf k).or (if BuilderRegistry.key d rp = k then some (d, rp) else none) := by
  have hfst := BuilderRegistry.get_fst_target r d rp
  refine ⟨?_, fun k => ?_⟩
  · simp only [requestFor, RequestBuilder.target_build_fst, RequestBuilder.target_foldl_addRecord,
      RequestBuilder.target_authenticate, hfst]
  have hfiled : (r.get d rp).2.targetOf (BuilderRegistry.key d rp) =
      some (r.get d rp).1.target := by
    rw [BuilderRegistry.targetOf_get, hfst]
    cases r.targetOf (BuilderRegistry.key d rp) <;> simp
  simp only [requestFor]
  rw [BuilderRegistry.targetOf_put _ (by simpa using hfiled), BuilderRegistry.targetOf_get]
  simp

theorem keyed_of_readLine {ls : List String} {mult : Value} {now : Int} {ps : List Point}
    (h : List.Forall₂ (fun l p => readLine l mult now = .ok (some p)) ls ps) :
    ∀ q ∈ ps, q.Keyed := by
  induction h with
  | nil => simp
  | cons hl _ ih =>
    intro q hq
    rcases List.mem_cons.1 hq with rfl | hq
    · exact readLine_keyed hl
    · exact ih q hq

/-- A session writing columns in batches of `n`, with the credentials `u`, `p` and the
multiplier `m`, at the time `now`, to a store whose client takes every column write and query;
its registry files under each key the first target written to under it, with nothing gathered,
and its requests are logged against the hand-offs. -/
structure ColumnStore (n : Nat) (u p : Value) (m now : Int) (s : Session) : Prop where
  token : s.token.check = .ok ()
  size : s.dispatcher.batchSize = .int n
  strategy : s.dispatcher.strategy = .column u p m
  writes : s.store.client.TakesColumns
  queries : s.store.client.TakesQueries
  clock : s.now = now
  registry : ∀ k, s.dispatcher.builders.targetOf k =
    BuilderRegistry.firstUnder (s.dispatcher.handed.map Handoff.target) k
  emptied : ∀ e ∈ s.dispatcher.builders.builders, e.2.records = []
  logged : Logged m now s.dispatcher.handed s.store.columnWrites

variable {n : Nat} {u p : Value} {m now : Int}

/-- A batch whose write is a column write of points that make records goes through, keeps the
store's facts and logs its request. -/
theorem ColumnStore.send {s : Session} (h : ColumnStore n u p m now s) {b : Batch}
    {ps : List Point} {recs : List Record} (hps : PointsOf m now b ps)
    (hrec : recordsOf ps = .ok recs)
    (hw : (writeBatch s.destination.1 s.destination.2 b).run.run s =
      (writePointColumns s.destination.1 s.destination.2 ps u p).run.run s) :
    ∃ s', (Dispatch.send b).run.run s = (.ok (), s') ∧ ColumnStore n u p m now s' ∧
      Sink.Wrote s s' b := by
  have hsend := send_run_of_write
    (hw.trans (writePointColumns_run _ _ u p h.writes hrec))
  have hsent := Triple.outcome (send_spec b s) rfl
  rw [hsend] at hsent
  obtain ⟨htarget, hfiled⟩ := requestFor_target s.dispatcher.builders s.destination.1
    s.destination.2 u p recs
  obtain ⟨hgot, hkept⟩ := BuilderRegistry.records_get h.emptied s.destination.1 s.destination.2
  refine ⟨_, hsend, ⟨h.token, h.size, h.strategy, h.writes, h.queries, h.clock, fun k => ?_, ?_,
    ?_⟩, ⟨hsent, rfl, by simp [Exchange.query?]⟩⟩
  · rw [hfiled, h.registry, List.map_append, List.map_singleton,
      BuilderRegistry.firstUnder_append_singleton]
    rfl
  · exact BuilderRegistry.records_put hkept _ (RequestBuilder.records_build_snd _)
  · simp only [Store.columnWrites_append, Exchange.columnWrite?, Option.toList_some]
    refine Logged.snoc h.logged hps ?_ ?_
    · simp [requestFor, hgot, hrec]
    · rw [htarget, h.registry]
      rfl

/-- A column store as a sink: it takes lines that each read as a point at the time `now`, and
points whose names are texts. -/
def columnSink (n : Nat) (u p : Value) (m now : Int) : Sink :=
  ⟨ColumnStore n u p m now, fun l => ∃ q, readLine l (.int m) now = .ok (some q), Point.Keyed⟩

/-- A column store whose client takes every column write and query takes every batch of lines
that read as points, every batch of points with text names, and every query. -/
theorem columnSink_takes (hn : 0 < n) (u p : Value) (m now : Int) :
    (columnSink n u p m now).Takes n where
  pos := hn
  token _ h := h.token
  size _ h := h.size
  context _ _ h :=
    ⟨h.token, h.size, h.strategy, h.writes, h.queries, h.clock, h.registry, h.emptied, h.logged⟩
  lines s ls h _ hls := by
    obtain ⟨ps, hread, hall⟩ := filterMapM_readLine (h.clock ▸ hls)
    obtain ⟨recs, hrec, -⟩ := recordsOf_readsBack (keyed_of_readLine hall)
    refine h.send (h.clock ▸ hall) hrec ?_
    simp only [writeBatch, run_bind, run_get, h.strategy, liftResult, hread, run_pure]
  points s ps h _ hps := by
    obtain ⟨recs, hrec, -⟩ := recordsOf_readsBack hps
    refine h.send rfl hrec ?_
    simp only [writeBatch, run_bind, run_get, h.strategy]
  query s q h :=
    ⟨_, runQuery_run q h.queries, by simp [Exchange.query?],
      ⟨h.token, h.size, h.strategy, h.writes, h.queries, h.clock, h.registry, h.emptied,
        by simpa [Exchange.columnWrite?] using h.logged⟩⟩

end SeriesImport.Dispatch
