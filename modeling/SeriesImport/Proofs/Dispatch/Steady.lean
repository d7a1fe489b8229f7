import Mathlib
import SeriesImport.Proofs.Dispatch.Plain
/-!
# A store that lets every write through

A `Sink` says what a store needs of the session to take a batch (`base`) and which lines and
points it can write (`line`, `point`). When it takes every batch of such records (`Sink.Takes`),
no step of the dispatcher fails, and each does to the waiting records and the hand-offs what its
plain counterpart says: the session is `Settled` at the plain state the step computes.
-/

namespace SeriesImport

/-- The context with its waiting records and their target taken from a plain state. -/
def Context.withPlain (c : Context) (p : Dispatch.Plain) : Context :=
  { c with pendingLines := p.lines, pendingPoints := p.points, pendingTarget := p.bound }

@[simp] theorem Context.withPlain_withPlain (c : Context) (p q : Dispatch.Plain) :
    (c.withPlain p).withPlain q = c.withPlain q := rfl

@[simp] theorem Context.withPlain_target (c : Context) (p : Dispatch.Plain) :
    (c.withPlain p).target = c.target := rfl

theorem Value.order?_int_int (a b : Int) :
    (Value.int a).order? (.int b) = some (some (compare a b)) := by
  simp [Value.order?, Value.compareNumbers, Value.asInt?]

theorem Value.ge_int_int (a b : Int) : (Value.int a).ge (.int b) = .ok (decide (b ≤ a)) := by
  simp only [Value.ge, Value.compareWith, Value.order?_int_int, Except.ok.injEq]
  rw [Bool.eq_iff_iff, bne_iff_ne, ne_eq, compare_lt_iff_lt, not_lt, decide_eq_true_iff]

theorem Value.gt_int_int (a b : Int) : (Value.int a).gt (.int b) = .ok (decide (b < a)) := by
  simp only [Value.gt, Value.compareWith, Value.order?_int_int, Except.ok.injEq]
  rw [Bool.eq_iff_iff, beq_iff_eq, compare_gt_iff_gt, decide_eq_true_iff]

/-- A failure a store answers a request with: it could not be reached or refused the request, or
it rejected the write. -/
def Error.ofStore : Error → Bool
  | .transport .. | .rejected .. => true
  | _ => false

end SeriesImport

namespace SeriesImport.Dispatch

open Std.Do

set_option mvcgen.warning false

/-! ## Running steps

The outcome of a step from a state, computed through the steps it is made of; the state is the
session for dispatcher steps and the session with a tally for import steps. -/

section Running

variable {σ : Type}

theorem run_bind {α β : Type} (x : ExceptT Error (StateM σ) α) (f : α → ExceptT Error (StateM σ) β)
    (s : σ) :
    (x >>= f).run.run s = match x.run.run s with
      | (.ok a, s') => (f a).run.run s'
      | (.error e, s') => (.error e, s') := by
  unfold ExceptT.run StateT.run
  simp only [bind, ExceptT.bind, ExceptT.mk, StateT.bind, ExceptT.bindCont]
  cases x s with
  | mk r s' => cases r <;> rfl

theorem run_tryCatch {α : Type} (x : ExceptT Error (StateM σ) α)
    (h : Error → ExceptT Error (StateM σ) α) (s : σ) :
    (tryCatch x h).run.run s = match x.run.run s with
      | (.ok a, s') => (.ok a, s')
      | (.error e, s') => (h e).run.run s' := by
  change (ExceptT.tryCatch x h) s = _
  unfold ExceptT.tryCatch ExceptT.run StateT.run
  simp only [ExceptT.mk, bind, StateT.bind]
  cases x s with
  | mk r s' => cases r <;> rfl

@[simp] theorem run_get (s : σ) : (get : ExceptT Error (StateM σ) σ).run.run s = (.ok s, s) := rfl

@[simp] theorem run_pure {α : Type} (a : α) (s : σ) :
    (pure a : ExceptT Error (StateM σ) α).run.run s = (.ok a, s) := rfl

@[simp] theorem run_modify (f : σ → σ) (s : σ) :
    (modify f : ExceptT Error (StateM σ) Unit).run.run s = (.ok (), f s) := rfl

@[simp] theorem run_throw {α : Type} (e : Error) (s : σ) :
    (throw e : ExceptT Error (StateM σ) α).run.run s = (.error e, s) := rfl

@[simp] theorem run_set (s' s : σ) :
    (set s' : ExceptT Error (StateM σ) PUnit).run.run s = (.ok (), s') := rfl

end Running

/-! ## Requests to the store -/

theorem exchange_run {α : Type} (r : Request) (a : Answer α) (s : Session) :
    (exchange r a).run.run s =
      (a.result, { s with
        store := { s.store with log := s.store.log ++ [⟨r, a.failure⟩] }
        token := if a.cancels then { s.token with requested := true } else s.token }) := by
  obtain ⟨cancels, result⟩ := a
  cases cancels <;> cases result <;> rfl

@[simp] theorem Store.rowWrites_append (st : Store) (x : Exchange) :
    { st with log := st.log ++ [x] }.rowWrites = st.rowWrites ++ x.rowWrite?.toList := by
  simp only [Store.rowWrites, List.filterMap_append]
  cases h : x.rowWrite? <;> simp [h]

@[simp] theorem Store.columnWrites_append (st : Store) (x : Exchange) :
    { st with log := st.log ++ [x] }.columnWrites = st.columnWrites ++ x.columnWrite?.toList := by
  simp only [Store.columnWrites, List.filterMap_append]
  cases h : x.columnWrite? <;> simp [h]

@[simp] theorem Store.queries_append (st : Store) (x : Exchange) :
    { st with log := st.log ++ [x] }.queries = st.queries ++ x.query?.toList := by
  simp only [Store.queries, List.filterMap_append]
  cases h : x.query? <;> simp [h]

/-- The client takes every text write, and cancels nothing during one. -/
def Client.TakesRows (c : Client) : Prop := ∀ log w, c.row log w = ⟨false, .ok ()⟩

/-- The client takes every column write with the code zero, and cancels nothing during one. -/
def Client.TakesColumns (c : Client) : Prop := ∀ log w, c.column log w = ⟨false, .ok 0⟩

/-- The client runs every query, and cancels nothing during one. -/
def Client.TakesQueries (c : Client) : Prop := ∀ log q, c.query log q = ⟨false, .ok ()⟩

/-- The client cancels the import during no request. -/
structure Client.Calm (c : Client) : Prop where
  row : ∀ log w, (c.row log w).cancels = false
  column : ∀ log w, (c.column log w).cancels = false
  query : ∀ log q, (c.query log q).cancels = false

/-- Every failure the client answers a request with is a failure of the store. -/
structure Client.FailsAsStore (c : Client) : Prop where
  row : ∀ log w e, (c.row log w).result = .error e → e.ofStore = true
  column : ∀ log w e, (c.column log w).result = .error e → e.ofStore = true
  query : ∀ log q e, (c.query log q).result = .error e → e.ofStore = true

section Script

variable {sc : Script}

theorem Script.takesRows (hf : sc.rowFailCalls = []) (hc : sc.cancelOnWrite = none) :
    sc.client.TakesRows := by
  intro log w
  simp [Script.client, hf, hc]

theorem Script.takesColumns (hf : sc.columnFailCalls = []) (hc : sc.cancelOnWrite = none)
    (hcodes : ∀ c ∈ sc.columnCodes, c = 0) : sc.client.TakesColumns := by
  intro log w
  have hzero : ∀ i : Nat, sc.columnCodes[i]?.getD 0 = 0 := by
    intro i
    cases hi : sc.columnCodes[i]? with
    | none => rfl
    | some c => exact hcodes c (List.mem_of_getElem? hi)
  simp [Script.client, hf, hc, hzero]

theorem Script.takesQueries (hf : sc.queryFailOn = []) (hc : sc.cancelOnQuery = none) :
    sc.client.TakesQueries := by
  intro log q
  simp [Script.client, hf, hc]

theorem Script.calm (hw : sc.cancelOnWrite = none) (hq : sc.cancelOnQuery = none) :
    sc.client.Calm where
  row _ _ := by simp [Script.client, hw]
  column _ _ := by simp [Script.client, hw]
  query _ q := by
    simp only [Script.client, hq]
    split <;> rfl

theorem Script.failsAsStore (sc : Script) : sc.client.FailsAsStore where
  row _ _ e h := by
    simp only [Script.client] at h
    split at h <;> cases h
    rfl
  column _ _ e h := by
    simp only [Script.client] at h
    split at h <;> cases h
    rfl
  query _ q e h := by
    simp only [Script.client] at h
    split at h <;> cases h
    rfl

end Script

theorem writeRows_run (w : RowWrite) {s : Session} (h : s.store.client.TakesRows) :
    (writeRows w).run.run s =
      (.ok (), { s with store := { s.store with log := s.store.log ++ [⟨.rows w, none⟩] } }) := by
  simp only [writeRows, run_bind, run_get, h s.store.log w, exchange_run]
  rfl

theorem writeColumns_run (w : WriteRequest) {s : Session} (h : s.store.client.TakesColumns) :
    (writeColumns w).run.run s =
      (.ok 0, { s with store := { s.store with log := s.store.log ++ [⟨.columns w, none⟩] } }) := by
  simp only [writeColumns, run_bind, run_get, h s.store.log w, exchange_run]
  rfl

theorem runQuery_run (q : String) {s : Session} (h : s.store.client.TakesQueries) :
    (runQuery q).run.run s =
      (.ok (), { s with store := { s.store with log := s.store.log ++ [⟨.query q, none⟩] } }) := by
  simp only [runQuery, run_bind, run_get, h s.store.log q, exchange_run]
  rfl

theorem send_run_of_write {b : Batch} {s s1 : Session}
    (h : (writeBatch s.destination.1 s.destination.2 b).run.run s = (.ok (), s1)) :
    (send b).run.run s = (.ok (), { s1 with dispatcher := { s1.dispatcher with
      handed := s1.dispatcher.handed ++ [⟨s.destination.1, s.destination.2, b, none⟩]
      stats := { s1.dispatcher.stats with
        flushes := s1.dispatcher.stats.flushes + 1
        recordsWritten := s1.dispatcher.stats.recordsWritten + b.size } } }) := by
  simp only [send, run_bind, run_get, run_tryCatch, Session.destination] at h ⊢
  rw [h]
  rfl

/-- A store as a sink of batches: what it needs of the session beside the context, and which
lines and points it can write. -/
structure Sink where
  base : Session → Prop
  line : String → Prop
  point : Point → Prop

namespace Sink

variable (k : Sink)

/-- A send of `b` that went through: recorded as written, with the time and the queries run so
far left as they were. -/
structure Wrote (s0 s : Session) (b : Batch) : Prop where
  sent : Sent s0 s b none
  now : s.now = s0.now
  queries : s.store.queries = s0.store.queries

/-- The store takes every batch of records it can write, in batches of `n`, and every query: the
token lets flushes through, a send of such a batch goes through, a query only joins the queries
run, and each leaves `base` as it found it. -/
structure Takes (n : Nat) : Prop where
  pos : 0 < n
  token : ∀ s, k.base s → s.token.check = .ok ()
  size : ∀ s, k.base s → s.dispatcher.batchSize = .int n
  context : ∀ s c, k.base s → k.base { s with context := c }
  lines : ∀ s ls, k.base s → ls ≠ [] → (∀ l ∈ ls, k.line l) →
    ∃ s', (send (.lines ls)).run.run s = (.ok (), s') ∧ k.base s' ∧ Wrote s s' (.lines ls)
  points : ∀ s ps, k.base s → ps ≠ [] → (∀ p ∈ ps, k.point p) →
    ∃ s', (send (.points ps)).run.run s = (.ok (), s') ∧ k.base s' ∧ Wrote s s' (.points ps)
  query : ∀ s q, k.base s → ∃ st, (runQuery q).run.run s = (.ok (), { s with store := st }) ∧
    st.queries = s.store.queries ++ [q] ∧ k.base { s with store := st }

/-- A session whose store takes its batches, with only records it can write waiting. -/
structure Steady (s : Session) : Prop where
  base : k.base s
  lines : ∀ l ∈ s.context.pendingLines, k.line l
  points : ∀ p ∈ s.context.pendingPoints, k.point p

/-- `s` is `s0` with its waiting records, their target and the hand-offs those of `p`, still
steady, with the books balanced if they were. -/
structure Settled (s0 s : Session) (p : Plain) : Prop where
  context : s.context = s0.context.withPlain p
  handed : s.dispatcher.handed = p.sent
  steady : k.Steady s
  ledger : Ledger s0.dispatcher → Ledger s.dispatcher
  now : s.now = s0.now
  queries : s.store.queries = s0.store.queries

variable {k}

theorem Settled.plain {s0 s : Session} {p : Plain} (h : k.Settled s0 s p) : s.plain = p := by
  simp [Session.plain, h.context, h.handed, Context.withPlain]

theorem Settled.target {s0 s : Session} {p : Plain} (h : k.Settled s0 s p) :
    s.context.target = s0.context.target := by
  rw [h.context, Context.withPlain_target]

theorem Settled.trans {s0 s1 s2 : Session} {p q : Plain} (h1 : k.Settled s0 s1 p)
    (h2 : k.Settled s1 s2 q) : k.Settled s0 s2 q :=
  ⟨by rw [h2.context, h1.context, Context.withPlain_withPlain], h2.handed, h2.steady,
    h2.ledger ∘ h1.ledger, h2.now.trans h1.now, h2.queries.trans h1.queries⟩

theorem Settled.refl {s : Session} (h : k.Steady s) : k.Settled s s s.plain :=
  ⟨by simp [Context.withPlain, Session.plain], rfl, h, id, rfl, rfl⟩

variable {n : Nat}

theorem fills_run {n : Nat} {s : Session} (h : s.dispatcher.batchSize = .int n) (len : Nat) :
    (fills len).run.run s = (.ok (decide (n ≤ len)), s) := by
  simp only [fills, run_bind, run_get, liftResult, h, Value.ge_int_int, Nat.cast_le, run_pure]

theorem drainRound_run {flush : Run Unit} {s s' : Session} (h : flush.run.run s = (.ok (), s'))
    (errors : List Error) : (drainRound flush errors).run.run s = (.ok errors, s') := by
  simp only [drainRound, run_tryCatch, run_bind, h, run_pure]

theorem Steady.setContext (hk : k.Takes n) {s : Session} (h : k.Steady s) (c : Context)
    (hl : ∀ l ∈ c.pendingLines, k.line l) (hp : ∀ p ∈ c.pendingPoints, k.point p) :
    k.Steady { s with context := c } :=
  ⟨hk.context s c h.base, hl, hp⟩

/-! ## Flushing and draining -/

theorem sliceBound_nat (n : Nat) : sliceBound (.int n) = .ok n := rfl

theorem Takes.flushLines_run (hk : k.Takes n) {s : Session} (hs : k.Steady s) :
    ∃ s', flushLines.run.run s = (.ok (), s') ∧
      k.Settled s s' (s.plain.flushLines n s.context.target) := by
  by_cases he : s.context.pendingLines = []
  · refine ⟨s, by simp only [flushLines, run_bind, run_get, List.isEmpty_iff, he, if_true]; rfl, ?_⟩
    rw [Plain.flushLines_of_nil he]
    exact Settled.refl hs
  · let s1 : Session :=
      { s with context := { s.context with pendingLines := s.context.pendingLines.drop n } }
    have hs1 : k.Steady s1 :=
      hs.setContext hk _ (fun l hl => hs.lines l (List.mem_of_mem_drop hl)) hs.points
    have hne : s.context.pendingLines.take n ≠ [] := by
      simp only [ne_eq, List.take_eq_nil_iff, not_or]
      exact ⟨by have := hk.pos; omega, he⟩
    obtain ⟨s', hrun, hb', hw⟩ := hk.lines s1 _ hs1.base hne
      (fun l hl => hs.lines l (List.mem_of_mem_take hl))
    have hsent := hw.sent
    refine ⟨s', ?_, ⟨?_, ?_, ⟨hb', ?_, ?_⟩, hsent.ledger, hw.now, hw.queries⟩⟩
    · simp only [flushLines, run_bind, run_get, List.isEmpty_iff, he, if_false, checkToken,
        hk.token s hs.base, liftResult, hk.size s hs.base, sliceBound_nat, run_pure, run_modify]
      exact hrun
    · rw [hsent.context]
      simp [s1, Context.withPlain, Plain.flushLines, Session.plain, he]
    · simp [hsent.handed, s1, Plain.flushLines, Session.plain, he, Handoff.to, Plain.dest,
        Session.destination, Context.target]
    · rw [hsent.context]
      exact hs1.lines
    · rw [hsent.context]
      exact hs1.points

theorem Takes.flushPoints_run (hk : k.Takes n) {s : Session} (hs : k.Steady s) :
    ∃ s', flushPoints.run.run s = (.ok (), s') ∧
      k.Settled s s' (s.plain.flushPoints s.context.target) := by
  by_cases he : s.context.pendingPoints = []
  · refine ⟨s, by simp only [flushPoints, run_bind, run_get, List.isEmpty_iff, he, if_true]; rfl, ?_⟩
    rw [Plain.flushPoints_of_nil he]
    exact Settled.refl hs
  · let s1 : Session := { s with context := { s.context with pendingPoints := [] } }
    have hs1 : k.Steady s1 := hs.setContext hk _ hs.lines (by simp)
    obtain ⟨s', hrun, hb', hw⟩ := hk.points s1 _ hs1.base he hs.points
    have hsent := hw.sent
    refine ⟨s', ?_, ⟨?_, ?_, ⟨hb', ?_, ?_⟩, hsent.ledger, hw.now, hw.queries⟩⟩
    · simp only [flushPoints, run_bind, run_get, List.isEmpty_iff, he, if_false, checkToken,
        hk.token s hs.base, run_pure, run_modify]
      exact hrun
    · rw [hsent.context]
      simp [s1, Context.withPlain, Plain.flushPoints, Session.plain, he]
    · simp [hsent.handed, s1, Plain.flushPoints, Session.plain, he, Handoff.to, Plain.dest,
        Session.destination, Context.target]
    · rw [hsent.context]
      exact hs1.lines
    · rw [hsent.context]
      exact hs1.points

theorem Takes.drainLines_run (hk : k.Takes n) (fuel rounds : Nat) (errors : List Error)
    {s : Session} (hs : k.Steady s) (hf : s.context.pendingLines.length < fuel) :
    ∃ s' r, (drainLines fuel rounds errors).run.run s = (.ok (r, errors), s') ∧
      k.Settled s s' (s.plain.drainLines n s.context.target) := by
  induction fuel generalizing rounds s with
  | zero => omega
  | succ fuel ih =>
    by_cases he : s.context.pendingLines = []
    · refine ⟨s, rounds, ?_, ?_⟩
      · simp only [drainLines, run_bind, run_get, List.isEmpty_iff, he, if_true]
        rfl
      · rw [Plain.drainLines_of_nil he]
        exact Settled.refl hs
    · obtain ⟨s1, h1, hset1⟩ := hk.flushLines_run hs
      have hlen : s1.context.pendingLines.length < fuel := by
        have := hk.pos
        have := List.length_pos_of_ne_nil he
        rw [hset1.context]
        simp only [Context.withPlain, Plain.flushLines, Session.plain, he, if_false,
          List.length_drop]
        omega
      obtain ⟨s2, r, h2, hset2⟩ := ih (rounds + 1) hset1.steady hlen
      refine ⟨s2, r, ?_, ?_⟩
      · simp only [drainLines, run_bind, run_get, List.isEmpty_iff, he, if_false,
          drainRound_run h1]
        exact h2
      · rw [hset1.plain, hset1.target, Plain.drainLines_flushLines hk.pos he] at hset2
        exact hset1.trans hset2

theorem Takes.drain_run (hk : k.Takes n) {s : Session} (hs : k.Steady s) :
    ∃ s' r, drain.run.run s = (.ok r, s') ∧ k.Settled s s' (s.plain.drain n s.context.target) := by
  obtain ⟨s1, r, h1, hset1⟩ :=
    hk.drainLines_run (s.context.pendingLines.length + 1) 0 [] hs (Nat.lt_succ_self _)
  have hp : s1.context.pendingPoints = s.context.pendingPoints := by
    rw [hset1.context]
    rfl
  by_cases he : s.context.pendingPoints = []
  · refine ⟨s1, r, ?_, ?_⟩
    · simp only [drain, run_bind, run_get, h1, hp, List.isEmpty_iff, he, if_true, run_pure]
    · rw [Plain.drain, Plain.flushPoints_of_nil he]
      exact hset1
  · obtain ⟨s2, h2, hset2⟩ := hk.flushPoints_run hset1.steady
    refine ⟨s2, r + 1, ?_, ?_⟩
    · simp only [drain, run_bind, run_get, h1, hp, List.isEmpty_iff, he, if_false,
        drainRound_run h2, run_pure]
      rfl
    · rw [hset1.plain, hset1.target] at hset2
      exact hset1.trans hset2

theorem Settled.record (hk : k.Takes n) {s0 s : Session} {p : Plain} (h : k.Settled s0 s p)
    (d : Target) :
    k.Settled s0 { s with context := { s.context with pendingTarget := some d } }
      { p with bound := some d } :=
  ⟨by rw [h.context]; rfl, h.handed, h.steady.setContext hk _ h.steady.lines h.steady.points,
    h.ledger, h.now, h.queries⟩

theorem Takes.switchTarget_run (hk : k.Takes n) {s : Session} (hs : k.Steady s) :
    ∃ s', switchTarget.run.run s = (.ok none, s') ∧
      k.Settled s s' (s.plain.switch n s.context.target) := by
  cases hb : s.context.pendingTarget.any (sameTarget · s.context.target)
  case true =>
    refine ⟨s, ?_, ?_⟩
    · simp only [switchTarget, run_bind, run_get, hb, if_true]
      rfl
    · rw [Plain.switch_of_any (p := s.plain) hb]
      exact Settled.refl hs
  case false =>
    cases hd : s.context.pendingTarget.isSome && s.context.hasPending
    case true =>
      obtain ⟨s1, r, h1, hset1⟩ := hk.drain_run hs
      refine ⟨_, ?_, Plain.switch_of_drain (p := s.plain) hb hd ▸ hset1.record hk s.context.target⟩
      simp only [switchTarget, run_bind, run_get, hb, hd, if_true, Bool.false_eq_true, if_false,
        run_tryCatch, h1, run_pure, run_modify]
    case false =>
      refine ⟨_, ?_, Plain.switch_of_keep (p := s.plain) hb hd ▸
        (Settled.refl hs).record hk s.context.target⟩
      simp only [switchTarget, run_bind, run_get, hb, hd, Bool.false_eq_true, if_false, run_pure,
        run_modify]

/-! ## Adding records -/

theorem Takes.flushFull_run (hk : k.Takes n) (fuel : Nat) {s : Session} (hs : k.Steady s)
    (hf : s.context.pendingLines.length / n < fuel) :
    ∃ s', (flushFull fuel).run.run s = (.ok (), s') ∧
      k.Settled s s' (s.plain.flushFull n s.context.target) := by
  induction fuel generalizing s with
  | zero => exact absurd hf (Nat.not_lt_zero _)
  | succ fuel ih =>
    by_cases hl : n ≤ s.context.pendingLines.length
    · obtain ⟨s1, h1, hset1⟩ := hk.flushLines_run hs
      have hlen : s1.context.pendingLines.length / n < fuel := by
        have hne : s.context.pendingLines ≠ [] := List.ne_nil_of_length_pos (by have := hk.pos; omega)
        have hdiv := Nat.div_eq_sub_div hk.pos hl
        rw [hset1.context]
        simp only [Context.withPlain, Plain.flushLines, Session.plain, hne, if_false,
          List.length_drop]
        omega
      obtain ⟨s2, h2, hset2⟩ := ih hset1.steady hlen
      refine ⟨s2, ?_, ?_⟩
      · simp only [flushFull, run_bind, run_get, fills_run (hk.size s hs.base), decide_eq_true hl,
          if_true, h1]
        exact h2
      · rw [hset1.plain, hset1.target, Plain.flushFull_flushLines hk.pos hl] at hset2
        exact hset1.trans hset2
    · refine ⟨s, ?_, ?_⟩
      · simp only [flushFull, run_bind, run_get, fills_run (hk.size s hs.base), decide_eq_false hl,
          Bool.false_eq_true, if_false, run_pure]
      · rw [Plain.flushFull_of_lt (p := s.plain) (Nat.lt_of_not_le hl)]
        exact Settled.refl hs

theorem Settled.queueLines (hk : k.Takes n) {s0 s : Session} {p : Plain} (h : k.Settled s0 s p)
    {ls : List String} (hls : ∀ l ∈ ls, k.line l) :
    k.Settled s0
      { s with context := { s.context with pendingLines := s.context.pendingLines ++ ls } }
      { p with lines := p.lines ++ ls } := by
  refine ⟨by rw [h.context]; rfl, h.handed, h.steady.setContext hk _ ?_ h.steady.points, h.ledger,
    h.now, h.queries⟩
  intro l hl
  rcases List.mem_append.mp hl with hl | hl
  · exact h.steady.lines l hl
  · exact hls l hl

theorem Settled.queuePoints (hk : k.Takes n) {s0 s : Session} {p : Plain} (h : k.Settled s0 s p)
    {ps : List Point} (hps : ∀ q ∈ ps, k.point q) :
    k.Settled s0
      { s with context := { s.context with pendingPoints := s.context.pendingPoints ++ ps } }
      { p with points := p.points ++ ps } := by
  refine ⟨by rw [h.context]; rfl, h.handed, h.steady.setContext hk _ h.steady.lines ?_, h.ledger,
    h.now, h.queries⟩
  intro q hq
  rcases List.mem_append.mp hq with hq | hq
  · exact h.steady.points q hq
  · exact hps q hq

theorem Takes.addLines_run (hk : k.Takes n) {s : Session} (hs : k.Steady s) (ls : List String)
    (hls : ∀ l ∈ ls, k.line l) :
    ∃ s', (addLines ls).run.run s = (.ok (), s') ∧
      k.Settled s s' (s.plain.addLines n s.context.target ls) := by
  obtain ⟨s1, h1, hset1⟩ := hk.switchTarget_run hs
  have hset2 := hset1.queueLines hk hls
  obtain ⟨s3, h3, hset3⟩ :=
    hk.flushFull_run _ hset2.steady (Nat.lt_succ_of_le (Nat.div_le_self _ _))
  refine ⟨s3, ?_, ?_⟩
  · simp only [addLines, run_bind, h1, run_modify, run_get, h3]
    rfl
  · rw [hset2.plain, hset2.target] at hset3
    exact hset2.trans hset3

theorem Takes.addPoints_run (hk : k.Takes n) {s : Session} (hs : k.Steady s) (ps : List Point)
    (hps : ∀ p ∈ ps, k.point p) :
    ∃ s', (addPoints ps).run.run s = (.ok (), s') ∧
      k.Settled s s' (s.plain.addPoints n s.context.target ps) := by
  obtain ⟨s1, h1, hset1⟩ := hk.switchTarget_run hs
  have hset2 := hset1.queuePoints hk hps
  have hlen := congrArg Context.pendingPoints hset2.context
  simp only [Context.withPlain] at hlen
  have hsize := hk.size _ hset2.steady.base
  by_cases hl : n ≤ ((s.plain.switch n s.context.target).points ++ ps).length
  · have hl' : n ≤ (s1.context.pendingPoints ++ ps).length := hlen ▸ hl
    obtain ⟨s3, h3, hset3⟩ := hk.flushPoints_run hset2.steady
    refine ⟨s3, ?_, ?_⟩
    · simp only [addPoints, run_bind, h1, run_modify, run_get, fills_run hsize, hl',
        decide_true, if_true, h3]
      rfl
    · rw [hset2.plain, hset2.target] at hset3
      rw [Plain.addPoints, if_pos hl]
      exact hset2.trans hset3
  · have hl' : ¬n ≤ (s1.context.pendingPoints ++ ps).length := hlen ▸ hl
    have hplain : s.plain.addPoints n s.context.target ps =
        { s.plain.switch n s.context.target with
          points := (s.plain.switch n s.context.target).points ++ ps } := by
      rw [Plain.addPoints, if_neg hl]
    refine ⟨_, ?_, hplain ▸ hset2⟩
    simp only [addPoints, run_bind, h1, run_modify, run_get, fills_run hsize, hl',
      decide_false, Bool.false_eq_true, if_false, run_pure]

end Sink

end SeriesImport.Dispatch
