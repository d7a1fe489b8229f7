import Mathlib
import SeriesImport.Proofs.Dispatch.Steady
import SeriesImport.Proofs.LineProtocol.Refusals
/-!
# Every failed batch is reported once

A batch that fails with one of the import's own failures goes on the failed list, and its failure
is passed on once: thrown by the flush that sent it, or gathered by the drain that sent it and
thrown with the others. This holds because a write fails only with a failure of one operation,
never with a cancellation or with gathered failures, and because a flush checks the token before
it sends: a cancellation comes before any batch is sent while the token stays as it is.

`Counted s0 s n` says that `s` follows `s0` with `n` more batches on the failed list, the token,
the client, the target and the batch size as they were. Each step of the dispatcher is counted:
a step that succeeds adds no failed batch, and one that fails with one of the import's own
failures adds as many as its failure reports (`Error.reported`).

An add can break this: when the drain its switch of target begins with fails, and a flush of the
full batches after it fails too, the flush's failure is thrown and the drain's are lost. An add
is `Unmasked` when that cannot happen: its switch drains nothing, or the records it takes in do
not fill a batch.
-/

namespace SeriesImport

/-- A failure of one operation: neither a cancellation nor the failures a drain gathered. -/
def Error.single : Error → Bool
  | .cancelled _ | .drain _ => false
  | _ => true

/-- How many failed batches a failure of the import's own stands for: none for a cancellation,
one for each failure a drain gathered, one for any other. -/
def Error.reported : Error → Nat
  | .cancelled _ => 0
  | .drain es => es.length
  | _ => 1

/-- A failure of one operation is gathered by a drain exactly when it is one of the import's
own. -/
theorem Error.gathered_of_single {e : Error} (h : e.single = true) :
    e.gathered = e.isImportFailure :=
  Error.gathered_of_not_cancelled fun m hm => by simp [hm, Error.single] at h

/-! ## Failures of one operation -/

/-- Every failure of a computation is a failure of one operation. -/
def FailsSingly {α : Type} (r : Except Error α) : Prop := ∀ e, r = .error e → e.single = true

namespace FailsSingly

variable {α β : Type}

theorem ok (a : α) : FailsSingly (.ok a : Except Error α) := by
  intro e h
  cases h

theorem of_single {e : Error} (h : e.single = true) : FailsSingly (.error e : Except Error α) := by
  intro e' h'
  cases h'
  exact h

theorem bind {x : Except Error α} {f : α → Except Error β} (hx : FailsSingly x)
    (hf : ∀ a, FailsSingly (f a)) : FailsSingly (x >>= f) := by
  intro e h
  cases x with
  | error e' =>
    obtain rfl : e' = e := by simpa [Bind.bind, Except.bind] using h
    exact hx e' rfl
  | ok a => exact hf a e h

theorem map {x : Except Error α} (f : α → β) (hx : FailsSingly x) : FailsSingly (x.map f) := by
  intro e h
  cases x with
  | error e' =>
    obtain rfl : e' = e := by simpa [Except.map] using h
    exact hx e' rfl
  | ok a => cases h

theorem mapM {f : α → Except Error β} {l : List α} (h : ∀ a ∈ l, FailsSingly (f a)) :
    FailsSingly (l.mapM f) := by
  induction l with
  | nil => exact ok []
  | cons a l ih =>
    rw [List.mapM_cons]
    exact (h a (by simp)).bind fun b =>
      (ih fun a' ha' => h a' (by simp [ha'])).bind fun bs => ok _

theorem foldlM {f : β → α → Except Error β} {l : List α} (h : ∀ b, ∀ a ∈ l, FailsSingly (f b a))
    (init : β) : FailsSingly (l.foldlM f init) := by
  induction l generalizing init with
  | nil => exact ok init
  | cons a l ih =>
    rw [List.foldlM_cons]
    exact (h init a (by simp)).bind fun b => ih (fun b' a' ha' => h b' a' (by simp [ha'])) b

theorem filterMapM {f : α → Except Error (Option β)} {l : List α}
    (h : ∀ a ∈ l, FailsSingly (f a)) : FailsSingly (l.filterMapM f) := by
  induction l with
  | nil => exact ok []
  | cons a l ih =>
    rw [List.filterMapM_cons]
    refine (h a (by simp)).bind fun o => ?_
    have hl := ih fun a' ha' => h a' (by simp [ha'])
    cases o with
    | none => exact hl
    | some b => exact hl.bind fun _ => ok _

end FailsSingly

theorem Value.textFor_single (method : String) (v : Value) : FailsSingly (v.textFor method) := by
  intro e h
  unfold Value.textFor at h
  split at h <;> cases h
  rfl

theorem Value.requireKey_single (v : Value) : FailsSingly v.requireKey := by
  intro e h
  unfold Value.requireKey at h
  split at h <;> cases h
  rfl

/-- A comparison fails only for values of kinds that do not compare, and such a failure is not
one that the import counts as its own. -/
theorem Value.ge_error {a b : Value} {e : Error} (h : a.ge b = .error e) :
    e.single = true ∧ e.isImportFailure = false := by
  unfold Value.ge Value.compareWith at h
  split at h <;> cases h
  exact ⟨rfl, rfl⟩

namespace Dispatch

theorem intText_single (i : Int) : FailsSingly (intText i) := by
  intro e h
  unfold intText at h
  split at h <;> cases h
  rfl

theorem shownText_single (v : Value) : FailsSingly (shownText v) := by
  cases v with
  | int i => exact intText_single i
  | _ => exact FailsSingly.ok _

theorem renderField_single (v : Value) : FailsSingly (renderField v) := by
  intro e h
  unfold renderField at h
  split at h
  · cases h
  · exact (intText_single _).bind (fun _ => FailsSingly.ok _) e h
  · cases h
  · dsimp only at h
    split at h <;> cases h

theorem Point.toLine_single (p : Point) : FailsSingly (Point.toLine p) := by
  unfold Point.toLine
  refine (Value.textFor_single _ _).bind fun m => ?_
  refine (FailsSingly.foldlM (fun h kv _ => ?_) _).bind fun head => ?_
  · exact (Value.textFor_single _ _).bind fun _ => (shownText_single _).bind fun _ =>
      FailsSingly.ok _
  refine (FailsSingly.mapM fun kv _ => ?_).bind fun fields => ?_
  · exact (Value.textFor_single _ _).bind fun _ => (renderField_single _).bind fun _ =>
      FailsSingly.ok _
  exact (shownText_single _).bind fun _ => FailsSingly.ok _

theorem putKeyed_single (m : List (Value × Value)) (kv : Value × Value) :
    FailsSingly (putKeyed m kv) :=
  (Value.requireKey_single _).bind fun _ => FailsSingly.ok _

theorem RecordLine.ofPoint_single (p : Point) : FailsSingly (RecordLine.ofPoint p) :=
  (FailsSingly.foldlM (fun _ _ _ => putKeyed_single _ _) _).bind fun _ =>
    (FailsSingly.foldlM (fun _ _ _ => putKeyed_single _ _) _).bind fun _ => FailsSingly.ok _

theorem recordsOf_single (ps : List Point) : FailsSingly (recordsOf ps) := by
  unfold recordsOf groupByMeasurement
  refine (FailsSingly.foldlM (fun acc p _ => ?_) _).bind fun groups => ?_
  · refine (Value.requireKey_single _).bind fun _ => ?_
    split <;> exact FailsSingly.ok _
  exact FailsSingly.mapM fun g _ =>
    (FailsSingly.mapM fun q _ => RecordLine.ofPoint_single q).bind fun _ => FailsSingly.ok _

/-- Reading a line at an integer multiplier fails only by refusing it. -/
theorem readLine_single (l : String) (m now : Int) :
    FailsSingly (LineProtocol.readLine l (.int m) now) := by
  intro e h
  by_cases hd : LineProtocol.NoData (Text.strip l).toList
  · unfold LineProtocol.readLine at h
    rcases hd with hd | hd
    · simp [hd] at h
    · obtain ⟨rest, hrest⟩ : ∃ rest, (Text.strip l).toList = '#' :: rest := by
        cases hc : (Text.strip l).toList with
        | nil => simp [hc] at hd
        | cons c rest => simp_all
      simp [hrest] at h
  · rw [LineProtocol.readLine_of_data hd] at h
    cases hr : LineProtocol.readData (Text.strip l) (.int m) now with
    | ok p => simp [hr, Except.map] at h
    | error e' =>
      simp only [hr, Except.map, Except.error.injEq] at h
      subst h
      obtain ⟨r, -, rfl⟩ := (LineProtocol.readData_eq_error_iff _ _ _ _).1 hr
      cases r <;> rfl

theorem checkResponse_single (code : Int) : FailsSingly (checkResponse code) := by
  intro e h
  unfold checkResponse at h
  split_ifs at h <;> cases h <;> rfl


/-! ## Writes -/

open Std.Do

set_option mvcgen.warning false

/-- What the calls of a store keep when its client cancels nothing: all that a write leaves
alone, the token and the client. -/
@[mk_iff] structure Session.Keeps (s0 s : Session) : Prop where
  untouched : s0.Untouched s
  token : s.token = s0.token
  client : s.store.client = s0.store.client

theorem Session.Keeps.refl (s : Session) : s.Keeps s := ⟨.refl s, rfl, rfl⟩

/-- The client of the store cancels the import during no request, and fails only as a store
does. -/
def Session.calm (s : Session) : Prop := s.store.client.Calm ∧ s.store.client.FailsAsStore

theorem Session.calm_of_client {s0 s : Session} (h : s.store.client = s0.store.client)
    (hc : s0.calm) : s.calm := by
  unfold Session.calm
  rw [h]
  exact hc

theorem Error.single_of_ofStore {e : Error} (h : e.ofStore = true) : e.single = true := by
  cases e <;> simp_all [Error.ofStore, Error.single]

theorem Error.gathered_of_ofStore {e : Error} (h : e.ofStore = true) : e.gathered = true := by
  cases e <;> simp_all [Error.ofStore, Error.gathered, Error.isImportFailure]

/-- A request whose answer cancels nothing and fails only as a store does keeps the token and the
client, and fails only with a failure of one operation. -/
theorem exchange_keeps {α : Type} (r : Request) (a : Answer α) (s0 : Session)
    (hc : a.cancels = false) (hf : ∀ e, a.result = .error e → e.ofStore = true) :
    ⦃fun s => ⌜s0.Keeps s⌝⦄ exchange r a
    ⦃post⟨fun _ s => ⌜s0.Keeps s⌝, fun e s => ⌜s0.Keeps s ∧ e.single = true⌝⟩⦄ := by
  apply Triple.of_outcome
  rintro s ⟨⟨h1, h2, h3, h4, h5, h6⟩, htoken, hclient⟩
  have hk : s0.Keeps { s with store := { s.store with log := s.store.log ++ [⟨r, a.failure⟩] } } :=
    ⟨⟨h1, h2, h3, h4, h5, h6⟩, htoken, hclient⟩
  rw [exchange_run, hc]
  cases hr : a.result with
  | ok x => exact hk
  | error e => exact ⟨hk, Error.single_of_ofStore (hf e hr)⟩

theorem writeRows_keeps (w : RowWrite) (s0 : Session) :
    ⦃fun s => ⌜s0.Keeps s ∧ s0.calm⌝⦄ writeRows w
    ⦃post⟨fun _ s => ⌜s0.Keeps s⌝, fun e s => ⌜s0.Keeps s ∧ e.single = true⌝⟩⦄ := by
  apply Triple.of_outcome
  rintro s ⟨hk, hc⟩
  obtain ⟨hcalm, hstore⟩ := Session.calm_of_client hk.client hc
  simp only [writeRows, run_bind, run_get]
  exact Triple.outcome (exchange_keeps _ _ s0 (hcalm.row _ _) (hstore.row _ _)) hk

theorem writeColumns_keeps (w : WriteRequest) (s0 : Session) :
    ⦃fun s => ⌜s0.Keeps s ∧ s0.calm⌝⦄ writeColumns w
    ⦃post⟨fun _ s => ⌜s0.Keeps s⌝, fun e s => ⌜s0.Keeps s ∧ e.single = true⌝⟩⦄ := by
  apply Triple.of_outcome
  rintro s ⟨hk, hc⟩
  obtain ⟨hcalm, hstore⟩ := Session.calm_of_client hk.client hc
  simp only [writeColumns, run_bind, run_get]
  exact Triple.outcome (exchange_keeps _ _ s0 (hcalm.column _ _) (hstore.column _ _)) hk

/-- A write of a batch, by either strategy, keeps the token and the client and fails only with a
failure of one operation. -/
theorem writeBatch_keeps (s0 : Session) (db rp : Value) (b : Batch) :
    ⦃fun s => ⌜s0.Keeps s ∧ s0.calm⌝⦄ writeBatch db rp b
    ⦃post⟨fun _ s => ⌜s0.Keeps s⌝, fun e s => ⌜s0.Keeps s ∧ e.single = true⌝⟩⦄ := by
  have hlines : ∀ ps : List Point, FailsSingly (ps.mapM Point.toLine) := fun ps =>
    FailsSingly.mapM fun p _ => Point.toLine_single p
  have hread : ∀ (ls : List String) (m now : Int),
      FailsSingly (ls.filterMapM fun l => LineProtocol.readLine l (.int m) now) :=
    fun ls m now => FailsSingly.filterMapM fun l _ => readLine_single l m now
  have hrecords := recordsOf_single
  have hcheck := checkResponse_single
  unfold FailsSingly at hlines hread hrecords hcheck
  have hrows := fun w => writeRows_keeps w s0
  have hcolumns := fun w => writeColumns_keeps w s0
  unfold writeBatch writePointColumns liftResult
  mvcgen [hrows, hcolumns, -writeRows_spec, -writeColumns_spec]
  all_goals clear hrows hcolumns
  all_goals simp_all +zetaDelta [Session.keeps_iff, Session.untouched_iff]
  case vc3 => exact hlines _ _ ‹_›
  case vc6 | vc11 => exact hcheck _ _ ‹_›
  case vc7 | vc12 => exact hrecords _ _ ‹_›
  case vc8 => exact hread _ _ _ _ ‹_›

/-! ## Counting failed batches -/

/-- `s` follows `s0` with `n` more batches on the failed list. The token, the client, the batch
size and the context's target are as they were, the target recorded for the waiting records is
as it was or the context's, and batches failed only if the token let flushes through. -/
@[mk_iff] structure Counted (s0 s : Session) (n : Nat) : Prop where
  token : s.token = s0.token
  client : s.store.client = s0.store.client
  batchSize : s.dispatcher.batchSize = s0.dispatcher.batchSize
  target : s.context.target = s0.context.target
  bound : s.context.pendingTarget = s0.context.pendingTarget ∨
    s.context.pendingTarget = some s0.context.target
  failed : s.dispatcher.failed.length = s0.dispatcher.failed.length + n
  clear : 0 < n → s0.token.check = .ok ()

theorem Counted.refl (s : Session) : Counted s s 0 :=
  ⟨rfl, rfl, rfl, rfl, .inl rfl, rfl, fun h => absurd h (Nat.lt_irrefl 0)⟩

theorem Counted.trans {s0 s1 s2 : Session} {m n : Nat} (h1 : Counted s0 s1 m)
    (h2 : Counted s1 s2 n) : Counted s0 s2 (m + n) := by
  refine ⟨h2.token.trans h1.token, h2.client.trans h1.client, h2.batchSize.trans h1.batchSize,
    h2.target.trans h1.target, ?_, by rw [h2.failed, h1.failed, Nat.add_assoc], fun hpos => ?_⟩
  · rcases h2.bound with h | h
    · rcases h1.bound with h' | h'
      · exact .inl (h.trans h')
      · exact .inr (h.trans h')
    · exact .inr (h.trans (congrArg some h1.target))
  · rcases Nat.eq_zero_or_pos m with hm | hm
    · rw [← h1.token]
      exact h2.clear (by omega)
    · exact h1.clear hm

theorem Counted.calm {s0 s : Session} {n : Nat} (h : Counted s0 s n) (hc : s0.calm) : s.calm :=
  Session.calm_of_client h.client hc

theorem Counted.gather {s0 s1 s : Session} {l0 l1 l : List Error}
    (h1 : ∃ n, l1.length = l0.length + n ∧ Counted s0 s1 n)
    (h : ∃ n, l.length = l1.length + n ∧ Counted s1 s n) :
    ∃ n, l.length = l0.length + n ∧ Counted s0 s n := by
  obtain ⟨n1, hl1, h1⟩ := h1
  obtain ⟨n, hl, h⟩ := h
  exact ⟨n1 + n, by omega, h1.trans h⟩

theorem Counted.of_gathered {s0 s : Session} {l : List Error}
    (h : ∃ n, l.length = ([] : List Error).length + n ∧ Counted s0 s n) :
    Counted s0 s l.length := by
  obtain ⟨n, hl, h⟩ := h
  simpa [hl] using h

/-- A cancellation comes from a token that stops the import; with the token kept, no batch
failed before it. -/
theorem Counted.eq_zero_of_stopped {s0 s : Session} {n : Nat} (h : Counted s0 s n)
    (hstop : s0.token.check ≠ .ok ()) : n = 0 := by
  rcases Nat.eq_zero_or_pos n with hn | hn
  · exact hn
  · exact absurd (h.clear hn) hstop

/-- How a step that failed with `e` left the failed list: with as many more batches as `e`
reports when `e` is one of the import's own failures; and a cancellation came only from a token
that stops the import. -/
structure Reports (s0 s : Session) (e : Error) : Prop where
  counted : ∃ n, Counted s0 s n ∧ (e.isImportFailure = true → n = e.reported)
  cancelled : ∀ m, e = .cancelled m → s0.token.check ≠ .ok ()

theorem Reports.of_drain {s0 s : Session} {es : List Error} (h : Counted s0 s es.length) :
    Reports s0 s (.drain es) :=
  ⟨⟨_, h, fun _ => rfl⟩, fun _ he => by cases he⟩

theorem Reports.drain_counted {s0 s : Session} {es : List Error} (h : Reports s0 s (.drain es)) :
    Counted s0 s es.length := by
  obtain ⟨n, hn, hrep⟩ := h.counted
  obtain rfl := hrep rfl
  exact hn

theorem Reports.of_foreign {s0 s : Session} {n : Nat} {e : Error} (h : Counted s0 s n)
    (hf : e.isImportFailure = false) : Reports s0 s e :=
  ⟨⟨n, h, fun himport => absurd (himport.symm.trans hf) (by decide)⟩,
    fun _ he => by subst he; cases hf⟩

/-- A failure that a drain does not gather, after steps that only counted failed batches, is
reported as it was: a cancellation means no batch failed before it. -/
theorem Reports.after {s0 s1 s : Session} {m : Nat} {e : Error} (h1 : Counted s0 s1 m)
    (h : Reports s1 s e) (hg : e.gathered = false) : Reports s0 s e := by
  obtain ⟨n, hn, hrep⟩ := h.counted
  have hcancel : ∀ c, e = .cancelled c → s0.token.check ≠ .ok () := fun c hc => by
    rw [← h1.token]
    exact h.cancelled c hc
  refine ⟨⟨m + n, h1.trans hn, fun himport => ?_⟩, hcancel⟩
  cases e with
  | cancelled c =>
    rw [h1.eq_zero_of_stopped (hcancel c rfl), hrep himport]
    rfl
  | _ => simp_all [Error.gathered]

/-- How a flush that failed with `e` left the failed list: with one more batch exactly when a
drain gathers `e`; `e` is no gathered failures, and a cancellation came only from a token that
stops the import. -/
structure FlushFailed (s0 s : Session) (e : Error) : Prop where
  counted : Counted s0 s (if e.gathered then 1 else 0)
  notDrain : ∀ es, e ≠ .drain es
  cancelled : ∀ m, e = .cancelled m → s0.token.check ≠ .ok ()

theorem FlushFailed.reports {s0 s : Session} {e : Error} (h : FlushFailed s0 s e) :
    Reports s0 s e := by
  refine ⟨⟨_, h.counted, fun himport => ?_⟩, h.cancelled⟩
  cases e with
  | cancelled c => rfl
  | drain es => exact absurd rfl (h.notDrain es)
  | _ => simp_all [Error.gathered, Error.reported]

theorem FlushFailed.of_token {s0 : Session} {e : Error} (h : s0.token.check = .error e) :
    FlushFailed s0 s0 e := by
  have hg := Token.check_gathered h
  refine ⟨by simpa [hg] using Counted.refl s0, fun es he => ?_, fun _ _ => by simp [h]⟩
  subst he
  unfold Token.check at h
  split_ifs at h <;> cases h

theorem FlushFailed.of_sliceBound {s0 : Session} {e : Error} (h : sliceBound s0.dispatcher.batchSize = .error e) :
    FlushFailed s0 s0 e := by
  have hg := sliceBound_gathered h
  unfold sliceBound at h
  split at h <;> cases h
  exact ⟨by simpa [hg] using Counted.refl s0, fun _ he => (by cases he), fun _ he => (by cases he)⟩

theorem FlushFailed.of_foreign {s0 : Session} {e : Error} (hs : e.single = true)
    (hf : e.isImportFailure = false) : FlushFailed s0 s0 e := by
  have hg : e.gathered = false := (Error.gathered_of_single hs).trans hf
  refine ⟨by simpa [hg] using Counted.refl s0, fun es he => ?_, fun c he => ?_⟩ <;>
    subst he <;> cases hs

theorem FlushFailed.of_send {s0 s1 s : Session} {e : Error} (h1 : Counted s0 s1 0)
    (hs : e.single = true) (h : Counted s1 s (if e.isImportFailure then 1 else 0)) :
    FlushFailed s0 s e := by
  refine ⟨by simpa [Error.gathered_of_single hs] using h1.trans h, fun es he => ?_,
    fun c he => ?_⟩ <;> subst he <;> cases hs

theorem FlushFailed.after {s0 s1 s : Session} {e : Error} (h1 : Counted s0 s1 0)
    (h : FlushFailed s1 s e) : FlushFailed s0 s e :=
  ⟨by simpa using h1.trans h.counted, h.notDrain, fun c hc => by
    rw [← h1.token]
    exact h.cancelled c hc⟩

section Counting

/-- Setting the waiting lines or points, or recording the context's target for them, counts no
failed batch. -/
theorem Counted.setLines (s : Session) (ls : List String) :
    Counted s { s with context := { s.context with pendingLines := ls } } 0 :=
  ⟨rfl, rfl, rfl, rfl, .inl rfl, rfl, fun h => absurd h (Nat.lt_irrefl 0)⟩

theorem Counted.setPoints (s : Session) (ps : List Point) :
    Counted s { s with context := { s.context with pendingPoints := ps } } 0 :=
  ⟨rfl, rfl, rfl, rfl, .inl rfl, rfl, fun h => absurd h (Nat.lt_irrefl 0)⟩

theorem Counted.setTarget {s0 s : Session} {n : Nat} (h : Counted s0 s n) :
    Counted s0 { s with context := { s.context with pendingTarget := some s0.context.target } } n :=
  ⟨h.token, h.client, h.batchSize, h.target, .inr rfl, h.failed, h.clear⟩

/-- A send whose token let it through is counted: one more failed batch when it fails with one of
the import's own failures, and it fails only with a failure of one operation. -/
theorem send_counted (s0 : Session) (b : Batch) :
    ⦃fun s => ⌜s = s0 ∧ s0.calm ∧ s0.token.check = .ok ()⌝⦄ send b
    ⦃post⟨fun _ s => ⌜Counted s0 s 0⌝,
      fun e s => ⌜e.single = true ∧ Counted s0 s (if e.isImportFailure then 1 else 0)⌝⟩⦄ := by
  mvcgen [send, noteHandoff, -send_spec, -writeBatch_spec, writeBatch_keeps]
  all_goals simp_all +zetaDelta [Session.keeps_iff, Session.untouched_iff, counted_iff,
    Context.target]

/-- A flush of lines is counted: a failure of its send counts the batch when a drain gathers the
failure, and a cancellation stops it before it sends. -/
theorem flushLines_counted (s0 : Session) :
    ⦃fun s => ⌜s = s0 ∧ s0.calm⌝⦄ flushLines
    ⦃post⟨fun _ s => ⌜Counted s0 s 0⌝, fun e s => ⌜FlushFailed s0 s e⌝⟩⦄ := by
  mvcgen [flushLines, checkToken, liftResult, -flushLines_spec, -send_spec, -liftResult_spec,
    send_counted]
  all_goals obtain ⟨rfl, hcalm⟩ := ‹_ = s0 ∧ s0.calm›
  case vc1 => exact .refl _
  case vc2 => exact ⟨trivial, hcalm, ‹_›⟩
  case vc3 => exact fun h => by simpa using (Counted.setLines _ _).trans h
  case vc4 => exact fun hs h => .of_send (Counted.setLines _ _) hs h
  case vc5 => exact .of_sliceBound ‹_›
  case vc6 => exact .of_token ‹_›

theorem flushPoints_counted (s0 : Session) :
    ⦃fun s => ⌜s = s0 ∧ s0.calm⌝⦄ flushPoints
    ⦃post⟨fun _ s => ⌜Counted s0 s 0⌝, fun e s => ⌜FlushFailed s0 s e⌝⟩⦄ := by
  mvcgen [flushPoints, checkToken, -flushPoints_spec, -send_spec, send_counted]
  all_goals obtain ⟨rfl, hcalm⟩ := ‹_ = s0 ∧ s0.calm›
  case vc1 => exact .refl _
  case vc2 => exact ⟨trivial, hcalm, ‹_›⟩
  case vc3 => exact fun h => by simpa using (Counted.setPoints _ _).trans h
  case vc4 => exact fun hs h => .of_send (Counted.setPoints _ _) hs h
  case vc5 => exact .of_token ‹_›

/-- A round of a drain is counted: a failure it gathers was counted by its flush, and one it
passes on is not gathered. -/
theorem drainRound_counted (flush : Run Unit) (errors : List Error)
    (h : ∀ s0, ⦃fun s => ⌜s = s0 ∧ s0.calm⌝⦄ flush
      ⦃post⟨fun _ s => ⌜Counted s0 s 0⌝, fun e s => ⌜FlushFailed s0 s e⌝⟩⦄) (s0 : Session) :
    ⦃fun s => ⌜s = s0 ∧ s0.calm⌝⦄ drainRound flush errors
    ⦃post⟨fun errs s => ⌜∃ n, errs.length = errors.length + n ∧ Counted s0 s n⌝,
      fun e s => ⌜Reports s0 s e ∧ e.gathered = false⌝⟩⦄ := by
  mvcgen [drainRound, h]
  all_goals obtain ⟨rfl, hcalm⟩ := ‹_ = s0 ∧ s0.calm›
  case vc1 => exact ⟨trivial, hcalm⟩
  case vc2 => exact ⟨0, rfl, ‹_›⟩
  case vc3 => exact ⟨FlushFailed.reports ‹_›, rfl⟩
  case vc4 =>
    rename_i hc _ himport _ hf _
    have hg := (Error.gathered_of_not_cancelled hc).trans himport
    exact ⟨1, by simp, by simpa [hg] using hf.counted⟩
  case vc5 =>
    rename_i hc _ himport _ hf _
    exact ⟨hf.reports, (Error.gathered_of_not_cancelled hc).trans (by simpa using himport)⟩

/-- Draining lines is counted round by round: the failures it gathers are the batches that
failed, and a failure it passes on is not gathered. -/
theorem drainLines_counted (fuel rounds : Nat) (errors : List Error) (s0 : Session) :
    ⦃fun s => ⌜s = s0 ∧ s0.calm⌝⦄ drainLines fuel rounds errors
    ⦃post⟨fun r s => ⌜∃ n, r.2.length = errors.length + n ∧ Counted s0 s n⌝,
      fun e s => ⌜Reports s0 s e ∧ e.gathered = false⌝⟩⦄ := by
  induction fuel generalizing rounds errors s0 with
  | zero =>
    mvcgen [drainLines]
    obtain ⟨rfl, -⟩ := ‹_ = s0 ∧ s0.calm›
    exact ⟨0, rfl, .refl _⟩
  | succ fuel ih =>
    have hround := fun errors => drainRound_counted flushLines errors flushLines_counted
    mvcgen [drainLines, -drainRound_flushLines_spec, hround, ih]
    all_goals obtain ⟨rfl, hcalm⟩ := ‹_ = s0 ∧ s0.calm›
    case vc1 => exact ⟨0, rfl, .refl _⟩
    case vc2 => exact ⟨trivial, hcalm⟩
    case vc3 =>
      rename_i hround _
      obtain ⟨_, -, h1⟩ := hround
      exact ⟨trivial, h1.calm hcalm⟩
    case vc4 =>
      rename_i hround _ _ _
      exact Counted.gather hround
    case vc5 =>
      rename_i hround _ _ _
      obtain ⟨_, -, h1⟩ := hround
      exact fun h hg => ⟨h.after h1 hg, hg⟩
    case vc6 => exact fun h hg => ⟨h, hg⟩

/-- A drain that succeeds counted no failed batch; one that fails reports what it left on the
failed list: the gathered failures, one per failed batch, or the failure that stopped it.
Gathered failures come only from flushes that the token let through. -/
theorem drain_counted (s0 : Session) :
    ⦃fun s => ⌜s = s0 ∧ s0.calm⌝⦄ drain
    ⦃post⟨fun _ s => ⌜Counted s0 s 0⌝,
      fun e s => ⌜Reports s0 s e ∧ ∀ es, e = .drain es → s0.token.check = .ok ()⌝⟩⦄ := by
  have hround := fun errors => drainRound_counted flushPoints errors flushPoints_counted
  mvcgen [drain, -drain_spec, -drainRound_flushPoints_spec, drainLines_counted, hround]
  all_goals obtain ⟨rfl, hcalm⟩ := ‹_ = s0 ∧ s0.calm›
  case vc1 => exact ⟨trivial, hcalm⟩
  case vc2 =>
    rename_i hlines _ _ hempty _
    simpa [List.isEmpty_iff.1 hempty] using Counted.of_gathered hlines
  case vc3 =>
    rename_i hlines _ _ hfull _
    have h := Counted.of_gathered hlines
    exact ⟨.of_drain h, fun _ _ => h.clear (List.length_pos_of_ne_nil (by simpa using hfull))⟩
  case vc4 =>
    rename_i hlines _ _ _
    obtain ⟨_, -, h1⟩ := hlines
    exact ⟨trivial, h1.calm hcalm⟩
  case vc5 =>
    rename_i hlines _ _ _ _ hpoints hempty _
    simpa [List.isEmpty_iff.1 hempty] using Counted.of_gathered (Counted.gather hlines hpoints)
  case vc6 =>
    rename_i hlines _ _ _ _ hpoints hfull _
    have h := Counted.of_gathered (Counted.gather hlines hpoints)
    exact ⟨.of_drain h, fun _ _ => h.clear (List.length_pos_of_ne_nil (by simpa using hfull))⟩
  case vc7 =>
    rename_i hlines _ _ _ _ _
    obtain ⟨_, -, h1⟩ := hlines
    exact fun h hg => ⟨h.after h1 hg, fun es he => by subst he; cases hg⟩
  case vc8 => exact fun h hg => ⟨h, fun es he => by subst he; cases hg⟩

/-- A drain's count, with what it leaves waiting when it fails with gathered failures. -/
theorem drain_counted_drained (s0 : Session) :
    ⦃fun s => ⌜s = s0 ∧ s0.calm⌝⦄ drain
    ⦃post⟨fun _ s => ⌜Counted s0 s 0⌝, fun e s => ⌜Reports s0 s e ∧
      ∀ es, e = .drain es → s0.token.check = .ok () ∧ (s0.dispatcher.BatchOk → Drained s)⌝⟩⦄ := by
  apply Triple.of_outcome
  rintro s ⟨hs, hcalm⟩
  rw [hs]
  have hc := Triple.outcome (drain_counted s0) ⟨rfl, hcalm⟩
  have hs := Triple.outcome (drain_spec s0) rfl
  generalize drain.run.run s0 = x at hc hs ⊢
  obtain ⟨_ | _, s⟩ := x
  · exact ⟨hc.1, fun es he => ⟨hc.2 es he, hs.2.1 (by subst he; rfl)⟩⟩
  · exact hc

/-- Whether switching to the context's target drains what waits: records wait for another
recorded target. -/
def Session.drainsOnSwitch (s : Session) : Bool :=
  !(s.context.pendingTarget.any (sameTarget · s.context.target)) &&
    s.context.pendingTarget.isSome && s.context.hasPending

/-- Whether `k` waiting records stay short of a batch: comparing `k` with the batch size does
not come out true. -/
def Session.shortOf (s : Session) (k : Nat) : Prop :=
  (Value.int k).ge s.dispatcher.batchSize ≠ .ok true

/-- When the switch before adding `k` records drains what waits, with a token that lets flushes
through, the `k` records stay short of a batch; so a failure of that drain is not lost to a
failure of the flushes that follow it. -/
def Session.Unmasked (s : Session) (k : Nat) : Prop :=
  s.drainsOnSwitch = true → s.token.check = .ok () → s.shortOf k

/-- How a switch of target that went through left the session: with no batch counted, or, when
the drain of records waiting for another target failed with the gathered failures `es`, with a
batch counted for each of them. -/
inductive SwitchCounted (s0 s : Session) : Option Error → Prop
  | quiet : Counted s0 s 0 → SwitchCounted s0 s none
  | drained (es : List Error) : Counted s0 s es.length → s0.drainsOnSwitch = true →
      s0.token.check = .ok () → (s0.dispatcher.BatchOk → Drained s) →
      SwitchCounted s0 s (some (.drain es))

theorem SwitchCounted.calm {s0 s : Session} {r : Option Error} (h : SwitchCounted s0 s r)
    (hc : s0.calm) : s.calm := by
  cases h with
  | quiet h => exact h.calm hc
  | drained _ h => exact h.calm hc

theorem SwitchCounted.reports {s0 s1 s : Session} {e : Error} (h : SwitchCounted s0 s1 (some e))
    (h2 : Counted s1 s 0) : Reports s0 s e := by
  cases h with
  | drained es h => exact .of_drain (by simpa using h.trans h2)

theorem SwitchCounted.counted {s0 s1 s : Session} (h : SwitchCounted s0 s1 none)
    (h2 : Counted s1 s 0) : Counted s0 s 0 := by
  cases h with
  | quiet h => simpa using h.trans h2

theorem SwitchCounted.reports_foreign {s0 s1 s : Session} {r : Option Error} {n : Nat} {e : Error}
    (h : SwitchCounted s0 s1 r) (h2 : Counted s1 s n) (hf : e.isImportFailure = false) :
    Reports s0 s e := by
  cases h with
  | quiet h => exact .of_foreign (h.trans h2) hf
  | drained _ h => exact .of_foreign (h.trans h2) hf

/-- A switch whose drain failed left nothing waiting, and what is added after it stays short of
a batch when the session was unmasked for it. -/
theorem SwitchCounted.short {s0 s1 : Session} {e : Error} {k : Nat}
    (h : SwitchCounted s0 s1 (some e)) (hok : s0.dispatcher.BatchOk) (hu : s0.Unmasked k) :
    Drained s1 ∧ s1.shortOf k := by
  cases h with
  | drained es h hdrains hclear hdrained =>
    refine ⟨hdrained hok, ?_⟩
    unfold Session.shortOf
    rw [h.batchSize]
    exact hu hdrains hclear

theorem switchTarget_counted (s0 : Session) :
    ⦃fun s => ⌜s = s0 ∧ s0.calm⌝⦄ switchTarget
    ⦃post⟨fun r s => ⌜SwitchCounted s0 s r⌝, fun e s => ⌜Reports s0 s e⌝⟩⦄ := by
  mvcgen [switchTarget, -switchTarget_admits_spec, -drain_spec, drain_counted_drained]
  all_goals obtain ⟨rfl, hcalm⟩ := ‹_ = s0 ∧ s0.calm›
  case vc1 => exact .quiet (.refl _)
  case vc2 => exact ⟨trivial, hcalm⟩
  case vc3 => exact .quiet (Counted.setTarget ‹_›)
  case vc4 =>
    rename_i hsame _ hpend _ causes _ _ hdrain _ _
    obtain ⟨hclear, hdrained⟩ := hdrain.2 causes rfl
    refine .drained causes (Counted.setTarget hdrain.1.drain_counted) ?_ hclear hdrained
    simp only [Session.drainsOnSwitch, Bool.and_eq_true, Bool.not_eq_eq_eq_not, Bool.not_true]
    simp only [Bool.and_eq_true] at hpend
    exact ⟨⟨by simpa using hsame, hpend.1⟩, hpend.2⟩
  case vc5 => exact (‹Reports _ _ _ ∧ _›).1
  case vc6 => exact .quiet (Counted.setTarget (.refl _))

/-- Flushing full batches counts what its flushes count. -/
theorem flushFull_counted (fuel : Nat) (s0 : Session) :
    ⦃fun s => ⌜Counted s0 s 0 ∧ s0.calm⌝⦄ flushFull fuel
    ⦃post⟨fun _ s => ⌜Counted s0 s 0⌝, fun e s => ⌜FlushFailed s0 s e⌝⟩⦄ := by
  induction fuel with
  | zero =>
    mvcgen [flushFull, -flushFull_spec]
    exact ‹Counted s0 _ 0 ∧ s0.calm›.1
  | succ fuel ih =>
    mvcgen [flushFull, fills, liftResult, -fills_spec, -liftResult_spec, -flushLines_spec,
      -flushFull_spec, flushLines_counted, ih]
    all_goals obtain ⟨h0, hcalm⟩ := ‹Counted s0 _ 0 ∧ s0.calm›
    case vc1 => exact ⟨trivial, h0.calm hcalm⟩
    case vc2 => exact ⟨by simpa using h0.trans ‹Counted _ _ 0›, hcalm⟩
    case vc3 => exact fun h => h.after h0
    case vc4 => exact h0
    case vc5 =>
      have hge := Value.ge_error ‹_ = Except.error _›
      exact (FlushFailed.of_foreign hge.1 hge.2).after h0

/-- When the waiting lines stay short of a batch, flushing full batches sends nothing, and can
only fail to compare them with the batch size. -/
theorem flushFull_short (fuel : Nat) (s0 : Session) (h : s0.shortOf s0.context.pendingLines.length) :
    ⦃fun s => ⌜s = s0⌝⦄ flushFull fuel
    ⦃post⟨fun _ s => ⌜s = s0⌝, fun e s => ⌜s = s0 ∧ e.single = true ∧ e.isImportFailure = false⌝⟩⦄ := by
  cases fuel with
  | zero => mvcgen [flushFull, -flushFull_spec]
  | succ fuel =>
    mvcgen [flushFull, fills, liftResult, -fills_spec, -liftResult_spec, -flushFull_spec]
    all_goals subst_vars
    case vc1 | vc2 => exact absurd ‹_ = Except.ok true› h
    case vc4 => exact ⟨rfl, Value.ge_error ‹_›⟩

/-- Flushing full batches from a given session: what it counts, and that it fails with no
failure of the import's own while the waiting lines stay short of a batch. -/
theorem flushFull_reported (fuel : Nat) (s0 : Session) :
    ⦃fun s => ⌜s = s0 ∧ s0.calm⌝⦄ flushFull fuel
    ⦃post⟨fun _ s => ⌜Counted s0 s 0⌝, fun e s => ⌜FlushFailed s0 s e ∧
      (s0.shortOf s0.context.pendingLines.length → e.isImportFailure = false)⌝⟩⦄ := by
  apply Triple.of_outcome
  rintro s ⟨hs, hcalm⟩
  rw [hs]
  have hc := Triple.outcome (flushFull_counted fuel s0) ⟨.refl s0, hcalm⟩
  by_cases hshort : s0.shortOf s0.context.pendingLines.length
  · have hq := Triple.outcome (flushFull_short fuel s0 hshort) rfl
    generalize (flushFull fuel).run.run s0 = x at hc hq ⊢
    obtain ⟨_ | _, s⟩ := x
    · exact ⟨hc, fun _ => hq.2.2⟩
    · exact hc
  · generalize (flushFull fuel).run.run s0 = x at hc ⊢
    obtain ⟨_ | _, s⟩ := x
    · exact ⟨hc, fun h => absurd h hshort⟩
    · exact hc

theorem addLines_counted (ls : List String) (s0 : Session) :
    ⦃fun s => ⌜s = s0 ∧ s0.calm ∧ s0.dispatcher.BatchOk ∧ s0.Unmasked ls.length⌝⦄ addLines ls
    ⦃post⟨fun _ s => ⌜Counted s0 s 0⌝, fun e s => ⌜Reports s0 s e⌝⟩⦄ := by
  mvcgen [addLines, -addLines_spec, -switchTarget_admits_spec, -flushFull_spec,
    switchTarget_counted, flushFull_reported]
  all_goals obtain ⟨rfl, hcalm, hok, hunmasked⟩ := ‹_ = s0 ∧ s0.calm ∧ _ ∧ _›
  case vc1 => exact ⟨trivial, hcalm⟩
  case vc2 =>
    have hsw := ‹SwitchCounted _ _ _›
    exact ⟨trivial, hsw.calm hcalm⟩
  case vc3 =>
    subst ‹_ = some _›
    exact SwitchCounted.reports ‹_› (by simpa using (Counted.setLines _ _).trans ‹Counted _ _ 0›)
  case vc4 =>
    obtain rfl := Option.eq_none_iff_forall_ne_some.2 ‹∀ e, _ = some e → False›
    subst ‹_ = none›
    exact SwitchCounted.counted ‹_› (by simpa using (Counted.setLines _ _).trans ‹Counted _ _ 0›)
  case vc5 =>
    rename_i r s1 hsw t _ _ _
    intro hf hshort
    cases r with
    | none => exact (hf.after (SwitchCounted.counted hsw (Counted.setLines _ _))).reports
    | some e =>
      obtain ⟨hdrained, hs1⟩ := hsw.short hok hunmasked
      have hadded : t.2.context.pendingLines = ls := by simp [t, hdrained.1]
      exact hsw.reports_foreign ((Counted.setLines _ _).trans hf.counted)
        (hshort (hadded ▸ hs1))
  case vc6 => exact id

theorem addPoints_counted (ps : List Point) (s0 : Session) :
    ⦃fun s => ⌜s = s0 ∧ s0.calm ∧ s0.dispatcher.BatchOk ∧ s0.Unmasked ps.length⌝⦄ addPoints ps
    ⦃post⟨fun _ s => ⌜Counted s0 s 0⌝, fun e s => ⌜Reports s0 s e⌝⟩⦄ := by
  mvcgen [addPoints, fills, liftResult, -addPoints_spec, -switchTarget_admits_spec, -fills_spec,
    -liftResult_spec, -flushPoints_spec, switchTarget_counted, flushPoints_counted]
  all_goals obtain ⟨rfl, hcalm, hok, hunmasked⟩ := ‹_ = s0 ∧ s0.calm ∧ _ ∧ _›
  case vc1 => exact ⟨trivial, hcalm⟩
  case vc2 =>
    have hsw := ‹SwitchCounted _ _ _›
    exact ⟨trivial, hsw.calm hcalm⟩
  case vc3 =>
    subst ‹_ = some _›
    exact SwitchCounted.reports ‹_› (by simpa using (Counted.setPoints _ _).trans ‹Counted _ _ 0›)
  case vc4 =>
    obtain rfl := Option.eq_none_iff_forall_ne_some.2 ‹∀ e, _ = some e → False›
    subst ‹_ = none›
    exact SwitchCounted.counted ‹_› (by simpa using (Counted.setPoints _ _).trans ‹Counted _ _ 0›)
  case vc5 =>
    rename_i r s1 hsw t _ hfills _ hfull _ _ _
    intro hf
    cases r with
    | none => exact (hf.after (SwitchCounted.counted hsw (Counted.setPoints _ _))).reports
    | some e =>
      obtain ⟨hdrained, hs1⟩ := hsw.short hok hunmasked
      have hadded : t.2.context.pendingPoints = ps := by simp [t, hdrained.2]
      exact absurd (hfull ▸ hadded ▸ hfills) hs1
  case vc6 =>
    subst ‹_ = some _›
    exact SwitchCounted.reports ‹_› (Counted.setPoints _ _)
  case vc7 =>
    obtain rfl := Option.eq_none_iff_forall_ne_some.2 ‹∀ e, _ = some e → False›
    subst ‹_ = none›
    exact SwitchCounted.counted ‹_› (Counted.setPoints _ _)
  case vc8 =>
    exact SwitchCounted.reports_foreign ‹_› (Counted.setPoints _ _)
      (Value.ge_error ‹_ = Except.error _›).2
  case vc9 => exact id

end Counting

end Dispatch

end SeriesImport
