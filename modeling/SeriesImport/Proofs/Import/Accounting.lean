import Mathlib
import SeriesImport.Proofs.Import.Unmasked
import SeriesImport.Proofs.Import.Isolation
/-!
# Every failure of an import is reported once

An import keeps one message for each failed unit, one for each failed batch, one for a file that
is no document of its format, and one for a cancellation; and its numbers of failed batches and
of their records are those of its failed list. This holds for every file in every format, every
settings, a store that answers any write or query with success or a failure of its own, and a
token that is cancelled before the import or never.

The books are kept by `Balanced k`: the messages are the failed units, the failed batches and
`k` more. Each step keeps them: a unit that fails adds one failed unit and one message, and a
batch that fails is reported once, by the flush that sent it or by the drain that gathered it
(`Reports`). Two things could break this. A failed drain can be masked by a failed flush after
it, and the guard of each format rules that out (`Guard`). And a failure that ends the units
leaves the books as they were only when the token stops every flush: so a step that fails is
`Halted`, its books balanced if the token stops flushes, and a cancellation only from such a
token.

Reading a file stops at a fault of its archive, which ends the import, or at a document that
cannot be read, before any unit (`InputFormat.read_fault`).
-/

namespace SeriesImport

open Dispatch Std.Do

set_option mvcgen.warning false

/-! ## Faults of reading -/

/-- A fault of a compressed file: it ends too early, is no archive, or breaks the format. -/
def Error.archiveFault : Error → Bool
  | .truncatedArchive | .notArchive _ | .corruptArchive _ => true
  | _ => false

namespace Archive

theorem readHeader_fault {data : Array UInt8} {pos : Nat} {e : Error}
    (h : readHeader data pos = .error e) : e.archiveFault = true := by
  unfold readHeader at h
  dsimp only at h
  repeat' split at h
  all_goals first | (cases h; rfl) | cases h
  rename_i hextra
  split_ifs at hextra <;> cases hextra <;> rfl

theorem checkTrailer_fault {data : Array UInt8} {p : Nat} {out : Array UInt8} {e : Error}
    (h : checkTrailer data p out = some e) : e.archiveFault = true := by
  unfold checkTrailer at h
  dsimp only at h
  split_ifs at h <;> cases h <;> rfl

/-- Unpacking stops only at a fault of the archive. -/
theorem unpackFrom_fault {data : Array UInt8} {e : Error} :
    ∀ (fuel pos : Nat) (acc : Array UInt8), (unpackFrom data pos acc fuel).fault = some e →
      e.archiveFault = true
  | 0, _, _, h => by cases h
  | fuel + 1, pos, acc, h => by
    unfold unpackFrom at h
    split at h
    · exact readHeader_fault (by rename_i he; cases h; exact he)
    · cases h
    · split at h
      · cases h; rfl
      · cases h; rfl
      · split at h
        · exact checkTrailer_fault (by rename_i he; cases h; exact he)
        · exact unpackFrom_fault fuel _ _ h

end Archive

theorem InputFile.read_fault {file : InputFile} {r : Reading} (h : file.read = .ok r) {e : Error}
    (he : r.fault = some e) : e.archiveFault = true := by
  unfold InputFile.read at h
  split at h
  · cases h
  · split at h
    · dsimp only at h
      split at h
      · cases h
        cases he
      · cases h
        cases he
        exact Archive.unpackFrom_fault _ _ _ ‹_›
    · cases h
      cases he

theorem InputFile.lines_fault {file : InputFile} {ls : List String} {e : Error}
    (h : file.lines = .ok (ls, some e)) : e.archiveFault = true := by
  unfold InputFile.lines at h
  cases hr : file.read with
  | error e' => simp [hr, bind, Except.bind] at h
  | ok r =>
    simp only [hr, bind, Except.bind] at h
    split at h
    · cases h
    · cases h
      exact InputFile.read_fault hr ‹_›

theorem documentEntries_fault {text key : String} {entries : List Entry} {e : Error}
    (h : documentEntries text key = (entries, some e)) : entries = [] := by
  unfold documentEntries at h
  split at h <;> cases h
  rfl

/-- Reading a file in a format stops at a fault of its archive, or at a document that cannot be
read, before any unit. -/
theorem InputFormat.read_fault {f : InputFormat} {file : InputFile} {entries : List Entry}
    {e : Error} (h : f.read file = .ok (entries, some e)) : e.archiveFault = true ∨ entries = [] := by
  cases f
  all_goals simp only [InputFormat.read, bind, Except.bind] at h
  case lineProtocol | csv =>
    split at h
    · cases h
    · next p hlines =>
      obtain ⟨ls, fault⟩ := p
      cases h
      exact .inl (InputFile.lines_fault hlines)
  case series | result =>
    split at h
    · cases h
    · split at h
      · cases h
        exact .inr rfl
      · exact .inr (documentEntries_fault (Except.ok.inj h))

/-! ## The books of an import -/

/-- The messages an import kept are one for each failed unit, one for each failed batch, and `k`
more. -/
def Balanced (k : Nat) (st : Session × Tally) : Prop :=
  st.2.errors.length = st.2.failed + st.1.dispatcher.failed.length + k

theorem Balanced.step {k : Nat} {st st' : Session × Tally} (hb : Balanced k st) (n m : Nat)
    (hf : st'.1.dispatcher.failed.length = st.1.dispatcher.failed.length + n)
    (hu : st'.2.failed = st.2.failed + m)
    (he : st'.2.errors.length = st.2.errors.length + n + m) : Balanced k st' := by
  unfold Balanced at *
  omega

theorem Balanced.keep {k : Nat} {st st' : Session × Tally} (hb : Balanced k st)
    (hf : st'.1.dispatcher.failed = st.1.dispatcher.failed) (hu : st'.2.failed = st.2.failed)
    (he : st'.2.errors.length = st.2.errors.length + 1) : Balanced (k + 1) st' := by
  unfold Balanced at *
  rw [hf, hu, he, hb]
  omega

/-- A step that fails leaves the books of an import balanced when the token stops every flush,
and when it fails with a cancellation. -/
structure Halted (k : Nat) (e : Error) (st : Session × Tally) : Prop where
  balanced : st.1.token.check ≠ .ok () → Balanced k st
  cancelled : ∀ m, e = .cancelled m → Balanced k st

theorem Halted.of_balanced {k : Nat} {e : Error} {st : Session × Tally} (h : Balanced k st) :
    Halted k e st :=
  ⟨fun _ => h, fun _ _ => h⟩

/-- A failure other than a cancellation and the failures a drain gathered stands for one failed
batch. -/
theorem Error.reported_eq_one {e : Error} (hc : ∀ m, e = .cancelled m → False)
    (hd : ∀ es, e = .drain es → False) : e.reported = 1 := by
  cases e with
  | cancelled m => exact absurd rfl (hc m)
  | drain es => exact absurd rfl (hd es)
  | _ => rfl

namespace Dispatch

/-- A token that stops every flush lets no batch fail, so a failed step of the dispatcher leaves
the books as they were. -/
theorem Reports.halted {k : Nat} {st0 st : Session × Tally} {e : Error} (h : Reports st0.1 st.1 e)
    (hb : Balanced k st0) (ht : st.2 = st0.2) : Halted k e st := by
  obtain ⟨n, hc, -⟩ := h.counted
  have hstopped : st0.1.token.check ≠ .ok () → Balanced k st := fun hstop => by
    obtain rfl := hc.eq_zero_of_stopped hstop
    exact hb.step 0 0 hc.failed (by simp [ht]) (by simp [ht])
  refine ⟨fun hstop => hstopped (by rwa [← hc.token]), fun m he => hstopped (h.cancelled m he)⟩

/-- A session of an import whose token stays `t`: no request cancels it and the store fails only
as a store does, every flush may take a record, and the dispatcher's numbers are those of its
failed list. -/
structure Session.Steady (t : Token) (s : Session) : Prop where
  token : s.token = t
  calm : s.calm
  batchOk : s.dispatcher.BatchOk
  ledger : Ledger s.dispatcher

theorem Session.Steady.counted {t : Token} {s0 s : Session} {n : Nat} (h : s0.Steady t)
    (hc : Counted s0 s n) (hl : Ledger s0.dispatcher → Ledger s.dispatcher) : s.Steady t where
  token := hc.token.trans h.token
  calm := hc.calm h.calm
  batchOk := by
    unfold Dispatcher.BatchOk
    rw [hc.batchSize]
    exact h.batchOk
  ledger := hl h.ledger

end Dispatch

/-- A step of the session within an import: the tally stays, and the session goes as the step's
triple says from the import's session. -/
theorem liftRun_at {α : Type} {r : Run α} {P : Session → Prop} {Q : Session → α → Session → Prop}
    {E : Session → Error → Session → Prop}
    (h : ∀ s0, ⦃fun s => ⌜s = s0 ∧ P s0⌝⦄ r ⦃post⟨fun a s => ⌜Q s0 a s⌝, fun e s => ⌜E s0 e s⌝⟩⦄)
    (st0 : Session × Tally) :
    ⦃fun st => ⌜st = st0 ∧ P st0.1⌝⦄ liftRun r
    ⦃post⟨fun a st => ⌜Q st0.1 a st.1 ∧ st.2 = st0.2⌝,
      fun e st => ⌜E st0.1 e st.1 ∧ st.2 = st0.2⌝⟩⦄ := by
  apply Triple.of_outcome
  rintro st ⟨rfl, hp⟩
  have hr := Triple.outcome (h st.1) ⟨rfl, hp⟩
  rw [liftRun_run]
  split at hr <;> simp_all

/-! ## Queueing records -/

/-- Queueing records whose add is counted keeps the books, and the add's `R` where the import
goes on; a failure it passes on, which no drain gathers, leaves the import halted. -/
theorem enqueue_balanced {add : Run Unit} {k : Nat} {P Q R : Session → Prop}
    (hadd : ∀ s0, ⦃fun s => ⌜s = s0 ∧ P s0⌝⦄ add
      ⦃post⟨fun _ s => ⌜Counted s0 s 0 ∧ Q s ∧ R s⌝,
        fun e s => ⌜Reports s0 s e ∧ Q s ∧ (e.gathered = true → R s)⌝⟩⦄)
    (st0 : Session × Tally) :
    ⦃fun st => ⌜st = st0 ∧ Balanced k st0 ∧ P st0.1⌝⦄ enqueue add
    ⦃post⟨fun _ st => ⌜Balanced k st ∧ Q st.1 ∧ R st.1⌝,
      fun e st => ⌜Halted k e st ∧ Q st.1 ∧ e.gathered = false⌝⟩⦄ := by
  have hl := liftRun_at hadd
  mvcgen [enqueue, keepErrors, tally, hl]
  all_goals obtain ⟨rfl, hb, hp⟩ := ‹_ = st0 ∧ Balanced k st0 ∧ P st0.1›
  case vc1 => exact ⟨trivial, hp⟩
  case vc2 =>
    rintro hc hq hr ht
    exact ⟨hb.step 0 0 hc.failed (by simp [ht]) (by simp [ht]), hq, hr⟩
  case vc3 =>
    obtain ⟨⟨hrep, hq, -⟩, ht⟩ := ‹(Reports _ _ _ ∧ _) ∧ _›
    exact ⟨hrep.halted hb ht, hq, rfl⟩
  case vc4 =>
    obtain ⟨⟨hrep, hq, hr⟩, ht⟩ := ‹(Reports _ _ _ ∧ _) ∧ _›
    refine ⟨hb.step _ 0 hrep.drain_counted.failed (by simp +zetaDelta [ht])
      (by simp +zetaDelta [ht]), hq, hr rfl⟩
  case vc5 =>
    have hcancel := ‹∀ m, _ = Error.cancelled m → False›
    have hdrain := ‹∀ es, _ = Error.drain es → False›
    have himport := ‹Error.isImportFailure _ = true›
    obtain ⟨⟨hrep, hq, hr⟩, ht⟩ := ‹(Reports _ _ _ ∧ _) ∧ _›
    obtain ⟨n, hc, hn⟩ := hrep.counted
    rw [hn himport, Error.reported_eq_one hcancel hdrain] at hc
    have hg := (Error.gathered_of_not_cancelled hcancel).trans himport
    exact ⟨hb.step _ 0 hc.failed (by simp +zetaDelta [ht]) (by simp +zetaDelta [ht]), hq,
      hr hg⟩
  case vc6 =>
    have hcancel := ‹∀ m, _ = Error.cancelled m → False›
    obtain ⟨⟨hrep, hq, -⟩, ht⟩ := ‹(Reports _ _ _ ∧ _) ∧ _›
    refine ⟨hrep.halted hb ht, hq, ?_⟩
    rw [Error.gathered_of_not_cancelled hcancel]
    simpa using ‹¬Error.isImportFailure _ = true›

/-! ## Adds, queries and actions -/

namespace Dispatch

/-- An add of the lines of a unit to a session whose database is named: counted, the session
steady, and the guard kept where the import goes on. -/
theorem addLines_accounted {f : InputFormat} {S : Settings} {t : Token} {ls : List String}
    (s0 : Session) :
    ⦃fun s => ⌜s = s0 ∧ (f = .lineProtocol → ls.length = 1) ∧ s0.Steady t ∧ Guard f S s0 ∧
      s0.context.database.truthy = true⌝⦄
    addLines ls
    ⦃post⟨fun _ s => ⌜Counted s0 s 0 ∧ s.Steady t ∧ Guard f S s⌝,
      fun e s => ⌜Reports s0 s e ∧ s.Steady t ∧ (e.gathered = true → Guard f S s)⌝⟩⦄ := by
  apply Triple.of_outcome
  rintro s ⟨rfl, hls, hs, hg, hdb⟩
  have hc := Triple.outcome (addLines_counted ls s)
    ⟨rfl, hs.calm, hs.batchOk, hg.unmasked_lines hls⟩
  have hl := Triple.outcome (addLines_spec ls s) rfl
  have hgd := Triple.outcome (addLines_guard hls s) ⟨rfl, hg, hs.batchOk, hdb⟩
  generalize (addLines ls).run.run s = x at hc hl hgd ⊢
  obtain ⟨_ | _, s'⟩ := x
  · obtain ⟨n, hcn, -⟩ := hc.counted
    exact ⟨hc, hs.counted hcn hl.ledger, hgd⟩
  · exact ⟨hc, hs.counted hc hl.2.ledger, hgd⟩

/-- An add of the points of a unit, outside line protocol, to a session whose database is named:
counted, the session steady, and the guard kept where the import goes on. -/
theorem addPoints_accounted {f : InputFormat} {S : Settings} {t : Token} (ps : List Point)
    (s0 : Session) :
    ⦃fun s => ⌜s = s0 ∧ f ≠ .lineProtocol ∧ s0.Steady t ∧ Guard f S s0 ∧
      s0.context.database.truthy = true⌝⦄
    addPoints ps
    ⦃post⟨fun _ s => ⌜Counted s0 s 0 ∧ s.Steady t ∧ Guard f S s⌝,
      fun e s => ⌜Reports s0 s e ∧ s.Steady t ∧ (e.gathered = true → Guard f S s)⌝⟩⦄ := by
  apply Triple.of_outcome
  rintro s ⟨rfl, hf, hs, hg, hdb⟩
  have hc := Triple.outcome (addPoints_counted ps s)
    ⟨rfl, hs.calm, hs.batchOk, hg.unmasked_points hf _⟩
  have hl := Triple.outcome (addPoints_spec ps s) rfl
  have hgd := Triple.outcome (addPoints_guard hf ps s) ⟨rfl, hg, hdb⟩
  generalize (addPoints ps).run.run s = x at hc hl hgd ⊢
  obtain ⟨_ | _, s'⟩ := x
  · obtain ⟨n, hcn, -⟩ := hc.counted
    exact ⟨hc, hs.counted hcn hl.ledger, hgd⟩
  · exact ⟨hc, hs.counted hc hl.2.ledger, hgd⟩

/-- `s` follows `s0` by a query: only the store's record of requests changed. -/
structure Queried (s0 s : Session) : Prop where
  context : s.context = s0.context
  dispatcher : s.dispatcher = s0.dispatcher
  token : s.token = s0.token
  client : s.store.client = s0.store.client

theorem Session.Steady.queried {t : Token} {s0 s : Session} (h : s0.Steady t)
    (hq : Queried s0 s) : s.Steady t where
  token := hq.token.trans h.token
  calm := Session.calm_of_client hq.client h.calm
  batchOk := hq.dispatcher ▸ h.batchOk
  ledger := hq.dispatcher ▸ h.ledger

theorem Queried.keeps {f : InputFormat} {S : Settings} {t : Token} {k : Nat}
    {st0 st : Session × Tally} (hq : Queried st0.1 st.1) (ht : st.2 = st0.2) (hb : Balanced k st0)
    (hs : st0.1.Steady t) (hg : Guard f S st0.1) :
    Balanced k st ∧ st.1.Steady t ∧ Guard f S st.1 :=
  ⟨hb.step 0 0 (by simp [hq.dispatcher]) (by simp [ht]) (by simp [ht]), hs.queried hq,
    hg.congr hq.context (by rw [hq.dispatcher])⟩

/-- A query changes only the store's record of requests when no query cancels the import, and it
fails only with a failure of the import's own that is not a cancellation. -/
theorem runQuery_queried (command : String) (s0 : Session) :
    ⦃fun s => ⌜s = s0 ∧ s0.calm⌝⦄ runQuery command
    ⦃post⟨fun _ s => ⌜Queried s0 s⌝, fun e s => ⌜Queried s0 s ∧ e.gathered = true⌝⟩⦄ := by
  apply Triple.of_outcome
  rintro s ⟨rfl, hcalm, hstore⟩
  simp only [runQuery, run_bind, run_get, exchange_run, hcalm.query, Bool.false_eq_true, if_false]
  cases hr : (s.store.client.query s.store.log command).result with
  | ok _ => exact ⟨rfl, rfl, rfl, rfl⟩
  | error e => exact ⟨⟨rfl, rfl, rfl, rfl⟩, Error.gathered_of_ofStore (hstore.query _ _ e hr)⟩

end Dispatch

/-- Checking the token within an import leaves it as it was, and fails only when the token stops
the import. -/
theorem liftRun_checkToken (st0 : Session × Tally) :
    ⦃fun st => ⌜st = st0⌝⦄ liftRun checkToken
    ⦃post⟨fun _ st => ⌜st = st0⌝, fun e st => ⌜st = st0 ∧ st0.1.token.check = .error e⌝⟩⦄ := by
  apply Triple.of_outcome
  rintro st rfl
  have hcheck : checkToken.run.run st.1 = (st.1.token.check, st.1) := by
    unfold checkToken
    rw [run_bind, run_get]
    dsimp only
    cases st.1.token.check <;> rfl
  rw [liftRun_run, hcheck]
  cases st.1.token.check <;> simp

/-- An action a unit in format `f` can ask for: in line protocol, one line at a time and no
points. -/
def Fits (f : InputFormat) (a : Action) : Prop :=
  f = .lineProtocol → (∀ ls, a = .lines ls → ls.length = 1) ∧ ∀ ps, a ≠ .points ps

theorem InputFormat.step_fits (f : InputFormat) (e : Entry) (c : Context) (S : Settings) (now : Int)
    {a : Action} (h : (f.step e c S now).2.2 = .ok a) : Fits f a := by
  rintro rfl
  obtain ⟨hlines, hpoints⟩ := InputFormat.step_lineProtocol_action e c S now
  exact ⟨fun ls ha => hlines ls (ha ▸ h), fun ps ha => hpoints ps (ha ▸ h)⟩

/-- Carrying out an action keeps the books and the guard; a failure leaves the import halted,
and the books and the guard kept when a unit absorbs it. -/
theorem applyAction_balanced {f : InputFormat} {S : Settings} {t : Token} {k : Nat} (a : Action) :
    ⦃fun st => ⌜Fits f a ∧ Balanced k st ∧ st.1.Steady t ∧ Guard f S st.1⌝⦄ applyAction a
    ⦃post⟨fun _ st => ⌜Balanced k st ∧ st.1.Steady t ∧ Guard f S st.1⌝,
      fun e st => ⌜Halted k e st ∧ st.1.Steady t ∧
        (e.gathered = true → Balanced k st ∧ Guard f S st.1)⌝⟩⦄ := by
  have hquery := fun command => liftRun_at (runQuery_queried command)
  have hlines := fun ls => @enqueue_balanced _ k _ _ _ (@addLines_accounted f S t ls)
  have hpoints := fun ps => @enqueue_balanced _ k _ _ _ (@addPoints_accounted f S t ps)
  mvcgen [applyAction, tally, liftRun_checkToken, hquery, hlines, hpoints]
  all_goals obtain ⟨hfit, hb, hs, hg⟩ := ‹Fits f _ ∧ _›
  all_goals subst_vars
  case vc1 => exact ⟨trivial, hs.calm⟩
  case vc2 =>
    obtain ⟨hq, ht⟩ := ‹Queried _ _ ∧ _›
    obtain ⟨hb', hs', hg'⟩ := hq.keeps ht hb hs hg
    exact ⟨hb'.step 0 0 (by simp +zetaDelta) (by simp +zetaDelta)
      (by simp +zetaDelta), hs', hg'⟩
  case vc3 =>
    intro hq _ ht
    obtain ⟨hb', hs', hg'⟩ := hq.keeps ht hb hs hg
    exact ⟨.of_balanced hb', hs', fun _ => ⟨hb', hg'⟩⟩
  case vc4 =>
    rintro rfl -
    exact ⟨.of_balanced hb, hs, fun _ => ⟨hb, hg⟩⟩
  case vc5 | vc9 => exact ⟨.of_balanced hb, hs, fun _ => ⟨hb, hg⟩⟩
  case vc6 =>
    exact ⟨trivial, hb, fun hlp => (hfit hlp).1 _ rfl, hs, hg, by simpa using ‹¬(!_) = true›⟩
  case vc10 =>
    exact ⟨trivial, hb, fun hlp => (hfit hlp).2 _ rfl, hs, hg, by simpa using ‹¬(!_) = true›⟩
  case vc7 | vc11 => exact fun hb' hs' hg' => ⟨hb', hs', hg'⟩
  case vc8 | vc12 =>
    exact fun hh hs' hgf => ⟨hh, hs', fun hgt => absurd (hgf.symm.trans hgt) (by decide)⟩
  case vc13 =>
    exact ⟨hb.step 0 0 (by simp +zetaDelta) (by simp +zetaDelta)
      (by simp +zetaDelta), hs, hg⟩

/-! ## Units -/

namespace Dispatch

theorem Session.Steady.withContext {t : Token} {s : Session} (h : s.Steady t) (c : Context) :
    ({ s with context := c } : Session).Steady t :=
  ⟨h.token, h.calm, h.batchOk, h.ledger⟩

end Dispatch

/-- Right after the step of a unit, the books and the session are as before, and the guard holds
for the settings after the step. -/
theorem stepped_balanced {f : InputFormat} {t : Token} {k : Nat} {S : Settings}
    {st : Session × Tally} (e : Entry) (hb : Balanced k st) (hs : st.1.Steady t)
    (hg : Guard f S st.1) :
    Balanced k ({ st.1 with context := (f.step e st.1.context S st.1.now).1 },
        { st.2 with processed := st.2.processed + 1 }) ∧
      Session.Steady t { st.1 with context := (f.step e st.1.context S st.1.now).1 } ∧
      Guard f (f.step e st.1.context S st.1.now).2.1
        { st.1 with context := (f.step e st.1.context S st.1.now).1 } :=
  ⟨hb.step 0 0 rfl rfl rfl, hs.withContext _, hg.step e⟩

/-- Stepping the import with a unit keeps the books and the guard, for the settings after the
step; a failure the unit does not absorb leaves the import halted. -/
theorem importUnit_balanced {f : InputFormat} {t : Token} {k : Nat} (S : Settings) (e : Entry) :
    ⦃fun st => ⌜Balanced k st ∧ st.1.Steady t ∧ Guard f S st.1⌝⦄ importUnit f S e
    ⦃post⟨fun S' st => ⌜Balanced k st ∧ st.1.Steady t ∧ Guard f S' st.1⌝,
      fun e st => ⌜Halted k e st ∧ st.1.Steady t⌝⟩⦄ := by
  mvcgen [importUnit, tally, applyAction_balanced]
  case vc5 =>
    obtain ⟨hb, hs, hg⟩ := ‹Balanced k _ ∧ _›
    obtain ⟨hb1, hs1, hg1⟩ := stepped_balanced e hb hs hg
    exact ⟨InputFormat.step_fits _ _ _ _ _ ‹_ = Except.ok _›, hb1, hs1,
      hg1.retarget (InputFormat.step_target _ _ _ _ _).symm⟩
  case vc6 =>
    obtain ⟨hb, hs, hg⟩ := ‹Balanced k _ ∧ _›
    exact ⟨hb, hs, hg.retarget (InputFormat.step_target _ _ _ _ _)⟩
  case vc7 | vc8 | vc10 =>
    obtain ⟨hh, hs, -⟩ := ‹Halted _ _ _ ∧ _›
    exact ⟨hh, hs⟩
  case vc9 =>
    obtain ⟨-, hs, habsorb⟩ := ‹Halted _ _ _ ∧ _›
    have hgathered := (Error.gathered_of_not_cancelled ‹∀ m, _ = Error.cancelled m → False›).trans
      ‹Error.isImportFailure _ = true›
    obtain ⟨hb, hg⟩ := habsorb hgathered
    exact ⟨hb.step 0 1 (by simp +zetaDelta) (by simp +zetaDelta)
      (by simp +zetaDelta), hs, hg.retarget (InputFormat.step_target _ _ _ _ _)⟩
  case vc11 | vc12 | vc14 =>
    obtain ⟨hb, hs, hg⟩ := ‹Balanced k _ ∧ _›
    obtain ⟨hb1, hs1, -⟩ := stepped_balanced e hb hs hg
    exact ⟨.of_balanced hb1, hs1⟩
  case vc13 =>
    obtain ⟨hb, hs, hg⟩ := ‹Balanced k _ ∧ _›
    obtain ⟨hb1, hs1, hg1⟩ := stepped_balanced e hb hs hg
    exact ⟨hb1.step 0 1 (by simp +zetaDelta) (by simp +zetaDelta)
      (by simp +zetaDelta), hs1, hg1⟩

/-- Stepping the import with units in turn keeps the books; a failure that no unit absorbs leaves
the import halted. -/
theorem importUnits_balanced {f : InputFormat} {t : Token} {k : Nat} (S : Settings)
    (es : List Entry) :
    ⦃fun st => ⌜Balanced k st ∧ st.1.Steady t ∧ Guard f S st.1⌝⦄ importUnits f S es
    ⦃post⟨fun _ st => ⌜Balanced k st ∧ st.1.Steady t⌝,
      fun e st => ⌜Halted k e st ∧ st.1.Steady t⌝⟩⦄ := by
  induction es generalizing S with
  | nil =>
    mvcgen [importUnits]
    obtain ⟨hb, hs, -⟩ := ‹Balanced k _ ∧ _›
    exact ⟨hb, hs⟩
  | cons e rest ih =>
    mvcgen [importUnits, importUnit_balanced, ih]

/-! ## Reading faults and the final drain -/

/-- The messages an import keeps for reading its file: one for a document that cannot be read. -/
def keptFaults : Option Error → Nat
  | some (.parse ..) => 1
  | _ => 0

/-- Stepping the import with every unit and then taking the fault that stopped reading keeps the
books, with one more message for a document that cannot be read; a failure that no unit absorbs,
or a fault that ends the import, leaves it halted. -/
theorem importEntries_balanced {f : InputFormat} {t : Token} (S : Settings) (entries : List Entry)
    (fault : Option Error) (hfault : ∀ m line content, fault = some (.parse m line content) → entries = []) :
    ⦃fun st => ⌜Balanced 0 st ∧ st.1.Steady t ∧ Guard f S st.1⌝⦄ importEntries f S entries fault
    ⦃post⟨fun _ st => ⌜Balanced (keptFaults fault) st ∧ st.1.Steady t⌝,
      fun e st => ⌜Halted (keptFaults fault) e st ∧ st.1.Steady t⌝⟩⦄ := by
  by_cases hparse : ∃ m line content, fault = some (.parse m line content)
  · obtain ⟨m, line, content, rfl⟩ := hparse
    obtain rfl := hfault m line content rfl
    mvcgen [importEntries, importUnits, keepErrors, tally]
    obtain ⟨hb, hs, -⟩ := ‹Balanced 0 _ ∧ _›
    exact ⟨hb.keep rfl rfl (by simp +zetaDelta), hs⟩
  · have hzero : keptFaults fault = 0 := by
      unfold keptFaults
      split
      · exact absurd ⟨_, _, _, rfl⟩ hparse
      · rfl
    rw [hzero]
    mvcgen [importEntries, importUnits_balanced, keepErrors, tally]
    case vc2 => exact absurd ⟨_, _, _, ‹fault = _›⟩ hparse
    case vc3 =>
      obtain ⟨hb, hs⟩ := ‹Balanced 0 _ ∧ _›
      exact ⟨.of_balanced hb, hs⟩

namespace Dispatch

/-- A drain of an import's session: counted, and the session steady. -/
theorem drain_accounted {t : Token} (s0 : Session) :
    ⦃fun s => ⌜s = s0 ∧ s0.Steady t⌝⦄ drain
    ⦃post⟨fun _ s => ⌜Counted s0 s 0 ∧ s.Steady t⌝, fun e s => ⌜Reports s0 s e ∧ s.Steady t⌝⟩⦄ := by
  apply Triple.of_outcome
  rintro s ⟨rfl, hs⟩
  have hc := Triple.outcome (drain_counted s) ⟨rfl, hs.calm⟩
  have hf := Triple.outcome (drain_spec s) rfl
  generalize drain.run.run s = x at hc hf ⊢
  obtain ⟨_ | _, s'⟩ := x
  · obtain ⟨n, hcn, -⟩ := hc.1.counted
    exact ⟨hc.1, hs.counted hcn hf.1.ledger⟩
  · exact ⟨hc, hs.counted hc hf.1.ledger⟩

end Dispatch

/-- The final drain keeps the books, the failures of a drain kept one for each failed batch; it
fails with a cancellation only when the token stops every flush, and then no batch failed. -/
theorem finalDrain_balanced {t : Token} (st0 : Session × Tally) :
    ⦃fun st => ⌜st = st0 ∧ st0.1.Steady t⌝⦄ finalDrain
    ⦃post⟨fun _ st => ⌜(∀ k, Balanced k st0 → Balanced k st) ∧ st.1.Steady t⌝,
      fun e st => ⌜st.1.Steady t ∧ ∀ m, e = .cancelled m →
        st0.1.token.check ≠ .ok () ∧ ∀ k, Balanced k st0 → Balanced k st⌝⟩⦄ := by
  have hl := liftRun_at fun s0 => drain_accounted (t := t) s0
  mvcgen [finalDrain, keepErrors, tally, hl]
  all_goals obtain ⟨rfl, hs⟩ := ‹_ = st0 ∧ _›
  case vc1 => exact ⟨trivial, hs⟩
  case vc2 =>
    obtain ⟨⟨hc, hs'⟩, ht⟩ := ‹(Counted _ _ 0 ∧ _) ∧ _›
    exact ⟨fun k hb => hb.step 0 0 hc.failed (by simp [ht]) (by simp [ht]), hs'⟩
  case vc3 =>
    obtain ⟨⟨hrep, hs'⟩, ht⟩ := ‹(Reports _ _ _ ∧ _) ∧ _›
    exact ⟨fun k hb => hb.step _ 0 hrep.drain_counted.failed (by simp +zetaDelta [ht])
      (by simp +zetaDelta [ht]), hs'⟩
  case vc4 =>
    obtain ⟨⟨hrep, hs'⟩, ht⟩ := ‹(Reports _ _ _ ∧ _) ∧ _›
    refine ⟨hs', fun m he => ⟨hrep.cancelled m he, fun k hb => ?_⟩⟩
    exact (hrep.halted hb ht).cancelled m he

/-! ## An import -/

/-- An import over its units that returns keeps the books: one message for each failed unit and
each failed batch, one for a document that cannot be read, and one for a cancellation. -/
theorem importAll_balanced {f : InputFormat} {t : Token} (S : Settings) (entries : List Entry)
    (fault : Option Error)
    (hfault : ∀ m line content, fault = some (.parse m line content) → entries = []) :
    ⦃fun st => ⌜Balanced 0 st ∧ st.1.Steady t ∧ Guard f S st.1⌝⦄ importAll f S entries fault
    ⦃post⟨fun c st => ⌜Balanced (keptFaults fault + if c then 1 else 0) st ∧
        Ledger st.1.dispatcher⌝,
      fun _ _ => ⌜True⌝⟩⦄ := by
  have hentries := importEntries_balanced (f := f) (t := t) S entries fault hfault
  mvcgen [importAll, hentries, finalDrain_balanced, keepErrors, tally]
  case vc3 | vc8 => exact ⟨trivial, ‹_ ∧ Session.Steady t _›.2⟩
  case vc4 =>
    obtain ⟨hb, -⟩ := ‹Balanced _ _ ∧ _›
    obtain ⟨hdrain, hs⟩ := ‹(∀ k, _) ∧ _›
    simpa using ⟨hdrain _ hb, hs.ledger⟩
  case vc5 =>
    obtain ⟨hb, -⟩ := ‹Balanced _ _ ∧ _›
    obtain ⟨hs, hcancel⟩ := ‹Session.Steady t _ ∧ ∀ m, _›
    exact ⟨((hcancel _ rfl).2 _ hb).keep rfl rfl (by simp +zetaDelta), hs.ledger⟩
  case vc6 =>
    obtain ⟨hh, hs⟩ := ‹Halted _ _ _ ∧ _›
    exact ⟨(hh.cancelled _ rfl).keep rfl rfl (by simp +zetaDelta), hs.ledger⟩
  case vc9 => exact absurd ‹_ = Error.cancelled _› (‹∀ m, _ = Error.cancelled m → False› _)
  case vc10 =>
    obtain ⟨hh, -⟩ := ‹Halted _ _ _ ∧ _›
    obtain ⟨hs, hcancel⟩ := ‹Session.Steady t _ ∧ ∀ m, _›
    obtain ⟨hstop, hkeep⟩ := hcancel _ rfl
    exact ⟨(hkeep _ (hh.balanced hstop)).keep rfl rfl (by simp +zetaDelta), hs.ledger⟩

/-! ## The report of an import -/

/-- A batch size above zero lets a batch hold a record, when it is an integer. -/
theorem Value.asInt_pos_of_gt_zero {v : Value} (h : v.gt (.int 0) = .ok true) {i : Int}
    (hi : v.asInt? = some i) : 0 < i := by
  cases v <;> simp only [Value.asInt?, Option.some.injEq, reduceCtorEq] at hi
  case bool b =>
    subst hi
    cases b <;> simp_all [Value.gt, Value.compareWith, Value.order?, Value.compareNumbers,
      Value.asInt?]
  case int j =>
    subst hi
    simp only [Value.gt, Value.compareWith, Value.order?, Value.compareNumbers, Value.asInt?,
      Except.ok.injEq, beq_iff_eq] at h
    exact Int.compare_eq_gt.mp h

theorem sliceBound_pos_of_gt_zero {v : Value} (h : v.gt (.int 0) = .ok true) :
    ∀ n, sliceBound v = .ok n → 0 < n := by
  intro n hn
  unfold sliceBound at hn
  split at hn
  · cases hn
    have := Value.asInt_pos_of_gt_zero h ‹_›
    omega
  · cases hn

theorem Dispatch.Dispatcher.ofSettings_batchOk {s : Settings} {transport : String}
    {rows columns : Bool} {d : Dispatcher} (h : Dispatcher.ofSettings s transport rows columns = .ok d) :
    d.BatchOk := by
  unfold Dispatcher.ofSettings at h
  simp only [bind, Except.bind, pure, Except.pure] at h
  repeat' split at h
  all_goals try cases h
  all_goals first
    | (subst ‹_ = true›; exact sliceBound_pos_of_gt_zero ‹_›)
    | (intro n hn; cases hn; decide)

theorem Guard.start (f : InputFormat) (S : Settings) (store : Store) (token : Token)
    (d : Dispatcher) (now : Int) : Guard f S ⟨{}, store, token, d, now⟩ := by
  cases f
  case lineProtocol => exact fun _ => ⟨rfl, rfl⟩
  all_goals
    exact ⟨fun p hp => absurd hp (by simp), fun hdb => absurd hdb (by simp [Value.truthy]),
      fun hp => absurd hp (by simp)⟩

/-- Whether reading a file in a format stops at a document that cannot be read. -/
def InputFormat.unreadable (f : InputFormat) (file : InputFile) : Bool :=
  match f.read file with
  | .ok (_, some (.parse ..)) => true
  | _ => false

theorem keptFaults_of_read {f : InputFormat} {file : InputFile} {entries : List Entry}
    {fault : Option Error} (h : f.read file = .ok (entries, fault)) :
    keptFaults fault = if f.unreadable file then 1 else 0 := by
  unfold InputFormat.unreadable keptFaults
  rw [h]
  split <;> simp_all

/-- The books of the report of an import of `file`: one message for each failed unit, each failed
batch, a document that cannot be read and a cancellation; the failed batches and their records
counted from the failed list; and success exactly when no message was kept and nothing was
cancelled. -/
structure Report.Accounts (file : InputFile) (r : Report) : Prop where
  errors : r.tally.errors.length = r.tally.failed + r.stats.batchesFailed +
    (if r.format.unreadable file then 1 else 0) + (if r.cancelled then 1 else 0)
  recordsFailed : r.stats.recordsFailed = (r.failedBatches.map fun b => b.batch.size).sum
  batchesFailed : r.stats.batchesFailed = r.failedBatches.length
  success : r.success = true ↔ r.tally.errors = [] ∧ r.cancelled = false

/-- Every report of an import, of any file in any format under any settings, from a store that
answers each write and query with success or a failure of its own and a token that is cancelled
before the import or never, keeps its books: each failed unit and each failed batch is reported
exactly once. -/
theorem importFile_accounts (S : Settings) (file : InputFile) (client : Client) (token : Token)
    (now : Int) (hcalm : client.Calm) (hstore : client.FailsAsStore)
    (r : Report) (h : (importFile S file client token now).1 = .ok r) : r.Accounts file := by
  cases hf : formatOf S with
  | error e => simp [importFile, hf, bind, Except.bind] at h
  | ok f =>
  cases hr : f.read file with
  | error e => simp [importFile, hf, hr, bind, Except.bind] at h
  | ok p =>
  obtain ⟨entries, fault⟩ := p
  cases hd : Dispatcher.ofSettings S (importTransport f S).name client.rows client.columns with
  | error e => simp [importFile, hf, hr, hd, bind, Except.bind] at h
  | ok d =>
  obtain ⟨hh, hfd, hstats⟩ := Dispatcher.ofSettings_fresh hd
  have hsteady : Session.Steady token ⟨{}, Store.new client, token, d, now⟩ :=
    ⟨rfl, ⟨hcalm, hstore⟩, Dispatcher.ofSettings_batchOk hd, Ledger.fresh hh hfd hstats⟩
  have hstart : Balanced 0 (⟨{}, Store.new client, token, d, now⟩, ⟨0, 0, 0, 0, []⟩) := by
    simp [Balanced, hfd]
  have hfault : ∀ m line content, fault = some (.parse m line content) → entries = [] :=
    fun m line content hp =>
      (InputFormat.read_fault (hp ▸ hr)).resolve_left (by simp [Error.archiveFault])
  have hrun := Triple.outcome (importAll_balanced S entries fault hfault)
    ⟨hstart, hsteady, Guard.start f S _ _ _ _⟩
  simp only [importFile, hf, hr, hd, bind, Except.bind, pure, Except.pure] at h
  split at hrun
  · rename_i c st hok
    rw [hok] at h
    simp only [Except.ok.injEq] at h
    subst h
    obtain ⟨hb, hl⟩ := hrun
    rw [keptFaults_of_read hr] at hb
    refine ⟨?_, hl.recordsFailed, hl.batchesFailed, by simp⟩
    unfold Balanced at hb
    simp only [hb, hl.batchesFailed]
    omega
  · rename_i e st herr
    rw [herr] at h
    cases h

/-- A line protocol import whose first write fails keeps its books: the failed batch is on the
failed list and its failure is kept once. -/
theorem failed_write_kept_once :
    match (importFile { batchSize := .int 1 }
        ⟨"m.lp", some "# DML\n# CONTEXT-DATABASE: db\nm v=1 1\nm v=2 2\n".toUTF8.data⟩
        (Script.client ⟨true, true, [1], [], [], none, [], none⟩) ⟨false, false⟩ 0).1 with
    | .ok r => r.Accounts ⟨"m.lp", some "# DML\n# CONTEXT-DATABASE: db\nm v=1 1\nm v=2 2\n".toUTF8.data⟩
    | .error _ => False := by
  have hok : (importFile { batchSize := .int 1 }
      ⟨"m.lp", some "# DML\n# CONTEXT-DATABASE: db\nm v=1 1\nm v=2 2\n".toUTF8.data⟩
      (Script.client ⟨true, true, [1], [], [], none, [], none⟩) ⟨false, false⟩ 0).1.isOk = true := by
    decide +kernel
  split
  · exact importFile_accounts _ _ _ _ _ (Script.calm rfl rfl) (Script.failsAsStore _) _ ‹_›
  · next e herr =>
    rw [herr] at hok
    cases hok

end SeriesImport
