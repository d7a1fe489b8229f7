import Mathlib
import SeriesImport.Proofs.Import.Accounting
/-!
# An interrupted import drains first

A failure that no unit absorbs, a fault of the archive or a failure of a step that is not one of
the import's own, stops the import's units; the import then drains what waits before it ends.
This module follows what that drain hands on.

`Session.Delivers s0 s es` says that from `s0` to `s` every batch handed on was written or failed
with a failure that a drain gathers, `es` being those failures. Each flush delivers
(`flushLines_delivers`, `flushPoints_delivers`), so each round of a drain does
(`drainRound_delivers`) and so does a whole drain (`drain_delivers`); under a token that lets it
through and a store that cancels nothing, a drain delivers and leaves nothing waiting, or ends
with a failure that is not one of the import's own (`drain_uncancelled`).
-/

namespace SeriesImport

open Dispatch Std.Do

set_option mvcgen.warning false

namespace Dispatch

/-- `s` follows `s0` by the hand-offs `hs`. -/
def Session.HandsOn (s0 s : Session) (hs : List Handoff) : Prop :=
  s.dispatcher.handed = s0.dispatcher.handed ++ hs

/-- From `s0` to `s` every batch handed on was written or failed with a failure that a drain
gathers, one of the import's own; `es` are those failures, in order. -/
def Session.Delivers (s0 s : Session) (es : List Error) : Prop :=
  ∃ hs, s0.HandsOn s hs ∧ hs.filterMap Handoff.error = es ∧ ∀ e ∈ es, e.gathered = true

theorem Session.Delivers.refl (s : Session) : s.Delivers s [] :=
  ⟨[], by simp [Session.HandsOn], rfl, by simp⟩

theorem Session.Delivers.trans {s0 s1 s2 : Session} {es1 es2 : List Error}
    (h1 : s0.Delivers s1 es1) (h2 : s1.Delivers s2 es2) : s0.Delivers s2 (es1 ++ es2) := by
  obtain ⟨hs1, hh1, hf1, hg1⟩ := h1
  obtain ⟨hs2, hh2, hf2, hg2⟩ := h2
  refine ⟨hs1 ++ hs2, ?_, by rw [List.filterMap_append, hf1, hf2], ?_⟩
  · rw [Session.HandsOn, hh2, hh1, List.append_assoc]
  · intro e he
    rcases List.mem_append.1 he with he | he
    · exact hg1 e he
    · exact hg2 e he

theorem Session.Delivers.gather {s0 s1 s : Session} {l0 l1 l : List Error}
    (h1 : ∃ es, s0.Delivers s1 es ∧ l1 = l0 ++ es) (h : ∃ es, s1.Delivers s es ∧ l = l1 ++ es) :
    ∃ es, s0.Delivers s es ∧ l = l0 ++ es := by
  obtain ⟨es1, h1, rfl⟩ := h1
  obtain ⟨es, h, rfl⟩ := h
  exact ⟨es1 ++ es, h1.trans h, List.append_assoc _ _ _⟩

theorem Session.Delivers.of_gathered {s0 s : Session} {l : List Error}
    (h : ∃ es, s0.Delivers s es ∧ l = [] ++ es) : s0.Delivers s l := by
  obtain ⟨es, h, rfl⟩ := h
  simpa using h

/-- A batch sent from a session whose hand-offs are those of `s0` is the one hand-off after
them. -/
theorem Sent.handsOn {s0 s1 s : Session} {b : Batch} {err : Option Error} (h : Sent s1 s b err)
    (hh : s1.dispatcher.handed = s0.dispatcher.handed) :
    s0.HandsOn s [⟨s1.destination.1, s1.destination.2, b, err⟩] := by
  rw [Session.HandsOn, h.handed, hh]

theorem Sent.delivers {s0 s1 s : Session} {b : Batch} (h : Sent s1 s b none)
    (hh : s1.dispatcher.handed = s0.dispatcher.handed) :
    s0.Delivers s [] :=
  ⟨_, h.handsOn hh, rfl, by simp⟩

theorem Sent.fails {s0 s1 s : Session} {b : Batch} {e : Error} (h : Sent s1 s b (some e))
    (hh : s1.dispatcher.handed = s0.dispatcher.handed) :
    ∃ hs, s0.HandsOn s hs ∧ hs.filterMap Handoff.error = [e] :=
  ⟨_, h.handsOn hh, rfl⟩

theorem flushLines_delivers (s0 : Session) :
    ⦃fun s => ⌜s = s0⌝⦄ flushLines
    ⦃post⟨fun _ s => ⌜s0.Delivers s []⌝,
      fun e s => ⌜(∃ hs, s0.HandsOn s hs ∧ hs.filterMap Handoff.error = [e]) ∨
        e.gathered = false⌝⟩⦄ := by
  mvcgen [flushLines, checkToken, -flushLines_spec]
  case vc1 =>
    subst_vars
    exact .refl _
  case vc2 => exact .refl _
  case vc3 =>
    obtain ⟨hu, -⟩ := ‹Session.Untouched _ _ ∧ _›
    subst_vars
    exact fun h => h.delivers hu.handed
  case vc4 =>
    obtain ⟨hu, -⟩ := ‹Session.Untouched _ _ ∧ _›
    subst_vars
    exact fun h => .inl (h.fails hu.handed)
  case vc5 => exact fun _ he => .inr (sliceBound_gathered he)
  case vc6 => exact .inr (Token.check_gathered ‹_›)

theorem flushPoints_delivers (s0 : Session) :
    ⦃fun s => ⌜s = s0⌝⦄ flushPoints
    ⦃post⟨fun _ s => ⌜s0.Delivers s []⌝,
      fun e s => ⌜(∃ hs, s0.HandsOn s hs ∧ hs.filterMap Handoff.error = [e]) ∨
        e.gathered = false⌝⟩⦄ := by
  mvcgen [flushPoints, checkToken, -flushPoints_spec]
  case vc1 =>
    subst_vars
    exact .refl _
  case vc2 =>
    subst_vars
    exact fun h => h.delivers rfl
  case vc3 =>
    subst_vars
    exact fun h => .inl (h.fails rfl)
  case vc4 => exact .inr (Token.check_gathered ‹_›)

/-- A round of a drain hands on what its flush does; the failure it gathers is that of the batch
it handed on, and a failure it passes on is one no drain gathers. -/
theorem drainRound_delivers (flush : Run Unit) (errors : List Error)
    (h : ∀ s0, ⦃fun s => ⌜s = s0⌝⦄ flush
      ⦃post⟨fun _ s => ⌜s0.Delivers s []⌝,
        fun e s => ⌜(∃ hs, s0.HandsOn s hs ∧ hs.filterMap Handoff.error = [e]) ∨
          e.gathered = false⌝⟩⦄)
    (s0 : Session) :
    ⦃fun s => ⌜s = s0⌝⦄ drainRound flush errors
    ⦃post⟨fun errs s => ⌜∃ es, s0.Delivers s es ∧ errs = errors ++ es⌝,
      fun e _ => ⌜e.gathered = false⌝⟩⦄ := by
  mvcgen [drainRound, h]
  case vc1 =>
    subst_vars
    exact ⟨[], ‹_›, by simp⟩
  case vc3 hc _ himport _ hflush =>
    subst_vars
    have hg := (Error.gathered_of_not_cancelled hc).trans himport
    rcases hflush with ⟨hs, hh, hf⟩ | hng
    · exact ⟨[_], ⟨hs, hh, hf, by simpa using hg⟩, rfl⟩
    · simp [hg] at hng
  case vc4 hc _ himport _ _ =>
    rw [Error.gathered_of_not_cancelled hc]
    simpa using himport

/-- Draining lines hands on batches that were each written or failed with a failure it gathered,
those failures joining the ones gathered before; a failure it passes on is one no drain
gathers. -/
theorem drainLines_delivers (fuel rounds : Nat) (errors : List Error) (s0 : Session) :
    ⦃fun s => ⌜s = s0⌝⦄ drainLines fuel rounds errors
    ⦃post⟨fun r s => ⌜∃ es, s0.Delivers s es ∧ r.2 = errors ++ es⌝,
      fun e _ => ⌜e.gathered = false⌝⟩⦄ := by
  induction fuel generalizing rounds errors s0 with
  | zero =>
    mvcgen [drainLines]
    subst_vars
    exact ⟨[], .refl _, by simp⟩
  | succ fuel ih =>
    have hround := fun errors => drainRound_delivers flushLines errors flushLines_delivers
    mvcgen [drainLines, -drainRound_flushLines_spec, hround, ih]
    case vc1 =>
      subst_vars
      exact ⟨[], .refl _, by simp⟩
    case vc2 hround _ _ =>
      subst_vars
      exact Session.Delivers.gather hround

/-- A drain hands on batches that were each written or failed with a failure it gathered. It
succeeds when none failed, fails with those failures together when some did, and otherwise
passes on a failure no drain gathers. -/
theorem drain_delivers (s0 : Session) :
    ⦃fun s => ⌜s = s0⌝⦄ drain
    ⦃post⟨fun _ s => ⌜s0.Delivers s []⌝,
      fun e s => ⌜(∃ es, e = .drain es ∧ s0.Delivers s es) ∨ e.gathered = false⌝⟩⦄ := by
  have hround := fun errors => drainRound_delivers flushPoints errors flushPoints_delivers
  mvcgen [drain, -drain_spec, -drainRound_flushPoints_spec, drainLines_delivers, hround]
  all_goals subst_vars
  case vc1 =>
    rename_i hlines _ _ hnone
    simpa [List.isEmpty_iff.1 hnone] using Session.Delivers.of_gathered hlines
  case vc2 =>
    rename_i hlines _ _ _
    exact .inl ⟨_, rfl, .of_gathered hlines⟩
  case vc3 =>
    rename_i hlines _ _ _ _ hpoints hnone
    simpa [List.isEmpty_iff.1 hnone] using
      Session.Delivers.of_gathered (Session.Delivers.gather hlines hpoints)
  case vc4 =>
    rename_i hlines _ _ _ _ hpoints _
    exact .inl ⟨_, rfl, .of_gathered (Session.Delivers.gather hlines hpoints)⟩
  case vc5 | vc6 => exact .inr

/-- A drain from a session whose token lets it through and whose store cancels nothing. It
hands on batches that were each written or failed with one of the import's own failures, keeps
every record in its place and, given that a batch holds a line, leaves nothing waiting; or it
passes on a failure outside the import's own, every record still in its place. -/
theorem drain_uncancelled (s0 : Session) (hclear : s0.token.check = .ok ()) (hcalm : s0.calm) :
    ⦃fun s => ⌜s = s0⌝⦄ drain
    ⦃post⟨fun _ s => ⌜s0.Delivers s [] ∧ Flushed s0 s ∧ (s0.dispatcher.BatchOk → Drained s)⌝,
      fun e s => ⌜((∃ es, e = .drain es ∧ s0.Delivers s es ∧
          (s0.dispatcher.BatchOk → Drained s)) ∨ e.isImportFailure = false) ∧ Flushed s0 s⌝⟩⦄ := by
  apply Triple.of_outcome
  rintro s rfl
  have hd := Triple.outcome (drain_delivers s) rfl
  have hf := Triple.outcome (drain_spec s) rfl
  have hc := Triple.outcome (drain_counted s) ⟨rfl, hcalm⟩
  generalize drain.run.run s = x at hd hf hc ⊢
  obtain ⟨_ | _, s'⟩ := x
  · obtain ⟨hflushed, hdrained, -⟩ := hf
    refine ⟨?_, hflushed⟩
    rcases hd with ⟨es, rfl, hes⟩ | hg
    · exact .inl ⟨es, rfl, hes, hdrained rfl⟩
    · have hnc : ∀ m, _ = Error.cancelled m → False := fun m hm => hc.1.cancelled m hm hclear
      exact .inr ((Error.gathered_of_not_cancelled hnc).symm.trans hg)
  · exact ⟨hd, hf⟩

end Dispatch

/-- `st` follows `st0` by a final drain that went through: the batches it handed on were each
written or kept on the failed list, with the failures `es`, whose messages the import kept;
every record kept its place and target; and nothing waits. -/
structure DrainedAfter (st0 st : Session × Tally) (es : List Error) : Prop where
  delivers : st0.1.Delivers st.1 es
  flushed : Flushed st0.1 st.1
  drained : Drained st.1
  tally : st.2 = { st0.2 with errors := st0.2.errors ++ es.map Error.message }

/-- The final drain of an import whose token lets it through and whose store cancels nothing:
it drains everything, keeping the drain's failures as messages, or passes on a failure outside
the import's own. -/
theorem finalDrain_uncancelled (st0 : Session × Tally) (hclear : st0.1.token.check = .ok ())
    (hcalm : st0.1.calm) (hok : st0.1.dispatcher.BatchOk) :
    ⦃fun st => ⌜st = st0⌝⦄ finalDrain
    ⦃post⟨fun _ st => ⌜∃ es, DrainedAfter st0 st es⌝,
      fun e st => ⌜e.isImportFailure = false ∧ Flushed st0.1 st.1⌝⟩⦄ := by
  have hl := liftRun_at (P := fun s => s.token.check = .ok () ∧ s.calm)
    (fun s0 => by
      apply Triple.of_outcome
      rintro s ⟨rfl, hclear, hcalm⟩
      exact Triple.outcome (drain_uncancelled s hclear hcalm) rfl) st0
  mvcgen [finalDrain, keepErrors, tally, hl]
  case vc2 =>
    obtain ⟨⟨hd, hf, hdr⟩, ht⟩ := ‹(_ ∧ _) ∧ _›
    exact ⟨[], ⟨hd, hf, hdr hok, by simp [ht]⟩⟩
  case vc3 =>
    obtain ⟨⟨⟨es, heq, hd, hdr⟩ | himp, hf⟩, ht⟩ := ‹(_ ∧ _) ∧ _›
    · cases heq
      exact ⟨_, ⟨hd, hf, hdr hok, by simp +zetaDelta [ht]⟩⟩
    · cases himp
  case vc4 =>
    obtain ⟨⟨⟨es, rfl, -⟩ | himp, hf⟩, -⟩ := ‹(_ ∧ _) ∧ _›
    · exact (‹∀ causes : List Error, Error.drain es = Error.drain causes → False› es rfl).elim
    · exact ⟨himp, hf⟩

/-- An import whose units broke off with `E`, a failure outside the import's own, at `st1`, and
whose final drain from there ends as `Q` says or fails as `R` says with a failure outside the
import's own, ends with `E` after the drain, or with the drain's failure. -/
theorem importAll_interrupted {f : InputFormat} {S : Settings} {es : List Entry}
    {fault : Option Error} {st0 st1 : Session × Tally} {E : Error}
    {Q : Session × Tally → Prop} {R : Error → Session × Tally → Prop}
    (hE : E.isImportFailure = false)
    (hunits : ⦃fun st => ⌜st = st0⌝⦄ importEntries f S es fault
      ⦃post⟨fun _ _ => ⌜False⌝, fun e st => ⌜e = E ∧ st = st1⌝⟩⦄)
    (hdrain : ⦃fun st => ⌜st = st1⌝⦄ finalDrain
      ⦃post⟨fun _ st => ⌜Q st⌝, fun e st => ⌜R e st⌝⟩⦄)
    (hR : ∀ e st, R e st → e.isImportFailure = false) :
    ⦃fun st => ⌜st = st0⌝⦄ importAll f S es fault
    ⦃post⟨fun _ _ => ⌜False⌝, fun e st => ⌜(e = E ∧ Q st) ∨ R e st⌝⟩⦄ := by
  mvcgen [importAll, hunits, hdrain]
  case vc6 | vc7 =>
    obtain ⟨rfl, -⟩ := ‹_ = E ∧ _›
    simp [Error.isImportFailure] at hE
  case vc8 => exact ‹_ = E ∧ _›.2
  case vc9 =>
    obtain ⟨rfl, -⟩ := ‹_ = E ∧ _›
    obtain rfl := ‹_ = Error.cancelled _›
    simp [Error.isImportFailure] at hE
  case vc10 =>
    rename_i hunit _ _ hq _ _ he
    exact .inl ⟨he.symm.trans hunit.1, hq⟩
  case vc11 =>
    have h := hR _ _ ‹R _ _›
    simp [Error.isImportFailure] at h
  case vc12 => exact .inr ‹_›

/-- How an import ends that its units broke off with `E` at `st1`: with `E` itself once the final
drain went through, or with a failure outside the import's own that the drain met, every record
still in its place. It never ends with a report. -/
def EndsAfterDrain (E : Error) (st1 : Session × Tally) :
    Except Error Bool × (Session × Tally) → Prop
  | (.ok _, _) => False
  | (.error e, st2) => (e = E ∧ ∃ es, DrainedAfter st1 st2 es) ∨
      (e.isImportFailure = false ∧ Flushed st1.1 st2.1)

/-- The state an import starts from: a new store that answers through `client`, the token, the
dispatcher the settings give, and nothing counted. -/
def importStart (client : Client) (token : Token) (d : Dispatcher) (now : Int) : Session × Tally :=
  (⟨{}, Store.new client, token, d, now⟩, ⟨0, 0, 0, 0, []⟩)

/-- An import of a file in any format, under any settings, with a token that is never cancelled
and a store that fails only with failures of its own, whose units break off with a failure `E`
outside the import's own, raised by reading the file or by a step, drains before it ends. When
the drain goes through, the import ends with `E`: every record that waited was handed on in its
place and to its target, each batch written or kept on the failed list, nothing waits, and the
drain's failures are kept as messages. The drain itself can meet a failure outside the import's
own, as when a batch cannot be written at all, and then the import ends with that failure
instead of `E`. -/
theorem interrupted_import_drains_first (S : Settings) (f : InputFormat) (file : InputFile)
    (entries : List Entry) (fault : Option Error) (client : Client) (d : Dispatcher) (now : Int)
    (hr : f.read file = .ok (entries, fault))
    (hd : Dispatcher.ofSettings S (importTransport f S).name client.rows client.columns = .ok d)
    (hcalm : client.Calm) (hstore : client.FailsAsStore)
    {E : Error} {st1 : Session × Tally}
    (hunits : (importEntries f S entries fault).run.run (importStart client ⟨false, false⟩ d now) =
      (.error E, st1))
    (hE : E.isImportFailure = false) :
    EndsAfterDrain E st1
      ((importAll f S entries fault).run.run (importStart client ⟨false, false⟩ d now)) := by
  obtain ⟨hh, hfd, hstats⟩ := Dispatcher.ofSettings_fresh hd
  have hsteady : Session.Steady ⟨false, false⟩ (importStart client ⟨false, false⟩ d now).1 :=
    ⟨rfl, ⟨hcalm, hstore⟩, Dispatcher.ofSettings_batchOk hd, Ledger.fresh hh hfd hstats⟩
  have hstart : Balanced 0 (importStart client ⟨false, false⟩ d now) := by
    simp [importStart, Balanced, hfd]
  have hfault : ∀ m line content, fault = some (.parse m line content) → entries = [] :=
    fun m line content hp =>
      (InputFormat.read_fault (hp ▸ hr)).resolve_left (by simp [Error.archiveFault])
  have hs1 := Triple.outcome (importEntries_balanced S entries fault hfault)
    ⟨hstart, hsteady, Guard.start f S _ _ _ _⟩
  rw [hunits] at hs1
  obtain ⟨-, hs1⟩ := hs1
  have hclear : st1.1.token.check = .ok () := by rw [hs1.token]; rfl
  have h := Triple.outcome (importAll_interrupted hE
    (Triple.of_outcome fun s hs => by subst hs; rw [hunits]; exact ⟨rfl, rfl⟩)
    (finalDrain_uncancelled st1 hclear hs1.calm hs1.batchOk) (fun _ _ h => h.1)) rfl
  generalize (importAll f S entries fault).run.run _ = x at h ⊢
  obtain ⟨_ | _, st2⟩ := x <;> exact h

/-! ## Errors told by their constructors -/

theorem Error.eq_truncatedArchive {e : Error} (h : e.ctorIdx = Error.truncatedArchive.ctorIdx) :
    e = .truncatedArchive := by
  cases e <;> cases h
  rfl

/-- A run that failed with an error with the constructor of the cut of an archive failed with
that cut. -/
theorem run_eq_truncated_of_told {α β : Type} {p : Except Error α × β}
    (h : p.1.mapError Error.ctorIdx = .error Error.truncatedArchive.ctorIdx) :
    p = (.error .truncatedArchive, p.2) := by
  obtain ⟨r, b⟩ := p
  cases r with
  | error e => rw [Error.eq_truncatedArchive (Except.error.inj h)]
  | ok a => cases h

/-- Lines read up to a fault with the constructor of the cut of an archive were read up to that
cut. -/
theorem eq_cut_of_told {r : Except Error (List String × Option Error)} {ls : List String}
    (h : (r.mapError Error.ctorIdx).map (fun p => (p.1, p.2.map Error.ctorIdx)) =
      .ok (ls, some Error.truncatedArchive.ctorIdx)) :
    r = .ok (ls, some .truncatedArchive) := by
  cases r with
  | error e => cases h
  | ok p =>
    obtain ⟨ls', fault⟩ := p
    obtain ⟨rfl, hf⟩ := Prod.mk.inj (Except.ok.inj h)
    obtain ⟨e, rfl, he⟩ := Option.map_eq_some_iff.1 hf
    rw [Error.eq_truncatedArchive he]

/-- A gzip line protocol file cut off before its trailer, after one line: its import breaks off
with the archive's fault, with the line waiting, and drains before it ends. -/
theorem cut_archive_import_drains_first :
    ∃ st1, (importEntries .lineProtocol {}
        [.unit (.str "# DML"), .unit (.str "# CONTEXT-DATABASE: db"), .unit (.str "m v=1 1")]
        (some .truncatedArchive)).run.run
        (importStart (Script.client ⟨true, true, [], [], [], none, [], none⟩) ⟨false, false⟩
          ⟨.row (.str "ns"), .int 100, ⟨0, 0, 0, 0⟩, [], ⟨[]⟩, []⟩ 0) =
        (.error .truncatedArchive, st1) ∧
      EndsAfterDrain .truncatedArchive st1 ((importAll .lineProtocol {}
        [.unit (.str "# DML"), .unit (.str "# CONTEXT-DATABASE: db"), .unit (.str "m v=1 1")]
        (some .truncatedArchive)).run.run
        (importStart (Script.client ⟨true, true, [], [], [], none, [], none⟩) ⟨false, false⟩
          ⟨.row (.str "ns"), .int 100, ⟨0, 0, 0, 0⟩, [], ⟨[]⟩, []⟩ 0)) := by
  have hlines : ((InputFile.mk "m.lp.gz" (some (#[0x1f, 0x8b, 8, 0, 0, 0, 0, 0, 4, 3,
      1, 37, 0, 218, 255] ++ "# DML\n# CONTEXT-DATABASE: db\nm v=1 1\n".toUTF8.data))).lines.mapError
      Error.ctorIdx).map (fun p => (p.1, p.2.map Error.ctorIdx)) =
      .ok (["# DML\n", "# CONTEXT-DATABASE: db\n", "m v=1 1\n"], some Error.truncatedArchive.ctorIdx) := by
    decide +kernel
  have hr : InputFormat.lineProtocol.read ⟨"m.lp.gz", some (#[0x1f, 0x8b, 8, 0, 0, 0, 0, 0, 4, 3,
      1, 37, 0, 218, 255] ++ "# DML\n# CONTEXT-DATABASE: db\nm v=1 1\n".toUTF8.data)⟩ =
      .ok ([.unit (.str "# DML"), .unit (.str "# CONTEXT-DATABASE: db"), .unit (.str "m v=1 1")],
        some .truncatedArchive) := by
    rw [InputFormat.read, eq_cut_of_told hlines]
    rfl
  have hunits : ((importEntries .lineProtocol {}
      [.unit (.str "# DML"), .unit (.str "# CONTEXT-DATABASE: db"), .unit (.str "m v=1 1")]
      (some .truncatedArchive)).run.run
      (importStart (Script.client ⟨true, true, [], [], [], none, [], none⟩) ⟨false, false⟩
        ⟨.row (.str "ns"), .int 100, ⟨0, 0, 0, 0⟩, [], ⟨[]⟩, []⟩ 0)).1.mapError Error.ctorIdx =
      .error Error.truncatedArchive.ctorIdx := by
    decide +kernel
  have hrun := run_eq_truncated_of_told hunits
  exact ⟨_, hrun, interrupted_import_drains_first {} .lineProtocol _ _ _ _ _ 0 hr rfl
    (Script.calm rfl rfl) (Script.failsAsStore _) hrun rfl⟩

end SeriesImport
