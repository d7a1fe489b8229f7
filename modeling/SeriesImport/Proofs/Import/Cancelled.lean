import Mathlib
import SeriesImport.Proofs.Import.Outcomes
import SeriesImport.Proofs.Import.Accounting
/-!
# An import cancelled before it starts

A token that asks to stop stops every flush that has records to send and every query, each
before it reaches the store. So an import whose token asks to stop from the start makes no
request at all: the store is as new, and no batch is written, handed on or kept as failed. What
is queued stays where it waits, behind what waited before (`Session.Held`).

Whether such an import ends cancelled depends only on its units. Each step of a unit is the
same as it would be under any token, and a unit reaches the store when its step asks for a
query, or queues records while a database is named (`InputFormat.reaches`, which follows the
units until one reaches the store or stops the others). Until a unit does, nothing waits and
nothing stops. A query is stopped at once; queued records wait, and the flush that would send
them, at the latest the final drain, stops the import. A step never fails with a cancellation
itself (`InputFormat.step_single`), and it never queues an empty batch
(`InputFormat.step_filled`), so the import ends cancelled exactly when some unit reaches the
store, with the message of the token as its last error.

The proof goes from a unit (`UnitStopped`) to a run of units (`UnitsStopped`, by induction on the
units) and then through the fault of reading and the final drain to the import.
-/

namespace SeriesImport

/-- A failure of a step under a token that asks to stop: the cancellation the token gives, or a
failure of one operation. -/
def Error.Stopped (e : Error) : Prop := e = .cancelled "import cancelled" ∨ e.single = true

theorem Error.Stopped.stop : Error.Stopped (.cancelled "import cancelled") := .inl rfl

theorem Error.Stopped.of_single {e : Error} (h : e.single = true) : Error.Stopped e := .inr h

namespace Dispatch

/-- `s` follows `s0` under a token that asks to stop: the store, the dispatcher, the token and the
time are as they were, and the records that waited still wait, ahead of any taken in since. -/
structure Session.Held (s0 s : Session) : Prop where
  store : s.store = s0.store
  dispatcher : s.dispatcher = s0.dispatcher
  token : s.token = s0.token
  now : s.now = s0.now
  lines : s0.context.pendingLines <+: s.context.pendingLines
  points : s0.context.pendingPoints <+: s.context.pendingPoints

namespace Session.Held

theorem refl (s : Session) : s.Held s :=
  ⟨rfl, rfl, rfl, rfl, List.prefix_refl _, List.prefix_refl _⟩

theorem trans {s0 s1 s2 : Session} (h1 : s0.Held s1) (h2 : s1.Held s2) : s0.Held s2 :=
  ⟨h2.store.trans h1.store, h2.dispatcher.trans h1.dispatcher, h2.token.trans h1.token,
    h2.now.trans h1.now, h1.lines.trans h2.lines, h1.points.trans h2.points⟩

theorem withContext {s0 s : Session} (h : s0.Held s) {c : Context} (hk : s.context.Keeps c) :
    s0.Held { s with context := c } :=
  ⟨h.store, h.dispatcher, h.token, h.now, hk.1 ▸ h.lines, hk.2.1 ▸ h.points⟩

theorem hasPending {s0 s : Session} (h : s0.Held s) (hp : s0.context.hasPending = true) :
    s.context.hasPending = true := by
  simp only [Context.hasPending, Bool.or_eq_true, Bool.not_eq_true', List.isEmpty_eq_false_iff,
    ne_eq] at hp ⊢
  rcases hp with hp | hp
  · exact .inl fun hs => hp (List.eq_nil_of_prefix_nil (hs ▸ h.lines))
  · exact .inr fun hs => hp (List.eq_nil_of_prefix_nil (hs ▸ h.points))

end Session.Held

/-! ## The dispatcher under a token that asks to stop -/

theorem fills_run (n : Nat) (s : Session) :
    (fills n).run.run s = ((Value.int n).ge s.dispatcher.batchSize, s) := by
  cases h : (Value.int n).ge s.dispatcher.batchSize with
  | ok b => simp only [fills, run_bind, run_get, liftResult, h, run_pure]
  | error e => simp only [fills, run_bind, run_get, liftResult, h, run_throw]


section Stopped

variable {s : Session} (hreq : s.token.requested = true)
include hreq

theorem checkToken_stopped : checkToken.run.run s = (.error (.cancelled "import cancelled"), s) := by
  have hc : s.token.check = .error (.cancelled "import cancelled") := by simp [Token.check, hreq]
  simp only [checkToken, run_bind, run_get, hc]
  rfl

theorem flushLines_stopped :
    flushLines.run.run s = (if s.context.pendingLines.isEmpty then .ok ()
      else .error (.cancelled "import cancelled"), s) := by
  simp only [flushLines, run_bind, run_get]
  split
  · rfl
  · simp only [run_bind, checkToken_stopped hreq]

theorem flushPoints_stopped :
    flushPoints.run.run s = (if s.context.pendingPoints.isEmpty then .ok ()
      else .error (.cancelled "import cancelled"), s) := by
  simp only [flushPoints, run_bind, run_get]
  split
  · rfl
  · simp only [run_bind, checkToken_stopped hreq]

omit hreq in
theorem drainRound_stopped {flush : Run Unit} {b : Bool}
    (h : flush.run.run s = (if b then .ok () else .error (.cancelled "import cancelled"), s))
    (errors : List Error) :
    (drainRound flush errors).run.run s =
      (if b then .ok errors else .error (.cancelled "import cancelled"), s) := by
  simp only [drainRound, run_tryCatch, run_bind, h]
  cases b <;> rfl

theorem drainLines_stopped (fuel rounds : Nat) (errors : List Error) :
    (drainLines (fuel + 1) rounds errors).run.run s =
      (if s.context.pendingLines.isEmpty then .ok (rounds, errors)
        else .error (.cancelled "import cancelled"), s) := by
  by_cases he : s.context.pendingLines.isEmpty
  · simp only [drainLines, run_bind, run_get, he, if_true]
    rfl
  · simp only [drainLines, run_bind, run_get, he, Bool.false_eq_true, if_false,
      drainRound_stopped (flushLines_stopped hreq) errors]

theorem drain_stopped :
    drain.run.run s = (if s.context.hasPending then .error (.cancelled "import cancelled")
      else .ok 0, s) := by
  simp only [drain, run_bind, run_get, drainLines_stopped hreq, Context.hasPending]
  by_cases hl : s.context.pendingLines.isEmpty
  · by_cases hp : s.context.pendingPoints.isEmpty
    · simp [hl, hp]
      rfl
    · simp [hl, hp, drainRound_stopped (flushPoints_stopped hreq)]
      rfl
  · simp [hl]

/-- A switch of target stops when it would drain records that wait. -/
theorem switchTarget_stopped :
    switchTarget.run.run s =
      if s.context.pendingTarget.any (sameTarget · s.context.target) then (.ok none, s)
      else if s.context.pendingTarget.isSome && s.context.hasPending then
        (.error (.cancelled "import cancelled"), s)
      else (.ok none, { s with context := { s.context with
        pendingTarget := some s.context.target } }) := by
  simp only [switchTarget, run_bind, run_get]
  split
  · rfl
  · split
    · next hdrain =>
      have hp : s.context.hasPending = true := by simp_all
      simp only [run_tryCatch, run_bind, drain_stopped hreq, hp, if_true]
      rfl
    · rfl

/-- Flushing the full batches changes nothing: it stops at the first full batch that has lines to
send, or fails when the batch size does not compare. -/
theorem flushFull_stopped (fuel : Nat) :
    ∃ r, (flushFull fuel).run.run s = (r, s) ∧ ∀ e, r = .error e → e.Stopped := by
  induction fuel with
  | zero => exact ⟨.ok (), rfl, by simp⟩
  | succ fuel ih =>
    obtain ⟨r, hr, hstop⟩ := ih
    simp only [flushFull, run_bind, run_get, fills_run]
    cases hge : (Value.int s.context.pendingLines.length).ge s.dispatcher.batchSize with
    | error e => exact ⟨.error e, rfl, fun e' he => by cases he; exact .of_single (Value.ge_error hge).1⟩
    | ok full =>
      cases full
      · exact ⟨.ok (), rfl, by simp⟩
      · by_cases he : s.context.pendingLines.isEmpty
        · simp only [if_true, run_bind, flushLines_stopped hreq, he]
          exact ⟨r, hr, hstop⟩
        · simp only [if_true, run_bind, flushLines_stopped hreq, he, Bool.false_eq_true, if_false]
          exact ⟨.error (.cancelled "import cancelled"), rfl, fun e he => by cases he; exact .stop⟩

end Stopped

/-- What an add under a token that asks to stop leaves: it stopped at its switch of target and took
nothing, while records waited; or it took `ls` and `ps` in behind the records that wait. -/
def Added (s s' : Session) (r : Except Error Unit) (ls : List String) (ps : List Point) : Prop :=
  (r = .error (.cancelled "import cancelled") ∧ s' = s ∧ s.context.hasPending = true) ∨
    (s.Held s' ∧ s'.context.pendingLines = s.context.pendingLines ++ ls ∧
      s'.context.pendingPoints = s.context.pendingPoints ++ ps)

namespace Added

variable {s s' : Session} {r : Except Error Unit} {ls : List String} {ps : List Point}

theorem held (h : Added s s' r ls ps) : s.Held s' := by
  rcases h with ⟨-, rfl, -⟩ | ⟨h, -, -⟩
  · exact .refl _
  · exact h

theorem hasPending (h : Added s s' r ls ps) (hne : ls ≠ [] ∨ ps ≠ []) :
    r = .error (.cancelled "import cancelled") ∨ s'.context.hasPending = true := by
  rcases h with ⟨hr, -, -⟩ | ⟨-, hl, hp⟩
  · exact .inl hr
  · right
    simp only [Context.hasPending, hl, hp, Bool.or_eq_true, Bool.not_eq_true',
      List.isEmpty_eq_false_iff, ne_eq, List.append_eq_nil_iff]
    tauto

end Added

theorem Session.Held.appendLines (s : Session) (ls : List String) :
    s.Held { s with context := { s.context with pendingLines := s.context.pendingLines ++ ls } } :=
  ⟨rfl, rfl, rfl, rfl, List.prefix_append _ _, List.prefix_refl _⟩

section Adds

variable {s : Session} (hreq : s.token.requested = true)
include hreq

/-- An add of lines takes them in, unless its switch of target would drain records that wait. -/
theorem addLines_stopped (ls : List String) :
    ∃ r s', (addLines ls).run.run s = (r, s') ∧ (∀ e, r = .error e → e.Stopped) ∧
      Added s s' r ls [] := by
  have hend : ∀ s1 : Session, s1.token.requested = true → s.Held s1 →
      s1.context.pendingLines = s.context.pendingLines ++ ls →
      s1.context.pendingPoints = s.context.pendingPoints →
      ∃ r s', (flushFull (s1.context.pendingLines.length + 1) >>= fun _ => (pure () : Run Unit)).run.run
        s1 = (r, s') ∧ (∀ e, r = .error e → e.Stopped) ∧ Added s s' r ls [] := by
    intro s1 hreq1 hheld hl hp
    obtain ⟨r, hr, hstop⟩ := flushFull_stopped hreq1 (s1.context.pendingLines.length + 1)
    refine ⟨r, s1, ?_, hstop, .inr ⟨hheld, hl, by simp [hp]⟩⟩
    rw [run_bind, hr]
    cases r <;> rfl
  rw [addLines, run_bind, switchTarget_stopped hreq]
  split_ifs with hsame hdrain
  · have h := hend { s with context := { s.context with
      pendingLines := s.context.pendingLines ++ ls } } hreq (Session.Held.appendLines s ls) rfl rfl
    simp only [run_bind, run_modify, run_get] at h ⊢
    exact h
  · exact ⟨_, s, rfl, fun e he => by cases he; exact .stop, .inl ⟨rfl, rfl, by simp_all⟩⟩
  · have h := hend { s with context := { s.context with
      pendingTarget := some s.context.target, pendingLines := s.context.pendingLines ++ ls } } hreq
      ⟨rfl, rfl, rfl, rfl, List.prefix_append _ _, List.prefix_refl _⟩ rfl rfl
    simp only [run_bind, run_modify, run_get] at h ⊢
    exact h

/-- An add of points takes them in, unless its switch of target would drain records that
wait. -/
theorem addPoints_stopped (ps : List Point) :
    ∃ r s', (addPoints ps).run.run s = (r, s') ∧ (∀ e, r = .error e → e.Stopped) ∧
      Added s s' r [] ps := by
  have hend : ∀ s1 : Session, s1.token.requested = true → s.Held s1 →
      s1.context.pendingLines = s.context.pendingLines →
      s1.context.pendingPoints = s.context.pendingPoints ++ ps →
      ∃ r s', (do
          if ← fills s1.context.pendingPoints.length then flushPoints
          (pure () : Run Unit)).run.run s1 = (r, s') ∧ (∀ e, r = .error e → e.Stopped) ∧
        Added s s' r [] ps := by
    intro s1 hreq1 hheld hl hp
    have hadded : ∀ r, Added s s1 r [] ps := fun _ => .inr ⟨hheld, by simp [hl], hp⟩
    simp only [run_bind, fills_run]
    cases hge : (Value.int s1.context.pendingPoints.length).ge s1.dispatcher.batchSize with
    | error e =>
      exact ⟨.error e, s1, rfl, fun e' he => by cases he; exact .of_single (Value.ge_error hge).1,
        hadded _⟩
    | ok full =>
      cases full
      · exact ⟨.ok (), s1, rfl, by simp, hadded _⟩
      · by_cases he : s1.context.pendingPoints.isEmpty
        · simp only [if_true, run_bind, flushPoints_stopped hreq1, he]
          exact ⟨.ok (), s1, rfl, by simp, hadded _⟩
        · simp only [if_true, run_bind, flushPoints_stopped hreq1, he, Bool.false_eq_true,
            if_false]
          exact ⟨.error (.cancelled "import cancelled"), s1, rfl,
            fun e he => by cases he; exact .stop, hadded _⟩
  rw [addPoints, run_bind, switchTarget_stopped hreq]
  split_ifs with hsame hdrain
  · have h := hend { s with context := { s.context with
      pendingPoints := s.context.pendingPoints ++ ps } } hreq
      ⟨rfl, rfl, rfl, rfl, List.prefix_refl _, List.prefix_append _ _⟩ rfl rfl
    simp only [run_bind, run_modify, run_get] at h ⊢
    exact h
  · exact ⟨_, s, rfl, fun e he => by cases he; exact .stop, .inl ⟨rfl, rfl, by simp_all⟩⟩
  · have h := hend { s with context := { s.context with
      pendingTarget := some s.context.target, pendingPoints := s.context.pendingPoints ++ ps } }
      hreq ⟨rfl, rfl, rfl, rfl, List.prefix_refl _, List.prefix_append _ _⟩ rfl rfl
    simp only [run_bind, run_modify, run_get] at h ⊢
    exact h

end Adds

end Dispatch

open Dispatch Std.Do

set_option mvcgen.warning false

/-! ## Which units reach the store -/

/-- Whether an outcome of a step reaches the store, under the context the step left: a query
does, and records do when a database is named. -/
def Context.reaches (c : Context) : Except Error Action → Bool
  | .ok (.query _) => true
  | .ok (.lines _) | .ok (.points _) => c.database.truthy
  | .ok .noop | .error _ => false

/-- Whether the units go on past a step whose outcome does not reach the store: past an action,
which then does nothing or fails for want of a database, and past a failed step unless its failure
stops the units. -/
def unitGoesOn : Except Error Action → Bool
  | .ok _ => true
  | .error e => !e.stopsUnits

/-- Whether some unit of an import reaches the store, the units stepped in turn from the context
`c` and the settings `S` until one reaches it or stops the units. -/
def InputFormat.reaches (f : InputFormat) (now : Int) : Context → Settings → List Entry → Bool
  | _, _, [] => false
  | c, S, e :: es =>
    (f.step e c S now).1.reaches (f.step e c S now).2.2 ||
      (unitGoesOn (f.step e c S now).2.2 &&
        f.reaches now (f.step e c S now).1 (f.step e c S now).2.1 es)

/-- What a unit gives once its handler has seen what carrying out its outcome gave: the settings
of its step, unless a failure stops the units. -/
def unitResult (r : Except Error Unit) (S : Settings) : Except Error Settings :=
  match r with
  | .ok _ => .ok S
  | .error e => if e.stopsUnits then .error e else .ok S

theorem unitResult_stops {e : Error} (h : e.stopsUnits = true) (S : Settings) :
    unitResult (.error e) S = .error e := by
  simp [unitResult, h]

theorem unitResult_absorbs {e : Error} (h : e.stopsUnits = false) (S : Settings) :
    unitResult (.error e) S = .ok S := by
  simp [unitResult, h]

theorem unitResult_eq_error {r : Except Error Unit} {S : Settings} {e : Error}
    (h : unitResult r S = .error e) : r = .error e ∧ e.stopsUnits = true := by
  unfold unitResult at h
  split at h
  · cases h
  · split at h
    · cases h
      exact ⟨rfl, ‹_›⟩
    · cases h

theorem unitResult_eq_ok {r : Except Error Unit} {S S' : Settings} (h : unitResult r S = .ok S') :
    S' = S := by
  unfold unitResult at h
  split at h
  · cases h
    rfl
  · split at h
    · cases h
    · cases h
      rfl

theorem unitResult_toBool (e : Error) (S : Settings) :
    (unitResult (.error e) S).toBool = !e.stopsUnits := by
  cases h : e.stopsUnits <;> simp [unitResult, h, Except.toBool]

/-- Apart from a header that does not fit and a cancellation, a unit absorbs exactly the
import's own failures. -/
theorem Error.stopsUnits_eq_false {e : Error} (hh : ∀ m, e = .header m → False)
    (hc : ∀ m, e = .cancelled m → False) (hi : e.isImportFailure = true) :
    e.stopsUnits = false := by
  cases e with
  | header m => exact absurd rfl (hh m)
  | cancelled m => exact absurd rfl (hc m)
  | _ => simpa [Error.stopsUnits, Error.gathered] using hi

/-! ## Faults of reading -/

theorem Error.single_of_archiveFault {e : Error} (h : e.archiveFault = true) : e.single = true := by
  cases e <;> simp_all [Error.archiveFault, Error.single]

theorem Json.records_single (text key : String) : FailsSingly (Json.records text key) := by
  unfold Json.records
  split
  · simp [Error.single]
  · simp [Error.single]
  · split <;> simp [Error.single]

/-- The fault that stopped reading a file is a failure of one operation. -/
theorem InputFormat.read_fault_single {f : InputFormat} {file : InputFile} {entries : List Entry}
    {e : Error} (h : f.read file = .ok (entries, some e)) : e.single = true := by
  cases f
  all_goals simp only [InputFormat.read, bind, Except.bind] at h
  case lineProtocol | csv =>
    split at h
    · cases h
    · next p hlines =>
      obtain ⟨ls, fault⟩ := p
      cases h
      exact Error.single_of_archiveFault (InputFile.lines_fault hlines)
  case series | result =>
    split at h
    · cases h
    · next r hr =>
      split at h
      · next e' hf =>
        cases h
        exact Error.single_of_archiveFault (InputFile.read_fault hr hf)
      · unfold documentEntries at h
        split at h
        · cases h
        · next e' he =>
          cases h
          exact Json.records_single _ _ e he

/-! ## The import under a token that asks to stop -/

/-- Queueing records passes the token's cancellation on, and leaves the session of the add. -/
theorem enqueue_stopped {add : Run Unit} {st : Session × Tally} {r : Except Error Unit}
    {s' : Session} (h : add.run.run st.1 = (r, s')) (hr : ∀ e, r = .error e → e.Stopped) :
    ∃ r' t, (enqueue add).run.run st = (r', (s', t)) ∧ (∀ e, r' = .error e → e.Stopped) ∧
      (r = .error (.cancelled "import cancelled") → r' = r) := by
  simp only [enqueue, run_tryCatch, liftRun_run, h]
  cases r with
  | ok u => exact ⟨.ok u, st.2, rfl, by simp, by simp⟩
  | error e =>
    have he := hr e rfl
    dsimp only
    split
    · exact ⟨_, st.2, rfl, fun e' h' => by cases h'; exact he, fun _ => rfl⟩
    · rcases he with he | he <;> simp [Error.single] at he
    · next hc _ =>
      split
      · exact ⟨.ok (), _, rfl, by simp, fun h' => by cases h'; exact absurd rfl (hc _)⟩
      · exact ⟨_, st.2, rfl, fun e' h' => by cases h'; exact he, fun _ => rfl⟩

/-- What carrying out the outcome `out` of a step leaves under a token that asks to stop, from the
session `s`: the session held and every failure stopped; with an outcome that does not reach the
store, the session as it was, only failures of one operation, and a failure that stops the units
exactly when the units do not go on past the outcome; and with one that does, the token's
cancellation or records waiting. -/
structure Carried (s : Session) (out : Except Error Action) (r : Except Error Unit) (s' : Session) :
    Prop where
  held : s.Held s'
  stopped : ∀ e, r = .error e → e.Stopped
  quiet : s.context.reaches out = false → s' = s ∧
    (∀ e, r = .error e → e.single = true ∧ e.stopsUnits = !unitGoesOn out) ∧
    (r = .ok () → unitGoesOn out = true)
  reaching : s.context.reaches out = true → r = .error (.cancelled "import cancelled") ∨
    s'.context.hasPending = true

theorem Carried.of_quiet {s : Session} {out : Except Error Action} {r : Except Error Unit}
    (hq : s.context.reaches out = false)
    (hr : ∀ e, r = .error e → e.single = true ∧ e.stopsUnits = !unitGoesOn out)
    (hok : r = .ok () → unitGoesOn out = true) :
    Carried s out r s :=
  ⟨.refl s, fun e he => .of_single (hr e he).1, fun _ => ⟨rfl, hr, hok⟩,
    fun h => by simp [hq] at h⟩

theorem Carried.of_step_error {f : InputFormat} {e : Entry} {c : Context} {S : Settings}
    {now : Int} {s : Session} {err : Error} (h : (f.step e c S now).2.2 = .error err) :
    Carried s (.error err) (.error err) s :=
  .of_quiet rfl (fun _ he => by
    cases he
    exact ⟨InputFormat.step_single f e c S now _ h, by simp [unitGoesOn]⟩) nofun

theorem enqueue_carried {st : Session × Tally} {add : Run Unit} {a : Action} (hdb : st.1.context.reaches (.ok a) = true)
    (hadd : ∃ r s', add.run.run st.1 = (r, s') ∧ (∀ e, r = .error e → e.Stopped) ∧
      (r = .error (.cancelled "import cancelled") ∨ s'.context.hasPending = true) ∧ st.1.Held s') :
    ∃ r st', (enqueue add).run.run st = (r, st') ∧ Carried st.1 (.ok a) r st'.1 := by
  obtain ⟨r, s', h, hstop, hpend, hheld⟩ := hadd
  obtain ⟨r', t, henq, hstop', hkeep⟩ := enqueue_stopped h hstop
  refine ⟨r', (s', t), henq, ⟨hheld, hstop', fun hq => by simp [hq] at hdb, fun _ => ?_⟩⟩
  rcases hpend with hr | hp
  · exact .inl ((hkeep hr).trans hr)
  · exact .inr hp

section Import

variable {st : Session × Tally} (hreq : st.1.token.requested = true)
include hreq

/-- Carrying out an action under a token that asks to stop: a query is stopped before it is run,
records are taken in or stop the import, and nothing else reaches the store. -/
theorem applyAction_carried (a : Action) (hfilled : a.Filled) :
    ∃ r st', (applyAction a).run.run st = (r, st') ∧ Carried st.1 (.ok a) r st'.1 := by
  cases a with
  | query q =>
    refine ⟨.error (.cancelled "import cancelled"), st, ?_,
      ⟨.refl _, fun e he => by cases he; exact .stop, fun h => by simp [Context.reaches] at h,
        fun _ => .inl rfl⟩⟩
    simp only [applyAction, run_bind, liftRun_run, checkToken_stopped hreq]
  | lines ls =>
    cases hdb : st.1.context.database.truthy
    · exact ⟨_, st, applyAction_lines_noDatabase ls hdb,
        .of_quiet (by simp [Context.reaches, hdb]) (fun e he => by cases he; exact ⟨rfl, rfl⟩)
          (by simp)⟩
    · obtain ⟨r, s', h, hstop, hadded⟩ := addLines_stopped hreq ls
      obtain ⟨r', st', henq, hcar⟩ := enqueue_carried (a := .lines ls)
        (by simp [Context.reaches, hdb]) ⟨r, s', h, hstop, hadded.hasPending (.inl hfilled),
          hadded.held⟩
      refine ⟨r', st', ?_, hcar⟩
      simp only [applyAction, run_bind, run_get, hdb, Bool.not_true, Bool.false_eq_true, if_false]
      exact henq
  | points ps =>
    cases hdb : st.1.context.database.truthy
    · exact ⟨_, st, applyAction_points_noDatabase ps hdb,
        .of_quiet (by simp [Context.reaches, hdb]) (fun e he => by cases he; exact ⟨rfl, rfl⟩)
          (by simp)⟩
    · obtain ⟨r, s', h, hstop, hadded⟩ := addPoints_stopped hreq ps
      obtain ⟨r', st', henq, hcar⟩ := enqueue_carried (a := .points ps)
        (by simp [Context.reaches, hdb]) ⟨r, s', h, hstop, hadded.hasPending (.inr hfilled),
          hadded.held⟩
      refine ⟨r', st', ?_, hcar⟩
      simp only [applyAction, run_bind, run_get, hdb, Bool.not_true, Bool.false_eq_true, if_false]
      exact henq
  | noop =>
    exact ⟨.ok (), (st.1, { st.2 with skipped := st.2.skipped + 1 }), rfl,
      .of_quiet rfl (by simp) fun _ => rfl⟩

/-- What a unit leaves under a token that asks to stop, from the session `s`, with the step
`(c, S', out)` of the unit: what `Carried` says of its outcome from the session with the step's
context, and the step's settings where the import goes on. -/
structure UnitStopped (s : Session) (step : Context × Settings × Except Error Action)
    (r : Except Error Settings) (s' : Session) : Prop where
  held : s.Held s'
  stopped : ∀ e, r = .error e → e.Stopped
  settings : ∀ S, r = .ok S → S = step.2.1
  quiet : step.1.reaches step.2.2 = false → s' = { s with context := step.1 } ∧
    (∀ e, r = .error e → e.single = true) ∧ r.toBool = unitGoesOn step.2.2
  reaching : step.1.reaches step.2.2 = true → r = .error (.cancelled "import cancelled") ∨
    s'.context.hasPending = true

omit hreq in
/-- A unit's outcome carried out from the session with the step's context, and settled by the
unit's handler. -/
theorem UnitStopped.of_carried {s s2 : Session} {step : Context × Settings × Except Error Action}
    {out : Except Error Action} {r0 : Except Error Unit} {r : Except Error Settings}
    (hkeep : s.context.Keeps step.1) (hout : step.2.2 = out)
    (hcar : Carried { s with context := step.1 } out r0 s2) (hr : r = unitResult r0 step.2.1) :
    UnitStopped s step r s2 where
  held := ((Session.Held.refl s).withContext hkeep).trans hcar.held
  stopped e he := by
    obtain ⟨rfl, -⟩ := unitResult_eq_error (hr ▸ he)
    exact hcar.stopped _ rfl
  settings S' hS := unitResult_eq_ok (hr ▸ hS)
  quiet hq := by
    obtain ⟨rfl, hsingle, hok⟩ := hcar.quiet (hout ▸ hq)
    refine ⟨rfl, fun e he => (hsingle e (unitResult_eq_error (hr ▸ he)).1).1, ?_⟩
    subst hr hout
    cases r0 with
    | ok => exact (hok rfl).symm
    | error e => rw [unitResult_toBool, (hsingle e rfl).2, Bool.not_not]
  reaching hreach := by
    rcases hcar.reaching (hout ▸ hreach) with rfl | hp
    · exact .inl (hr.trans (unitResult_stops rfl _))
    · exact .inr hp

omit hreq in
theorem applyAction_carried_spec (a : Action) (st0 : Session × Tally) :
    ⦃fun st => ⌜st = st0 ∧ st0.1.token.requested = true ∧ a.Filled⌝⦄ applyAction a
    ⦃post⟨fun _ st => ⌜Carried st0.1 (.ok a) (.ok ()) st.1⌝,
      fun err st => ⌜Carried st0.1 (.ok a) (.error err) st.1⌝⟩⦄ := by
  apply Triple.of_outcome
  rintro st ⟨rfl, hreq, hfilled⟩
  obtain ⟨r, st', h, hcar⟩ := applyAction_carried hreq a hfilled
  rw [h]
  cases r <;> exact hcar

omit hreq in
theorem importUnit_stopped_spec (f : InputFormat) (S : Settings) (e : Entry)
    (st0 : Session × Tally) :
    ⦃fun st => ⌜st = st0 ∧ st0.1.token.requested = true⌝⦄ importUnit f S e
    ⦃post⟨fun S' st => ⌜UnitStopped st0.1 (f.step e st0.1.context S st0.1.now) (.ok S') st.1⌝,
      fun err st => ⌜UnitStopped st0.1 (f.step e st0.1.context S st0.1.now) (.error err) st.1⌝⟩⦄ := by
  mvcgen [importUnit, tally, applyAction_carried_spec]
  all_goals obtain ⟨rfl, hreq⟩ := ‹_ = st0 ∧ _›
  · exact ⟨trivial, hreq, InputFormat.step_filled ‹_›⟩
  · exact .of_carried (InputFormat.step_keeps ..) ‹_› ‹_› rfl
  · exact .of_carried (InputFormat.step_keeps ..) ‹_› ‹_› (unitResult_stops rfl _).symm
  · exact .of_carried (InputFormat.step_keeps ..) ‹_› ‹_› (unitResult_stops rfl _).symm
  · have habsorbed := Error.stopsUnits_eq_false ‹∀ m, _ = Error.header m → False›
      ‹∀ m, _ = Error.cancelled m → False› ‹_›
    exact .of_carried (InputFormat.step_keeps ..) ‹_› ‹_› (unitResult_absorbs habsorbed _).symm
  · exact .of_carried (InputFormat.step_keeps ..) ‹_› ‹_›
      (unitResult_stops (Error.stopsUnits_of_not_import ‹_›) _).symm
  · subst ‹_ = Error.header _›
    exact .of_carried (InputFormat.step_keeps ..) ‹_› (.of_step_error ‹_›)
      (unitResult_stops rfl _).symm
  · subst ‹_ = Error.cancelled _›
    exact absurd (InputFormat.step_single _ _ _ _ _ _ ‹_›) (by simp [Error.single])
  · subst ‹(_ : Error) = _›
    have habsorbed := Error.stopsUnits_eq_false ‹∀ m, _ = Error.header m → False›
      ‹∀ m, _ = Error.cancelled m → False› ‹_›
    exact .of_carried (InputFormat.step_keeps ..) ‹_› (.of_step_error ‹_›)
      (unitResult_absorbs habsorbed _).symm
  · subst ‹(_ : Error) = _›
    exact .of_carried (InputFormat.step_keeps ..) ‹_› (.of_step_error ‹_›)
      (unitResult_stops (Error.stopsUnits_of_not_import ‹_›) _).symm

theorem importUnit_stopped (f : InputFormat) (S : Settings) (e : Entry) :
    ∃ r st', (importUnit f S e).run.run st = (r, st') ∧
      UnitStopped st.1 (f.step e st.1.context S st.1.now) r st'.1 := by
  have h := Triple.outcome (importUnit_stopped_spec f S e st) ⟨rfl, hreq⟩
  generalize (importUnit f S e).run.run st = x at h ⊢
  obtain ⟨_ | _, st'⟩ := x <;> exact ⟨_, _, rfl, h⟩

end Import

theorem Context.Keeps.hasPending {c c' : Context} (h : c.Keeps c') :
    c'.hasPending = c.hasPending := by
  simp [Context.hasPending, h.1, h.2.1]

/-- What a run of units leaves under a token that asks to stop, from the session `s` and the
settings `S`: the session held and every failure stopped; when no unit reaches the store, from a
session with no records waiting, still none waiting and only failures of one operation; and when
one does, the token's cancellation or records waiting. -/
structure UnitsStopped (f : InputFormat) (s : Session) (S : Settings) (es : List Entry)
    (r : Except Error Unit) (s' : Session) : Prop where
  held : s.Held s'
  stopped : ∀ e, r = .error e → e.Stopped
  quiet : f.reaches s.now s.context S es = false → s.context.hasPending = false →
    s'.context.hasPending = false ∧ ∀ e, r = .error e → e.single = true
  reaching : f.reaches s.now s.context S es = true →
    r = .error (.cancelled "import cancelled") ∨ s'.context.hasPending = true

namespace UnitsStopped

variable {f : InputFormat} {s s1 s' : Session} {S S' : Settings} {e : Entry} {es : List Entry}

theorem nil (s : Session) (S : Settings) : UnitsStopped f s S [] (.ok ()) s :=
  ⟨.refl s, nofun, fun _ hp => ⟨hp, nofun⟩, fun h => by simp [InputFormat.reaches] at h⟩

/-- A unit that fails ends the run of units. -/
theorem of_error {err : Error}
    (hu : UnitStopped s (f.step e s.context S s.now) (.error err) s') :
    UnitsStopped f s S (e :: es) (.error err) s' := by
  have hfails : ∀ e', (.error err : Except Error Unit) = .error e' →
      (.error err : Except Error Settings) = .error e' := fun _ he => by cases he; rfl
  have hreaching : (f.step e s.context S s.now).1.reaches (f.step e s.context S s.now).2.2 = true →
      (.error err : Except Error Unit) = .error (.cancelled "import cancelled") ∨
        s'.context.hasPending = true :=
    fun hq => (hu.reaching hq).imp (fun h => by cases h; rfl) id
  refine ⟨hu.held, fun e' he => hu.stopped e' (hfails e' he), fun hq hp => ?_, fun hr => ?_⟩
  · rw [InputFormat.reaches, Bool.or_eq_false_iff] at hq
    obtain ⟨rfl, hsingle, -⟩ := hu.quiet hq.1
    exact ⟨(InputFormat.step_keeps ..).hasPending.trans hp,
      fun e' he => hsingle e' (hfails e' he)⟩
  · rw [InputFormat.reaches, Bool.or_eq_true] at hr
    cases hq : (f.step e s.context S s.now).1.reaches (f.step e s.context S s.now).2.2
    · obtain ⟨-, -, hgo⟩ := hu.quiet hq
      simp [hq, ← hgo, Except.toBool] at hr
    · exact hreaching hq

/-- A unit that goes on is followed by the run of the rest of the units. -/
theorem cons (hu : UnitStopped s (f.step e s.context S s.now) (.ok S') s1)
    (hrest : UnitsStopped f s1 S' es r s') : UnitsStopped f s S (e :: es) r s' where
  held := hu.held.trans hrest.held
  stopped := hrest.stopped
  quiet hq hp := by
    rw [InputFormat.reaches, Bool.or_eq_false_iff] at hq
    obtain ⟨rfl, -, hgo⟩ := hu.quiet hq.1
    obtain rfl := hu.settings S' rfl
    refine hrest.quiet ?_ ((InputFormat.step_keeps ..).hasPending.trans hp)
    simpa [← hgo, Except.toBool] using hq.2
  reaching hr := by
    rw [InputFormat.reaches, Bool.or_eq_true] at hr
    cases hq : (f.step e s.context S s.now).1.reaches (f.step e s.context S s.now).2.2
    · obtain ⟨rfl, -, -⟩ := hu.quiet hq
      obtain rfl := hu.settings S' rfl
      simp only [hq, Bool.false_eq_true, Bool.and_eq_true, false_or] at hr
      exact hrest.reaching hr.2
    · rcases hu.reaching hq with h | hp
      · cases h
      · exact .inr (hrest.held.hasPending hp)

end UnitsStopped

/-- A run of units under a token that asks to stop. -/
theorem importUnits_stopped (f : InputFormat) (es : List Entry) (S : Settings)
    (st : Session × Tally) (hreq : st.1.token.requested = true) :
    ∃ r st', (importUnits f S es).run.run st = (r, st') ∧ UnitsStopped f st.1 S es r st'.1 := by
  induction es generalizing S st with
  | nil => exact ⟨_, st, rfl, .nil st.1 S⟩
  | cons e es ih =>
    obtain ⟨r1, st1, h1, hu⟩ := importUnit_stopped hreq f S e
    simp only [importUnits, run_bind, h1]
    cases r1 with
    | error err => exact ⟨_, _, rfl, .of_error hu⟩
    | ok S' =>
      obtain ⟨r, st', h, hrest⟩ := ih S' st1 (hu.held.token ▸ hreq)
      exact ⟨r, st', h, .cons hu hrest⟩

/-- A failure of one operation after a run of units that went through. -/
theorem UnitsStopped.fail {f : InputFormat} {s s' : Session} {S : Settings} {es : List Entry}
    {e : Error} (h : UnitsStopped f s S es (.ok ()) s') (he : e.single = true) :
    UnitsStopped f s S es (.error e) s' where
  held := h.held
  stopped _ h' := by
    cases h'
    exact .of_single he
  quiet hq hp := ⟨(h.quiet hq hp).1, fun _ h' => by cases h'; exact he⟩
  reaching hr := by
    rcases h.reaching hr with h' | hp
    · cases h'
    · exact .inr hp

/-- The units of a file and the fault that stopped reading it, under a token that asks to stop. -/
theorem importEntries_stopped (f : InputFormat) (S : Settings) (es : List Entry)
    (fault : Option Error) (hfault : ∀ e, fault = some e → e.single = true)
    (st : Session × Tally) (hreq : st.1.token.requested = true) :
    ∃ r st', (importEntries f S es fault).run.run st = (r, st') ∧
      UnitsStopped f st.1 S es r st'.1 := by
  obtain ⟨r, st1, h, hu⟩ := importUnits_stopped f es S st hreq
  simp only [importEntries, run_bind, h]
  cases r with
  | error e => exact ⟨_, _, rfl, hu⟩
  | ok u =>
    dsimp only
    split
    · exact ⟨_, _, rfl, hu⟩
    · exact ⟨_, _, rfl, hu.fail (hfault _ rfl)⟩
    · exact ⟨_, _, rfl, hu⟩

theorem finalDrain_stopped {st : Session × Tally} (hreq : st.1.token.requested = true) :
    finalDrain.run.run st =
      (if st.1.context.hasPending then .error (.cancelled "import cancelled") else .ok (), st) := by
  simp only [finalDrain, run_tryCatch, run_bind, liftRun_run, drain_stopped hreq]
  cases st.1.context.hasPending <;> rfl

namespace UnitsStopped

variable {f : InputFormat} {s s' : Session} {S : Settings} {es : List Entry}
  {r : Except Error Unit}

theorem reaches_eq_false (hu : UnitsStopped f s S es r s')
    (hr : r ≠ .error (.cancelled "import cancelled")) (hp : s'.context.hasPending = false) :
    f.reaches s.now s.context S es = false := by
  cases h : f.reaches s.now s.context S es
  · rfl
  · rcases hu.reaching h with h' | h'
    · exact absurd h' hr
    · simp [hp] at h'

/-- From a session with nothing waiting, units that leave records waiting, or that end with a
failure not of one operation, reached the store. -/
theorem reaches_eq_true (hu : UnitsStopped f s S es r s') (hp : s.context.hasPending = false)
    (h : s'.context.hasPending = true ∨ ∃ e, r = .error e ∧ e.single = false) :
    f.reaches s.now s.context S es = true := by
  cases hr : f.reaches s.now s.context S es
  · obtain ⟨hp', hsingle⟩ := hu.quiet hr hp
    rcases h with h | ⟨e, rfl, he⟩
    · simp [hp'] at h
    · simp [hsingle e rfl] at he
  · rfl

end UnitsStopped

theorem Error.Stopped.cancelled {m : String} (h : (Error.cancelled m).Stopped) :
    m = "import cancelled" := by
  rcases h with h | h
  · cases h
    rfl
  · simp [Error.single] at h

theorem importEntries_stopped_spec (f : InputFormat) (S : Settings) (es : List Entry)
    (fault : Option Error) (hfault : ∀ e, fault = some e → e.single = true)
    (st0 : Session × Tally) :
    ⦃fun st => ⌜st = st0 ∧ st0.1.token.requested = true⌝⦄ importEntries f S es fault
    ⦃post⟨fun _ st => ⌜UnitsStopped f st0.1 S es (.ok ()) st.1⌝,
      fun e st => ⌜UnitsStopped f st0.1 S es (.error e) st.1⌝⟩⦄ := by
  apply Triple.of_outcome
  rintro st ⟨rfl, hreq⟩
  obtain ⟨r, st', h, hu⟩ := importEntries_stopped f S es fault hfault st hreq
  rw [h]
  cases r <;> exact hu

theorem finalDrain_stopped_spec (st0 : Session × Tally) :
    ⦃fun st => ⌜st = st0 ∧ st0.1.token.requested = true⌝⦄ finalDrain
    ⦃post⟨fun _ st => ⌜st = st0 ∧ st0.1.context.hasPending = false⌝,
      fun e st => ⌜st = st0 ∧ e = .cancelled "import cancelled" ∧
        st0.1.context.hasPending = true⌝⟩⦄ := by
  apply Triple.of_outcome
  rintro st ⟨rfl, hreq⟩
  rw [finalDrain_stopped hreq]
  cases st.1.context.hasPending <;> exact ⟨rfl, by simp⟩

/-- An import over its units under a token that asks to stop: the session held, and, from a
session with no records waiting, an import that returns is cancelled exactly when some unit
reaches the store, with the token's message kept last. -/
theorem importAll_stopped_spec (f : InputFormat) (S : Settings) (es : List Entry)
    (fault : Option Error) (hfault : ∀ e, fault = some e → e.single = true)
    (st0 : Session × Tally) :
    ⦃fun st => ⌜st = st0 ∧ st0.1.token.requested = true⌝⦄ importAll f S es fault
    ⦃post⟨fun b st => ⌜st0.1.Held st.1 ∧ (st0.1.context.hasPending = false →
        b = f.reaches st0.1.now st0.1.context S es ∧
          (b = true → st.2.errors.getLast? = some "import cancelled"))⌝,
      fun _ st => ⌜st0.1.Held st.1⌝⟩⦄ := by
  have hentries := importEntries_stopped_spec f S es fault hfault
  mvcgen [importAll, hentries, finalDrain_stopped_spec, keepErrors, tally]
  all_goals obtain ⟨rfl, hreq⟩ := ‹_ = st0 ∧ _›
  case vc1 => exact ⟨trivial, hreq⟩
  case vc2 | vc8 => exact ⟨trivial, by rw [‹UnitsStopped _ _ _ _ _ _›.held.token]; exact hreq⟩
  case vc3 =>
    obtain ⟨rfl, hp1⟩ := ‹_ = _ ∧ Context.hasPending _ = false›
    have hu := ‹UnitsStopped _ _ _ _ _ _›
    exact ⟨hu.held, fun _ => ⟨(hu.reaches_eq_false (by simp) hp1).symm, by simp⟩⟩
  case vc4 | vc11 =>
    obtain ⟨rfl, hm, hp1⟩ := ‹_ = _ ∧ _ = _ ∧ Context.hasPending _ = true›
    cases hm
    have hu := ‹UnitsStopped _ _ _ _ _ _›
    exact ⟨hu.held, fun hp => ⟨(hu.reaches_eq_true hp (.inl hp1)).symm,
      by simp +zetaDelta only [List.map_cons, List.map_nil, List.getLast?_concat]; rfl⟩⟩
  case vc7 =>
    have hu := ‹UnitsStopped _ _ _ _ _ _›
    obtain rfl := (hu.stopped _ rfl).cancelled
    exact ⟨hu.held, fun hp => ⟨(hu.reaches_eq_true hp (.inr ⟨_, rfl, rfl⟩)).symm,
      by simp +zetaDelta only [List.map_cons, List.map_nil, List.getLast?_concat]; rfl⟩⟩
  case vc9 => exact absurd ‹_ = Error.cancelled _› (‹∀ m, _ = Error.cancelled m → False› _)
  case vc6 => exact ‹UnitsStopped _ _ _ _ _ _›.held
  case vc10 =>
    obtain ⟨rfl, -⟩ := ‹_ = _ ∧ Context.hasPending _ = false›
    exact ‹UnitsStopped _ _ _ _ _ _›.held
  case vc5 | vc12 =>
    obtain ⟨rfl, -, -⟩ := ‹_ = _ ∧ _ = _ ∧ Context.hasPending _ = true›
    exact ‹UnitsStopped _ _ _ _ _ _›.held

/-- An import over its units under a token that asks to stop, as a run. -/
theorem importAll_stopped (f : InputFormat) (S : Settings) (es : List Entry)
    (fault : Option Error) (hfault : ∀ e, fault = some e → e.single = true)
    (st : Session × Tally) (hreq : st.1.token.requested = true) :
    ∃ r st', (importAll f S es fault).run.run st = (r, st') ∧ st.1.Held st'.1 ∧
      (st.1.context.hasPending = false → ∀ b, r = .ok b →
        b = f.reaches st.1.now st.1.context S es ∧
        (b = true → st'.2.errors.getLast? = some "import cancelled")) := by
  have h := Triple.outcome (importAll_stopped_spec f S es fault hfault st) ⟨rfl, hreq⟩
  generalize (importAll f S es fault).run.run st = x at h ⊢
  obtain ⟨_ | b, st'⟩ := x
  · exact ⟨_, _, rfl, h, fun _ _ hb => by cases hb⟩
  · exact ⟨_, _, rfl, h.1, fun hp _ hb => by cases hb; exact h.2 hp⟩

/-- An import whose token asks to stop before it starts makes no request: the store stays as new,
no record is written and no batch fails. A report says the import was cancelled exactly when some
unit of the file reaches the store, by a query or by records queued while a database is named,
and then the token's message is the last one kept and the import did not succeed. Under such a
token, records that wait when the units start still wait when they end. -/
theorem cancelled_import_reaches_nothing (S : Settings) (file : InputFile) (client : Client)
    (token : Token) (now : Int) (hreq : token.requested = true) :
    (importFile S file client token now).2 = Store.new client ∧
    (∀ r, (importFile S file client token now).1 = .ok r →
      r.stats = ⟨0, 0, 0, 0⟩ ∧ r.failedBatches = [] ∧
      (r.cancelled = true ↔ ∃ entries fault, r.format.read file = .ok (entries, fault) ∧
        r.format.reaches now {} S entries = true) ∧
      (r.cancelled = true → r.tally.errors.getLast? = some "import cancelled" ∧
        r.success = false)) ∧
    ∀ (f : InputFormat) entries fault (st : Session × Tally),
      f.read file = .ok (entries, fault) → st.1.token = token →
      st.1.Held ((importAll f S entries fault).run.run st).2.1 := by
  have hheld : ∀ (f : InputFormat) entries fault (st : Session × Tally),
      f.read file = .ok (entries, fault) → st.1.token = token →
      st.1.Held ((importAll f S entries fault).run.run st).2.1 := by
    intro f entries fault st hread htok
    obtain ⟨r, st', h, hh, -⟩ := importAll_stopped f S entries fault
      (fun e he => InputFormat.read_fault_single (he ▸ hread)) st (htok ▸ hreq)
    rw [h]
    exact hh
  cases hf : formatOf S with
  | error e => exact ⟨by simp [importFile, hf, bind, Except.bind],
      fun r h => by simp [importFile, hf, bind, Except.bind] at h, hheld⟩
  | ok f =>
  cases hr : f.read file with
  | error e => exact ⟨by simp [importFile, hf, hr, bind, Except.bind],
      fun r h => by simp [importFile, hf, hr, bind, Except.bind] at h, hheld⟩
  | ok p =>
  obtain ⟨entries, fault⟩ := p
  cases hd : Dispatcher.ofSettings S (importTransport f S).name client.rows client.columns with
  | error e => exact ⟨by simp [importFile, hf, hr, hd, bind, Except.bind],
      fun r h => by simp [importFile, hf, hr, hd, bind, Except.bind] at h, hheld⟩
  | ok d =>
  obtain ⟨-, hfd, hstats⟩ := Dispatcher.ofSettings_fresh hd
  obtain ⟨res, st', hrun, hh, hcancel⟩ := importAll_stopped f S entries fault
    (fun e he => InputFormat.read_fault_single (he ▸ hr))
    (⟨{}, Store.new client, token, d, now⟩, ⟨0, 0, 0, 0, []⟩) hreq
  simp only [importFile, hf, hr, hd, bind, Except.bind, pure, Except.pure, hrun]
  refine ⟨?_, fun rep hrep => ?_, hheld⟩
  · cases res <;> exact hh.store
  · cases res with
    | error e => cases hrep
    | ok b =>
      cases hrep
      obtain ⟨hb, hlast⟩ := hcancel rfl b rfl
      refine ⟨hh.dispatcher ▸ hstats, hh.dispatcher ▸ hfd,
        ⟨fun hc => ⟨entries, fault, hr, hb ▸ hc⟩, fun hx => ?_⟩,
        fun hc => ⟨hlast hc, by change b = true at hc; simp [hc]⟩⟩
      obtain ⟨entries', fault', hr', hreach⟩ := hx
      rw [hr] at hr'
      cases hr'
      exact hb ▸ hreach

/-- A line protocol file that names a database and holds a line, imported under a token that asks
to stop before the import starts, leaves the store as new. -/
theorem cancelled_line_import_leaves_store :
    (⟨true, false⟩ : Token).requested = true ∧
      (importFile {} ⟨"m.lp", some "# DML\n# CONTEXT-DATABASE: db\nm v=1 1\n".toUTF8.data⟩
        (Script.client ⟨true, true, [], [], [], none, [], none⟩) ⟨true, false⟩ 0).2 =
        Store.new (Script.client ⟨true, true, [], [], [], none, [], none⟩) :=
  ⟨rfl, (cancelled_import_reaches_nothing _ _ _ _ _ rfl).1⟩

end SeriesImport
