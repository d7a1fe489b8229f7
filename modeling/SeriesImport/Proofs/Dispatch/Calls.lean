import Mathlib
import SeriesImport.Proofs.Dispatch.Effects
/-!
# Sequences of calls on the dispatcher

A client drives the dispatcher by a sequence of calls: adds of lines or points, flushes, drains
and cancellation, with the context's target changed between them. A `Journal` runs such a
sequence and keeps, beside the session, every record the calls took in with the target in force
when it was taken.

Each call does what `Took` says of the records it takes, so two invariants hold along every run
from a fresh dispatcher. The records handed on, followed by those that wait, are exactly the
records taken, in order, and the books balance against the hand-offs (`Journal.Conserved`). Every
record goes, or will go, to a target that stands for the one it was taken under
(`Journal.Routed`), provided a batch holds at least one line.

A record passed to an add is taken unless the switch of target the add begins with fails; the
add then fails with it, and its records are nowhere.
-/

namespace SeriesImport.Dispatch

open Std.Do

set_option mvcgen.warning false

/-- A call a client makes on the dispatcher, or a change of the context's target between calls. -/
inductive Call where
  | retarget (database retentionPolicy : Value)
  | addLines (lines : List String)
  | addPoints (points : List Point)
  | flushLines
  | flushPoints
  | drain
  | cancel

/-- The step a call runs. -/
def Call.exec : Call → Run Unit
  | .retarget db rp => modify fun s =>
      { s with context := { s.context with database := db, retentionPolicy := rp } }
  | .addLines ls => Dispatch.addLines ls
  | .addPoints ps => Dispatch.addPoints ps
  | .flushLines => Dispatch.flushLines
  | .flushPoints => Dispatch.flushPoints
  | .drain => do
    let _ ← Dispatch.drain
    pure ()
  | .cancel => Dispatch.cancel

/-- The session after a call, whether it returned or failed. -/
def Call.after (c : Call) (s : Session) : Session := (c.exec.run.run s).2

/-- The lines a call takes in. -/
def Call.lines : Call → Session → List String
  | .addLines ls, s => if s.admits then ls else []
  | _, _ => []

/-- The points a call takes in. -/
def Call.points : Call → Session → List Point
  | .addPoints ps, s => if s.admits then ps else []
  | _, _ => []

/-- A session and the records its calls took in, each with the target in force when it was
taken. -/
structure Journal where
  session : Session
  lines : List (String × Target)
  points : List (Point × Target)

def Journal.start (s : Session) : Journal := ⟨s, [], []⟩

/-- One call more. -/
def Journal.step (j : Journal) (c : Call) : Journal :=
  ⟨c.after j.session,
    j.lines ++ (c.lines j.session).map (·, j.session.context.target),
    j.points ++ (c.points j.session).map (·, j.session.context.target)⟩

def Journal.run (j : Journal) (cs : List Call) : Journal := cs.foldl Journal.step j

@[simp] theorem Journal.run_nil (j : Journal) : j.run [] = j := rfl

@[simp] theorem Journal.run_cons (j : Journal) (c : Call) (cs : List Call) :
    j.run (c :: cs) = (j.step c).run cs := rfl

/-! ## What one call does -/

theorem Triple.after {α : Type} {P : Session → Prop} {Q : Session → Prop} {m : Run α}
    (h : ⦃fun s => ⌜P s⌝⦄ m ⦃post⟨fun _ s => ⌜Q s⌝, fun _ s => ⌜Q s⌝⟩⦄) {s : Session}
    (hs : P s) : Q (m.run.run s).2 := by
  have hq := Triple.outcome h hs
  split at hq <;> simp_all

/-- A change of the context's target moves no record, and while records wait only for a
recorded target it changes no route. -/
theorem took_retarget (s : Session) (db rp : Value) :
    Took s { s with context := { s.context with database := db, retentionPolicy := rp } } [] [] := by
  refine ⟨by simp [Session.lineStream, Session.stream], by simp [Session.pointStream, Session.stream],
    rfl, id, id, fun ho _ => ⟨s.context.target, .inl (Eq.refl _), ?_, ?_⟩⟩
  all_goals
    rcases hp : s.context.pendingTarget with _ | p
    · obtain ⟨hl, hpts⟩ := ho hp
      simp [Session.lineRoute, Session.pointRoute, Session.route, hl, hpts]
    · simp [Session.lineRoute, Session.pointRoute, Session.route, Session.destination, hp]

theorem took_cancel (s : Session) :
    Took s { s with token := { s.token with requested := true } } [] [] :=
  have hu : s.Untouched { s with token := { s.token with requested := true } } :=
    ⟨rfl, rfl, rfl, rfl, rfl, rfl⟩
  (Flushed.of_untouched hu).took

/-- Every call takes in what `Call.lines` and `Call.points` say, and does to the records what
`Took` says, whether it returns or fails. -/
theorem Call.exec_spec (c : Call) (s0 : Session) :
    ⦃fun s => ⌜s = s0⌝⦄ c.exec
    ⦃post⟨fun _ s => ⌜Took s0 s (c.lines s0) (c.points s0)⌝,
      fun _ s => ⌜Took s0 s (c.lines s0) (c.points s0)⌝⟩⦄ := by
  cases c with
  | retarget db rp =>
    mvcgen [Call.exec]
    subst_vars
    exact took_retarget _ db rp
  | addLines ls =>
    mvcgen [Call.exec]
    case vc1 =>
      intro hadm h
      subst_vars
      simpa [Call.lines, Call.points, hadm] using h
    case vc2 =>
      intro h
      subst_vars
      simpa [Call.lines, Call.points] using h
  | addPoints ps =>
    mvcgen [Call.exec]
    case vc1 =>
      intro hadm h
      subst_vars
      simpa [Call.lines, Call.points, hadm] using h
    case vc2 =>
      intro h
      subst_vars
      simpa [Call.lines, Call.points] using h
  | flushLines =>
    mvcgen [Call.exec]
    all_goals
      intro hf _
      subst_vars
      exact hf.took
  | flushPoints =>
    mvcgen [Call.exec]
    all_goals
      intro hf _ _
      subst_vars
      exact hf.took
  | drain =>
    mvcgen [Call.exec]
    case vc1 h =>
      subst_vars
      exact h.1.took
    case vc2 =>
      intro hf _ _
      subst_vars
      exact hf.took
  | cancel =>
    mvcgen [Call.exec, Dispatch.cancel]
    subst_vars
    exact took_cancel _

theorem Call.took (c : Call) (s : Session) : Took s (c.after s) (c.lines s) (c.points s) :=
  Triple.after (c.exec_spec s) rfl

theorem Took.batchOk {s0 s : Session} {ls : List String} {ps : List Point} (h : Took s0 s ls ps)
    (hok : s0.dispatcher.BatchOk) : s.dispatcher.BatchOk := by
  unfold Dispatcher.BatchOk
  rw [h.batchSize]
  exact hok

/-! ## Conservation -/

/-- A session in which nothing has been handed on, failed or counted, and nothing waits for any
target. -/
structure Session.Fresh (s : Session) : Prop where
  pendingLines : s.context.pendingLines = []
  pendingPoints : s.context.pendingPoints = []
  pendingTarget : s.context.pendingTarget = none
  handed : s.dispatcher.handed = []
  failed : s.dispatcher.failed = []
  stats : s.dispatcher.stats = ⟨0, 0, 0, 0⟩

/-- The records handed on, followed by those that wait, are the records taken, in order, and the
books balance. -/
structure Journal.Conserved (j : Journal) : Prop where
  lines : j.session.lineStream = j.lines.map Prod.fst
  points : j.session.pointStream = j.points.map Prod.fst
  ledger : Ledger j.session.dispatcher

theorem Session.Fresh.conserved {s : Session} (h : s.Fresh) : (Journal.start s).Conserved :=
  ⟨by simp [Journal.start, Session.lineStream, Session.stream, h.handed, h.pendingLines],
    by simp [Journal.start, Session.pointStream, Session.stream, h.handed, h.pendingPoints],
    Ledger.fresh h.handed h.failed h.stats⟩

theorem Journal.Conserved.step {j : Journal} (h : j.Conserved) (c : Call) :
    (j.step c).Conserved := by
  have ht := c.took j.session
  refine ⟨?_, ?_, ht.ledger h.ledger⟩
  · simp [Journal.step, ht.lineStream, h.lines, Function.comp_def]
  · simp [Journal.step, ht.pointStream, h.points, Function.comp_def]

theorem Journal.Conserved.run {j : Journal} (h : j.Conserved) (cs : List Call) :
    (j.run cs).Conserved := by
  induction cs generalizing j with
  | nil => exact h
  | cons c cs ih => exact ih (h.step c)

/-- The batches the strategy wrote, in order. -/
def Dispatcher.written (d : Dispatcher) : List Batch :=
  (d.handed.filter Handoff.written).map (·.batch)

/-- A fresh session bound for database `a` and policy `autogen`, sending batches of `size`
records through `strategy` to a store whose text writes fail at the calls `fails` names. -/
def Session.sample (strategy : Strategy) (size : Int) (fails : List Nat) : Session :=
  ⟨{ database := .str "a", retentionPolicy := .str "autogen" },
    Store.new (Script.client ⟨true, true, fails, [], [], none, [], none⟩), ⟨false, false⟩,
    ⟨strategy, .int size, ⟨0, 0, 0, 0⟩, [], ⟨[]⟩, []⟩, 0⟩

/-- A record paired with the target it went or goes to, against the same record paired with the
target it was taken under: the first target stands for the second. -/
def Destined {α : Type} (r t : α × Target) : Prop := r.1 = t.1 ∧ SameAs r.2 t.2

theorem destined_map {α : Type} {d t : Target} (h : SameAs d t) (xs : List α) :
    List.Forall₂ Destined (xs.map (·, d)) (xs.map (·, t)) := by
  rw [List.forall₂_map_left_iff, List.forall₂_map_right_iff, List.forall₂_same]
  exact fun _ _ => ⟨rfl, h⟩

/-- Records wait only for a recorded target, and every record went, or will go, to a target that
stands for the one it was taken under. -/
structure Journal.Routed (j : Journal) : Prop where
  orderly : Orderly j.session
  lines : List.Forall₂ Destined j.session.lineRoute j.lines
  points : List.Forall₂ Destined j.session.pointRoute j.points

theorem Session.Fresh.routed {s : Session} (h : s.Fresh) : (Journal.start s).Routed := by
  have hl : s.lineRoute = [] := by
    simp [Session.lineRoute, Session.route, h.handed, h.pendingLines]
  have hp : s.pointRoute = [] := by
    simp [Session.pointRoute, Session.route, h.handed, h.pendingPoints]
  exact ⟨fun _ => ⟨h.pendingLines, h.pendingPoints⟩, by simp [Journal.start, hl],
    by simp [Journal.start, hp]⟩

/-- A call keeps every record bound for a target that stands for the one it was taken under:
the records it takes go where the records that wait go, and the switch it may begin with has
sent those on first. -/
theorem Journal.Routed.step {j : Journal} (h : j.Routed) (hok : j.session.dispatcher.BatchOk)
    (c : Call) : (j.step c).Routed := by
  have ht := c.took j.session
  obtain ⟨d, hd, hl, hp⟩ := ht.routes h.orderly hok
  refine ⟨ht.orderly h.orderly, ?_, ?_⟩
  · change List.Forall₂ Destined (c.after j.session).lineRoute
      (j.lines ++ (c.lines j.session).map (·, j.session.context.target))
    rw [hl]
    exact List.rel_append h.lines (destined_map hd _)
  · change List.Forall₂ Destined (c.after j.session).pointRoute
      (j.points ++ (c.points j.session).map (·, j.session.context.target))
    rw [hp]
    exact List.rel_append h.points (destined_map hd _)

theorem Journal.Routed.run {j : Journal} (h : j.Routed) (hok : j.session.dispatcher.BatchOk)
    (cs : List Call) : (j.run cs).Routed := by
  induction cs generalizing j with
  | nil => exact h
  | cons c cs ih => exact ih (h.step hok c) ((c.took j.session).batchOk hok)

/-- Routing. From a fresh dispatcher whose batches hold at least one record, over any sequence
of calls with the target changed at will (back to an earlier one, with or without adds between,
and whether the drains a change sets off fail or not): every record handed to the strategy went
to a target that stands for the one it was taken under, every record that waits will go to one,
and every dead-lettered batch is a hand-off kept under the target it was sent to. -/
theorem dispatcher_routes_records (s0 : Session) (cs : List Call) (hfresh : s0.Fresh)
    (hok : s0.dispatcher.BatchOk) :
    let j := (Journal.start s0).run cs
    List.Forall₂ Destined j.session.lineRoute j.lines ∧
    List.Forall₂ Destined j.session.pointRoute j.points ∧
    j.session.dispatcher.failed = j.session.dispatcher.handed.filterMap Handoff.deadLetter := by
  have hr := hfresh.routed.run hok cs
  exact ⟨hr.lines, hr.points, (hfresh.conserved.run cs).ledger.failed⟩

theorem dispatcher_routes_records_back_and_forth :
    let s0 := Session.sample (.row (.str "ns")) 2 [1]
    let cs := [Call.addLines ["m v=1 1"], .retarget (.str "b") (.str "autogen"),
      .addLines ["m v=2 2"], .retarget (.str "a") (.str "autogen"),
      .addPoints [⟨.str "m", [], [(.str "v", .int 3)], .int 3⟩], .drain]
    let j := (Journal.start s0).run cs
    s0.Fresh ∧ s0.dispatcher.BatchOk ∧
    List.Forall₂ Destined j.session.lineRoute j.lines ∧
    List.Forall₂ Destined j.session.pointRoute j.points ∧
    j.session.dispatcher.failed = j.session.dispatcher.handed.filterMap Handoff.deadLetter := by
  intro s0 cs
  have hfresh : s0.Fresh := ⟨rfl, rfl, rfl, rfl, rfl, rfl⟩
  have hok : s0.dispatcher.BatchOk := by
    intro n hn
    have hsize : sliceBound (.int 2) = .ok 2 := rfl
    rw [show s0.dispatcher.batchSize = .int 2 from rfl, hsize] at hn
    cases hn
    decide
  exact ⟨hfresh, hok, dispatcher_routes_records s0 cs hfresh hok⟩

end SeriesImport.Dispatch
