import Mathlib
import SeriesImport.Proofs.Dispatch.Calls
import SeriesImport.Proofs.Dispatch.Steady
/-!
# The sizes of batches

With a batch size of `n` lines, a flush of lines hands on the first `n` lines that wait and a
flush of points hands on every point that waits, whatever the store answers; a flush of an
empty buffer hands on nothing. So every batch of lines holds between one and `n` lines and
every batch of points holds a point. A drain cuts the waiting lines into pieces of `n`, one
round each, then sends the points in one more round; a round whose batch fails does not stop
it, so when it ends normally or with the failures it gathered, every round was run and both
buffers are empty. An add of lines flushes only full batches once its switch of target is done,
and returns only when fewer than `n` lines wait; an add of points returns only when fewer than
`n` points wait.

`Sends` says which batches a step handed on and what it left waiting.
-/

namespace SeriesImport.Dispatch

open Std.Do

set_option mvcgen.warning false

/-- A batch a dispatcher with a batch size of `n` may hand on: between one and `n` lines, or at
least one point. -/
def Batch.Fits (n : Nat) : Batch → Prop
  | .lines ls => 0 < ls.length ∧ ls.length ≤ n
  | .points ps => ps ≠ []

/-- A batch of exactly `n` lines. -/
def Batch.Full (n : Nat) (b : Batch) : Prop := ∃ ls, b = .lines ls ∧ ls.length = n

/-- The batch a flush of lines hands on: the first `n` lines, if any wait. -/
def linePiece (n : Nat) (ls : List String) : List Batch :=
  if ls = [] then [] else [.lines (ls.take n)]

/-- The batch a flush of points hands on: all of them, if any wait. -/
def pointPiece (ps : List Point) : List Batch :=
  if ps = [] then [] else [.points ps]

/-- The batches a drain hands on: the lines in pieces of `n`, then the points. -/
def drainPieces (n : Nat) (ls : List String) (ps : List Point) : List Batch :=
  (pieces n ls).map .lines ++ pointPiece ps

/-- The number of rounds a drain runs: one per piece of `n` waiting lines, the last perhaps
short, and one more when points wait. -/
def drainRounds (n : Nat) (ls : List String) (ps : List Point) : Nat :=
  (ls.length + n - 1) / n + if ps = [] then 0 else 1

/-- A list is cut into as many pieces of `n` as its length divided by `n`, rounded up. -/
theorem length_pieces {α : Type} {n : Nat} (hn : 0 < n) (xs : List α) :
    (pieces n xs).length = (xs.length + n - 1) / n := by
  fun_induction pieces n xs with
  | case1 => simp [Nat.div_eq_of_lt (by omega : n - 1 < n)]
  | case2 x xs ih =>
    rw [List.length_cons, ih, List.length_drop, List.length_cons]
    by_cases hm : n - 1 ≤ xs.length
    · have h : xs.length + 1 + n - 1 = (xs.length - (n - 1) + n - 1) + n := by omega
      rw [h, Nat.add_div_right _ hn]
    · have h1 : xs.length - (n - 1) + n - 1 = n - 1 := by omega
      have h2 : xs.length + 1 + n - 1 = (xs.length + 1 - 1) + n := by omega
      rw [h1, Nat.div_eq_of_lt (by omega : n - 1 < n), h2, Nat.add_div_right _ hn,
        Nat.div_eq_of_lt (by omega : xs.length + 1 - 1 < n)]

theorem length_drainPieces {n : Nat} (hn : 0 < n) (ls : List String) (ps : List Point) :
    (drainPieces n ls ps).length = drainRounds n ls ps := by
  unfold drainPieces drainRounds pointPiece
  rw [List.length_append, List.length_map, length_pieces hn]
  split <;> rfl

/-- `s` follows `s0` by handing on the batches `bs`, in order, and leaves `lines` and `points`
waiting, with the batch size unchanged. -/
structure Sends (s0 s : Session) (lines : List String) (points : List Point) (bs : List Batch) :
    Prop where
  lines : s.context.pendingLines = lines
  points : s.context.pendingPoints = points
  batchSize : s.dispatcher.batchSize = s0.dispatcher.batchSize
  handed : ∃ hs, s.dispatcher.handed = s0.dispatcher.handed ++ hs ∧ hs.map (·.batch) = bs

theorem Sends.refl (s : Session) :
    Sends s s s.context.pendingLines s.context.pendingPoints [] :=
  ⟨rfl, rfl, rfl, [], by simp, rfl⟩

theorem Sends.trans {s0 s1 s : Session} {l1 l : List String} {p1 p : List Point}
    {bs1 bs : List Batch} (h1 : Sends s0 s1 l1 p1 bs1) (h : Sends s1 s l p bs) :
    Sends s0 s l p (bs1 ++ bs) := by
  obtain ⟨hs1, hh1, hb1⟩ := h1.handed
  obtain ⟨hs, hh, hb⟩ := h.handed
  exact ⟨h.lines, h.points, h.batchSize.trans h1.batchSize, hs1 ++ hs,
    by rw [hh, hh1, List.append_assoc], by simp [hb1, hb]⟩

theorem Sent.sends {s0 s : Session} {b : Batch} {err : Option Error} (h : Sent s0 s b err) :
    Sends s0 s s0.context.pendingLines s0.context.pendingPoints [b] :=
  ⟨by rw [h.context], by rw [h.context], h.batchSize, _, h.handed, rfl⟩

theorem Sends.setBuffers (s : Session) (ls : List String) (ps : List Point) :
    Sends s { s with context := { s.context with pendingLines := ls, pendingPoints := ps } }
      ls ps [] :=
  ⟨rfl, rfl, rfl, [], by simp, rfl⟩

/-- Every batch handed on between `s0` and `s` is one that `p` admits. -/
def HandedOnly (p : Batch → Prop) (s0 s : Session) : Prop :=
  ∃ hs, s.dispatcher.handed = s0.dispatcher.handed ++ hs ∧ ∀ h ∈ hs, p h.batch

/-- Every batch handed on between `s0` and `s` fits a batch size of `n`. -/
abbrev Fitting (n : Nat) : Session → Session → Prop := HandedOnly (Batch.Fits n)

theorem HandedOnly.refl (p : Batch → Prop) (s : Session) : HandedOnly p s s :=
  ⟨[], by simp, by simp⟩

theorem HandedOnly.trans {p : Batch → Prop} {s0 s1 s : Session} (h1 : HandedOnly p s0 s1)
    (h : HandedOnly p s1 s) : HandedOnly p s0 s := by
  obtain ⟨hs1, hh1, hf1⟩ := h1
  obtain ⟨hs, hh, hf⟩ := h
  refine ⟨hs1 ++ hs, by rw [hh, hh1, List.append_assoc], fun x hx => ?_⟩
  rcases List.mem_append.1 hx with hx | hx
  · exact hf1 x hx
  · exact hf x hx

theorem HandedOnly.mono {p q : Batch → Prop} {s0 s : Session} (h : HandedOnly p s0 s)
    (hpq : ∀ b, p b → q b) : HandedOnly q s0 s := by
  obtain ⟨hs, hh, hp⟩ := h
  exact ⟨hs, hh, fun x hx => hpq _ (hp x hx)⟩

theorem Sends.handedOnly {p : Batch → Prop} {s0 s : Session} {l : List String} {ps : List Point}
    {bs : List Batch} (h : Sends s0 s l ps bs) (hb : ∀ b ∈ bs, p b) : HandedOnly p s0 s := by
  obtain ⟨hs, hh, rfl⟩ := h.handed
  exact ⟨hs, hh, fun x hx => hb _ (List.mem_map_of_mem hx)⟩

theorem Batch.Full.fits {n : Nat} {b : Batch} (hn : 0 < n) (h : b.Full n) : b.Fits n := by
  obtain ⟨ls, rfl, hl⟩ := h
  exact ⟨by omega, by omega⟩

theorem linePiece_fits {n : Nat} (hn : 0 < n) (ls : List String) :
    ∀ b ∈ linePiece n ls, b.Fits n := by
  unfold linePiece
  split
  · simp
  · rename_i hne
    simp only [List.mem_singleton, forall_eq, Batch.Fits, List.length_take]
    have := List.length_pos_of_ne_nil hne
    omega

theorem pointPiece_fits (n : Nat) (ps : List Point) : ∀ b ∈ pointPiece ps, b.Fits n := by
  unfold pointPiece
  split
  · simp
  · simpa [Batch.Fits]

theorem drainPieces_fits {n : Nat} (hn : 0 < n) (ls : List String) (ps : List Point) :
    ∀ b ∈ drainPieces n ls ps, b.Fits n := by
  intro b hb
  rcases List.mem_append.1 hb with hb | hb
  · obtain ⟨piece, hp, rfl⟩ := List.mem_map.1 hb
    exact length_of_mem_pieces hn ls piece hp
  · exact pointPiece_fits n ps b hb

/-! ## Flushing -/

theorem Session.Untouched.sends {s0 s : Session} (h : s0.Untouched s) :
    Sends s0 s s0.context.pendingLines s0.context.pendingPoints [] :=
  ⟨by rw [h.context], by rw [h.context], h.batchSize, [], by rw [h.handed, List.append_nil], rfl⟩

theorem Sent.sendsLines {s0 s1 s : Session} {n : Nat} {err : Option Error} (hu : s0.Untouched s1)
    (hne : s0.context.pendingLines ≠ [])
    (h : Sent { s1 with context := { s1.context with
      pendingLines := s1.context.pendingLines.drop n } } s (.lines (s0.context.pendingLines.take n)) err) :
    Sends s0 s (s0.context.pendingLines.drop n) s0.context.pendingPoints
      (linePiece n s0.context.pendingLines) := by
  have hcut : Sends s0 { s1 with context := { s1.context with
      pendingLines := s1.context.pendingLines.drop n } }
      (s0.context.pendingLines.drop n) s0.context.pendingPoints [] :=
    ⟨by simp [hu.context], by simp [hu.context], hu.batchSize, [], by simp [hu.handed], rfl⟩
  simpa [linePiece, hne, hu.context] using hcut.trans h.sends

/-- A flush of lines hands on the first `n` lines, if any wait, whatever the store answers; only a
cancelled token stops it before, with nothing changed. -/
theorem flushLines_sends (n : Nat) (s0 : Session) (hn : sliceBound s0.dispatcher.batchSize = .ok n) :
    ⦃fun s => ⌜s = s0⌝⦄ flushLines
    ⦃post⟨fun _ s => ⌜Sends s0 s (s0.context.pendingLines.drop n) s0.context.pendingPoints
        (linePiece n s0.context.pendingLines)⌝,
      fun e s => ⌜Sends s0 s (s0.context.pendingLines.drop n) s0.context.pendingPoints
        (linePiece n s0.context.pendingLines) ∨ (e.gathered = false ∧ s = s0)⌝⟩⦄ := by
  unfold flushLines
  mvcgen [checkToken]
  case vc1 s hs hnil =>
    subst hs
    simpa [List.isEmpty_iff.mp hnil, linePiece] using Sends.refl s
  case vc2 => exact .refl _
  case vc3 s hs hne _ _ _ h _ _ _ =>
    obtain ⟨hu, hbound⟩ := h
    subst hs
    rw [hn, Except.ok.injEq] at hbound
    subst hbound
    exact (·.sendsLines hu (by simpa using hne))
  case vc4 s hs hne _ _ _ h _ _ _ =>
    obtain ⟨hu, hbound⟩ := h
    subst hs
    rw [hn, Except.ok.injEq] at hbound
    subst hbound
    exact fun hsent => .inl (hsent.sendsLines hu (by simpa using hne))
  case vc5 s hs _ _ _ _ =>
    intro _ he
    subst hs
    rw [hn] at he
    cases he
  case vc6 s hs _ _ hcheck =>
    subst hs
    exact .inr ⟨Token.check_gathered hcheck, rfl⟩

theorem Sent.sendsPoints {s0 s : Session} {err : Option Error} (hne : s0.context.pendingPoints ≠ [])
    (h : Sent { s0 with context := { s0.context with pendingPoints := [] } } s
      (.points s0.context.pendingPoints) err) :
    Sends s0 s s0.context.pendingLines [] (pointPiece s0.context.pendingPoints) := by
  simpa [pointPiece, hne] using (Sends.setBuffers s0 _ []).trans h.sends

/-- A flush of points hands on every point that waits, if any, whatever the store answers; only a
cancelled token stops it before, with nothing changed. -/
theorem flushPoints_sends (s0 : Session) :
    ⦃fun s => ⌜s = s0⌝⦄ flushPoints
    ⦃post⟨fun _ s => ⌜Sends s0 s s0.context.pendingLines [] (pointPiece s0.context.pendingPoints)⌝,
      fun e s => ⌜Sends s0 s s0.context.pendingLines [] (pointPiece s0.context.pendingPoints) ∨
        (e.gathered = false ∧ s = s0)⌝⟩⦄ := by
  unfold flushPoints
  mvcgen [checkToken]
  case vc1 s hs hnil =>
    subst hs
    simpa [List.isEmpty_iff.mp hnil, pointPiece] using Sends.refl s
  case vc2 s hs hne _ _ _ _ =>
    subst hs
    exact (·.sendsPoints (by simpa using hne))
  case vc3 s hs hne _ _ _ _ =>
    subst hs
    exact fun hsent => .inl (hsent.sendsPoints (by simpa using hne))
  case vc4 s hs _ _ hcheck =>
    subst hs
    exact .inr ⟨Token.check_gathered hcheck, rfl⟩

/-! ## Draining -/

/-- A round of a drain that flushes lines hands on the first `n` lines, unless it stops the drain. -/
theorem drainRound_flushLines_sends (n : Nat) (errors : List Error) (s0 : Session)
    (hn : sliceBound s0.dispatcher.batchSize = .ok n) :
    ⦃fun s => ⌜s = s0⌝⦄ drainRound flushLines errors
    ⦃post⟨fun _ s => ⌜Sends s0 s (s0.context.pendingLines.drop n) s0.context.pendingPoints
        (linePiece n s0.context.pendingLines)⌝,
      fun e s => ⌜(Sends s0 s (s0.context.pendingLines.drop n) s0.context.pendingPoints
        (linePiece n s0.context.pendingLines) ∨ s = s0) ∧ e.gathered = false⌝⟩⦄ := by
  apply Triple.of_outcome
  intro s hs
  have hout := Triple.outcome (drainRound_spec flushLines errors (flushLines_sends n s0 hn)) hs
  split at hout
  · rcases hout with h | ⟨e, hg, h | ⟨hng, -⟩⟩
    · exact h
    · exact h
    · simp [hg] at hng
  · obtain ⟨h | ⟨-, rfl⟩, hg⟩ := hout
    · exact ⟨.inl h, hg⟩
    · exact ⟨.inr rfl, hg⟩

/-- A round of a drain that flushes points hands them all on, unless it stops the drain. -/
theorem drainRound_flushPoints_sends (errors : List Error) (s0 : Session) :
    ⦃fun s => ⌜s = s0⌝⦄ drainRound flushPoints errors
    ⦃post⟨fun _ s => ⌜Sends s0 s s0.context.pendingLines [] (pointPiece s0.context.pendingPoints)⌝,
      fun e s => ⌜(Sends s0 s s0.context.pendingLines [] (pointPiece s0.context.pendingPoints) ∨
        s = s0) ∧ e.gathered = false⌝⟩⦄ := by
  apply Triple.of_outcome
  intro s hs
  have hout := Triple.outcome (drainRound_spec flushPoints errors (flushPoints_sends s0)) hs
  split at hout
  · rcases hout with h | ⟨e, hg, h | ⟨hng, -⟩⟩
    · exact h
    · exact h
    · simp [hg] at hng
  · obtain ⟨h | ⟨-, rfl⟩, hg⟩ := hout
    · exact ⟨.inl h, hg⟩
    · exact ⟨.inr rfl, hg⟩

theorem drainLines_succ_run (fuel rounds : Nat) (errors : List Error) (s : Session) :
    (drainLines (fuel + 1) rounds errors).run.run s =
      if s.context.pendingLines.isEmpty then (.ok (rounds, errors), s)
      else match (drainRound flushLines errors).run.run s with
        | (.ok es, s') => (drainLines fuel (rounds + 1) es).run.run s'
        | (.error e, s') => (.error e, s') := by
  simp only [drainLines, run_bind, run_get]
  split
  · rfl
  · rw [run_bind]
    cases (drainRound flushLines errors).run.run s with
    | mk r s' => cases r <;> rfl

/-- Draining lines, given more rounds than lines wait, hands on the waiting lines in pieces of
`n`, one round each, whatever the store answers; it stops early only at a failure it does not
gather, having handed on only batches that fit. -/
theorem drainLines_sends {n : Nat} (hn0 : 0 < n) (fuel rounds : Nat) (errors : List Error)
    (s0 : Session) (hn : sliceBound s0.dispatcher.batchSize = .ok n)
    (hfuel : s0.context.pendingLines.length < fuel) :
    ⦃fun s => ⌜s = s0⌝⦄ drainLines fuel rounds errors
    ⦃post⟨fun r s => ⌜Sends s0 s [] s0.context.pendingPoints
        ((pieces n s0.context.pendingLines).map .lines) ∧
        r.1 = rounds + (pieces n s0.context.pendingLines).length⌝,
      fun e s => ⌜Fitting n s0 s ∧ e.gathered = false⌝⟩⦄ := by
  induction fuel generalizing rounds errors s0 with
  | zero => omega
  | succ fuel ih =>
    apply Triple.of_outcome
    rintro s rfl
    rw [drainLines_succ_run]
    by_cases hnil : s.context.pendingLines = []
    · simpa [hnil] using Sends.refl s
    rw [if_neg (by simpa using hnil)]
    have hround := Triple.outcome (drainRound_flushLines_sends n errors s hn) rfl
    cases hr : (drainRound flushLines errors).run.run s with
    | mk r s1 =>
      rw [hr] at hround
      cases r with
      | error e =>
        obtain ⟨h | rfl, hg⟩ := hround
        · exact ⟨h.handedOnly (linePiece_fits hn0 _), hg⟩
        · exact ⟨HandedOnly.refl _ _, hg⟩
      | ok es =>
        simp only at hround
        have hlen : (s.context.pendingLines.drop n).length < fuel := by
          have := List.length_pos_of_ne_nil hnil
          rw [List.length_drop]
          omega
        have hrest := Triple.outcome (ih (rounds + 1) es s1 (hround.batchSize ▸ hn)
          (hround.lines ▸ hlen)) rfl
        simp only
        split at hrest
        · obtain ⟨hsends, hcount⟩ := hrest
          rw [hround.lines, hround.points] at hsends
          rw [hround.lines] at hcount
          refine ⟨?_, ?_⟩
          · simpa [pieces_of_ne_nil hn0 hnil, linePiece, hnil] using hround.trans hsends
          · rw [hcount, pieces_of_ne_nil hn0 hnil, List.length_cons]
            omega
        · exact ⟨(hround.handedOnly (linePiece_fits hn0 _)).trans hrest.1, hrest.2⟩

/-- A drain hands on the waiting lines in pieces of `n`, then the waiting points, one round each,
whatever the store answers, and ends with the number of rounds, or with the failures it gathered
once every round was run; it stops early only at a failure it does not gather, having handed on
only batches that fit. -/
theorem drain_sends {n : Nat} (hn0 : 0 < n) (s0 : Session)
    (hn : sliceBound s0.dispatcher.batchSize = .ok n) :
    ⦃fun s => ⌜s = s0⌝⦄ drain
    ⦃post⟨fun r s => ⌜Sends s0 s [] [] (drainPieces n s0.context.pendingLines s0.context.pendingPoints) ∧
        r = (drainPieces n s0.context.pendingLines s0.context.pendingPoints).length⌝,
      fun e s => ⌜Fitting n s0 s ∧ (e.gathered = false ∨
        (Sends s0 s [] [] (drainPieces n s0.context.pendingLines s0.context.pendingPoints) ∧
          ∃ es, e = .drain es))⌝⟩⦄ := by
  apply Triple.of_outcome
  rintro s rfl
  have hlines := Triple.outcome
    (drainLines_sends hn0 (s.context.pendingLines.length + 1) 0 [] s hn (by omega)) rfl
  simp only [drain, run_bind, run_get]
  rcases hdl : (drainLines (s.context.pendingLines.length + 1) 0 []).run.run s with
    ⟨_ | ⟨rounds, errs⟩, s1⟩
  · rw [hdl] at hlines
    exact ⟨hlines.1, .inl hlines.2⟩
  rw [hdl] at hlines
  obtain ⟨hsends, hcount⟩ := hlines
  simp only [zero_add] at hcount
  simp only
  by_cases hp : s.context.pendingPoints = []
  · have hp1 : s1.context.pendingPoints = [] := hsends.points.trans hp
    have hall : Sends s s1 [] [] (drainPieces n s.context.pendingLines s.context.pendingPoints) := by
      simpa [drainPieces, pointPiece, hp, hp1] using hsends
    simp only [hp1, List.isEmpty_nil, if_true, run_bind, run_pure]
    cases he : errs.isEmpty
    · simp only [Bool.false_eq_true, if_false, run_throw]
      exact ⟨hall.handedOnly (drainPieces_fits hn0 _ _), .inr ⟨hall, _, rfl⟩⟩
    · simp only [if_true, run_pure]
      exact ⟨hall, by simp [hcount, drainPieces, pointPiece, hp]⟩
  · have hp1 : s1.context.pendingPoints.isEmpty = false := by
      simpa [hsends.points] using hp
    have hround := Triple.outcome (drainRound_flushPoints_sends errs s1) rfl
    have hlines : Fitting n s s1 := hsends.handedOnly fun b hb => by
      obtain ⟨piece, hpiece, rfl⟩ := List.mem_map.1 hb
      exact length_of_mem_pieces hn0 _ piece hpiece
    simp only [hp1, Bool.false_eq_true, if_false, run_bind, run_pure]
    rcases hdr : (drainRound flushPoints errs).run.run s1 with ⟨_ | errs', s2⟩
    · rw [hdr] at hround
      obtain ⟨h | rfl, hg⟩ := hround
      · exact ⟨hlines.trans (h.handedOnly (pointPiece_fits n _)), .inl hg⟩
      · exact ⟨hlines, .inl hg⟩
    · rw [hdr] at hround
      have hall : Sends s s2 [] [] (drainPieces n s.context.pendingLines s.context.pendingPoints) := by
        simpa [drainPieces, hsends.points, hsends.lines] using hsends.trans hround
      simp only
      cases he : errs'.isEmpty
      · simp only [Bool.false_eq_true, if_false, run_throw]
        exact ⟨hall.handedOnly (drainPieces_fits hn0 _ _), .inr ⟨hall, _, rfl⟩⟩
      · simp only [if_true, run_pure]
        exact ⟨hall, by simp [hcount, drainPieces, pointPiece, hp]⟩

theorem drain_fits {n : Nat} (hn0 : 0 < n) (s : Session)
    (hn : sliceBound s.dispatcher.batchSize = .ok n) : Fitting n s (drain.run.run s).2 := by
  have h := Triple.outcome (drain_sends hn0 s hn) rfl
  split at h
  · rename_i hrun
    rw [hrun]
    exact h.1.handedOnly (drainPieces_fits hn0 _ _)
  · rename_i hrun
    rw [hrun]
    exact h.1

/-! ## Adding records -/

/-- A switch of target hands on only batches that fit, whether it goes through or not. -/
theorem switchTarget_fits {n : Nat} (hn0 : 0 < n) (s : Session)
    (hn : sliceBound s.dispatcher.batchSize = .ok n) : Fitting n s (switchTarget.run.run s).2 := by
  simp only [switchTarget, run_bind, run_get]
  split
  · exact HandedOnly.refl _ s
  split
  · have hd := drain_fits hn0 s hn
    simp only [run_bind, run_tryCatch]
    cases hrun : drain.run.run s with
    | mk r s1 =>
      rw [hrun] at hd
      cases r with
      | ok _ => exact hd
      | error e =>
        cases e <;> exact hd
  · exact HandedOnly.refl _ s

/-- Flushing while a full batch waits hands on only full batches, and when it ends normally,
having had more rounds than lines wait, fewer than `n` lines wait. -/
theorem flushFull_full {n : Nat} (hn0 : 0 < n) (fuel : Nat) (s : Session)
    (hsize : s.dispatcher.batchSize = .int n) (hfuel : s.context.pendingLines.length < fuel) :
    match (flushFull fuel).run.run s with
    | (.ok (), s') => HandedOnly (Batch.Full n) s s' ∧ s'.context.pendingLines.length < n
    | (.error _, s') => HandedOnly (Batch.Full n) s s' := by
  induction fuel generalizing s with
  | zero => omega
  | succ fuel ih =>
    simp only [flushFull, run_bind, run_get, Sink.fills_run hsize]
    by_cases hl : n ≤ s.context.pendingLines.length
    · have hne : s.context.pendingLines ≠ [] := List.ne_nil_of_length_pos (by omega)
      have hflush := Triple.outcome (flushLines_sends n s (by rw [hsize]; rfl)) rfl
      have hfull : ∀ b ∈ linePiece n s.context.pendingLines, b.Full n := by
        simp only [linePiece, hne, if_false, List.mem_singleton, forall_eq]
        exact ⟨_, rfl, by simp [hl]⟩
      simp only [decide_eq_true hl, if_true, run_bind]
      cases hrun : flushLines.run.run s with
      | mk r s1 =>
        rw [hrun] at hflush
        cases r with
        | error e =>
          rcases hflush with h | ⟨-, rfl⟩
          · exact h.handedOnly hfull
          · exact HandedOnly.refl _ _
        | ok _ =>
          have hrest := ih s1 (hflush.batchSize.trans hsize) (by
            rw [hflush.lines, List.length_drop]
            omega)
          simp only
          split at hrest
          · exact ⟨(hflush.handedOnly hfull).trans hrest.1, hrest.2⟩
          · exact (hflush.handedOnly hfull).trans hrest
    · simp only [decide_eq_false hl, Bool.false_eq_true, if_false, run_pure]
      exact ⟨HandedOnly.refl _ _, by omega⟩

theorem switchTarget_batchSize {s s1 : Session} {err : Option Error}
    (h : switchTarget.run.run s = (.ok err, s1)) :
    s1.dispatcher.batchSize = s.dispatcher.batchSize := by
  have hsw := Triple.outcome (switchTarget_spec s) rfl
  rw [h] at hsw
  exact hsw.batchSize

/-- An add of lines hands on only batches that fit, and after its switch of target only full
ones; when it ends normally, fewer than `n` lines wait. -/
theorem addLines_full {n : Nat} (hn0 : 0 < n) (ls : List String) (s : Session)
    (hsize : s.dispatcher.batchSize = .int n) :
    HandedOnly (Batch.Full n) (switchTarget.run.run s).2 ((addLines ls).run.run s).2 ∧
    Fitting n s ((addLines ls).run.run s).2 ∧
    (((addLines ls).run.run s).1 = .ok () →
      ((addLines ls).run.run s).2.context.pendingLines.length < n) := by
  have hswitch := switchTarget_fits hn0 s (by rw [hsize]; rfl)
  simp only [addLines, run_bind]
  cases hsw : switchTarget.run.run s with
  | mk r s1 =>
    rw [hsw] at hswitch
    cases r with
    | error e => exact ⟨HandedOnly.refl _ _, hswitch, fun h => by cases h⟩
    | ok err =>
      have hsize1 : s1.dispatcher.batchSize = .int n := (switchTarget_batchSize hsw).trans hsize
      have hflush := flushFull_full hn0 _
        { s1 with context := { s1.context with
          pendingLines := s1.context.pendingLines ++ ls } } hsize1 (Nat.lt_succ_self _)
      simp only [run_modify, run_get]
      cases hrun : (flushFull (s1.context.pendingLines ++ ls).length.succ).run.run
          { s1 with context := { s1.context with pendingLines := s1.context.pendingLines ++ ls } } with
      | mk r2 s2 =>
        rw [hrun] at hflush
        have hfull : HandedOnly (Batch.Full n) s1 s2 := by
          cases r2 with
          | ok _ => exact hflush.1
          | error _ => exact hflush
        have hfits : Fitting n s s2 := hswitch.trans (hfull.mono fun _ hb => hb.fits hn0)
        cases r2 with
        | error e => exact ⟨hfull, hfits, fun h => by cases h⟩
        | ok _ =>
          cases err with
          | none => exact ⟨hfull, hfits, fun _ => hflush.2⟩
          | some e => exact ⟨hfull, hfits, fun h => by cases h⟩

/-- An add of points hands on only batches that fit; when it ends normally, fewer than `n` points
wait. -/
theorem addPoints_below {n : Nat} (hn0 : 0 < n) (ps : List Point) (s : Session)
    (hsize : s.dispatcher.batchSize = .int n) :
    Fitting n s ((addPoints ps).run.run s).2 ∧
    (((addPoints ps).run.run s).1 = .ok () →
      ((addPoints ps).run.run s).2.context.pendingPoints.length < n) := by
  have hswitch := switchTarget_fits hn0 s (by rw [hsize]; rfl)
  simp only [addPoints, run_bind]
  cases hsw : switchTarget.run.run s with
  | mk r s1 =>
    rw [hsw] at hswitch
    cases r with
    | error e => exact ⟨hswitch, fun h => by cases h⟩
    | ok err =>
      have hsize1 : s1.dispatcher.batchSize = .int n := (switchTarget_batchSize hsw).trans hsize
      have hfills := Sink.fills_run (s := { s1 with context := { s1.context with
        pendingPoints := s1.context.pendingPoints ++ ps } }) hsize1
        (s1.context.pendingPoints ++ ps).length
      simp only [run_modify, run_get, hfills]
      by_cases hl : n ≤ (s1.context.pendingPoints ++ ps).length
      · have hflush := Triple.outcome (flushPoints_sends
          { s1 with context := { s1.context with
            pendingPoints := s1.context.pendingPoints ++ ps } }) rfl
        have hne : s1.context.pendingPoints ++ ps ≠ [] := List.ne_nil_of_length_pos (by omega)
        simp only [decide_eq_true hl, if_true, run_bind]
        cases hrun : flushPoints.run.run
            { s1 with context := { s1.context with
              pendingPoints := s1.context.pendingPoints ++ ps } } with
        | mk r2 s2 =>
          rw [hrun] at hflush
          cases r2 with
          | error e =>
            rcases hflush with h | ⟨-, rfl⟩
            · exact ⟨hswitch.trans (h.handedOnly (pointPiece_fits n _)), fun h => by cases h⟩
            · exact ⟨hswitch, fun h => by cases h⟩
          | ok _ =>
            simp only at hflush
            have hfits := hswitch.trans (hflush.handedOnly (pointPiece_fits n _))
            cases err with
            | none =>
              refine ⟨hfits, fun _ => ?_⟩
              simp only [run_pure]
              rw [hflush.points]
              exact hn0
            | some e => exact ⟨hfits, fun h => by cases h⟩
      · simp only [decide_eq_false hl, Bool.false_eq_true, if_false]
        cases err with
        | none =>
          simp only [run_pure]
          exact ⟨hswitch, fun _ => by simpa using Nat.lt_of_not_le hl⟩
        | some e => exact ⟨hswitch, fun h => by cases h⟩

/-! ## Every call -/

/-- Every call hands on only batches that fit, whether it returns or fails. -/
theorem Call.fits {n : Nat} (hn0 : 0 < n) (c : Call) (s : Session)
    (hsize : s.dispatcher.batchSize = .int n) : Fitting n s (c.after s) := by
  have hn : sliceBound s.dispatcher.batchSize = .ok n := by rw [hsize]; rfl
  cases c with
  | retarget db rp => exact ⟨[], by simp [Call.after, Call.exec], by simp⟩
  | addLines ls => exact (addLines_full hn0 ls s hsize).2.1
  | addPoints ps => exact (addPoints_below hn0 ps s hsize).1
  | flushLines =>
    have h := Triple.outcome (flushLines_sends n s hn) rfl
    simp only [Call.after, Call.exec]
    cases hrun : Dispatch.flushLines.run.run s with
    | mk r s' =>
      rw [hrun] at h
      cases r with
      | ok _ => exact h.handedOnly (linePiece_fits hn0 _)
      | error e =>
        rcases h with h | ⟨-, rfl⟩
        · exact h.handedOnly (linePiece_fits hn0 _)
        · exact HandedOnly.refl _ _
  | flushPoints =>
    have h := Triple.outcome (flushPoints_sends s) rfl
    simp only [Call.after, Call.exec]
    cases hrun : Dispatch.flushPoints.run.run s with
    | mk r s' =>
      rw [hrun] at h
      cases r with
      | ok _ => exact h.handedOnly (pointPiece_fits n _)
      | error e =>
        rcases h with h | ⟨-, rfl⟩
        · exact h.handedOnly (pointPiece_fits n _)
        · exact HandedOnly.refl _ _
  | drain =>
    have h := drain_fits hn0 s hn
    simp only [Call.after, Call.exec, run_bind]
    cases hrun : Dispatch.drain.run.run s with
    | mk r s' =>
      rw [hrun] at h
      cases r <;> exact h
  | cancel => exact ⟨[], by simp [Call.after, Call.exec, Dispatch.cancel], by simp⟩

/-- Every batch a dispatcher has handed on fits a batch size of `n`. -/
def Session.AllFit (n : Nat) (s : Session) : Prop := ∀ h ∈ s.dispatcher.handed, h.batch.Fits n

theorem Session.AllFit.of_fitting {n : Nat} {s0 s : Session} (h0 : s0.AllFit n)
    (h : Fitting n s0 s) : s.AllFit n := by
  obtain ⟨hs, hh, hf⟩ := h
  intro x hx
  rw [hh] at hx
  rcases List.mem_append.1 hx with hx | hx
  · exact h0 x hx
  · exact hf x hx

/-- Over any calls, batches that fit keep fitting: no call changes the batch size, and each
hands on only batches that fit. -/
theorem Journal.allFit_run {n : Nat} (hn0 : 0 < n) (cs : List Call) : ∀ (j : Journal),
    j.session.AllFit n → j.session.dispatcher.batchSize = .int n → (j.run cs).session.AllFit n := by
  induction cs with
  | nil => exact fun _ h _ => h
  | cons c cs ih =>
    intro j hfit hsize
    exact ih (j.step c) (hfit.of_fitting (c.fits hn0 j.session hsize))
      ((c.took j.session).batchSize.trans hsize)

/-! ## The law -/

/-- How a dispatcher with a batch size of `n` cuts its batches. -/
structure BatchLaw (n : Nat) : Prop where
  /-- Over any calls from a fresh dispatcher, with the target changed at will, any answers from
  the store and cancellation at any point, every batch handed on holds between one and `n`
  lines, or at least one point. -/
  fits : ∀ (s0 : Session) (cs : List Call), s0.Fresh → s0.dispatcher.batchSize = .int n →
    ∀ h ∈ ((Journal.start s0).run cs).session.dispatcher.handed, h.batch.Fits n
  /-- The batches an add of lines hands on once its switch of target is done hold `n` lines
  each. -/
  full : ∀ (s : Session) (ls : List String), s.dispatcher.batchSize = .int n →
    HandedOnly (Batch.Full n) (switchTarget.run.run s).2 ((addLines ls).run.run s).2
  /-- An add of lines that returns leaves fewer than `n` lines waiting. -/
  addLines : ∀ (s : Session) (ls : List String), s.dispatcher.batchSize = .int n →
    ((Dispatch.addLines ls).run.run s).1 = .ok () →
      ((Dispatch.addLines ls).run.run s).2.context.pendingLines.length < n
  /-- An add of points that returns leaves fewer than `n` points waiting. -/
  addPoints : ∀ (s : Session) (ps : List Point), s.dispatcher.batchSize = .int n →
    ((Dispatch.addPoints ps).run.run s).1 = .ok () →
      ((Dispatch.addPoints ps).run.run s).2.context.pendingPoints.length < n
  /-- A drain that returns has handed on the waiting lines in pieces of `n`, then the waiting
  points, emptied both buffers, and returns the number of its rounds. -/
  drainReturns : ∀ (s s' : Session) (r : Nat), s.dispatcher.batchSize = .int n →
    drain.run.run s = (.ok r, s') →
    Sends s s' [] [] (drainPieces n s.context.pendingLines s.context.pendingPoints) ∧
      r = drainRounds n s.context.pendingLines s.context.pendingPoints
  /-- A drain that fails with the failures it gathered has run every round all the same. -/
  drainGathers : ∀ (s s' : Session) (es : List Error), s.dispatcher.batchSize = .int n →
    drain.run.run s = (.error (.drain es), s') →
    Sends s s' [] [] (drainPieces n s.context.pendingLines s.context.pendingPoints)
  /-- The rounds of a drain are one per piece of `n` lines, the last perhaps short, and one for
  the points if any wait. -/
  rounds : ∀ (ls : List String) (ps : List Point),
    (drainPieces n ls ps).length = drainRounds n ls ps

/-- The batching law. With a batch size of `n ≥ 1`: every batch handed on holds between one and
`n` lines, or at least one point; an add of lines flushes only full batches after its switch of
target; an add that returns leaves fewer than `n` records of its kind waiting; and a drain that
returns, or fails with the failures it gathered, has run one round per piece of `n` waiting
lines and one for the waiting points, handing on exactly those batches, and emptied both
buffers. -/
theorem dispatcher_batches_by_size (n : Nat) (hn : 0 < n) : BatchLaw n where
  fits s0 cs hfresh hsize :=
    Journal.allFit_run hn cs (Journal.start s0) (by simp [Session.AllFit, Journal.start, hfresh.handed]) hsize
  full s ls hsize := (addLines_full hn ls s hsize).1
  addLines s ls hsize := (addLines_full hn ls s hsize).2.2
  addPoints s ps hsize := (addPoints_below hn ps s hsize).2
  drainReturns s s' r hsize hrun := by
    have h := Triple.outcome (drain_sends hn s (by rw [hsize]; rfl)) rfl
    rw [hrun] at h
    exact ⟨h.1, h.2.trans (length_drainPieces hn _ _)⟩
  drainGathers s s' es hsize hrun := by
    have h := Triple.outcome (drain_sends hn s (by rw [hsize]; rfl)) rfl
    rw [hrun] at h
    rcases h.2 with hg | ⟨hsends, -⟩
    · simp [Error.gathered, Error.isImportFailure] at hg
    · exact hsends
  rounds := length_drainPieces hn

theorem dispatcher_batches_by_size_of_two : 0 < 2 ∧ BatchLaw 2 :=
  ⟨by decide, dispatcher_batches_by_size 2 (by decide)⟩

end SeriesImport.Dispatch
