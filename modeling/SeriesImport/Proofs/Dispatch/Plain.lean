import Mathlib
import SeriesImport.Proofs.Dispatch.Effects
/-!
# The dispatcher when every write goes through

When no write fails and no import is cancelled, the dispatcher is a plain batching function: it
keeps the waiting lines, the waiting points and the target recorded for them, and hands batches
on. `Plain` holds exactly that, and each step of the dispatcher has a plain counterpart here, a
pure function of the plain state, the batch size `n` and the context's target `t`.

Lines leave in pieces of `n`: a flush takes the first `n`, a drain cuts all waiting lines into
pieces of `n`, and an add flushes while a full piece waits. Points leave all at once. A switch
to another target drains first.
-/

namespace SeriesImport.Dispatch

section Pieces

variable {α : Type}

/-- A list cut into pieces of `n`, in order, the last perhaps shorter. -/
def pieces (n : Nat) : List α → List (List α)
  | [] => []
  | x :: xs => (x :: xs.take (n - 1)) :: pieces n (xs.drop (n - 1))
termination_by xs => xs.length
decreasing_by simp only [List.length_drop, List.length_cons]; omega

@[simp] theorem pieces_nil (n : Nat) : pieces n ([] : List α) = [] := by
  simp only [pieces]

theorem pieces_of_ne_nil {n : Nat} {xs : List α} (hn : 0 < n) (hx : xs ≠ []) :
    pieces n xs = xs.take n :: pieces n (xs.drop n) := by
  obtain ⟨y, ys, rfl⟩ := List.exists_cons_of_ne_nil hx
  obtain ⟨m, rfl⟩ : ∃ m, n = m + 1 := ⟨n - 1, by omega⟩
  simp only [pieces, List.take_succ_cons, List.drop_succ_cons, Nat.add_sub_cancel]

@[simp] theorem flatten_pieces (n : Nat) : ∀ xs : List α, (pieces n xs).flatten = xs
  | [] => by rw [pieces_nil, List.flatten_nil]
  | x :: xs => by
    rw [pieces, List.flatten_cons, flatten_pieces n (xs.drop (n - 1)), List.cons_append,
      List.take_append_drop]
termination_by xs => xs.length
decreasing_by simp only [List.length_drop, List.length_cons]; omega

theorem length_of_mem_pieces {n : Nat} (hn : 0 < n) :
    ∀ xs : List α, ∀ p ∈ pieces n xs, 0 < p.length ∧ p.length ≤ n
  | [] => by simp
  | x :: xs => by
    intro p hp
    rw [pieces, List.mem_cons] at hp
    rcases hp with rfl | hp
    · simp only [List.length_cons, List.length_take]
      omega
    · exact length_of_mem_pieces hn (xs.drop (n - 1)) p hp
termination_by xs => xs.length
decreasing_by simp only [List.length_drop, List.length_cons]; omega

end Pieces

/-- What the dispatcher holds when every write goes through: the waiting lines and points, the
target recorded for them, and every batch handed on. -/
structure Plain where
  lines : List String
  points : List Point
  bound : Option Target
  sent : List Handoff

/-- The plain part of a session. -/
def Session.plain (s : Session) : Plain :=
  ⟨s.context.pendingLines, s.context.pendingPoints, s.context.pendingTarget,
    s.dispatcher.handed⟩

def Handoff.to (d : Target) (b : Batch) : Handoff := ⟨d.1, d.2, b, none⟩

@[simp] theorem Handoff.to_target (d : Target) (b : Batch) : (Handoff.to d b).target = d := rfl

@[simp] theorem Handoff.to_batch (d : Target) (b : Batch) : (Handoff.to d b).batch = b := rfl

@[simp] theorem Handoff.to_error (d : Target) (b : Batch) : (Handoff.to d b).error = none := rfl

namespace Plain

variable (n : Nat) (t : Target)

/-- Where the next batch goes: the recorded target, or the context's `t` when none is. -/
def dest (p : Plain) : Target := p.bound.getD t

def hasPending (p : Plain) : Bool := !p.lines.isEmpty || !p.points.isEmpty

/-- Send the first `n` waiting lines. -/
def flushLines (p : Plain) : Plain :=
  if p.lines = [] then p
  else { p with lines := p.lines.drop n, sent := p.sent ++ [.to (p.dest t) (.lines (p.lines.take n))] }

/-- Send all waiting points. -/
def flushPoints (p : Plain) : Plain :=
  if p.points = [] then p
  else { p with points := [], sent := p.sent ++ [.to (p.dest t) (.points p.points)] }

/-- Send all waiting lines, in pieces of `n`. -/
def drainLines (p : Plain) : Plain :=
  { p with lines := [], sent := p.sent ++ (pieces n p.lines).map (.to (p.dest t) ∘ .lines) }

/-- Send everything waiting: the lines in pieces, then the points. -/
def drain (p : Plain) : Plain := (p.drainLines n t).flushPoints t

/-- Drain what waits for another target and record `t` for what waits. -/
def switch (p : Plain) : Plain :=
  if p.bound.any (sameTarget · t) then p
  else
    let q := if p.bound.isSome && p.hasPending then p.drain n t else p
    { q with bound := some t }

/-- Send the waiting lines in full pieces while a full piece waits. -/
def flushFull (p : Plain) : Plain :=
  { p with
    lines := p.lines.drop (p.lines.length / n * n)
    sent := p.sent ++ (pieces n (p.lines.take (p.lines.length / n * n))).map (.to (p.dest t) ∘ .lines) }

/-- Queue lines and send full pieces. -/
def addLines (ls : List String) (p : Plain) : Plain :=
  let q := p.switch n t
  flushFull n t { q with lines := q.lines ++ ls }

/-- Queue points and send them once a batch is full. -/
def addPoints (ps : List Point) (p : Plain) : Plain :=
  let q := p.switch n t
  let q := { q with points := q.points ++ ps }
  if n ≤ q.points.length then q.flushPoints t else q

/-- Every line handed on, with the target it went to, then every waiting line with the target it
will go to. -/
def lineRoute (p : Plain) : List (String × Target) :=
  p.sent.flatMap (fun h => h.batch.lineList.map (·, h.target)) ++ p.lines.map (·, p.dest t)

/-- Every point handed on, with the target it went to, then every waiting point with the target
it will go to. -/
def pointRoute (p : Plain) : List (Point × Target) :=
  p.sent.flatMap (fun h => h.batch.pointList.map (·, h.target)) ++ p.points.map (·, p.dest t)

/-! ## One step after another -/

variable {n t}

@[simp] theorem dest_flushLines (p : Plain) : (p.flushLines n t).dest t = p.dest t := by
  unfold flushLines
  split <;> rfl

@[simp] theorem bound_flushLines (p : Plain) : (p.flushLines n t).bound = p.bound := by
  unfold flushLines
  split <;> rfl

@[simp] theorem points_flushLines (p : Plain) : (p.flushLines n t).points = p.points := by
  unfold flushLines
  split <;> rfl

theorem flushLines_of_nil {p : Plain} (h : p.lines = []) : p.flushLines n t = p := by
  simp [flushLines, h]

theorem flushPoints_of_nil {p : Plain} (h : p.points = []) : p.flushPoints t = p := by
  simp [flushPoints, h]

theorem drainLines_of_nil {p : Plain} (h : p.lines = []) : p.drainLines n t = p := by
  cases p
  simp_all [drainLines]

theorem drainLines_flushLines (hn : 0 < n) {p : Plain} (h : p.lines ≠ []) :
    (p.flushLines n t).drainLines n t = p.drainLines n t := by
  simp [flushLines, drainLines, h, pieces_of_ne_nil hn h, dest]

theorem switch_of_any {p : Plain} (h : p.bound.any (sameTarget · t) = true) :
    p.switch n t = p := by
  simp only [switch, h, if_true]

theorem switch_of_drain {p : Plain} (hb : p.bound.any (sameTarget · t) = false)
    (hd : (p.bound.isSome && p.hasPending) = true) :
    p.switch n t = { p.drain n t with bound := some t } := by
  simp only [switch, hb, hd, if_true, Bool.false_eq_true, if_false]

theorem switch_of_keep {p : Plain} (hb : p.bound.any (sameTarget · t) = false)
    (hd : (p.bound.isSome && p.hasPending) = false) :
    p.switch n t = { p with bound := some t } := by
  simp only [switch, hb, hd, Bool.false_eq_true, if_false]

theorem flushFull_of_lt {p : Plain} (h : p.lines.length < n) : p.flushFull n t = p := by
  simp [flushFull, Nat.div_eq_of_lt h]

/-- Flushing full pieces is one flush, then flushing the full pieces left. -/
theorem flushFull_flushLines (hn : 0 < n) {p : Plain} (h : n ≤ p.lines.length) :
    (p.flushLines n t).flushFull n t = p.flushFull n t := by
  have hne : p.lines ≠ [] := List.ne_nil_of_length_pos (by omega)
  have hdiv : p.lines.length / n = (p.lines.length - n) / n + 1 := Nat.div_eq_sub_div hn h
  have hk : n ≤ p.lines.length / n * n := by rw [hdiv, Nat.succ_mul]; omega
  have hkl : p.lines.length / n * n ≤ p.lines.length := Nat.div_mul_le_self _ _
  have htake : p.lines.take (p.lines.length / n * n) ≠ [] := by
    simp only [ne_eq, List.take_eq_nil_iff, not_or]
    exact ⟨by omega, hne⟩
  simp only [flushFull, flushLines, hne, if_false, List.length_drop, dest,
    pieces_of_ne_nil hn htake, List.take_take, List.drop_take, List.drop_drop, List.append_assoc,
    List.map_cons, List.singleton_append, Nat.min_eq_left hk, Plain.mk.injEq]
  have hrest : (p.lines.length - n) / n * n = p.lines.length / n * n - n := by
    rw [hdiv, Nat.succ_mul]
    omega
  refine ⟨by rw [hrest, Nat.add_sub_cancel' hk], trivial, trivial, ?_⟩
  rw [hrest]
  rfl

/-! ## Routes

No step moves a record or changes where it goes; an add puts its records behind the others, bound
for the target the switch it begins with left. -/

theorem flatMap_pieces {α β : Type} (f : α → β) (xs : List α) :
    (pieces n xs).flatMap (List.map f) = xs.map f := by
  rw [List.flatMap_def, ← List.map_flatten, flatten_pieces]

@[simp] theorem lineRoute_flushLines (p : Plain) :
    (p.flushLines n t).lineRoute t = p.lineRoute t := by
  unfold flushLines
  split
  · rfl
  · simp only [lineRoute, dest, List.flatMap_append, List.flatMap_singleton, Handoff.to_batch,
      Handoff.to_target, Batch.lineList, List.append_assoc, ← List.map_append,
      List.take_append_drop]

@[simp] theorem pointRoute_flushLines (p : Plain) :
    (p.flushLines n t).pointRoute t = p.pointRoute t := by
  unfold flushLines
  split
  · rfl
  · simp [pointRoute, dest, Batch.pointList]

@[simp] theorem lineRoute_flushPoints (p : Plain) :
    (p.flushPoints t).lineRoute t = p.lineRoute t := by
  unfold flushPoints
  split
  · rfl
  · simp [lineRoute, dest, Batch.lineList]

@[simp] theorem pointRoute_flushPoints (p : Plain) :
    (p.flushPoints t).pointRoute t = p.pointRoute t := by
  unfold flushPoints
  split
  · rfl
  · simp [pointRoute, dest, Batch.pointList]

@[simp] theorem lineRoute_drainLines (p : Plain) :
    (p.drainLines n t).lineRoute t = p.lineRoute t := by
  simp only [drainLines, lineRoute, dest, List.flatMap_append, List.flatMap_map,
    Function.comp_apply, Handoff.to_batch, Handoff.to_target, Batch.lineList, List.map_nil,
    List.append_nil, flatMap_pieces]

@[simp] theorem pointRoute_drainLines (p : Plain) :
    (p.drainLines n t).pointRoute t = p.pointRoute t := by
  simp [drainLines, pointRoute, dest, List.flatMap_map, Function.comp_def, Batch.pointList]

@[simp] theorem lineRoute_drain (p : Plain) : (p.drain n t).lineRoute t = p.lineRoute t := by
  rw [drain, lineRoute_flushPoints, lineRoute_drainLines]

@[simp] theorem pointRoute_drain (p : Plain) : (p.drain n t).pointRoute t = p.pointRoute t := by
  rw [drain, pointRoute_flushPoints, pointRoute_drainLines]

@[simp] theorem lines_drain (p : Plain) : (p.drain n t).lines = [] := by
  unfold drain flushPoints
  split <;> rfl

@[simp] theorem points_drain (p : Plain) : (p.drain n t).points = [] := by
  unfold drain flushPoints
  split
  · assumption
  · rfl

/-- Recording another target for the waiting records changes no route when nothing waits or
when the recorded target is where they would go anyway. -/
theorem routes_bound {p : Plain} (b : Target) (h : p.lines = [] ∧ p.points = [] ∨ p.dest t = b) :
    ({ p with bound := some b } : Plain).lineRoute t = p.lineRoute t ∧
      ({ p with bound := some b } : Plain).pointRoute t = p.pointRoute t := by
  rcases h with ⟨hl, hp⟩ | hd
  · simp [lineRoute, pointRoute, hl, hp]
  · simp [lineRoute, pointRoute, dest, ← hd]

theorem routes_switch (p : Plain) :
    (p.switch n t).lineRoute t = p.lineRoute t ∧ (p.switch n t).pointRoute t = p.pointRoute t := by
  cases hb : p.bound.any (sameTarget · t)
  case true => simp only [switch_of_any hb, and_self]
  case false =>
    cases hd : p.bound.isSome && p.hasPending
    case true =>
      rw [switch_of_drain hb hd]
      obtain ⟨hl, hp⟩ := routes_bound (p := p.drain n t) t (.inl ⟨lines_drain p, points_drain p⟩)
      rw [hl, hp, lineRoute_drain, pointRoute_drain]
      exact ⟨rfl, rfl⟩
    case false =>
      rw [switch_of_keep hb hd]
      apply routes_bound
      cases hbound : p.bound with
      | none => exact .inr (by simp [dest, hbound])
      | some b =>
        simp only [hbound, Option.isSome_some, Bool.true_and, hasPending, Bool.or_eq_false_iff,
          Bool.not_eq_false', List.isEmpty_iff] at hd
        exact .inl hd

theorem routes_flushFull (p : Plain) :
    (p.flushFull n t).lineRoute t = p.lineRoute t ∧
      (p.flushFull n t).pointRoute t = p.pointRoute t := by
  constructor
  · simp only [flushFull, lineRoute, dest, List.flatMap_append, List.flatMap_map,
      Function.comp_apply, Handoff.to_batch, Handoff.to_target, Batch.lineList, flatMap_pieces,
      List.append_assoc, ← List.map_append, List.take_append_drop]
  · simp [flushFull, pointRoute, dest, List.flatMap_map, Function.comp_def, Batch.pointList]

/-- Where records added after a switch go: the recorded target when the dispatcher takes it for
`t`, otherwise `t`. -/
theorem dest_switch (p : Plain) :
    (p.switch n t).dest t = if p.bound.any (sameTarget · t) then p.dest t else t := by
  cases hb : p.bound.any (sameTarget · t)
  case true => rw [switch_of_any hb, if_pos rfl]
  case false =>
    cases hd : p.bound.isSome && p.hasPending
    case true => rw [switch_of_drain hb hd]; rfl
    case false => rw [switch_of_keep hb hd]; rfl

@[simp] theorem lineRoute_queueLines (p : Plain) (ls : List String) :
    ({ p with lines := p.lines ++ ls } : Plain).lineRoute t = p.lineRoute t ++ ls.map (·, p.dest t) := by
  simp [lineRoute, dest]

@[simp] theorem pointRoute_queueLines (p : Plain) (ls : List String) :
    ({ p with lines := p.lines ++ ls } : Plain).pointRoute t = p.pointRoute t := rfl

/-- Added lines go behind all others, to the target the switch left. -/
theorem routes_addLines (p : Plain) (ls : List String) :
    (p.addLines n t ls).lineRoute t = p.lineRoute t ++ ls.map (·, (p.switch n t).dest t) ∧
      (p.addLines n t ls).pointRoute t = p.pointRoute t := by
  obtain ⟨hl, hp⟩ := routes_switch (n := n) (t := t) p
  rw [addLines, (routes_flushFull _).1, (routes_flushFull _).2, lineRoute_queueLines,
    pointRoute_queueLines, hl, hp]
  exact ⟨rfl, rfl⟩

theorem lineRoute_congr {p : Plain} (h : p.bound.isSome ∨ p.lines = []) (t t' : Target) :
    p.lineRoute t = p.lineRoute t' := by
  rcases h with h | h
  · obtain ⟨b, hb⟩ := Option.isSome_iff_exists.mp h
    simp [lineRoute, dest, hb]
  · simp [lineRoute, h]

theorem bound_switch_isSome (p : Plain) : (p.switch n t).bound.isSome := by
  cases hb : p.bound.any (sameTarget · t)
  case true =>
    rw [switch_of_any hb]
    obtain ⟨b, hb, -⟩ := Option.any_eq_true _ _ |>.mp hb
    simp [hb]
  case false =>
    cases hd : p.bound.isSome && p.hasPending
    case true => rw [switch_of_drain hb hd]; rfl
    case false => rw [switch_of_keep hb hd]; rfl

theorem bound_addLines_isSome (p : Plain) (ls : List String) :
    (p.addLines n t ls).bound.isSome :=
  bound_switch_isSome p

theorem dest_switch_of_exact (ht : ∀ b, sameTarget b t = true → b = t) (p : Plain) :
    (p.switch n t).dest t = t := by
  rw [dest_switch]
  split
  · rename_i hb
    obtain ⟨b, hbound, hsame⟩ := Option.any_eq_true _ _ |>.mp hb
    simp [dest, hbound, ht b hsame]
  · rfl


/-! ## Points taken one at a time -/

/-- A plain state that has taken the points `ps` for `t`, one at a time, in batches of `n`: no
lines wait, the points wait for `t` or for no target yet, each batch handed on is a full batch of
points for `t`, fewer than `n` points wait, and the points handed on, then those waiting, are
`ps`. -/
structure Batched (n : Nat) (t : Target) (ps : List Point) (p : Plain) : Prop where
  lines : p.lines = []
  bound : p.bound = none ∨ p.bound = some t
  full : ∀ h ∈ p.sent, ∃ qs, h = .to t (.points qs) ∧ qs.length = n
  waiting : p.points.length < n
  taken : p.sent.flatMap (·.batch.pointList) ++ p.points = ps

/-- Hand-offs of the points `ps` to `t` in batches of `n`: each a batch of points for `t`, none
empty and none over `n`, all but the last full, their points in order `ps`. -/
structure Batches (n : Nat) (t : Target) (ps : List Point) (hs : List Handoff) : Prop where
  shape : ∀ h ∈ hs, ∃ qs, h = .to t (.points qs) ∧ qs ≠ [] ∧ qs.length ≤ n
  full : ∀ h ∈ hs.dropLast, h.batch.pointList.length = n
  points : hs.flatMap (·.batch.pointList) = ps

theorem Batched.start (hn : 0 < n) : Batched n t [] ⟨[], [], none, []⟩ :=
  ⟨rfl, .inl rfl, by simp, hn, rfl⟩

/-- One more point joins the waiting points and, once they make a batch of `n`, goes with them. -/
theorem Batched.addPoints (ht : sameTarget t t = true) {ps : List Point} {p : Plain}
    (h : Batched n t ps p) (x : Point) : Batched n t (ps ++ [x]) (p.addPoints n t [x]) := by
  have hswitch : p.switch n t = { p with bound := some t } := by
    rcases h.bound with hb | hb
    · exact switch_of_keep (by simp [hb]) (by simp [hb])
    · rw [switch_of_any (by simp [hb, ht])]
      cases p
      simp only at hb
      rw [hb]
  unfold Plain.addPoints
  rw [hswitch]
  dsimp only
  split
  · next hfull =>
    have hlen : p.points.length + 1 = n := by
      have := h.waiting
      simp only [List.length_append, List.length_singleton] at hfull
      omega
    have hflush : flushPoints t ⟨p.lines, p.points ++ [x], some t, p.sent⟩ =
        ⟨p.lines, [], some t, p.sent ++ [.to t (.points (p.points ++ [x]))]⟩ := by
      simp [flushPoints, dest]
    rw [hflush]
    refine ⟨h.lines, .inr rfl, ?_, by simp; omega, ?_⟩
    · intro b hb
      rcases List.mem_append.1 hb with hb | hb
      · exact h.full b hb
      · rw [List.mem_singleton.1 hb]
        exact ⟨p.points ++ [x], rfl, by simpa using hlen⟩
    · simp [← h.taken, Batch.pointList]
  · next hfull =>
    refine ⟨h.lines, .inr rfl, h.full, by simpa using hfull, ?_⟩
    simp only [← h.taken, List.append_assoc]

/-- Draining after points taken one at a time hands them on in batches of `n`. -/
theorem Batched.drain (hn : 0 < n) {ps : List Point} {p : Plain} (h : Batched n t ps p) :
    Batches n t ps (p.drain n t).sent := by
  have hfull : ∀ b ∈ p.sent, ∃ qs, b = .to t (.points qs) ∧ qs ≠ [] ∧ qs.length ≤ n := by
    intro b hb
    obtain ⟨qs, rfl, hqs⟩ := h.full b hb
    exact ⟨qs, rfl, List.ne_nil_of_length_pos (by omega), hqs.le⟩
  have hlength : ∀ b ∈ p.sent, b.batch.pointList.length = n := by
    intro b hb
    obtain ⟨qs, rfl, hqs⟩ := h.full b hb
    exact hqs
  unfold Plain.drain
  rw [drainLines_of_nil h.lines]
  by_cases hp : p.points = []
  · rw [flushPoints_of_nil hp]
    refine ⟨hfull, fun b hb => hlength b (List.dropLast_subset _ hb), ?_⟩
    simpa [hp] using h.taken
  · have hdest : p.dest t = t := by
      rcases h.bound with hb | hb <;> simp [dest, hb]
    simp only [flushPoints, hp, if_false, hdest]
    refine ⟨?_, ?_, ?_⟩
    · intro b hb
      rcases List.mem_append.1 hb with hb | hb
      · exact hfull b hb
      · rw [List.mem_singleton.1 hb]
        exact ⟨p.points, rfl, hp, h.waiting.le⟩
    · rw [List.dropLast_concat]
      exact hlength
    · simpa [Batch.pointList] using h.taken

/-- Batches of points handed on are all written, and together hold every point taken. -/
theorem Batches.written {ps : List Point} {hs : List Handoff} (h : Batches n t ps hs) :
    ((hs.filter Handoff.written).map (·.batch.size)).sum = ps.length := by
  have hall : hs.filter Handoff.written = hs := List.filter_eq_self.2 fun x hx => by
    obtain ⟨qs, rfl, -⟩ := h.shape x hx
    rfl
  rw [hall, ← h.points, List.length_flatMap]
  congr 1
  refine List.map_congr_left fun x hx => ?_
  obtain ⟨qs, rfl, -⟩ := h.shape x hx
  rfl

end Plain

end SeriesImport.Dispatch
