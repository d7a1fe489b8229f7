import Mathlib
import SeriesImport.Proofs.Dispatch.Reported
import SeriesImport.Proofs.Import.Flow
import SeriesImport.Proofs.LineProtocol.Directives
/-!
# No failed drain is lost in an import

An add of records first switches the dispatcher to the context's target, draining what waits for
another target; when that drain fails and a flush of the full batches after it fails too, the
drain's failures are lost (`Session.Unmasked`). An import never gets there. An import of line
protocol queues one line at a time, and nothing waits when a single line fills a batch
(`Session.SingleFlushed`). Every other format sets its target from the settings, so records
wait only for the context's target (`Session.Bound`) and no switch drains anything.

`Guard f settings` says which of the two an import in format `f` keeps. Every step of a unit
keeps it (`Guard.step`), and so does every add (`addLines_guard`, `addPoints_guard`).
-/

namespace SeriesImport

open Dispatch Std.Do

set_option mvcgen.warning false

/-! ## Targets -/

theorem samePart_self (a : Value) : samePart a a = true := by
  unfold samePart
  cases a.equals a <;> simp

theorem sameTarget_self (t : Value × Value) : sameTarget t t = true := by
  simp [sameTarget, samePart_self]

/-- The target the settings name: their database, and their retention policy or `autogen`. -/
def Settings.target (s : Settings) : Value × Value :=
  (s.database, if s.retentionPolicy.truthy then s.retentionPolicy else .str "autogen")

/-- A step from `c` to `c'` that keeps the waiting records and their target, and leaves the
context's target as it was or makes it the one the settings name. -/
structure Context.Retargets (S : Settings) (c c' : Context) : Prop where
  keeps : c.Keeps c'
  target : c'.target = c.target ∨ c'.target = S.target

theorem Context.Retargets.refl (S : Settings) (c : Context) : c.Retargets S c :=
  ⟨⟨rfl, rfl, rfl⟩, .inl rfl⟩

theorem Context.Keeps.trans {c c1 c2 : Context} (h1 : c.Keeps c1) (h2 : c1.Keeps c2) :
    c.Keeps c2 :=
  ⟨h2.1.trans h1.1, h2.2.1.trans h1.2.1, h2.2.2.trans h1.2.2⟩

theorem Context.Retargets.of_target {S : Settings} {c c' : Context} (hk : c.Keeps c')
    (ht : c'.target = c.target) : c.Retargets S c' :=
  ⟨hk, .inl ht⟩

/-! ## What a step does to the target -/

namespace Csv

theorem headerStep_retargets {unit : Value} {c c' : Context} {s : Settings} {a : Action}
    (h : headerStep unit c s = .ok (c', a)) : c.Retargets s c' := by
  unfold headerStep at h
  simp only [bind, Except.bind, pure, Except.pure] at h
  repeat' split at h
  all_goals cases h
  all_goals exact ⟨⟨rfl, rfl, rfl⟩, .inr (by simp_all [Context.target, Settings.target])⟩

/-- A comma-separated step keeps the context but at a header, which takes the settings'
target. -/
theorem step_retargets (v : Value) (c : Context) (s : Settings) (now : Int) :
    c.Retargets s (step v c s now).1 := by
  unfold step
  split
  · split
    · next c' a h => exact headerStep_retargets h
    · exact .refl s c
  · exact .refl s c

end Csv

namespace Document

theorem mapColumns_keeps (names : List Value) (c : Context) :
    c.Keeps (mapColumns names c) ∧ (mapColumns names c).target = c.target := by
  unfold mapColumns
  generalize names.zipIdx = l
  have hk : c.Keeps c.resetColumns := ⟨rfl, rfl, rfl⟩
  have ht : c.resetColumns.target = c.target := rfl
  generalize c.resetColumns = c0 at hk ht ⊢
  induction l generalizing c0 with
  | nil => exact ⟨hk, ht⟩
  | cons p l ih =>
    obtain ⟨v, pos⟩ := p
    rw [List.foldl_cons]
    by_cases hv : (v.display == "time") = true
    · simp only [hv, if_true]
      exact ih _ hk ht
    · simp only [hv, Bool.false_eq_true, if_false]
      exact ih _ hk ht

theorem growShared_retargets {c c1 : Context} {s : Settings} (tags : List (Value × Value))
    (hk : c.Keeps c1) (ht : c1.target = c.target) :
    c.Retargets s (growShared c1 s tags).1 ∧ (growShared c1 s tags).2.1.target = s.target := by
  unfold growShared
  split
  · exact ⟨.of_target hk ht, rfl⟩
  · exact ⟨.of_target hk ht, rfl⟩

theorem seriesStep_retargets (v : Value) (c : Context) (s : Settings) :
    c.Retargets s (seriesStep v c s).1 ∧ (seriesStep v c s).2.1.target = s.target := by
  unfold seriesStep
  dsimp only
  repeat' split
  all_goals first
    | exact ⟨.refl s c, rfl⟩
    | exact ⟨.of_target ⟨rfl, rfl, rfl⟩ rfl, rfl⟩
    | exact ⟨.of_target (mapColumns_keeps _ c).1 (mapColumns_keeps _ c).2, rfl⟩
    | exact growShared_retargets _ (mapColumns_keeps _ c).1 (mapColumns_keeps _ c).2

theorem resultStep_retargets (v : Value) (c : Context) (s : Settings) :
    c.Retargets s (resultStep v c s).1 ∧ (resultStep v c s).2.1.target = s.target := by
  unfold resultStep
  dsimp only
  repeat' split
  all_goals first
    | exact ⟨.refl s c, rfl⟩
    | exact growShared_retargets _ ⟨rfl, rfl, rfl⟩ rfl

theorem resultStart_retargets (c : Context) (s : Settings) : c.Retargets s (resultStart c s).1 := by
  unfold resultStart
  dsimp only
  repeat' split
  all_goals first
    | exact .refl s c
    | exact ⟨⟨rfl, rfl, rfl⟩, .inr rfl⟩

end Document

/-- Outside line protocol, a step keeps the waiting records and either keeps the context's target
or takes the settings' one; no step changes the target the settings name. -/
theorem InputFormat.step_retargets {f : InputFormat} (hf : f ≠ .lineProtocol) (e : Entry)
    (c : Context) (s : Settings) (now : Int) :
    c.Retargets s (f.step e c s now).1 ∧ (f.step e c s now).2.1.target = s.target := by
  cases f with
  | lineProtocol => exact absurd rfl hf
  | csv => cases e <;> exact ⟨by first | exact Csv.step_retargets _ c s now | exact .refl s c, rfl⟩
  | series =>
    cases e with
    | arrayStart k => exact ⟨⟨⟨rfl, rfl, rfl⟩, .inr rfl⟩, rfl⟩
    | unit v => exact Document.seriesStep_retargets v c s
  | result =>
    cases e with
    | arrayStart k => exact ⟨Document.resultStart_retargets c s, rfl⟩
    | unit v => exact Document.resultStep_retargets v c s

theorem InputFormat.step_lineProtocol_keeps (e : Entry) (c : Context) (s : Settings) (now : Int) :
    c.Keeps (InputFormat.lineProtocol.step e c s now).1 ∧
      (InputFormat.lineProtocol.step e c s now).2.1 = s := by
  cases e with
  | arrayStart k => exact ⟨⟨rfl, rfl, rfl⟩, rfl⟩
  | unit v =>
    simp only [InputFormat.step]
    split
    · exact ⟨LineProtocol.step_keeps _ c, rfl⟩
    · exact ⟨⟨rfl, rfl, rfl⟩, rfl⟩

theorem InputFormat.step_target (f : InputFormat) (e : Entry) (c : Context) (s : Settings)
    (now : Int) : (f.step e c s now).2.1.target = s.target := by
  by_cases hf : f = .lineProtocol
  · subst hf
    rw [(InputFormat.step_lineProtocol_keeps e c s now).2]
  · exact (InputFormat.step_retargets hf e c s now).2

/-- A line protocol step asks for at most one line at a time, and never for points. -/
theorem InputFormat.step_lineProtocol_action (e : Entry) (c : Context) (s : Settings) (now : Int) :
    (∀ ls, (InputFormat.lineProtocol.step e c s now).2.2 = .ok (.lines ls) → ls.length = 1) ∧
      ∀ ps, (InputFormat.lineProtocol.step e c s now).2.2 ≠ .ok (.points ps) := by
  cases e with
  | arrayStart k => exact ⟨(fun _ h => by cases h), (fun _ h => by cases h)⟩
  | unit v =>
    simp only [InputFormat.step]
    split
    · simp only [LineProtocol.step]
      refine ⟨fun ls h => ?_, fun ps h => ?_⟩ <;> (repeat' split at h) <;> cases h
      rfl
    · exact ⟨(fun _ h => by cases h), (fun _ h => by cases h)⟩

/-! ## The guards -/

namespace Dispatch

theorem SameAs.sameTarget {p t : Target} (h : SameAs p t) : sameTarget p t = true := by
  rcases h with rfl | h
  · exact sameTarget_self p
  · exact h

/-- The waiting records, if any, wait for a target that stands for the context's. -/
def Session.Bound (s : Session) : Prop :=
  ∀ p, s.context.pendingTarget = some p → SameAs p s.context.target

theorem Session.Bound.drainsOnSwitch {s : Session} (h : s.Bound) : s.drainsOnSwitch = false := by
  unfold Session.drainsOnSwitch
  cases hp : s.context.pendingTarget with
  | none => simp
  | some p => simp [(h p hp).sameTarget]

theorem Session.Bound.unmasked {s : Session} (h : s.Bound) (k : Nat) : s.Unmasked k :=
  fun hd => absurd hd (by simp [h.drainsOnSwitch])

/-- Whether a single record fills a batch. -/
def Session.FillsOne (s : Session) : Prop := (Value.int 1).ge s.dispatcher.batchSize = .ok true

theorem Session.fillsOne_congr {s0 s : Session}
    (h : s.dispatcher.batchSize = s0.dispatcher.batchSize) : s.FillsOne ↔ s0.FillsOne := by
  unfold Session.FillsOne
  rw [h]

def Session.Clear (s : Session) : Prop :=
  s.context.pendingLines = [] ∧ s.context.pendingPoints = []

/-- When a single record fills a batch, no record waits. -/
def Session.SingleFlushed (s : Session) : Prop := s.FillsOne → s.Clear

/-- A single record added to a session where nothing waits when it fills a batch is never added
after a failed drain it would mask. -/
theorem Session.SingleFlushed.unmasked {s : Session} (h : s.SingleFlushed) : s.Unmasked 1 := by
  unfold Session.Unmasked Session.shortOf
  intro hd _ hfill
  have hpend : s.context.hasPending = true := by
    simp only [Session.drainsOnSwitch, Bool.and_eq_true] at hd
    exact hd.2
  obtain ⟨hl, hp⟩ := h hfill
  simp [Context.hasPending, hl, hp] at hpend

/-- Outside line protocol: the waiting records wait for the context's target, and that target is
the one the settings `S` name once a database is named or records wait. -/
def Session.Settled (S : Settings) (s : Session) : Prop :=
  s.Bound ∧ (s.context.database.truthy = true → s.context.target = S.target) ∧
    (s.context.pendingTarget.isSome = true → s.context.target = S.target)

/-- A step that keeps the waiting records and keeps the target or takes the settings' one keeps a
settled session settled. -/
theorem Session.Settled.step {S S' : Settings} {s : Session} {c : Context} (hs : s.Settled S)
    (hr : s.context.Retargets S c) (hS : S'.target = S.target) :
    ({ s with context := c } : Session).Settled S' := by
  obtain ⟨hbound, hdb, hpend⟩ := hs
  obtain ⟨⟨-, -, hpt⟩, ht⟩ := hr
  simp only [Session.Settled, Session.Bound, hS]
  rcases ht with ht | ht
  · have hdb' : c.database = s.context.database := congrArg Prod.fst ht
    refine ⟨fun p hp => ?_, fun h => ?_, fun h => ?_⟩
    · rw [ht]
      exact hbound p (hpt ▸ hp)
    · rw [ht]
      exact hdb (hdb' ▸ h)
    · rw [ht]
      exact hpend (hpt ▸ h)
  · refine ⟨fun p hp => ?_, fun _ => ht, fun _ => ht⟩
    rw [ht, ← hpend (by simp [← hpt, hp])]
    exact hbound p (hpt ▸ hp)

/-- `s` follows `s0` by an add: the context's target as it was, and the waiting records waiting
for the target they waited for, or for one that stands for the context's. -/
structure Retained (s0 s : Session) : Prop where
  target : s.context.target = s0.context.target
  bound : s.context.pendingTarget = s0.context.pendingTarget ∨
    ∃ p, s.context.pendingTarget = some p ∧ SameAs p s.context.target

theorem Flushed.retained {s0 s : Session} (h : Flushed s0 s) : Retained s0 s :=
  ⟨h.target, .inl h.pendingTarget⟩

theorem Flushed.retained_switched {s0 s1 s2 s : Session} (hf : Flushed s2 s) (hs : Switched s0 s1)
    (ht : s2.context.target = s1.context.target)
    (hp : s2.context.pendingTarget = s1.context.pendingTarget) : Retained s0 s := by
  obtain ⟨p, hbound, hsame⟩ := hs.bound
  refine ⟨hf.target.trans (ht.trans hs.target), .inr ⟨p, ?_, ?_⟩⟩
  · rw [hf.pendingTarget]
    exact hp.trans hbound
  · rw [hf.target, ht]
    exact hsame

/-- An add keeps the context's target, and the records that wait after it wait for the target
they waited for or for one that stands for the context's. -/
theorem addLines_retained (ls : List String) (s0 : Session) :
    ⦃fun s => ⌜s = s0⌝⦄ addLines ls
    ⦃post⟨fun _ s => ⌜Retained s0 s⌝, fun _ s => ⌜Retained s0 s⌝⟩⦄ := by
  mvcgen [addLines, -addLines_spec]
  all_goals subst_vars
  case vc1 => exact .rfl
  case vc5 => exact fun _ hf => hf.retained
  all_goals obtain ⟨-, hsw⟩ := ‹_ ∧ Switched _ _›
  case vc2 | vc3 =>
    rename_i hf
    exact hf.retained_switched hsw rfl rfl
  case vc4 => exact fun hf => hf.retained_switched hsw rfl rfl

theorem addPoints_retained (ps : List Point) (s0 : Session) :
    ⦃fun s => ⌜s = s0⌝⦄ addPoints ps
    ⦃post⟨fun _ s => ⌜Retained s0 s⌝, fun _ s => ⌜Retained s0 s⌝⟩⦄ := by
  mvcgen [addPoints, -addPoints_spec]
  all_goals subst_vars
  case vc7 => exact fun _ hf => hf.retained
  all_goals obtain ⟨-, hsw⟩ := ‹_ ∧ Switched _ _›
  case vc1 | vc2 =>
    rename_i hf
    exact hf.1.retained_switched hsw rfl rfl
  case vc3 => exact fun hf _ _ => hf.retained_switched hsw rfl rfl
  case vc4 | vc5 => exact Flushed.rfl.retained_switched hsw rfl rfl
  case vc6 =>
    rintro rfl
    exact Flushed.rfl.retained_switched hsw rfl rfl

theorem Session.Settled.retained {S : Settings} {s0 s : Session} (hs : s0.Settled S)
    (hdb : s0.context.database.truthy = true) (h : Retained s0 s) : s.Settled S := by
  have ht : s.context.target = S.target := h.target.trans (hs.2.1 hdb)
  refine ⟨fun p hp => ?_, fun _ => ht, fun _ => ht⟩
  rcases h.bound with hpt | ⟨q, hq, hsame⟩
  · rw [h.target]
    exact hs.1 p (hpt ▸ hp)
  · rw [hp] at hq
    cases hq
    exact hsame

/-! ## One line at a time -/

/-- With nothing waiting, a switch of target drains nothing: it only records the context's
target. -/
theorem switchTarget_idle (s0 : Session) :
    ⦃fun s => ⌜s = s0 ∧ s0.context.hasPending = false⌝⦄ switchTarget
    ⦃post⟨fun r s => ⌜r = none ∧ s.context.pendingLines = s0.context.pendingLines ∧
        s.context.pendingPoints = s0.context.pendingPoints ∧ s.dispatcher = s0.dispatcher⌝,
      fun _ _ => ⌜False⌝⟩⦄ := by
  mvcgen [switchTarget, -switchTarget_admits_spec]
  all_goals obtain ⟨rfl, hidle⟩ := ‹_ = s0 ∧ _›
  case vc1 | vc5 => exact ⟨trivial, rfl, rfl, rfl⟩
  all_goals simp +zetaDelta [hidle] at ‹(_ && _) = true›

theorem Sent.single {s0 s : Session} {n : Nat} {b : Batch} {err : Option Error}
    (h : Sent { s0 with context := { s0.context with
      pendingLines := s0.context.pendingLines.drop n } } s b err)
    (hn : 0 < n) (hlen : s0.context.pendingLines.length ≤ 1) :
    s.context.pendingLines = [] ∧ s.context.pendingPoints = s0.context.pendingPoints ∧
      s.dispatcher.batchSize = s0.dispatcher.batchSize := by
  refine ⟨?_, by simp [h.context], h.batchSize⟩
  rw [h.context, List.drop_eq_nil_iff]
  omega

/-- A flush of at most one waiting line leaves none waiting, unless it fails before it sends. -/
theorem flushLines_single (s0 : Session) :
    ⦃fun s => ⌜s = s0 ∧ s0.dispatcher.BatchOk ∧ s0.context.pendingLines.length ≤ 1⌝⦄ flushLines
    ⦃post⟨fun _ s => ⌜s.context.pendingLines = [] ∧
        s.context.pendingPoints = s0.context.pendingPoints ∧
        s.dispatcher.batchSize = s0.dispatcher.batchSize⌝,
      fun e s => ⌜e.gathered = true → s.context.pendingLines = [] ∧
        s.context.pendingPoints = s0.context.pendingPoints ∧
        s.dispatcher.batchSize = s0.dispatcher.batchSize⌝⟩⦄ := by
  mvcgen [flushLines, checkToken, liftResult, -flushLines_spec, -liftResult_spec]
  all_goals obtain ⟨rfl, hok, hlen⟩ := ‹_ = s0 ∧ _›
  case vc1 => exact ⟨List.isEmpty_iff.mp ‹_›, rfl, rfl⟩
  case vc2 => exact fun h => h.single (hok _ ‹_›) hlen
  case vc3 => exact fun h _ => h.single (hok _ ‹_›) hlen
  case vc4 => exact fun hg => absurd hg (by simp [sliceBound_gathered ‹_›])
  case vc5 => exact fun hg => absurd hg (by simp [Token.check_gathered ‹_›])

/-- Flushing full batches, when a single line fills one, from at most one waiting line and no
waiting point leaves nothing waiting, unless it fails with a failure no drain gathers. -/
theorem flushFull_single (fuel : Nat) {B : Value} (hfill : (Value.int 1).ge B = .ok true)
    (hok : ∀ n, sliceBound B = .ok n → 0 < n) :
    ⦃fun s => ⌜s.dispatcher.batchSize = B ∧ s.context.pendingPoints = [] ∧
      s.context.pendingLines.length ≤ 1 ∧ (s.context.pendingLines ≠ [] → 0 < fuel)⌝⦄
    flushFull fuel
    ⦃post⟨fun _ s => ⌜s.dispatcher.batchSize = B ∧ s.Clear⌝,
      fun e s => ⌜e.gathered = true → s.dispatcher.batchSize = B ∧ s.Clear⌝⟩⦄ := by
  induction fuel with
  | zero =>
    mvcgen [flushFull, -flushFull_spec]
    obtain ⟨hB, hp, -, hfuel⟩ := ‹_ ∧ _›
    exact ⟨hB, by simpa using hfuel, hp⟩
  | succ fuel ih =>
    mvcgen [flushFull, fills, liftResult, -fills_spec, -liftResult_spec, -flushLines_spec,
      -flushFull_spec, flushLines_single, ih]
    all_goals obtain ⟨hB, hp, hlen, -⟩ := ‹_ = B ∧ _›
    case vc1 =>
      refine ⟨trivial, ?_, hlen⟩
      unfold Dispatcher.BatchOk
      rw [hB]
      exact hok
    case vc2 =>
      obtain ⟨hl, hp', hbs⟩ := ‹_ = [] ∧ _›
      exact ⟨hbs.trans hB, hp'.trans hp, by simp [hl], by simp [hl]⟩
    case vc3 =>
      intro h hg
      obtain ⟨hl, hp', hbs⟩ := h hg
      exact ⟨hbs.trans hB, hl, hp'.trans hp⟩
    case vc4 =>
      refine ⟨hB, ?_, hp⟩
      rcases Nat.le_one_iff_eq_zero_or_eq_one.mp hlen with h0 | h1
      · exact List.eq_nil_of_length_eq_zero h0
      · have hge := ‹(Value.int _).ge _ = Except.ok _›
        simp only [h1, hB, Nat.cast_one, hfill, Except.ok.injEq] at hge
        exact absurd hge.symm ‹_›
    case vc5 =>
      obtain ⟨hsingle, hforeign⟩ := Value.ge_error ‹_›
      intro hg
      rw [Error.gathered_of_single hsingle, hforeign] at hg
      cases hg

/-- A single line added when one fills a batch and nothing waits leaves nothing waiting, unless
the add fails with a failure no drain gathers. -/
theorem addLines_fillsOne (l : String) (s0 : Session) (hfill : s0.FillsOne)
    (hok : s0.dispatcher.BatchOk) :
    ⦃fun s => ⌜s = s0 ∧ s0.Clear⌝⦄ addLines [l]
    ⦃post⟨fun _ s => ⌜s.Clear⌝, fun e s => ⌜e.gathered = true → s.Clear⌝⟩⦄ := by
  have hflush := fun fuel => flushFull_single fuel hfill hok
  mvcgen [addLines, -addLines_spec, -switchTarget_admits_spec, -flushFull_spec, switchTarget_idle,
    hflush]
  all_goals obtain ⟨rfl, hl0, hp0⟩ := ‹_ = s0 ∧ s0.Clear›
  case vc1 => exact ⟨trivial, by simp [Context.hasPending, hl0, hp0]⟩
  case vc2 =>
    obtain ⟨-, hl, hp, hd⟩ := ‹_ = none ∧ _›
    simp +zetaDelta [hl, hp, hd, hl0, hp0]
  case vc3 =>
    obtain ⟨rfl, -⟩ := ‹_ = none ∧ _›
    cases ‹none = some _›
  case vc4 => exact ‹_ ∧ _›.2
  case vc5 => exact fun h hg => (h hg).2

/-- A single line added to a session where nothing waits when one line fills a batch leaves it
so, unless the add fails with a failure no drain gathers. -/
theorem addLines_singleFlushed (l : String) (s0 : Session) :
    ⦃fun s => ⌜s = s0 ∧ s0.SingleFlushed ∧ s0.dispatcher.BatchOk⌝⦄ addLines [l]
    ⦃post⟨fun _ s => ⌜s.SingleFlushed⌝, fun e s => ⌜e.gathered = true → s.SingleFlushed⌝⟩⦄ := by
  apply Triple.of_outcome
  rintro s ⟨rfl, hsf, hok⟩
  by_cases hfill : s.FillsOne
  · have h := Triple.outcome (addLines_fillsOne l s hfill hok) ⟨rfl, hsf hfill⟩
    split at h
    · exact fun _ => h
    · exact fun hg _ => h hg
  · have h := Triple.outcome (addLines_spec [l] s) rfl
    split at h
    · exact fun hfill' => absurd ((Session.fillsOne_congr h.2.batchSize).mp hfill') hfill
    · exact fun _ hfill' => absurd ((Session.fillsOne_congr h.batchSize).mp hfill') hfill

end Dispatch

/-! ## The guard of an import -/

/-- What an import in format `f` under the settings `S` keeps between its units: in line protocol
nothing waits when a single line fills a batch, and in every other format the session is
settled. -/
def Guard (f : InputFormat) (S : Settings) (s : Session) : Prop :=
  match f with
  | .lineProtocol => s.SingleFlushed
  | .csv | .series | .result => s.Settled S

theorem Guard.settled {f : InputFormat} (hf : f ≠ .lineProtocol) {S : Settings} {s : Session} :
    Guard f S s ↔ s.Settled S := by
  cases f
  · exact absurd rfl hf
  all_goals exact Iff.rfl

/-- The guard reads only the context and the batch size. -/
theorem Guard.congr {f : InputFormat} {S : Settings} {s0 s : Session} (h : Guard f S s0)
    (hc : s.context = s0.context) (hd : s.dispatcher.batchSize = s0.dispatcher.batchSize) :
    Guard f S s := by
  cases f
  case lineProtocol =>
    intro hfill
    have hclear := h ((Session.fillsOne_congr hd).mp hfill)
    unfold Session.Clear at hclear ⊢
    rwa [hc]
  all_goals
    unfold Guard Session.Settled Session.Bound at h ⊢
    rwa [hc]

theorem Guard.retarget {f : InputFormat} {S S' : Settings} {s : Session} (h : Guard f S s)
    (hS : S'.target = S.target) : Guard f S' s := by
  cases f
  case lineProtocol => exact h
  all_goals
    unfold Guard Session.Settled at h ⊢
    rwa [hS]

theorem Guard.step {f : InputFormat} {S : Settings} {s : Session} (h : Guard f S s) (e : Entry) :
    Guard f (f.step e s.context S s.now).2.1
      { s with context := (f.step e s.context S s.now).1 } := by
  by_cases hf : f = .lineProtocol
  · subst hf
    obtain ⟨⟨hl, hp, -⟩, -⟩ := InputFormat.step_lineProtocol_keeps e s.context S s.now
    intro hfill
    obtain ⟨hl0, hp0⟩ := h hfill
    exact ⟨hl.trans hl0, hp.trans hp0⟩
  · obtain ⟨hr, hS⟩ := InputFormat.step_retargets hf e s.context S s.now
    exact (Guard.settled hf).2 (((Guard.settled hf).1 h).step hr hS)

/-- Lines a unit adds, one at a time in line protocol, never follow a failed drain they would
mask. -/
theorem Guard.unmasked_lines {f : InputFormat} {S : Settings} {s : Session} (h : Guard f S s)
    {ls : List String} (hls : f = .lineProtocol → ls.length = 1) : s.Unmasked ls.length := by
  by_cases hf : f = .lineProtocol
  · subst hf
    rw [hls rfl]
    exact Session.SingleFlushed.unmasked h
  · exact ((Guard.settled hf).1 h).1.unmasked _

/-- Points, which only formats other than line protocol add, never follow a failed drain they
would mask. -/
theorem Guard.unmasked_points {f : InputFormat} {S : Settings} {s : Session} (h : Guard f S s)
    (hf : f ≠ .lineProtocol) (k : Nat) : s.Unmasked k :=
  ((Guard.settled hf).1 h).1.unmasked k

/-- An add of the lines of a unit, to a session whose database is named, keeps the guard, unless
it fails with a failure no drain gathers. -/
theorem addLines_guard {f : InputFormat} {S : Settings} {ls : List String}
    (hls : f = .lineProtocol → ls.length = 1) (s0 : Session) :
    ⦃fun s => ⌜s = s0 ∧ Guard f S s0 ∧ s0.dispatcher.BatchOk ∧
      s0.context.database.truthy = true⌝⦄ addLines ls
    ⦃post⟨fun _ s => ⌜Guard f S s⌝, fun e s => ⌜e.gathered = true → Guard f S s⌝⟩⦄ := by
  apply Triple.of_outcome
  rintro s ⟨rfl, hg, hok, hdb⟩
  by_cases hf : f = .lineProtocol
  · subst hf
    obtain ⟨l, rfl⟩ := List.length_eq_one_iff.mp (hls rfl)
    exact Triple.outcome (addLines_singleFlushed l s) ⟨rfl, hg, hok⟩
  · have h := Triple.outcome (addLines_retained ls s) rfl
    have hset := (Guard.settled hf).1 hg
    split at h
    · exact (Guard.settled hf).2 (hset.retained hdb h)
    · exact fun _ => (Guard.settled hf).2 (hset.retained hdb h)

/-- An add of the points of a unit, outside line protocol and to a session whose database is
named, keeps the guard. -/
theorem addPoints_guard {f : InputFormat} {S : Settings} (hf : f ≠ .lineProtocol)
    (ps : List Point) (s0 : Session) :
    ⦃fun s => ⌜s = s0 ∧ Guard f S s0 ∧ s0.context.database.truthy = true⌝⦄ addPoints ps
    ⦃post⟨fun _ s => ⌜Guard f S s⌝, fun e s => ⌜e.gathered = true → Guard f S s⌝⟩⦄ := by
  apply Triple.of_outcome
  rintro s ⟨rfl, hg, hdb⟩
  have h := Triple.outcome (addPoints_retained ps s) rfl
  have hset := (Guard.settled hf).1 hg
  split at h
  · exact (Guard.settled hf).2 (hset.retained hdb h)
  · exact fun _ => (Guard.settled hf).2 (hset.retained hdb h)

end SeriesImport
