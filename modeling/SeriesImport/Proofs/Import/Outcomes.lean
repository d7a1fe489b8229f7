import Mathlib
import SeriesImport.InputFormat.Step
import SeriesImport.Proofs.Dispatch.Reported
import SeriesImport.Proofs.Import.Unmasked
/-!
# What a step of an import can give

A step of any format fails only with a failure of one operation (`InputFormat.step_single`):
never with a cancellation, which only the token gives, and never with the failures a drain
gathers. The failures come from what a step does with the values of a unit: iterating,
measuring and indexing them, looking up keys, reading numbers and times, growing a head,
building a point. Each operation has its lemma here, and each format's step is assembled from
them.

An action that queues records queues at least one (`InputFormat.step_filled`): a document
whose series or samples give no line asks for nothing instead. And no step touches the records
that wait (`InputFormat.step_keeps`).
-/

namespace SeriesImport

namespace FailsSingly

variable {α : Type}

@[simp] theorem ok_iff (a : α) : FailsSingly (.ok a : Except Error α) ↔ True :=
  iff_true_intro (ok a)

@[simp] theorem error_iff {e : Error} :
    FailsSingly (.error e : Except Error α) ↔ e.single = true :=
  ⟨fun h => h e rfl, of_single⟩

@[simp] theorem pure_iff (a : α) : FailsSingly (pure a : Except Error α) ↔ True := ok_iff a

@[simp] theorem throw_iff {e : Error} :
    FailsSingly (throw e : Except Error α) ↔ e.single = true := error_iff

@[simp] theorem throw_bind_iff {β : Type} {e : Error} (f : α → Except Error β) :
    FailsSingly (throw e >>= f) ↔ e.single = true := error_iff

@[simp] theorem map_iff {β : Type} (f : α → β) (x : Except Error α) :
    FailsSingly (f <$> x) ↔ FailsSingly x := by
  cases x <;> simp [Functor.map, Except.map]

end FailsSingly

/-- An action that queues records queues at least one. -/
def Action.Filled : Action → Prop
  | .lines ls => ls ≠ []
  | .points ps => ps ≠ []
  | .query _ | .noop => True

/-! ## Operations on values -/

namespace Value

theorem iterate_single (v : Value) : FailsSingly v.iterate := by
  cases v <;> simp [iterate, Error.single]

theorem length_single (v : Value) : FailsSingly v.length := by
  cases v <;> simp [length, Error.single]

theorem headLiteral_single (n : Nat) (v : Value) : FailsSingly (v.headLiteral n) := by
  cases v <;> simp [headLiteral, Error.single]

theorem appendText_single (head : Value) (t : String) : FailsSingly (head.appendText t) := by
  cases head <;> simp [appendText, Error.single]

theorem toFloat_single (v : Value) : FailsSingly v.toFloat := by
  cases v with
  | int _ | str _ | bytes _ =>
    simp only [toFloat]
    split <;> simp [Error.single]
  | _ => simp [toFloat, Error.single]

theorem contains_single (container x : Value) : FailsSingly (container.contains x) := by
  cases container with
  | str s => cases x <;> simp [contains, Error.single]
  | set members => exact (requireKey_single x).map _
  | dict entries => exact (requireKey_single x).map _
  | bytes bs =>
    simp only [contains]
    split
    · simp
    · split
      · split <;> simp [Error.single]
      · simp [Error.single]
  | _ => simp [contains, Error.single]

theorem index_single (container key : Value) : FailsSingly (container.index key) := by
  cases container with
  | dict entries =>
    refine (requireKey_single key).bind fun _ => ?_
    cases entryValue? entries key <;> simp [Error.single]
  | list _ | str _ | bytes _ =>
    simp only [index]
    split
    · split <;> simp [Error.single]
    · simp [Error.single]
  | _ => simp [index, Error.single]

theorem textsOf_single (items : List (Value × Nat)) : FailsSingly (textsOf items) := by
  fun_induction textsOf items with
  | case1 => simp
  | case2 s _ rest ih => exact ih.bind fun _ => FailsSingly.ok _
  | case3 => simp [Error.single]

theorem joinWith_single (sep : String) (v : Value) : FailsSingly (v.joinWith sep) := by
  unfold joinWith
  split
  · simp [Error.single]
  · exact (textsOf_single _).bind fun _ => FailsSingly.ok _

theorem intAsFloat_single (n : Int) : FailsSingly (intAsFloat n) := by
  unfold intAsFloat
  split <;> simp [Error.single]

theorem floorDivInt_single (n : Int) (v : Value) : FailsSingly (floorDivInt n v) := by
  cases v with
  | int m | bool m =>
    simp only [floorDivInt]
    split <;> simp [Error.single]
  | float y =>
    refine (intAsFloat_single n).bind fun _ => ?_
    split <;> simp [Error.single]
  | _ => simp [floorDivInt, unsupported, Error.single]

end Value

theorem multiplierOf_single (p : Value) : FailsSingly (multiplierOf p) :=
  (Value.requireKey_single p).bind fun _ => by cases p <;> simp

theorem Settings.timeMultiplier_single (s : Settings) : FailsSingly s.timeMultiplier :=
  (multiplierOf_single _).bind fun o => by cases o <;> simp [Error.single]

theorem Number.truncate_single (x : Float) : FailsSingly (Number.truncate x) := by
  unfold Number.truncate
  split <;> simp [Error.single]

theorem Number.Finite.scale_single (n : Number.Finite) (multiplier : Int) :
    FailsSingly (n.scale multiplier) := by
  cases n with
  | int i => simp [Number.Finite.scale]
  | float x => exact (Number.truncate_single x).map _

theorem Time.parseInstant_single (text : String) : FailsSingly (Time.parseInstant text) := by
  unfold Time.parseInstant
  split
  · simp
  · split
    · simp
    · split
      · dsimp only
        split <;> simp [Error.single]
      · simp

theorem Point.make_single (m : Value) (tags fields : List (Value × Value)) (ts : Value) :
    FailsSingly (Point.make m tags fields ts) := by
  intro e h
  unfold Point.make at h
  repeat' split at h
  all_goals cases h
  all_goals rfl

theorem FieldValue.renderTime_single (v : Option FieldValue) (multiplier : Value) :
    FailsSingly (FieldValue.renderTime v multiplier) := by
  unfold FieldValue.renderTime
  split
  · simp
  · simp
  · refine (Time.parseInstant_single _).bind fun o => ?_
    cases o with
    | none => simp
    | some ns => exact (Value.floorDivInt_single ns multiplier).bind fun _ => FailsSingly.ok _
  · simp

/-! ## Comma-separated rows -/

namespace Csv

theorem positions_single (header : List Value) : FailsSingly (positions header) := by
  refine FailsSingly.foldlM (fun _ p _ => ?_) []
  obtain ⟨name, pos⟩ := p
  exact (Value.requireKey_single name).bind fun _ => FailsSingly.ok _

theorem placeOf_single (pos : List (Value × Nat)) (name : Value) : FailsSingly (placeOf pos name) :=
  (Value.requireKey_single name).bind fun _ => FailsSingly.ok _

theorem mapNames_single (pos : List (Value × Nat)) (names : List Value) (missing : Value → String) :
    FailsSingly (mapNames pos names missing) :=
  FailsSingly.foldlM (fun _ name _ => (placeOf_single pos name).bind fun o => by
    cases o <;> simp [Error.single]) []

theorem tagInFields_single (tags : List Value) (fields : Value) :
    FailsSingly (tagInFields tags fields) := by
  refine FailsSingly.foldlM (fun found name _ => ?_) none
  cases found with
  | some _ => simp
  | none => exact (Value.contains_single fields name).bind fun _ => FailsSingly.ok _

theorem resolveHeader_single (header : List Value) (s : Settings) :
    FailsSingly (resolveHeader header s) := by
  unfold resolveHeader
  refine (positions_single header).bind fun pos => ?_
  refine (Value.iterate_single _).bind fun tags => ?_
  refine (tagInFields_single tags _).bind fun found => ?_
  cases found with
  | some name => simp [Error.single]
  | none =>
    refine (Value.iterate_single _).bind fun _ => (mapNames_single _ _ _).bind fun _ => ?_
    refine (Value.iterate_single _).bind fun _ => (mapNames_single _ _ _).bind fun _ => ?_
    refine (placeOf_single _ _).bind fun tp => ?_
    cases tp <;> simp [Error.single]

theorem dropMark_single (header : List Value) : FailsSingly (dropMark header) := by
  cases header with
  | nil => simp [dropMark]
  | cons first rest =>
    refine (Value.textFor_single _ first).bind fun _ => ?_
    split <;> simp

theorem headerStep_single (unit : Value) (c : Context) (s : Settings) :
    FailsSingly (headerStep unit c s) := by
  unfold headerStep
  refine (Value.iterate_single unit).bind fun _ => (dropMark_single _).bind fun header => ?_
  cases hm : s.measurement.truthy
  · simp [Error.single]
  · simp only [Bool.not_true, Bool.false_eq_true, if_false]
    refine (resolveHeader_single header s).bind fun _ => ?_
    split_ifs <;> simp [Error.single]

theorem cellAt_single (row : Value) (col : Column) : FailsSingly (cellAt row col) := by
  unfold cellAt
  refine (Value.length_single row).bind fun n => ?_
  split
  · exact (Value.joinWith_single _ row).bind fun _ => by simp [Error.single]
  · exact Value.index_single row _

theorem allBlank_single (cells : List Value) : FailsSingly (allBlank cells) := by
  induction cells with
  | nil => simp [allBlank]
  | cons cell rest ih =>
    refine (Value.textFor_single _ cell).bind fun _ => ?_
    split
    · exact ih
    · simp

theorem cellTime_single (cell : String) (multiplier now : Int) :
    FailsSingly (cellTime cell multiplier now) := by
  unfold cellTime
  split
  · exact Number.Finite.scale_single _ multiplier
  · refine (Time.parseInstant_single cell).bind fun o => ?_
    cases o <;> simp

theorem cellsOf_single (row : Value) (m : List (Value × Column)) : FailsSingly (cellsOf row m) := by
  refine FailsSingly.mapM fun p _ => ?_
  obtain ⟨name, col⟩ := p
  exact (cellAt_single row col).bind fun _ => FailsSingly.ok _

theorem rowStep_single (unit : Value) (c : Context) (s : Settings) (now : Int) :
    FailsSingly (rowStep unit c s now) := by
  unfold rowStep
  split
  · simp
  · refine (Value.iterate_single unit).bind fun _ => (allBlank_single _).bind fun _ => ?_
    split
    · simp
    · refine (cellsOf_single unit _).bind fun _ => (cellsOf_single unit _).bind fun _ => ?_
      refine (cellAt_single unit _).bind fun _ => (Settings.timeMultiplier_single s).bind
        fun _ => (Value.textFor_single _ _).bind fun _ => (cellTime_single _ _ _).bind fun _ => ?_
      exact (Point.make_single _ _ _ _).bind fun _ => FailsSingly.ok _

theorem step_single (unit : Value) (c : Context) (s : Settings) (now : Int) :
    FailsSingly (step unit c s now).2 := by
  unfold step
  split
  · have h := headerStep_single unit c s
    split
    · simp
    · next e he => simpa [he] using h
  · exact rowStep_single unit c s now

theorem headerStep_filled {unit : Value} {c c' : Context} {s : Settings} {a : Action}
    (h : headerStep unit c s = .ok (c', a)) : a.Filled := by
  unfold headerStep at h
  simp only [bind, Except.bind, pure, Except.pure] at h
  repeat' split at h
  all_goals cases h
  all_goals trivial

theorem rowStep_filled {unit : Value} {c : Context} {s : Settings} {now : Int} {a : Action}
    (h : rowStep unit c s now = .ok a) : a.Filled := by
  unfold rowStep at h
  simp only [bind, Except.bind, pure, Except.pure] at h
  repeat' split at h
  all_goals cases h
  all_goals simp [Action.Filled]

end Csv

/-! ## Documents -/

namespace Document

theorem itemsOf_single (v : Value) : FailsSingly (itemsOf v) := by
  cases v <;> simp [itemsOf, Error.single]

theorem growHead_single (head : Value) (tags : List (Value × Value)) :
    FailsSingly (growHead head tags) := by
  refine FailsSingly.foldlM (fun h kv _ => ?_) head
  obtain ⟨k, v⟩ := kv
  exact Value.appendText_single h _

theorem growShared_single (c : Context) (s : Settings) (tags : List (Value × Value)) :
    FailsSingly (growShared c s tags).2.2 := by
  have h := growHead_single c.measurement tags
  unfold growShared
  split
  · simp
  · next r _ => simpa using h

theorem rowLine_single (head : Value) (row : List Value) (c : Context) (s : Settings) :
    FailsSingly (rowLine head row c s) := by
  unfold rowLine
  split
  · refine (Settings.timeMultiplier_single s).bind fun _ => ?_
    exact (FieldValue.renderTime_single _ _).bind fun _ => FailsSingly.ok _
  · simp

/-- The failure for a series with no field is one of one operation: an unreadable unit, or the
failure to show the series name. -/
theorem noFields_single (name : Value) : (noFields name).single = true := by
  unfold noFields
  split
  · rfl
  · split
    · rfl
    · next e he => exact Value.headLiteral_single 100 _ e he

theorem seriesLines_single (ms : List (Value × Value)) (head : Value) (c : Context) (s : Settings) :
    FailsSingly (seriesLines ms head c s) := by
  unfold seriesLines
  refine (Value.iterate_single _).bind fun rows => (FailsSingly.mapM fun row _ => ?_).bind
    fun _ => FailsSingly.ok _
  split
  · exact rowLine_single head _ c s
  · simp [Error.single]

/-- What a series step gives: a failure of one operation, or the lines of the series' rows under
a head grown from its name and tags. -/
theorem seriesStep_outcome (record : Value) (c : Context) (s : Settings) :
    (∃ e, (seriesStep record c s).2.2 = .error e ∧ e.single = true) ∨
      ∃ ms head c' s', FailsSingly head ∧
        (seriesStep record c s).2.2 = (head >>= fun h => seriesLines ms h c' s') := by
  cases record with
  | dict ms =>
    simp only [seriesStep]
    generalize (if (memberOr ms "name" .null).truthy then memberOr ms "name" .null
      else c.measurement) = name
    cases hname : name.truthy
    · exact .inl ⟨_, rfl, rfl⟩
    cases hcols : (memberOr ms "columns" (.list [])).iterate with
    | error e => exact .inl ⟨e, rfl, Value.iterate_single _ e hcols⟩
    | ok columns =>
      by_cases hf : (mapColumns columns c).fieldMap = []
      · exact .inl ⟨_, by simp [hf], noFields_single name⟩
      cases htags : itemsOf (memberOr ms "tags" (.dict [])) with
      | error e => exact .inl ⟨e, by simp [hf], itemsOf_single _ e htags⟩
      | ok tags =>
        cases hown : (memberOr ms "name" .null).truthy
        · rcases hg : growShared (mapColumns columns c) s tags with ⟨c', s', head⟩
          refine .inr ⟨ms, head, c', s', ?_, by simp [hf, hg]⟩
          simpa [hg] using growShared_single (mapColumns columns c) s tags
        · exact .inr ⟨ms, growHead (memberOr ms "name" .null) tags, mapColumns columns c, s,
            growHead_single _ tags, by simp [hf]⟩
  | _ => exact .inl ⟨_, rfl, rfl⟩

theorem seriesStep_single (record : Value) (c : Context) (s : Settings) :
    FailsSingly (seriesStep record c s).2.2 := by
  rcases seriesStep_outcome record c s with ⟨e, he, hs⟩ | ⟨ms, head, c', s', hhead, he⟩
  · rw [he]
    exact FailsSingly.of_single hs
  · rw [he]
    exact hhead.bind fun _ => seriesLines_single ms _ c' s'

theorem resultStart_single (c : Context) (s : Settings) : FailsSingly (resultStart c s).2 := by
  unfold resultStart
  split
  · simp [Error.single]
  · dsimp only
    split
    · next e he => simpa using Value.index_single _ _ e he
    · split
      · next e he => simpa using Value.requireKey_single _ e he
      · simp

theorem labelOf_single (metric name : Value) : FailsSingly (labelOf metric name) := by
  cases metric with
  | dict ms => exact (Value.requireKey_single name).bind fun _ => FailsSingly.ok _
  | _ => simp [labelOf, Error.single]

theorem sampleTime_single (v : Value) : FailsSingly (sampleTime v) := by
  unfold sampleTime
  split
  · simp
  · simp [Error.single]
  · simp [Error.single]
  · next e _ _ he => simpa using Value.toFloat_single v e he

theorem sampleLines_single (ms : List (Value × Value)) (head : Value) (c : Context) :
    FailsSingly (sampleLines ms head c) := by
  unfold sampleLines
  split
  · refine (Value.iterate_single _).bind fun samples =>
      (FailsSingly.mapM fun sample _ => ?_).bind fun _ => FailsSingly.ok _
    split
    · exact (sampleTime_single _).bind fun _ => FailsSingly.ok _
    · simp [Error.single]
  · simp [Error.single]

/-- What a result step gives: a failure of one operation, or the lines of the record's samples
under a head grown from the measurement and the tags. -/
theorem resultStep_outcome (record : Value) (c : Context) (s : Settings) :
    (∃ e, (resultStep record c s).2.2 = .error e ∧ e.single = true) ∨
      ∃ ms head c', FailsSingly head ∧
        (resultStep record c s).2.2 = (head >>= fun h => sampleLines ms h c') := by
  cases record with
  | dict ms =>
    simp only [resultStep]
    split
    · next e htags =>
      refine .inl ⟨e, rfl, ?_⟩
      revert htags
      split
      · exact (Value.iterate_single _).bind (fun _ => FailsSingly.mapM fun name _ =>
          (labelOf_single _ name).bind fun _ => FailsSingly.ok _) e
      · exact itemsOf_single _ e
    · next tags _ => exact .inr ⟨ms, _, _, growShared_single c s tags, rfl⟩
  | _ => exact .inl ⟨_, rfl, rfl⟩

theorem resultStep_single (record : Value) (c : Context) (s : Settings) :
    FailsSingly (resultStep record c s).2.2 := by
  rcases resultStep_outcome record c s with ⟨e, he, hs⟩ | ⟨ms, head, c', hhead, he⟩
  · rw [he]
    exact FailsSingly.of_single hs
  · rw [he]
    exact hhead.bind fun _ => sampleLines_single ms _ c'

theorem start_filled (c : Context) (s : Settings) : (start c s).2.Filled := by
  unfold start
  dsimp only
  split <;> trivial

theorem lines_filled (lines : List String) :
    (if lines.isEmpty then Action.noop else .lines lines).Filled := by
  split
  · trivial
  · next h => simpa [Action.Filled] using h

theorem seriesLines_filled {ms : List (Value × Value)} {head : Value} {c : Context} {s : Settings}
    {a : Action} (h : seriesLines ms head c s = .ok a) : a.Filled := by
  obtain ⟨_, -, h⟩ := LineProtocol.bind_eq_ok h
  obtain ⟨lines, -, h⟩ := LineProtocol.bind_eq_ok h
  cases h
  exact lines_filled lines

theorem sampleLines_filled {ms : List (Value × Value)} {head : Value} {c : Context} {a : Action}
    (h : sampleLines ms head c = .ok a) : a.Filled := by
  unfold sampleLines at h
  split at h
  · obtain ⟨_, -, h⟩ := LineProtocol.bind_eq_ok h
    obtain ⟨lines, -, h⟩ := LineProtocol.bind_eq_ok h
    cases h
    exact lines_filled lines
  · cases h

theorem seriesStep_filled {record : Value} {c : Context} {s : Settings} {a : Action}
    (h : (seriesStep record c s).2.2 = .ok a) : a.Filled := by
  rcases seriesStep_outcome record c s with ⟨e, he, -⟩ | ⟨ms, head, c', s', -, he⟩
  · rw [he] at h
    cases h
  · rw [he] at h
    obtain ⟨_, -, h⟩ := LineProtocol.bind_eq_ok h
    exact seriesLines_filled h

theorem resultStep_filled {record : Value} {c : Context} {s : Settings} {a : Action}
    (h : (resultStep record c s).2.2 = .ok a) : a.Filled := by
  rcases resultStep_outcome record c s with ⟨e, he, -⟩ | ⟨ms, head, c', -, he⟩
  · rw [he] at h
    cases h
  · rw [he] at h
    obtain ⟨_, -, h⟩ := LineProtocol.bind_eq_ok h
    exact sampleLines_filled h

theorem resultStart_filled {c : Context} {s : Settings} {a : Action}
    (h : (resultStart c s).2 = .ok a) : a.Filled := by
  unfold resultStart at h
  dsimp only at h
  repeat' split at h
  all_goals cases h
  exact start_filled c s

end Document

/-- A step of any format fails only with a failure of one operation: never with a cancellation,
and never with the failures a drain gathers. -/
theorem InputFormat.step_single (f : InputFormat) (e : Entry) (c : Context) (s : Settings)
    (now : Int) : FailsSingly (f.step e c s now).2.2 := by
  cases f <;> cases e
  case lineProtocol.unit v =>
    simp only [InputFormat.step]
    split
    · simp
    · next err he => simpa using Value.textFor_single _ v err he
  case csv.unit v => exact Csv.step_single v c s now
  case series.unit v => exact Document.seriesStep_single v c s
  case result.arrayStart k => exact Document.resultStart_single c s
  case result.unit v => exact Document.resultStep_single v c s
  all_goals simp [InputFormat.step, Error.single]


/-- An action a step of any format asks for that queues records queues at least one. -/
theorem InputFormat.step_filled {f : InputFormat} {e : Entry} {c : Context} {s : Settings}
    {now : Int} {a : Action} (h : (f.step e c s now).2.2 = .ok a) : a.Filled := by
  cases f
  case lineProtocol =>
    obtain ⟨hlines, hpoints⟩ := InputFormat.step_lineProtocol_action e c s now
    cases a with
    | lines ls => simp [Action.Filled, ← List.length_pos_iff, hlines ls h]
    | points ps => exact absurd h (hpoints ps)
    | query _ | noop => trivial
  all_goals cases e
  case csv.unit v =>
    simp only [InputFormat.step, Csv.step] at h
    split at h
    · split at h
      · next hh => cases h; exact Csv.headerStep_filled hh
      · cases h
    · exact Csv.rowStep_filled h
  case series.arrayStart k =>
    simp only [InputFormat.step] at h
    cases h
    exact Document.start_filled c s
  case series.unit v => exact Document.seriesStep_filled h
  case result.arrayStart k => exact Document.resultStart_filled h
  case result.unit v => exact Document.resultStep_filled h
  case csv.arrayStart k => cases h

theorem InputFormat.step_keeps (f : InputFormat) (e : Entry) (c : Context) (s : Settings)
    (now : Int) : c.Keeps (f.step e c s now).1 := by
  by_cases hf : f = .lineProtocol
  · subst hf
    exact (InputFormat.step_lineProtocol_keeps e c s now).1
  · exact (InputFormat.step_retargets hf e c s now).1.keeps

end SeriesImport
