import Mathlib
import SeriesImport.Dispatch.Batch
import SeriesImport.Proofs.LineProtocol.Points
/-!
# Column records read back as their points

A column write turns points into records, one per measurement, each holding its rows column by
column. Read back row by row (`Record.rows`), a record gives for each row its timestamp and the
value of every tag and field that has one there. For points whose measurement and names are
texts, each name once, the records of a column write read back as the points themselves grouped
by measurement, the measurements in the order they first appear (`groups`), and within a record
the rows in the order of its points.
-/

namespace SeriesImport

@[simp] theorem Value.str_equals_iff (s : String) (v : Value) :
    (Value.str s).equals v = true ↔ v = .str s := by
  rw [Value.equals.eq_4 _ _ (by simp) (by simp) (by simp)]
  cases v <;> simp [Value.isContainer, Value.sameScalar, Value.asInt?]
  exact eq_comm

@[simp] theorem Value.equals_str_iff (v : Value) (s : String) :
    v.equals (.str s) = true ↔ v = .str s := by
  rw [Value.equals.eq_4 _ _ (by simp) (by simp) (by simp)]
  cases v <;> simp [Value.isContainer, Value.sameScalar, Value.asInt?]

theorem Value.str_sameScalar_iff (s : String) (v : Value) :
    Value.sameScalar (.str s) v = true ↔ v = .str s := by
  cases v <;> simp [Value.sameScalar, Value.asInt?]
  exact eq_comm

/-- In entries with text keys, each once, a key has a value exactly when the pair is there. -/
theorem TextKeyed.entryValue?_eq_some {es : List (Value × Value)} (h : TextKeyed es)
    {k v : Value} : entryValue? es k = some v ↔ (k, v) ∈ es := by
  unfold entryValue?
  constructor
  · intro hf
    obtain ⟨e, he, rfl⟩ := Option.map_eq_some_iff.1 hf
    have hm := List.mem_of_find?_eq_some he
    have hk := List.find?_some he
    obtain ⟨t, ht⟩ := h.text e hm
    rw [ht, Value.str_sameScalar_iff] at hk
    have hek : e = (k, e.2) := Prod.ext (ht.trans hk.symm) rfl
    exact hek ▸ hm
  · intro hm
    obtain ⟨t, ht⟩ := h.text _ hm
    cases hf : es.find? (fun e => Value.sameScalar e.1 k) with
    | none =>
      have hno := List.find?_eq_none.1 hf _ hm
      simp only at ht
      simp [ht, Value.str_sameScalar_iff] at hno
    | some e =>
      have hm' := List.mem_of_find?_eq_some hf
      have hk := List.find?_some hf
      obtain ⟨t', ht'⟩ := h.text e hm'
      rw [ht', Value.str_sameScalar_iff] at hk
      have heq : e = (k, v) := List.inj_on_of_nodup_map h.nodup hm' hm (by simp [ht', hk])
      simp [heq]

namespace Dispatch

def AllText (vs : List Value) : Prop := ∀ v ∈ vs, ∃ t, v = .str t

theorem firstSeen_append_singleton (ns : List Value) (n : Value) :
    firstSeen (ns ++ [n]) =
      if (firstSeen ns).any n.equals then firstSeen ns else firstSeen ns ++ [n] := by
  rw [firstSeen, List.foldl_append]
  rfl

/-- Of texts, the first seen are each of them once. -/
theorem firstSeen_text {ns : List Value} (h : AllText ns) :
    (∀ x, x ∈ firstSeen ns ↔ x ∈ ns) ∧ (firstSeen ns).Nodup := by
  induction ns using List.reverseRecOn with
  | nil => simp [firstSeen]
  | append_singleton ns n ih =>
    obtain ⟨hmem, hnd⟩ := ih fun v hv => h v (List.mem_append_left _ hv)
    obtain ⟨t, rfl⟩ := h n (by simp)
    have hany : (firstSeen ns).any (Value.str t).equals = true ↔ Value.str t ∈ ns := by
      rw [List.any_eq_true, ← hmem]
      simp
    rw [firstSeen_append_singleton]
    by_cases hn : Value.str t ∈ ns
    · rw [if_pos (hany.2 hn)]
      refine ⟨fun x => ?_, hnd⟩
      rw [hmem, List.mem_append, List.mem_singleton]
      constructor
      · exact .inl
      · rintro (hx | rfl)
        · exact hx
        · exact hn
    · rw [if_neg (mt hany.1 hn)]
      refine ⟨fun x => by simp [hmem], ?_⟩
      rw [List.nodup_append]
      refine ⟨hnd, by simp, ?_⟩
      intro a ha b hb
      rw [List.mem_singleton] at hb
      rintro rfl
      exact hn (hb ▸ (hmem a).1 ha)

/-- Points grouped by measurement, the measurements in the order they first appear, each with
its points in order. -/
def groups (ps : List Point) : List (Value × List Point) :=
  (firstSeen (ps.map (·.measurement))).map fun m => (m, ps.filter (·.measurement.equals m))

/-- One more point of a text measurement joins the group of its measurement, or starts a new
group at the end. -/
theorem groups_append_singleton {ps : List Point} {p : Point}
    (h : AllText ((ps ++ [p]).map (·.measurement))) :
    groups (ps ++ [p]) =
      if (groups ps).any (·.1.equals p.measurement) then
        (groups ps).map fun (m, qs) => if m.equals p.measurement then (m, qs ++ [p]) else (m, qs)
      else groups ps ++ [(p.measurement, [p])] := by
  obtain ⟨t, ht⟩ := h p.measurement (by simp)
  have hps : AllText (ps.map (·.measurement)) := fun v hv => h v (by simp_all)
  obtain ⟨hmem, -⟩ := firstSeen_text hps
  have hany : (groups ps).any (·.1.equals p.measurement) = true ↔
      Value.str t ∈ ps.map (·.measurement) := by
    simp [groups, ht, ← hmem]
  unfold groups
  rw [List.map_append, List.map_singleton, firstSeen_append_singleton, ht]
  by_cases hn : Value.str t ∈ ps.map (·.measurement)
  · have hseen : (firstSeen (ps.map (·.measurement))).any (Value.str t).equals = true := by
      simpa [List.any_eq_true, hmem] using hn
    rw [if_pos hseen, if_pos (ht ▸ hany.2 hn), List.map_map]
    refine List.map_congr_left fun m hm => ?_
    obtain ⟨s, rfl⟩ := hps m ((hmem m).1 hm)
    by_cases hs : s = t <;> simp [hs, Ne.symm, ht, List.filter_append]
  · have hnew : (firstSeen (ps.map (·.measurement))).any (Value.str t).equals = false := by
      simpa [List.any_eq_true, hmem] using hn
    rw [if_neg (by simp [hnew]), if_neg (by rw [← ht]; exact mt hany.1 hn), List.map_append,
      List.map_singleton]
    congr 1
    · refine List.map_congr_left fun m hm => ?_
      obtain ⟨s, rfl⟩ := hps m ((hmem m).1 hm)
      have hst : s ≠ t := fun hst => hn (hst ▸ (hmem _).1 hm)
      simp [ht, List.filter_append, Ne.symm hst]
    · have hnone : ps.filter (·.measurement.equals (.str t)) = [] := by
        rw [List.filter_eq_nil_iff]
        intro q hq
        simpa using fun hq' => hn (List.mem_map.2 ⟨q, hq, hq'⟩)
      simp [ht, List.filter_append, hnone]

/-- Points that all have one text measurement make one group. -/
theorem groups_of_measurement {ps : List Point} {t : String} (hne : ps ≠ [])
    (h : ∀ p ∈ ps, p.measurement = .str t) : groups ps = [(.str t, ps)] := by
  have hseen : ∀ k, firstSeen (List.replicate (k + 1) (Value.str t)) = [.str t] := by
    intro k
    induction k with
    | zero => simp [firstSeen]
    | succ k ih => rw [List.replicate_succ', firstSeen_append_singleton, ih]; simp
  have hmeasures : ps.map (·.measurement) = List.replicate (ps.length - 1 + 1) (.str t) := by
    rw [Nat.sub_add_cancel (List.length_pos_iff.2 hne), List.eq_replicate_iff]
    exact ⟨by simp, fun v hv => by obtain ⟨p, hp, rfl⟩ := List.mem_map.1 hv; exact h p hp⟩
  have hall : ps.filter (·.measurement.equals (.str t)) = ps :=
    List.filter_eq_self.2 fun p hp => by simp [h p hp]
  simp only [groups, hmeasures, hseen, List.map_singleton, hall]

theorem Value.requireKey_str (s : String) : (Value.str s).requireKey = .ok () := rfl

theorem groupByMeasurement_eq {ps : List Point} (h : AllText (ps.map (·.measurement))) :
    groupByMeasurement ps = .ok (groups ps) := by
  induction ps using List.reverseRecOn with
  | nil => rfl
  | append_singleton ps p ih =>
    obtain ⟨t, ht⟩ := h p.measurement (by simp)
    have hps : AllText (ps.map (·.measurement)) := fun v hv => h v (by simp_all)
    unfold groupByMeasurement at ih ⊢
    rw [List.foldlM_append, ih hps, groups_append_singleton h]
    simp only [bind, Except.bind, List.foldlM_cons, List.foldlM_nil, ht, Value.requireKey_str]
    split_ifs <;> rfl

theorem mapM_eq_ok {α β ε : Type} {f : α → Except ε β} {g : α → β} {l : List α}
    (h : ∀ a ∈ l, f a = .ok (g a)) : l.mapM f = .ok (l.map g) := by
  induction l with
  | nil => rfl
  | cons a l ih =>
    rw [List.mapM_cons, h a (by simp), ih fun b hb => h b (by simp [hb])]
    rfl

/-- Entries with text keys, each once, set one by one after entries with none of their keys, are
appended to them. -/
theorem foldlM_putKeyed {acc es : List (Value × Value)} (h : TextKeyed (acc ++ es)) :
    es.foldlM putKeyed acc = .ok (acc ++ es) := by
  induction es generalizing acc with
  | nil =>
    rw [List.append_nil]
    rfl
  | cons e es ih =>
    obtain ⟨k, v⟩ := e
    obtain ⟨t, rfl⟩ := h.text (k, v) (by simp)
    have hnew : acc.any (fun e => Value.sameScalar e.1 (.str t)) = false := by
      rw [Bool.eq_false_iff]
      intro hany
      obtain ⟨e, he, hs⟩ := List.any_eq_true.1 hany
      rw [Value.sameScalar_str_iff] at hs
      have hnd := h.nodup
      rw [List.map_append, List.nodup_append] at hnd
      exact hnd.2.2 _ (List.mem_map_of_mem he) _ (by simp) hs
    have hput : putKeyed acc (.str t, v) = .ok (acc ++ [(.str t, v)]) := by
      simp [putKeyed, Value.requireKey_str, putEntry, hnew, bind, Except.bind, pure, Except.pure]
    have hrest : TextKeyed ((acc ++ [(.str t, v)]) ++ es) := by simpa using h
    rw [List.foldlM_cons, hput]
    exact (ih hrest).trans (by simp)

theorem RecordLine.ofPoint_keyed {p : Point} (h : p.Keyed) :
    RecordLine.ofPoint p = .ok ⟨p.tags, p.fields, p.timestamp⟩ := by
  have ht : p.tags.foldlM putKeyed [] = .ok p.tags := by
    simpa using foldlM_putKeyed (by simpa using h.tags : TextKeyed ([] ++ p.tags))
  have hf : p.fields.foldlM putKeyed [] = .ok p.fields := by
    simpa using foldlM_putKeyed (by simpa using h.fields : TextKeyed ([] ++ p.fields))
  simp only [RecordLine.ofPoint, RecordLine.make, ht, hf]
  rfl

/-- The cells of columns at row `i`: each column's name with its value there, if it has one. -/
def cellsAt (cols : List (Value × Cells)) (i : Nat) : List (Value × Value) :=
  cols.filterMap fun c => (c.2.values.getD i none).map (c.1, ·)

/-- Row `i` of a record, read back from its columns. -/
def Record.row (r : Record) (i : Nat) : RecordLine :=
  ⟨cellsAt r.tags i, cellsAt r.fields i, r.timestamps.getD i .null⟩

def Record.rows (r : Record) : List RecordLine := (List.range r.rowCount).map r.row

/-- Two rows with the same timestamp and the same value under every tag and every field name. -/
structure RecordLine.Same (a b : RecordLine) : Prop where
  tags : ∀ k, entryValue? a.tags k = entryValue? b.tags k
  fields : ∀ k, entryValue? a.fields k = entryValue? b.fields k
  timestamp : a.timestamp = b.timestamp

/-- Looking up among names, each given its value in `es` if it has one, finds the value in `es`,
when the names are distinct and hold every key of `es`. -/
theorem entryValue?_cells {ns : List Value} {es : List (Value × Value)} (hnd : ns.Nodup) (hes : TextKeyed es) (hsub : ∀ e ∈ es, e.1 ∈ ns) (k : Value) :
    entryValue? (ns.filterMap fun n => (entryValue? es n).map (n, ·)) k = entryValue? es k := by
  set cells := ns.filterMap fun n => (entryValue? es n).map (n, ·) with hcells
  have hmem : ∀ k v, (k, v) ∈ cells ↔ (k, v) ∈ es := by
    intro k v
    rw [hcells, List.mem_filterMap]
    constructor
    · rintro ⟨n, -, hn⟩
      obtain ⟨w, hw, hnw⟩ := Option.map_eq_some_iff.1 hn
      cases hnw
      exact hes.entryValue?_eq_some.1 hw
    · intro hkv
      exact ⟨k, hsub _ hkv, by simp [hes.entryValue?_eq_some.2 hkv]⟩
  have hkeyed : TextKeyed cells := by
    refine ⟨fun e he => ?_, ?_⟩
    · obtain ⟨a, b⟩ := e
      exact hes.text _ ((hmem a b).1 he)
    · rw [hcells, List.map_filterMap]
      refine hnd.filterMap fun a a' b ha ha' => ?_
      simp only [Option.map_map, Function.comp_def, Option.mem_def, Option.map_eq_some_iff] at ha ha'
      obtain ⟨_, -, rfl⟩ := ha
      obtain ⟨_, -, h⟩ := ha'
      exact h.symm
  apply Option.ext
  intro v
  rw [hkeyed.entryValue?_eq_some, hes.entryValue?_eq_some, hmem]

/-- The cells of the columns of rows, at row `i`, are the names first seen over the rows, each
with the value row `i` gives it. -/
theorem cellsAt_columnsOf {lines : List RecordLine} (part : RecordLine → List (Value × Value))
    {i : Nat} (hi : i < lines.length) :
    cellsAt (columnsOf lines part) i =
      (firstSeen (lines.flatMap fun l => (part l).map (·.1))).filterMap
        fun n => (entryValue? (part lines[i]) n).map (n, ·) := by
  simp [cellsAt, columnsOf, List.filterMap_map, List.getD_eq_getElem?_getD, hi]

/-- Row `i` of the columns of rows holds row `i`, when each row's names are texts, each once. -/
theorem columnsOf_lookup {lines : List RecordLine} (part : RecordLine → List (Value × Value))
    (hk : ∀ l ∈ lines, TextKeyed (part l)) {i : Nat} (hi : i < lines.length) (k : Value) :
    entryValue? (cellsAt (columnsOf lines part) i) k = entryValue? (part lines[i]) k := by
  have htext : AllText (lines.flatMap fun l => (part l).map (·.1)) := by
    intro v hv
    obtain ⟨l, hl, hv⟩ := List.mem_flatMap.1 hv
    obtain ⟨e, he, rfl⟩ := List.mem_map.1 hv
    exact (hk l hl).text e he
  obtain ⟨hmem, hnd⟩ := firstSeen_text htext
  rw [cellsAt_columnsOf part hi]
  refine entryValue?_cells hnd (hk _ (List.getElem_mem hi))
    (fun e he => (hmem _).2 ?_) k
  exact List.mem_flatMap.2 ⟨_, List.getElem_mem hi, List.mem_map_of_mem he⟩

/-- A record built from rows whose names are texts, each once, reads back as those rows. -/
theorem build_rows (m : Value) {lines : List RecordLine}
    (hk : ∀ l ∈ lines, TextKeyed l.tags ∧ TextKeyed l.fields) :
    List.Forall₂ RecordLine.Same (Record.build m lines).rows lines := by
  rw [List.forall₂_iff_get]
  refine ⟨by simp [Record.rows, build_rowCount], fun i h₁ h₂ => ?_⟩
  have hi : i < lines.length := h₂
  simp only [List.get_eq_getElem, Record.rows, List.getElem_map, List.getElem_range]
  refine ⟨fun k => ?_, fun k => ?_, ?_⟩
  · exact columnsOf_lookup (·.tags) (fun l hl => (hk l hl).1) hi k
  · exact columnsOf_lookup (·.fields) (fun l hl => (hk l hl).2) hi k
  · simp [Record.row, Record.build, List.getD_eq_getElem?_getD, hi]

/-- Records that read back, record by record and row by row, as points grouped by
measurement. -/
def ReadsBack (recs : List Record) (ps : List Point) : Prop :=
  List.Forall₂ (fun r g => r.measurement = g.1 ∧
    List.Forall₂ (fun row p => row.Same ⟨p.tags, p.fields, p.timestamp⟩) r.rows g.2)
    recs (groups ps)

/-- Points whose measurement and names are texts, each name once, make one record per group of
a measurement, built from the points' own entries. -/
theorem recordsOf_keyed {ps : List Point} (hk : ∀ p ∈ ps, p.Keyed) :
    recordsOf ps = .ok ((groups ps).map fun g =>
      Record.build g.1 (g.2.map fun p => ⟨p.tags, p.fields, p.timestamp⟩)) := by
  have htext : AllText (ps.map (·.measurement)) := by
    intro v hv
    obtain ⟨p, hp, rfl⟩ := List.mem_map.1 hv
    exact (hk p hp).measurement
  have hlines : ∀ g ∈ groups ps, g.2.mapM RecordLine.ofPoint =
      .ok (g.2.map fun p => ⟨p.tags, p.fields, p.timestamp⟩) := by
    intro g hg
    obtain ⟨m, -, rfl⟩ := List.mem_map.1 hg
    exact mapM_eq_ok fun p hp => RecordLine.ofPoint_keyed (hk p (List.mem_filter.1 hp).1)
  simp only [recordsOf, groupByMeasurement_eq htext, bind, Except.bind]
  exact mapM_eq_ok fun g hg => by simp [hlines g hg, pure, Except.pure]

/-- Points whose measurement and names are texts, each name once, make records, and those
records read back as the points grouped by measurement. -/
theorem recordsOf_readsBack {ps : List Point} (hk : ∀ p ∈ ps, p.Keyed) :
    ∃ recs, recordsOf ps = .ok recs ∧ ReadsBack recs ps := by
  refine ⟨_, recordsOf_keyed hk, ?_⟩
  unfold ReadsBack
  rw [List.forall₂_map_left_iff, List.forall₂_same]
  intro g hg
  obtain ⟨m, -, rfl⟩ := List.mem_map.1 hg
  refine ⟨rfl, ?_⟩
  rw [← List.forall₂_map_right_iff]
  exact build_rows m fun l hl => by
    obtain ⟨p, hp, rfl⟩ := List.mem_map.1 hl
    have hp := hk p (List.mem_filter.1 hp).1
    exact ⟨hp.tags, hp.fields⟩

end Dispatch

end SeriesImport
