import Mathlib
import SeriesImport.Csv.Step
import SeriesImport.Proofs.Dispatch.Columns
/-!
# Steps of a comma-separated import

A header of texts resolves to tag and field columns named by texts, each name once, and to a time
column, all at places in the header (`resolveHeader_named`). The header step then sets up the
context for the data and asks for the database (`headerStep_ok`).

A data row read under that context becomes nothing when all its cells are blank
(`rowStep_blank`), a failure that shows the row when it lacks a cell at one of the resolved
columns (`rowStep_short`), and otherwise one point: the cells at the tag and field columns under
their names, at the time its time cell gives (`rowStep_point`).
-/

namespace SeriesImport.Csv

open SeriesImport.Dispatch (AllText)
open SeriesImport.LineProtocol (bind_eq_ok)

theorem foldlM_invariant {α β ε : Type} {f : β → α → Except ε β} (P : β → Prop) {xs : List α}
    {b r : β} (hb : P b) (hstep : ∀ b x b', x ∈ xs → P b → f b x = .ok b' → P b')
    (h : xs.foldlM f b = .ok r) : P r := by
  induction xs generalizing b with
  | nil =>
    cases h
    exact hb
  | cons x xs ih =>
    rw [List.foldlM_cons] at h
    obtain ⟨b', hb', h⟩ := bind_eq_ok h
    exact ih (hstep b x b' (by simp) hb hb') (fun c y c' hy => hstep c y c' (by simp [hy])) h

/-! ## Resolving a header -/

/-- Columns named by texts, each name once, at places in a header. -/
structure Named (m : List (Value × Column)) : Prop where
  text : ∀ e ∈ m, ∃ t, e.1 = .str t
  nodup : (m.map Prod.fst).Nodup
  placed : ∀ e ∈ m, 0 ≤ e.2.pos

theorem Named.nil : Named [] := ⟨by simp, by simp, by simp⟩

/-- Setting the column of a text name keeps the names texts, each once, at places. -/
theorem Named.putColumn {m : List (Value × Column)} (h : Named m) (t : String) {c : Column}
    (hc : 0 ≤ c.pos) : Named (putColumn m (.str t) c) := by
  unfold Csv.putColumn
  split
  · refine ⟨?_, ?_, ?_⟩
    · intro e he
      obtain ⟨⟨k, d⟩, he', rfl⟩ := List.mem_map.1 he
      dsimp only
      split
      · next hk => exact ⟨t, (Value.equals_str_iff _ _).1 hk⟩
      · exact h.text _ he'
    · rw [List.map_map]
      convert h.nodup using 2
      funext e
      simp only [Function.comp_apply]
      split <;> rfl
    · intro e he
      obtain ⟨⟨k, d⟩, he', rfl⟩ := List.mem_map.1 he
      dsimp only
      split
      · exact hc
      · exact h.placed _ he'
  · next hany =>
    have hnew : ∀ e ∈ m, e.1 ≠ .str t := fun e he hk =>
      hany (List.any_eq_true.2 ⟨e, he, by simp [hk]⟩)
    refine ⟨?_, ?_, ?_⟩
    · intro e he
      rcases List.mem_append.1 he with he | he
      · exact h.text e he
      · exact ⟨t, by rw [List.mem_singleton.1 he]⟩
    · rw [List.map_append, List.nodup_append]
      refine ⟨h.nodup, by simp, ?_⟩
      intro a ha b hb
      obtain ⟨e, he, rfl⟩ := List.mem_map.1 ha
      rw [List.map_singleton, List.mem_singleton] at hb
      exact hb ▸ hnew e he
    · intro e he
      rcases List.mem_append.1 he with he | he
      · exact h.placed e he
      · rw [List.mem_singleton.1 he]
        exact hc

/-- The names a header places are its own names. -/
theorem positions_mem {header : List Value} {pos : List (Value × Nat)}
    (h : positions header = .ok pos) : ∀ e ∈ pos, e.1 ∈ header := by
  refine foldlM_invariant (fun acc => ∀ e ∈ acc, e.1 ∈ header) (by simp) ?_ h
  rintro acc ⟨name, p⟩ acc' hx hacc hstep
  obtain ⟨-, -, hstep⟩ := bind_eq_ok hstep
  cases hstep
  split
  · exact hacc
  · intro e he
    rcases List.mem_append.1 he with he | he
    · exact hacc e he
    · rw [List.mem_singleton.1 he]
      exact List.fst_mem_of_mem_zipIdx hx

/-- A name found among text names is a text. -/
theorem placeOf_text {pos : List (Value × Nat)} (hpos : ∀ e ∈ pos, ∃ t, e.1 = .str t)
    {name : Value} {p : Nat} (h : placeOf pos name = .ok (some p)) : ∃ t, name = .str t := by
  unfold placeOf at h
  obtain ⟨-, -, h⟩ := bind_eq_ok h
  cases hf : pos.find? (·.1.equals name) with
  | none =>
    rw [hf] at h
    cases h
  | some e =>
    obtain ⟨t, ht⟩ := hpos e (List.mem_of_find?_eq_some hf)
    have he := List.find?_some hf
    rw [ht] at he
    exact ⟨t, (Value.str_equals_iff _ _).1 he⟩

/-- The columns of configured names found among text names are named by texts, each once. -/
theorem mapNames_named {pos : List (Value × Nat)} (hpos : ∀ e ∈ pos, ∃ t, e.1 = .str t)
    {names : List Value} {missing : Value → String} {m : List (Value × Column)}
    (h : mapNames pos names missing = .ok m) : Named m := by
  refine foldlM_invariant Named Named.nil ?_ h
  intro acc name acc' _ hacc hstep
  obtain ⟨found, hfound, hstep⟩ := bind_eq_ok hstep
  cases found with
  | none => cases hstep
  | some p =>
    obtain ⟨t, rfl⟩ := placeOf_text hpos hfound
    cases hstep
    exact hacc.putColumn t (by simp)

theorem Named.foldl_putColumn {m : List (Value × Column)} (h : Named m)
    {rest : List (Value × Nat)} (hrest : ∀ e ∈ rest, ∃ t, e.1 = .str t) :
    Named (rest.foldl (fun m (e : Value × Nat) => Csv.putColumn m e.1 ⟨e.1, e.2⟩) m) := by
  induction rest generalizing m with
  | nil => exact h
  | cons e rest ih =>
    obtain ⟨t, ht⟩ := hrest e (by simp)
    have hnext : Named (Csv.putColumn m e.1 ⟨e.1, e.2⟩) := by
      rw [ht]
      exact h.putColumn t (by simp)
    exact ih hnext fun e he => hrest e (by simp [he])

/-- A header of texts resolves to tag and field columns named by texts, each once, and a time
column, all at places in the header. -/
theorem resolveHeader_named {header : List Value} {s : Settings} {tags fields : List (Value × Column)}
    {time : Column} (hh : AllText header) (h : resolveHeader header s = .ok (tags, fields, time)) :
    Named tags ∧ Named fields ∧ 0 ≤ time.pos := by
  unfold resolveHeader at h
  obtain ⟨pos, hpos, h⟩ := bind_eq_ok h
  have hnames : ∀ e ∈ pos, ∃ t, e.1 = .str t := fun e he => hh e.1 (positions_mem hpos e he)
  obtain ⟨tagNames, -, h⟩ := bind_eq_ok h
  obtain ⟨found, -, h⟩ := bind_eq_ok h
  cases found with
  | some name =>
    obtain ⟨_, hthrow, -⟩ := bind_eq_ok h
    cases hthrow
  | none =>
    obtain ⟨tagNames', -, h⟩ := bind_eq_ok h
    obtain ⟨tagMap, htags, h⟩ := bind_eq_ok h
    obtain ⟨fieldNames, -, h⟩ := bind_eq_ok h
    obtain ⟨fieldMap, hfields, h⟩ := bind_eq_ok h
    obtain ⟨place, -, h⟩ := bind_eq_ok h
    cases place with
    | none => cases h
    | some tp =>
      cases h
      refine ⟨mapNames_named hnames htags, ?_, by simp⟩
      split
      · exact mapNames_named hnames hfields
      · exact (mapNames_named hnames hfields).foldl_putColumn fun e he =>
          hnames e (List.mem_filter.1 he).1

/-- Dropping the byte order marks of a header of texts leaves texts. -/
theorem dropMark_text {header : List String} {marked : List Value}
    (h : dropMark (header.map .str) = .ok marked) : AllText marked := by
  cases header with
  | nil =>
    cases h
    simp [AllText]
  | cons first rest =>
    simp only [List.map_cons, dropMark] at h
    obtain ⟨t, ht, h⟩ := bind_eq_ok h
    cases ht
    split at h
    · cases h
      simp [AllText]
    · cases h
      simp [AllText]

theorem dropMark_unmarked {t : String} {rest : List Value} (h : t.startsWith "﻿" = false) :
    dropMark (.str t :: rest) = .ok (.str t :: rest) := by
  simp only [dropMark, Value.textFor, bind, Except.bind, h, Bool.false_eq_true, if_false]
  rfl

/-- A header of texts that resolves, its marks dropped, to some field, under settings that name a
measurement and a database, sets up the context for the data and asks to create the database. -/
theorem headerStep_ok {header : List String} {marked : List Value} {c : Context} {s : Settings}
    {tags fields : List (Value × Column)} {time : Column}
    (hmark : dropMark (header.map .str) = .ok marked) (hmeasure : s.measurement.truthy = true)
    (hh : resolveHeader marked s = .ok (tags, fields, time)) (hfields : fields ≠ [])
    (hdb : s.database.truthy = true) :
    headerStep (.list (header.map .str)) c s = .ok ({ c with
      tagMap := tags, fieldMap := fields, timeField := time, measurement := s.measurement
      database := s.database
      retentionPolicy := if s.retentionPolicy.truthy then s.retentionPolicy else .str "autogen"
      phase := .dml }, .query ("CREATE DATABASE " ++ s.database.display)) := by
  simp [headerStep, iterate_list, hmark, hmeasure, hh, hfields, hdb, bind, Except.bind, pure,
    Except.pure]

/-! ## Data rows -/

def isBlankRow (row : List String) : Bool := row.all fun cell => (Text.strip cell).isEmpty

/-- Whether a row has a cell at each of some columns. -/
def reaches (cols : List Column) (row : List String) : Bool :=
  cols.all fun col => col.pos < row.length

/-- The cells of a row at some named columns, under their names. -/
def cellsIn (row : List String) (m : List (Value × Column)) : List (Value × Value) :=
  m.map fun e => (e.1, .str (row.getD e.2.pos.toNat ""))

/-- The columns a data row is read at: the tag columns, the field columns and the time column. -/
def rowColumns (tags fields : List (Value × Column)) (time : Column) : List Column :=
  tags.map (·.2) ++ fields.map (·.2) ++ [time]

theorem allBlank_texts (row : List String) : allBlank (row.map .str) = .ok (isBlankRow row) := by
  induction row with
  | nil => rfl
  | cons cell row ih =>
    by_cases hc : (Text.strip cell).isEmpty <;>
      simp [allBlank, isBlankRow, Value.textFor, hc, ih, bind, Except.bind, pure, Except.pure]

theorem textsOf_texts (row : List String) (k : Nat) :
    Value.textsOf ((row.map .str).zipIdx k) = .ok row := by
  induction row generalizing k with
  | nil => rfl
  | cons cell row ih => simp [List.zipIdx_cons, Value.textsOf, ih, bind, Except.bind, pure, Except.pure]

theorem cellAt_reached {row : List String} {col : Column} (h0 : 0 ≤ col.pos)
    (h : col.pos < row.length) :
    cellAt (.list (row.map .str)) col = .ok (.str (row.getD col.pos.toNat "")) := by
  have hle : ¬ (row.length : Int) ≤ col.pos := by omega
  have hneg : ¬ col.pos < 0 := by omega
  have hi : col.pos.toNat < row.length := by omega
  simp [cellAt, Value.length, Value.index, Value.asInt?, placeIn, hle, hneg, h0, h, hi, bind,
    Except.bind, List.getD_eq_getElem?_getD]

theorem cellAt_short {row : List String} {col : Column} (h : row.length ≤ col.pos) :
    ∃ msg, cellAt (.list (row.map .str)) col = .error (.parse msg none (",".intercalate row)) := by
  simp [cellAt, Value.length, h, Value.joinWith, Value.iterate, textsOf_texts, bind, Except.bind,
    pure, Except.pure, throw, throwThe, MonadExceptOf.throw]

theorem cellsOf_reached {row : List String} {m : List (Value × Column)}
    (h : ∀ e ∈ m, 0 ≤ e.2.pos ∧ e.2.pos < row.length) :
    cellsOf (.list (row.map .str)) m = .ok (cellsIn row m) := by
  unfold cellsOf cellsIn
  refine Dispatch.mapM_eq_ok fun e he => ?_
  obtain ⟨h0, hlt⟩ := h e he
  simp [cellAt_reached h0 hlt, bind, Except.bind, pure, Except.pure]

/-- Named columns of which one is past the end of a row fail, showing the row. -/
theorem cellsOf_short {row : List String} {m : List (Value × Column)}
    (h0 : ∀ e ∈ m, 0 ≤ e.2.pos) (h : ∃ e ∈ m, row.length ≤ e.2.pos) :
    ∃ msg, cellsOf (.list (row.map .str)) m = .error (.parse msg none (",".intercalate row)) := by
  induction m with
  | nil => simp at h
  | cons e m ih =>
    unfold cellsOf
    rw [List.mapM_cons]
    by_cases he : row.length ≤ e.2.pos
    · obtain ⟨msg, hmsg⟩ := cellAt_short he
      exact ⟨msg, by simp [hmsg, bind, Except.bind]⟩
    · have hrest : ∃ e ∈ m, row.length ≤ e.2.pos := by
        obtain ⟨e', he', hle⟩ := h
        rcases List.mem_cons.1 he' with rfl | he'
        · exact absurd hle he
        · exact ⟨e', he', hle⟩
      obtain ⟨msg, hmsg⟩ := ih (fun e' he' => h0 e' (by simp [he'])) hrest
      unfold cellsOf at hmsg
      have hfirst := cellAt_reached (h0 e (by simp)) (show e.2.pos < row.length by omega)
      refine ⟨msg, ?_⟩
      rw [hmsg]
      simp [hfirst, bind, Except.bind, pure, Except.pure]

section Rows

variable {row : List String} {c : Context} {s : Settings} {now : Int}

theorem truthy_of_not_blank (hb : isBlankRow row = false) :
    (Value.list (row.map .str)).truthy = true := by
  cases row with
  | nil => simp [isBlankRow] at hb
  | cons cell row => rfl

theorem rowStep_blank (h : isBlankRow row = true) :
    rowStep (.list (row.map .str)) c s now = .ok .noop := by
  simp [rowStep, iterate_list, allBlank_texts, h, bind, Except.bind, pure, Except.pure]

/-- A row that is not blank and lacks a cell at some resolved column fails, showing the row. -/
theorem rowStep_short
    (hplaced : ∀ col ∈ rowColumns c.tagMap c.fieldMap c.timeField, 0 ≤ col.pos)
    (hb : isBlankRow row = false)
    (hr : reaches (rowColumns c.tagMap c.fieldMap c.timeField) row = false) :
    ∃ msg, rowStep (.list (row.map .str)) c s now =
      .error (.parse msg none (",".intercalate row)) := by
  have hne := truthy_of_not_blank hb
  have htagCol : ∀ e ∈ c.tagMap, e.2 ∈ rowColumns c.tagMap c.fieldMap c.timeField :=
      fun e he => by
    simp only [rowColumns, List.mem_append, List.mem_map]
    exact .inl (.inl ⟨e, he, rfl⟩)
  have hfieldCol : ∀ e ∈ c.fieldMap, e.2 ∈ rowColumns c.tagMap c.fieldMap c.timeField :=
      fun e he => by
    simp only [rowColumns, List.mem_append, List.mem_map]
    exact .inl (.inr ⟨e, he, rfl⟩)
  by_cases ht : ∃ e ∈ c.tagMap, row.length ≤ e.2.pos
  · obtain ⟨msg, hmsg⟩ := cellsOf_short (fun e he => hplaced e.2 (htagCol e he)) ht
    exact ⟨msg, by simp [rowStep, iterate_list, allBlank_texts, hb, hne, hmsg, bind, Except.bind]⟩
  have htags : cellsOf (.list (row.map .str)) c.tagMap = .ok (cellsIn row c.tagMap) :=
    cellsOf_reached fun e he =>
      ⟨hplaced e.2 (htagCol e he), by simpa using fun h => ht ⟨e, he, h⟩⟩
  by_cases hf : ∃ e ∈ c.fieldMap, row.length ≤ e.2.pos
  · obtain ⟨msg, hmsg⟩ := cellsOf_short (fun e he => hplaced e.2 (hfieldCol e he)) hf
    exact ⟨msg, by
      simp [rowStep, iterate_list, allBlank_texts, hb, hne, htags, hmsg, bind, Except.bind]⟩
  have hfields : cellsOf (.list (row.map .str)) c.fieldMap = .ok (cellsIn row c.fieldMap) :=
    cellsOf_reached fun e he =>
      ⟨hplaced e.2 (hfieldCol e he), by simpa using fun h => hf ⟨e, he, h⟩⟩
  have htime : row.length ≤ c.timeField.pos := by
    obtain ⟨col, hcol, hle⟩ := List.all_eq_false.1 hr
    simp only [rowColumns, List.mem_append, List.mem_map, List.mem_singleton] at hcol
    rcases hcol with (⟨e, he, rfl⟩ | ⟨e, he, rfl⟩) | rfl
    · exact absurd ⟨e, he, by simpa using hle⟩ ht
    · exact absurd ⟨e, he, by simpa using hle⟩ hf
    · simpa using hle
  obtain ⟨msg, hmsg⟩ := cellAt_short htime
  exact ⟨msg, by
    simp [rowStep, iterate_list, allBlank_texts, hb, hne, htags, hfields, hmsg, bind, Except.bind]⟩

/-- A row that is not blank and has a cell at every resolved column is one point: the cells at
the tag and field columns under their names, at the time of its time cell. -/
theorem rowStep_point {m t : Int}
    (hplaced : ∀ col ∈ rowColumns c.tagMap c.fieldMap c.timeField, 0 ≤ col.pos)
    (hb : isBlankRow row = false)
    (hr : reaches (rowColumns c.tagMap c.fieldMap c.timeField) row = true)
    (hmult : s.timeMultiplier = .ok m)
    (ht : cellTime (row.getD c.timeField.pos.toNat "") m now = .ok t)
    (hmeasure : c.measurement.truthy = true) (hfields : c.fieldMap ≠ []) :
    rowStep (.list (row.map .str)) c s now =
      .ok (.points [⟨c.measurement, cellsIn row c.tagMap, cellsIn row c.fieldMap, .int t⟩]) := by
  have hne := truthy_of_not_blank hb
  have hcol : ∀ col ∈ rowColumns c.tagMap c.fieldMap c.timeField,
      0 ≤ col.pos ∧ col.pos < row.length := fun col hc =>
    ⟨hplaced col hc, by simpa using List.all_eq_true.1 hr col hc⟩
  have htags : cellsOf (.list (row.map .str)) c.tagMap = .ok (cellsIn row c.tagMap) :=
    cellsOf_reached fun e he => hcol e.2 (by
      simp only [rowColumns, List.mem_append, List.mem_map]
      exact .inl (.inl ⟨e, he, rfl⟩))
  have hfieldCells : cellsOf (.list (row.map .str)) c.fieldMap = .ok (cellsIn row c.fieldMap) :=
    cellsOf_reached fun e he => hcol e.2 (by
      simp only [rowColumns, List.mem_append, List.mem_map]
      exact .inl (.inr ⟨e, he, rfl⟩))
  have htime := cellAt_reached (hcol c.timeField (by simp [rowColumns])).1
    (hcol c.timeField (by simp [rowColumns])).2
  have hmake : Point.make c.measurement (cellsIn row c.tagMap) (cellsIn row c.fieldMap) (.int t) =
      .ok ⟨c.measurement, cellsIn row c.tagMap, cellsIn row c.fieldMap, .int t⟩ := by
    simp [Point.make, hmeasure, cellsIn, hfields]
  rw [List.getD_eq_getElem?_getD] at ht
  simp [rowStep, iterate_list, allBlank_texts, hb, hne, htags, hfieldCells, htime, hmult,
    Value.textFor, ht, hmake, bind, Except.bind, pure, Except.pure]

end Rows

end SeriesImport.Csv
