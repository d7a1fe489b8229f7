import Mathlib
import SeriesImport.Document.Series
import SeriesImport.Proofs.LineProtocol.Forms
import SeriesImport.Proofs.Number.Whole
import SeriesImport.Proofs.Csv.Header
import SeriesImport.Proofs.Time.Instant
import SeriesImport.Proofs.Dispatch.Columns
/-!
# Series rows read back from their lines

A series record names a series, its tags, its columns and its rows, and each row becomes one line
of line protocol. Reading such a line gives back the series name, the tags in order, one field
for each distinct column name other than `time`, in the order the names first occur, read from
the row at the last place of the name (`rowFields`), and the time of the row's cell in the last
`time` column (`cellTime`).

A field is read back as the text its value is written as, without the quotes of a text or of a
missing value (`fieldText`). The time is an integer cell times the multiplier, a whole double
times the multiplier, an RFC 3339 instant rounded down to whole units of the multiplier, and
the clock for anything else. A whole double comes back as the whole number its shortest digits
write: `1e23` comes back as `10^23`, not as the `99999999999999991611392` the double holds.

The line holds the texts as they stand when the name, the tag keys and values and the column
names have no comma, equal sign, space, backslash, double quote or square bracket, and the name
starts with neither `#` nor a blank, which the reader would drop; text cells must have no
backslash or double quote.
-/

namespace SeriesImport.Document

open SeriesImport.LineProtocol SeriesImport.Number SeriesImport.Text SeriesImport.Dispatch

/-! ## The columns of a series -/

/-- The last place of a name among the columns. -/
def lastPlace (cols : List String) (x : String) : Nat := cols.length - 1 - cols.reverse.idxOf x

theorem lastPlace_append_singleton (cols : List String) (y x : String) :
    lastPlace (cols ++ [y]) x = if x = y then cols.length else lastPlace cols x := by
  unfold lastPlace
  rw [List.reverse_append, List.reverse_singleton, List.singleton_append, List.idxOf_cons]
  by_cases h : x = y
  · subst h
    simp
  · have hne : (y == x) = false := beq_false_of_ne (Ne.symm h)
    simp only [hne, cond_false, h, if_false, List.length_append, List.length_singleton]
    omega

/-- The names of the field columns: every column name but `time`, each once, in the order the
names first occur. -/
def fieldNames (cols : List String) : List String := (cols.filter (· != "time")).eraseDups

theorem mem_fieldNames {cols : List String} {x : String} :
    x ∈ fieldNames cols ↔ x ∈ cols ∧ x ≠ "time" := by
  simp [fieldNames, List.mem_eraseDups]

theorem fieldNames_ne_nil {cols : List String} (h : ∃ x ∈ cols, x ≠ "time") :
    fieldNames cols ≠ [] := by
  obtain ⟨x, hx, hxt⟩ := h
  exact List.ne_nil_of_mem (mem_fieldNames.2 ⟨hx, hxt⟩)

/-- The field columns: each field name, at the last place it has. -/
def fieldColumns (cols : List String) : List (Value × Column) :=
  (fieldNames cols).map fun x => (.str x, ⟨.str x, lastPlace cols x⟩)

/-- The time column: the last column named `time`, or none. -/
def timeColumn (cols : List String) : Column :=
  if "time" ∈ cols then ⟨.str "time", lastPlace cols "time"⟩ else Column.none

theorem fieldColumns_append_time (cols : List String) :
    fieldColumns (cols ++ ["time"]) = fieldColumns cols := by
  have hnames : fieldNames (cols ++ ["time"]) = fieldNames cols := by
    simp [fieldNames, List.filter_append]
  rw [fieldColumns, fieldColumns, hnames]
  refine List.map_congr_left fun x hx => ?_
  rw [lastPlace_append_singleton, if_neg (mem_fieldNames.1 hx).2]

theorem timeColumn_append_time (cols : List String) :
    timeColumn (cols ++ ["time"]) = ⟨.str "time", cols.length⟩ := by
  simp [timeColumn, lastPlace_append_singleton]

theorem timeColumn_append_field (cols : List String) {y : String} (hy : y ≠ "time") :
    timeColumn (cols ++ [y]) = timeColumn cols := by
  have hmem : "time" ∈ cols ++ [y] ↔ "time" ∈ cols := by simp [Ne.symm hy]
  simp only [timeColumn, hmem, lastPlace_append_singleton, if_neg (Ne.symm hy)]

/-- A field name sets its column at its new last place, keeping the place of a name seen
before, or adds it at the end. -/
theorem putColumn_fieldColumns (cols : List String) {y : String} (hy : y ≠ "time") :
    putColumn (fieldColumns cols) y ⟨.str y, cols.length⟩ = fieldColumns (cols ++ [y]) := by
  have hany : ((fieldColumns cols).any fun e => e.1.equals (.str y)) =
      decide (y ∈ fieldNames cols) := by
    rw [Bool.eq_iff_iff, List.any_eq_true, decide_eq_true_iff]
    simp [fieldColumns]
  have hfilter : (cols ++ [y]).filter (· != "time") = cols.filter (· != "time") ++ [y] := by
    simp [List.filter_append, hy]
  have hnames : fieldNames (cols ++ [y]) =
      if y ∈ fieldNames cols then fieldNames cols else fieldNames cols ++ [y] := by
    rw [fieldNames, hfilter, Csv.eraseDups_append_singleton]
    simp [fieldNames, List.mem_eraseDups]
  unfold putColumn
  rw [hany, fieldColumns, fieldColumns, hnames]
  by_cases h : y ∈ fieldNames cols
  · simp only [h, decide_true, if_true, List.map_map]
    refine List.map_congr_left fun x _ => ?_
    by_cases hx : x = y
    · subst hx
      simp [Csv.str_equals_str, lastPlace_append_singleton]
    · simp [Csv.str_equals_str, hx, lastPlace_append_singleton]
  · simp only [h, decide_false, Bool.false_eq_true, if_false, List.map_append, List.map_singleton]
    rw [lastPlace_append_singleton, if_pos rfl]
    congr 1
    refine List.map_congr_left fun x hx => ?_
    rw [lastPlace_append_singleton, if_neg (fun (he : x = y) => h (he ▸ hx))]

/-- The columns of a series of text names: the field columns and the time column. -/
theorem mapColumns_texts (cols : List String) (c : Context) :
    (mapColumns (cols.map .str) c).fieldMap = fieldColumns cols ∧
      (mapColumns (cols.map .str) c).timeField = timeColumn cols := by
  unfold mapColumns
  induction cols using List.reverseRecOn with
  | nil => simp [Context.resetColumns, fieldColumns, fieldNames, timeColumn]
  | append_singleton cols y ih =>
    rw [List.map_append, List.map_singleton, List.zipIdx_append, List.foldl_append]
    obtain ⟨hf, ht⟩ := ih
    generalize List.foldl _ c.resetColumns ((cols.map Value.str).zipIdx) = c' at hf ht ⊢
    simp only [List.zipIdx_cons, List.zipIdx_nil, List.foldl_cons, List.foldl_nil, zero_add,
      List.length_map, Value.display]
    by_cases hy : y = "time"
    · subst hy
      simp only [beq_self_eq_true, if_true]
      exact ⟨by rw [fieldColumns_append_time, hf], by rw [timeColumn_append_time]⟩
    · simp only [beq_iff_eq, hy, if_false]
      exact ⟨by rw [hf, putColumn_fieldColumns cols hy],
        by rw [timeColumn_append_field cols hy, ht]⟩

/-! ## The values of a row -/

/-- A row's value at a place, as a field value. -/
def cellValue (row : List Value) (p : Nat) : Option FieldValue := row[p]?.bind FieldValue.ofValue?

/-- The text a field value is read back as from its line: the text it is written as, without the
quotes of a text or of a missing value. -/
def fieldText : Option FieldValue → String
  | some (.str s) => s
  | none => ""
  | v => FieldValue.render v

/-- The fields a row's line is read back as: each field name with the text of the row's value
at the name's last place. -/
def rowFields (cols : List String) (row : List Value) : List (String × String) :=
  (fieldNames cols).map fun x => (x, fieldText (cellValue row (lastPlace cols x)))

/-- The time cell of a row: its value in the last column named `time`, if there is one. -/
def timeCell (cols : List String) (row : List Value) : Option FieldValue :=
  if "time" ∈ cols then cellValue row (lastPlace cols "time") else none

/-- The time an instant text stands for at a multiplier: the instant rounded down to whole units
of the multiplier, or the clock when the text names none. -/
def instantTime (s : String) (mult now : Int) : Int :=
  match Time.parseInstant s with
  | .ok (some ns) => ns.fdiv mult * mult
  | _ => now

theorem instantTime_of_some {s : String} {ns : Int} (h : Time.parseInstant s = .ok (some ns))
    (mult now : Int) : instantTime s mult now = ns.fdiv mult * mult := by
  unfold instantTime
  split
  · next ns' h' => rw [h] at h'; cases h'; rfl
  · next hne => exact absurd h (hne ns)

theorem instantTime_of_none {s : String} (h : Time.parseInstant s = .ok none) (mult now : Int) :
    instantTime s mult now = now := by
  unfold instantTime
  split
  · next ns h' => rw [h] at h'; cases h'
  · rfl

/-- The time a row's time cell stands for once its line is read at a multiplier: an integer
times the multiplier, a double as the whole number its shortest digits write times the
multiplier, an instant in whole units of the multiplier, and otherwise the clock. -/
def cellTime (v : Option FieldValue) (mult now : Int) : Int :=
  match v with
  | some (.int i) => i * mult
  | some (.float x) => (Binary.ofFloat x).shortestWhole * mult
  | some (.str s) => instantTime s mult now
  | _ => now

/-- A time cell whose line is read back: an integer of at most 4300 digits, a double that holds a
whole number, a text that names no instant outside the years 1 to 9999. -/
def TimeCellOk : Option FieldValue → Prop
  | some (.int i) => (toString i.natAbs).length ≤ Number.intDigitLimit
  | some (.float x) => (Binary.ofFloat x).Whole
  | some (.str s) => ∀ e, Time.parseInstant s ≠ .error e
  | _ => True

/-! ## Written values -/

/-- A text of digits, signs, points and the letters of `nan`, `inf`, `true` and `false` is a
field value written bare. -/
theorem fieldForm_bare {t : String} (hne : t.toList ≠ [])
    (ht : ∀ c ∈ t.toList,
      c.isDigit ∨ c ∈ ['-', '.', 'n', 'a', 'i', 'f', 't', 'r', 'u', 'e', 'l', 's']) :
    FieldForm t.toList t := by
  have hletters : ∀ c ∈ ['-', '.', 'n', 'a', 'i', 'f', 't', 'r', 'u', 'e', 'l', 's'],
      c ∉ [',', '[', ']', '\\', '"'] ∧ isBlank c = false := by
    simp [isBlank]
  have h := FieldForm.bare hne fun c hc => by
    rcases ht c hc with hd | hl
    · refine ⟨fun hbad => ?_, isBlank_of_isDigit hd⟩
      simp only [List.mem_cons, List.not_mem_nil, or_false] at hbad
      rcases hbad with rfl | rfl | rfl | rfl | rfl <;> simp at hd
    · exact hletters c hl
  rwa [String.ofList_toList] at h

/-- A field value is written in a form that reads back as its text, when a text in it has no
backslash or double quote. -/
theorem render_fieldForm {v : Option FieldValue}
    (hv : ∀ s, v = some (.str s) → ∀ c ∈ s.toList, c ≠ '\\' ∧ c ≠ '"') :
    FieldForm (FieldValue.render v).toList (fieldText v) := by
  match v with
  | none =>
    have h : FieldForm ('"' :: ([] : List Char) ++ ['"']) (String.ofList []) := .quoted (by simp)
    simpa [FieldValue.render, fieldText] using h
  | some (.str s) =>
    have h : FieldForm ('"' :: s.toList ++ ['"']) (String.ofList s.toList) := .quoted (hv s rfl)
    simpa [FieldValue.render, fieldText] using h
  | some (.float x) =>
    obtain ⟨hne, hchars⟩ := plain_write_chars x
    exact fieldForm_bare hne fun c hc => by
      rcases hchars c hc with h | h
      · exact .inl h
      · simp only [List.mem_cons, List.not_mem_nil, or_false] at h ⊢
        tauto
  | some (.int i) =>
    obtain ⟨sign, hsign, htext, -⟩ := toList_toString_int i
    show FieldForm (toString i).toList (toString i)
    refine fieldForm_bare
      (by rw [htext]; exact List.append_ne_nil_of_right_ne_nil _ Nat.toDigits_ne_nil) fun c hc => ?_
    rw [htext] at hc
    rcases List.mem_append.1 hc with hc | hc
    · simp only [List.mem_cons, List.not_mem_nil, or_false] at hsign
      rcases hsign with rfl | rfl <;> simp_all
    · exact .inl (Nat.isDigit_of_mem_toDigits (by decide) (by decide) hc)
  | some (.bool b) =>
    cases b <;> exact fieldForm_bare (by simp [FieldValue.render]) (by simp [FieldValue.render])

theorem digitsValue_toDigits_zeros (d z : Nat) :
    digitsValue (Nat.toDigits 10 d ++ List.replicate z '0') = d * 10 ^ z := by
  rw [digitsValue_eq, Nat.ofDigitChars_append, Nat.ofDigitChars_ten_toDigits]
  induction z with
  | zero => simp [Nat.ofDigitChars]
  | succ z ih =>
    rw [List.replicate_succ', Nat.ofDigitChars_append, ih]
    simp [Nat.ofDigitChars, pow_succ, Nat.mul_comm, Nat.mul_left_comm]

/-- A whole double is written as a timestamp standing for the whole number its shortest digits
write. -/
theorem stampTime_whole {x : Float} (hx : (Binary.ofFloat x).Whole) (mult now : Int) :
    StampTime mult now (some (plainFloat x).toList) ((Binary.ofFloat x).shortestWhole * mult) := by
  obtain ⟨neg, d, z, htext, hlen, hval⟩ := plain_write_whole hx
  have hsign : (if neg then ['-'] else []) ∈ [[], ['-']] := by cases neg <;> simp
  have hdigits : ∀ c ∈ Nat.toDigits 10 d ++ List.replicate z '0', c.isDigit := by
    intro c hc
    rcases List.mem_append.1 hc with hc | hc
    · exact Nat.isDigit_of_mem_toDigits (by decide) (by decide) hc
    · rw [(List.mem_replicate.1 hc).2]
      decide
  have hstamp : StampTime mult now _ _ := .stamp hsign
    (List.append_ne_nil_of_left_ne_nil Nat.toDigits_ne_nil _) hdigits
    (by simp only [List.length_append, List.length_replicate]; unfold decimalLength at hlen
        unfold Number.intDigitLimit; omega)
  rw [digitsValue_toDigits_zeros] at hstamp
  rw [plainFloat, htext, List.append_assoc, hval]
  cases neg <;> simpa using hstamp

theorem toString_int_isEmpty (i : Int) : (toString i).isEmpty = false := by
  obtain ⟨sign, -, htext, -⟩ := toList_toString_int i
  rw [String.isEmpty_eq_false_iff, ne_eq, ← String.toList_eq_nil_iff, htext]
  exact List.append_ne_nil_of_right_ne_nil _ Nat.toDigits_ne_nil

theorem plainFloat_isEmpty (x : Float) : (plainFloat x).isEmpty = false := by
  rw [String.isEmpty_eq_false_iff, ne_eq, ← String.toList_eq_nil_iff]
  exact (plain_write_chars x).1

theorem renderTime_str (s : String) (m : Value) :
    FieldValue.renderTime (some (.str s)) m = (do
      match ← Time.parseInstant s with
      | some ns => pure (← Value.floorDivInt ns m).display
      | none => pure "") := rfl

theorem floorDivInt_int {ns mult : Int} (hm : mult ≠ 0) :
    Value.floorDivInt ns (.int mult) = .ok (.int (ns.fdiv mult)) := by
  simp [Value.floorDivInt, hm]

theorem renderTime_instant {s : String} {ns : Int} (hp : Time.parseInstant s = .ok (some ns))
    {mult : Int} (hm : mult ≠ 0) :
    FieldValue.renderTime (some (.str s)) (.int mult) = .ok (toString (ns.fdiv mult)) := by
  rw [renderTime_str, hp]
  show (Value.floorDivInt ns (.int mult) >>= fun v => pure v.display) = _
  rw [floorDivInt_int hm]
  rfl

theorem instant_fdiv_digits {s : String} {ns : Int} (hp : Time.parseInstant s = .ok (some ns))
    {mult : Int} (hm : 0 < mult) :
    (toString (ns.fdiv mult).natAbs).length ≤ Number.intDigitLimit := by
  have hq : (ns.fdiv mult).natAbs < 10 ^ 21 := by
    rw [Int.fdiv_eq_ediv_of_nonneg _ hm.le]
    exact lt_of_le_of_lt (Int.natAbs_ediv_le_natAbs _ _) (Time.parseInstant_natAbs_lt hp)
  have h21 := (Nat.length_toDigits_le_iff (by decide) (by decide)).2 hq
  have hlim : (21 : Nat) ≤ Number.intDigitLimit := by decide
  rw [← String.length_toList]
  simp only [Nat.toString_eq_repr, Nat.repr, String.toList_ofList]
  omega

/-- A time value is written as a timestamp standing for its time, or as nothing when it stands
for none. -/
theorem renderTime_stampTime {v : Option FieldValue} (hv : TimeCellOk v) {mult : Int}
    (hm : 0 < mult) (now : Int) :
    ∃ text, FieldValue.renderTime v (.int mult) = .ok text ∧
      StampTime mult now (if text.isEmpty then none else some text.toList)
        (cellTime v mult now) := by
  match v with
  | none => exact ⟨"", rfl, .clock⟩
  | some (.bool b) => exact ⟨"", rfl, .clock⟩
  | some (.int i) =>
    refine ⟨toString i, rfl, ?_⟩
    simp only [toString_int_isEmpty, Bool.false_eq_true, if_false]
    exact stampTime_toString mult now i hv
  | some (.float x) =>
    refine ⟨plainFloat x, rfl, ?_⟩
    simp only [plainFloat_isEmpty, Bool.false_eq_true, if_false]
    exact stampTime_whole hv mult now
  | some (.str s) =>
    cases hp : Time.parseInstant s with
    | error e => exact absurd hp (hv e)
    | ok o =>
      cases o with
      | none =>
        refine ⟨"", by rw [renderTime_str, hp]; rfl, ?_⟩
        rw [show cellTime (some (.str s)) mult now = now from instantTime_of_none hp mult now]
        exact .clock
      | some ns =>
        refine ⟨toString (ns.fdiv mult), renderTime_instant hp hm.ne', ?_⟩
        simp only [toString_int_isEmpty, Bool.false_eq_true, if_false]
        rw [show cellTime (some (.str s)) mult now = ns.fdiv mult * mult from
          instantTime_of_some hp mult now]
        exact stampTime_toString mult now _ (instant_fdiv_digits hp hm)

/-! ## The line of a row -/

/-- The fields of a row's line: each field name, the written form of the row's value at the
name's last place, and the text that form is read back as. -/
def rowForms (cols : List String) (row : List Value) : List (String × List Char × String) :=
  (fieldNames cols).map fun x =>
    (x, (FieldValue.render (cellValue row (lastPlace cols x))).toList,
      fieldText (cellValue row (lastPlace cols x)))

theorem cellIn_ofNat (row : List Value) (name : Value) (p : Nat) :
    cellIn row ⟨name, p⟩ = row[p]? := by
  simp [cellIn]

/-- The multipliers of the precisions are positive. -/
theorem timeMultiplier_pos {S : Settings} {mult : Int} (h : S.timeMultiplier = .ok mult) :
    0 < mult := by
  unfold Settings.timeMultiplier at h
  cases hm : multiplierOf S.precision with
  | error e => simp [hm, bind, Except.bind] at h
  | ok o =>
    cases o with
    | none => simp [hm, bind, Except.bind, throw, throwThe, MonadExceptOf.throw] at h
    | some k =>
      simp only [hm, bind, Except.bind, pure, Except.pure, Except.ok.injEq] at h
      subst h
      unfold multiplierOf at hm
      cases hp : S.precision <;>
        simp [hp, bind, Except.bind, Value.requireKey, Value.hashable, pure, Except.pure] at hm
      unfold precisionMultiplier? at hm
      split at hm <;> simp at hm <;> omega

/-- The line of a row: the head, a space, each field column's name and written value, and the
timestamp of the row's time cell when it has one. -/
theorem rowLine_texts (h : String) (row : List Value) {c : Context} {S : Settings}
    {cols : List String} {mult : Int} (hf : c.fieldMap = fieldColumns cols)
    (ht : c.timeField = timeColumn cols) (hmult : S.timeMultiplier = .ok mult)
    (htime : TimeCellOk (timeCell cols row)) (now : Int) :
    ∃ line stamp, rowLine (.str h) row c S = .ok line ∧
      line.toList = h.toList ++ ' ' ::
        [','].intercalate ((rowForms cols row).map fun f => f.1.toList ++ '=' :: f.2.1) ++
          stampChars stamp ∧
      StampTime mult now stamp (cellTime (timeCell cols row) mult now) := by
  set F := ",".intercalate (c.fieldMap.map fun p =>
    p.1.display ++ "=" ++ FieldValue.render ((cellIn row p.2).bind FieldValue.ofValue?)) with hF
  have hhead : (Value.str h).display = h := rfl
  have hfields : F.toList =
      [','].intercalate ((rowForms cols row).map fun f => f.1.toList ++ '=' :: f.2.1) := by
    simp [hF, hf, fieldColumns, rowForms, String.toList_intercalate, List.map_map,
      Function.comp_def, cellIn_ofNat, cellValue, Value.display]
  by_cases htm : "time" ∈ cols
  · have hres : c.timeField.resolved = true := by
      simp [ht, timeColumn, htm, Column.resolved, Csv.str_equals_str]
    have hcell : (cellIn row c.timeField).bind FieldValue.ofValue? = timeCell cols row := by
      simp [ht, timeColumn, htm, timeCell, cellIn_ofNat, cellValue]
    obtain ⟨text, hr, hs⟩ := renderTime_stampTime htime (timeMultiplier_pos hmult) now
    have hrow : rowLine (.str h) row c S =
        .ok (if text.isEmpty then h ++ " " ++ F else h ++ " " ++ F ++ " " ++ text) := by
      simp only [rowLine, hres, if_true, hcell, hmult, hr, hhead, bind, Except.bind,
        pure, Except.pure]
      rfl
    refine ⟨_, _, hrow, ?_, hs⟩
    by_cases he : text.isEmpty
    · simp [he, stampChars, hfields]
    · simp [he, stampChars, hfields]
  · have hres : c.timeField.resolved = false := by
      simp [ht, timeColumn, htm, Column.resolved, Column.none]
    have hcell : timeCell cols row = none := by simp [timeCell, htm]
    have hrow : rowLine (.str h) row c S = .ok (h ++ " " ++ F) := by
      simp only [rowLine, hres, Bool.false_eq_true, if_false, hhead, pure, Except.pure]
      rfl
    refine ⟨_, none, hrow, ?_, by rw [hcell]; exact .clock⟩
    simp [stampChars, hfields]

/-! ## The lines of a series -/

theorem growHead_texts (n : String) (ts : List (String × String)) :
    ∃ h, growHead (.str n) (textPairs ts) = .ok (.str h) ∧
      h.toList = n.toList ++ ts.flatMap fun t => ',' :: t.1.toList ++ '=' :: t.2.toList := by
  induction ts generalizing n with
  | nil => exact ⟨n, rfl, by simp⟩
  | cons t ts ih =>
    obtain ⟨h, hh, htext⟩ := ih (n ++ ("," ++ t.1 ++ "=" ++ t.2))
    refine ⟨h, ?_, by simp [htext]⟩
    simpa [growHead, textPairs, List.foldlM_cons, Value.appendText, Value.display, bind,
      Except.bind] using hh

theorem memberOr_of_truthy {ms : List (Value × Value)} {k : String} {v : Value}
    (h : getKey? ms k = some v) (ht : v.truthy = true) (dflt : Value) : memberOr ms k dflt = v := by
  simp [memberOr, h, ht]

/-- A series whose record yields rows of cells, each of which has a line, has those lines. -/
theorem seriesLines_rows {ms : List (Value × Value)} {head : Value} {c : Context} {S : Settings}
    {rows : List (List Value)} (hvalues : getKey? ms "values" = some (.list (rows.map .list)))
    {line : List Value → String}
    (hline : ∀ row ∈ rows, rowLine head row c S = .ok (line row)) :
    seriesLines ms head c S = .ok (if rows = [] then .noop else .lines (rows.map line)) := by
  have hrows : (memberOr ms "values" (.list [])).iterate = .ok (rows.map .list) := by
    by_cases hr : rows = []
    · subst hr
      simp [memberOr, hvalues, Value.truthy, Value.iterate]
    · rw [memberOr_of_truthy hvalues (by simpa [Value.truthy] using hr)]
      rfl
  simp only [seriesLines, hrows, bind, Except.bind]
  rw [List.mapM_map, Dispatch.mapM_eq_ok (g := line) ?_]
  · simp [pure, Except.pure]
  · exact fun row hrow => hline row hrow

/-- A named series with text tags and a field column among its text columns grows its name by
the tags into the head of its lines, and maps its columns. -/
theorem seriesStep_texts {ms : List (Value × Value)} {n : String} {ts : List (String × String)}
    {cols : List String} (c : Context) (S : Settings)
    (hname : getKey? ms "name" = some (.str n)) (hn : n ≠ "")
    (htags : getKey? ms "tags" = some (.dict (textPairs ts)))
    (hcols : getKey? ms "columns" = some (.list (cols.map .str)))
    (hfield : ∃ x ∈ cols, x ≠ "time") :
    ∃ h, h.toList = n.toList ++ (ts.flatMap fun t => ',' :: t.1.toList ++ '=' :: t.2.toList) ∧
      (seriesStep (.dict ms) c S).2.2 =
        seriesLines ms (.str h) (mapColumns (cols.map .str) c) S := by
  obtain ⟨h, hgrow, htext⟩ := growHead_texts n ts
  obtain ⟨x, hx, hxt⟩ := hfield
  have hown : memberOr ms "name" .null = .str n :=
    memberOr_of_truthy hname (by simpa [Value.truthy] using hn) _
  have hcolsv : memberOr ms "columns" (.list []) = .list (cols.map .str) :=
    memberOr_of_truthy hcols (by simpa [Value.truthy] using List.ne_nil_of_mem hx) _
  have htagsv : itemsOf (memberOr ms "tags" (.dict [])) = .ok (textPairs ts) := by
    by_cases ht : ts = []
    · subst ht
      simp [memberOr, htags, Value.truthy, itemsOf, textPairs]
    · rw [memberOr_of_truthy htags (by simpa [Value.truthy, textPairs] using ht)]
      rfl
  have hmapped : (mapColumns (cols.map .str) c).fieldMap.isEmpty = false := by
    rw [(mapColumns_texts cols c).1, fieldColumns]
    simpa [List.isEmpty_iff] using fieldNames_ne_nil ⟨x, hx, hxt⟩
  refine ⟨h, htext, ?_⟩
  simp only [seriesStep, hown, hcolsv, htagsv, hgrow, Value.truthy, Value.iterate, hmapped,
    String.isEmpty_eq_false_iff.2 hn, Bool.not_false, Bool.not_true, Bool.false_eq_true, if_true,
    if_false, bind, Except.bind]

/-! ## Reading the lines back -/

/-- The fields of a row's line are plain names, each once, with values in forms that read back as
their texts. -/
theorem rowForms_read {cols : List String} {row : List Value} (hcn : ∀ x ∈ cols, PlainText x)
    (hcells : ∀ s, Value.str s ∈ row → ∀ ch ∈ s.toList, ch ≠ '\\' ∧ ch ≠ '"') :
    (∀ f ∈ rowForms cols row, PlainText f.1 ∧ FieldForm f.2.1 f.2.2) ∧
      ((rowForms cols row).map Prod.fst).Nodup ∧
      (rowForms cols row).map (fun f => (f.1, f.2.2)) = rowFields cols row := by
  refine ⟨fun f hf => ?_, ?_, by simp [rowForms, rowFields, List.map_map, Function.comp_def]⟩
  · obtain ⟨x, hx, rfl⟩ := List.mem_map.1 hf
    refine ⟨hcn x (mem_fieldNames.1 hx).1, render_fieldForm fun s hs => hcells s ?_⟩
    unfold cellValue at hs
    cases hc : row[lastPlace cols x]? with
    | none => simp [hc] at hs
    | some v =>
      cases v <;> simp [hc, FieldValue.ofValue?] at hs
      subst hs
      exact List.mem_of_getElem? hc
  · simp only [rowForms, List.map_map, Function.comp_def, List.map_id']
    exact Csv.nodup_eraseDups _

/-- A series whose name, tag keys and values and column names are texts the line holds, with a
column other than `time`, becomes one line per row, or nothing when it has no rows. Each line
is read back as the row's point: the series name, the tags in order, each field column's text in
the row, and the time of the row's time cell. -/
theorem series_rows_read_back {ms : List (Value × Value)} {n : String}
    {ts : List (String × String)} {cols : List String} {rows : List (List Value)}
    (c : Context) (S : Settings) {mult : Int} (now : Int)
    (hname : getKey? ms "name" = some (.str n)) (hn : PlainText n)
    (hhead : ∀ ch ∈ n.toList.head?, ch ≠ '#' ∧ isBlank ch = false)
    (htags : getKey? ms "tags" = some (.dict (textPairs ts)))
    (hts : ∀ t ∈ ts, PlainText t.1 ∧ PlainText t.2) (htnd : (ts.map Prod.fst).Nodup)
    (hcols : getKey? ms "columns" = some (.list (cols.map .str)))
    (hcn : ∀ x ∈ cols, PlainText x) (hfield : ∃ x ∈ cols, x ≠ "time")
    (hvalues : getKey? ms "values" = some (.list (rows.map .list)))
    (hcells : ∀ row ∈ rows, ∀ s, Value.str s ∈ row →
      ∀ ch ∈ s.toList, ch ≠ '\\' ∧ ch ≠ '"')
    (htime : ∀ row ∈ rows, TimeCellOk (timeCell cols row))
    (hmult : S.timeMultiplier = .ok mult) :
    ∃ lines, (seriesStep (.dict ms) c S).2.2 = .ok (if rows = [] then .noop else .lines lines) ∧
      List.Forall₂ (fun row line => readLine line (.int mult) now =
        .ok (some ⟨.str n, textPairs ts, textPairs (rowFields cols row),
          .int (cellTime (timeCell cols row) mult now)⟩)) rows lines := by
  have hn' : n ≠ "" := fun he => hn.1 (by simp [he])
  obtain ⟨h, hh, hstep⟩ := seriesStep_texts c S hname hn' htags hcols hfield
  obtain ⟨hf, ht⟩ := mapColumns_texts cols c
  have hrow := fun row (hr : row ∈ rows) =>
    rowLine_texts h row hf ht hmult (htime row hr) now
  choose! line stamp hline htext hstamp using hrow
  refine ⟨rows.map line, by rw [hstep, seriesLines_rows hvalues hline], ?_⟩
  rw [List.forall₂_map_right_iff, List.forall₂_same]
  intro row hr
  obtain ⟨hforms, hnd, hfields⟩ := rowForms_read hcn (hcells row hr)
  have hne : rowForms cols row ≠ [] := by simpa [rowForms] using fieldNames_ne_nil hfield
  have hplain : line row = String.ofList (plainLine n ts (rowForms cols row) (stamp row)) := by
    rw [← @String.ofList_toList (line row), htext row hr, hh, plainLine]
  rw [hplain, readLine_plainLine hn hhead hts htnd hne hforms hnd (hstamp row hr), hfields]

/-- A series `cpu` tagged `host=a`, with a time column and a field column, and one row. -/
theorem series_rows_read_back_cpu :
    ∃ lines, (seriesStep (.dict [(.str "name", .str "cpu"),
        (.str "tags", .dict (textPairs [("host", "a")])),
        (.str "columns", .list (["time", "v"].map .str)),
        (.str "values", .list ([[.int 5, .str "on"]].map .list))]) {} {}).2.2 =
        .ok (if [[Value.int 5, .str "on"]] = [] then .noop else .lines lines) ∧
      List.Forall₂ (fun row line => readLine line (.int 1) 0 =
        .ok (some ⟨.str "cpu", textPairs [("host", "a")], textPairs (rowFields ["time", "v"] row),
          .int (cellTime (timeCell ["time", "v"] row) 1 0)⟩)) [[.int 5, .str "on"]] lines :=
  series_rows_read_back {} {} 0 rfl (by simp [PlainText]) (by simp [isBlank]) rfl
    (by simp [PlainText]) (by simp) rfl (by simp [PlainText]) ⟨"v", by simp, by simp⟩ rfl
    (by simp) (by simp [timeCell, cellValue, lastPlace, TimeCellOk, FieldValue.ofValue?]; decide)
    rfl

/-- Two series whose lines are not read back as their rows hold them: a name that starts with a
tab loses it, since the reader strips the blanks at the ends of a line; and a time of `1e23`,
written as its shortest digits, is read as `10^23`, while the double holds
`99999999999999991611392`. -/
theorem series_lines_strip_tab_and_round_time :
    (seriesStep (.dict [(.str "name", .str "\tm"), (.str "columns", .list [.str "v", .str "time"]),
        (.str "values", .list [.list [.int 1, .int 1]])]) {} {}).2.2 =
        .ok (.lines ["\tm v=1 1"]) ∧
      readLine "\tm v=1 1" (.int 1) 0 =
        .ok (some ⟨.str "m", [], [(.str "v", .str "1")], .int 1⟩) ∧
      (seriesStep (.dict [(.str "name", .str "m"), (.str "columns", .list [.str "v", .str "time"]),
        (.str "values", .list [.list [.int 1, .float (nearest false (10 ^ 23) 1)]])]) {} {}).2.2 =
        .ok (.lines ["m v=1 100000000000000000000000"]) ∧
      readLine "m v=1 100000000000000000000000" (.int 1) 0 =
        .ok (some ⟨.str "m", [], [(.str "v", .str "1")], .int (10 ^ 23)⟩) ∧
      Binary.truncate (Binary.ofFloat (nearest false (10 ^ 23) 1)) = some 99999999999999991611392 :=
  ⟨rfl, rfl, rfl, rfl, by decide +kernel⟩

end SeriesImport.Document
