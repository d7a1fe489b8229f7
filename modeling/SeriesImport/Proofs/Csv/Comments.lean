import Mathlib
import SeriesImport.Proofs.Import.Csv
/-!
# Comment lines of a comma-separated file

A comma-separated file is read in two layers. Its comment lines, those whose first character after
blanks is `#`, are dropped first, one line at a time, and the row reader then groups what is left
into rows. The row reader comes to every line either at the start of a record or inside a quoted
cell that an earlier line opened (`lineStarts_state`). A reader that knew comments would pass over
a comment line only in the first case (`rowsSkippingFrom`).

The two layers agree with that reader whenever every comment line falls where a record would begin
(`rowsFrom_filter_comments`). A comment line inside a quoted cell is dropped from the cell instead,
and the reader goes on with the next line as if it followed the cell's earlier lines
(`quoted_comment_line_is_dropped`).
-/

namespace SeriesImport.Csv

open Text

/-! ## Where the reader comes to a line -/

theorem feed_none_state {r r' : RowReader} (h : r.feed none = some r') :
    r'.state = .startRecord ∨ r'.state = .inQuoted := by
  unfold RowReader.feed at h
  cases hs : r.state <;> simp only [hs, Option.some.injEq, Option.isNone_none, if_true] at h <;>
    subst h <;> simp [hs]

theorem feedLine_state {r r' : RowReader} {line : String} (h : r.feedLine line = some r') :
    r'.state = .startRecord ∨ r'.state = .inQuoted := by
  unfold RowReader.feedLine at h
  split at h
  · exact feed_none_state h
  · cases h

/-- Each line with the state the row reader is in when it comes to it, reading from `r`. -/
def lineStarts (r : RowReader) : List String → List (String × RowState)
  | [] => []
  | line :: rest =>
    (line, r.state) :: match r.feedLine line with
      | none => lineStarts .start rest
      | some r' => if r'.state == .startRecord then lineStarts .start rest else lineStarts r' rest

@[simp] theorem lineStarts_fst (r : RowReader) (ls : List String) :
    (lineStarts r ls).map Prod.fst = ls := by
  induction ls generalizing r with
  | nil => rfl
  | cons line rest ih =>
    simp only [lineStarts, List.map_cons, List.cons.injEq, true_and]
    split <;> (try split) <;> exact ih _

/-- The reader comes to every line at the start of a record or inside a quoted cell. -/
theorem lineStarts_state {r : RowReader} {ls : List String}
    (hr : r.state = .startRecord ∨ r.state = .inQuoted) :
    ∀ p ∈ lineStarts r ls, p.2 = .startRecord ∨ p.2 = .inQuoted := by
  induction ls generalizing r with
  | nil => simp [lineStarts]
  | cons line rest ih =>
    intro p hp
    simp only [lineStarts, List.mem_cons] at hp
    rcases hp with rfl | hp
    · exact hr
    · split at hp
      · exact ih (.inl rfl) p hp
      · next r' hline =>
        split at hp
        · exact ih (.inl rfl) p hp
        · exact ih (feedLine_state hline) p hp

/-! ## A reader that knows comments -/

/-- The rows of lines read from `r` by a reader that passes over a comment line, as a whole line,
wherever a record would begin. -/
def rowsSkippingFrom (complete : Bool) (r : RowReader) : List String → List (List String)
  | [] => rowsFrom complete r []
  | line :: rest =>
    if r.state == .startRecord && isCommentLine line then rowsSkippingFrom complete r rest
    else
      match r.feedLine line with
      | none => rowsSkippingFrom complete .start rest
      | some r' =>
        if r'.state == .startRecord then r'.cells.reverse :: rowsSkippingFrom complete .start rest
        else rowsSkippingFrom complete r' rest

/-- Whether the reader that passes over comment lines where records would begin, reading from `r`,
meets no comment line anywhere else. -/
def commentsAtStarts (r : RowReader) : List String → Bool
  | [] => true
  | line :: rest =>
    if r.state == .startRecord && isCommentLine line then commentsAtStarts r rest
    else
      !isCommentLine line &&
        match r.feedLine line with
        | none => commentsAtStarts .start rest
        | some r' =>
          if r'.state == .startRecord then commentsAtStarts .start rest
          else commentsAtStarts r' rest

/-- Dropping the comment lines first and then reading the rest gives the rows of the reader that
passes over comment lines where records would begin, when no comment line lies anywhere else. -/
theorem rowsFrom_filter_comments (complete : Bool) {r : RowReader} {ls : List String}
    (h : commentsAtStarts r ls = true) :
    rowsFrom complete r (ls.filter fun l => !isCommentLine l) =
      rowsSkippingFrom complete r ls := by
  induction ls generalizing r with
  | nil => rfl
  | cons line rest ih =>
    by_cases hskip : (r.state == .startRecord && isCommentLine line) = true
    · have hc : isCommentLine line = true := (Bool.and_eq_true _ _ ▸ hskip).2
      rw [commentsAtStarts, if_pos hskip] at h
      rw [List.filter_cons_of_neg (by simp [hc]), rowsSkippingFrom, if_pos hskip, ih h]
    · rw [commentsAtStarts, if_neg hskip, Bool.and_eq_true] at h
      obtain ⟨hc, h⟩ := h
      simp only [List.filter_cons, hc, if_true]
      rw [rowsSkippingFrom, if_neg hskip, rowsFrom]
      cases hline : r.feedLine line with
      | none =>
        rw [hline] at h
        exact ih h
      | some r' =>
        rw [hline] at h
        dsimp only at h ⊢
        by_cases hs : (r'.state == .startRecord) = true
        · rw [if_pos hs] at h
          rw [if_pos hs, if_pos hs, ih h]
        · rw [if_neg hs] at h
          rw [if_neg hs, if_neg hs, ih h]

/-! ## Reading a file -/

/-- Reading a comma-separated file without fault drops its comment lines before the row reader
groups the rest into rows. When every comment line falls where a record would begin, the file is
read as the rows of a reader that passes over those lines. When no record begins with a comment
line and no quoted cell goes on into one, the file is read as the rows of all its lines. -/
theorem read_csv_skips_comment_records {file : InputFile} {text : String}
    (h : file.read = .ok ⟨text, none⟩) :
    (commentsAtStarts .start (fileLines text) = true →
      InputFormat.csv.read file =
        .ok ((rowsSkippingFrom true .start (fileLines text)).map rowEntry, none)) ∧
    ((∀ p ∈ lineStarts .start (fileLines text), p.2 = .startRecord → isCommentLine p.1 = false) →
      (∀ p ∈ lineStarts .start (fileLines text), p.2 = .inQuoted → isCommentLine p.1 = false) →
      InputFormat.csv.read file = .ok ((rows true (fileLines text)).map rowEntry, none)) := by
  rw [read_textRows h]
  constructor
  · intro hc
    rw [textRows, rows, rowsFrom_filter_comments true hc]
  · intro hrec hquoted
    have hnone : ∀ l ∈ fileLines text, isCommentLine l = false := by
      intro l hl
      rw [← lineStarts_fst .start (fileLines text)] at hl
      obtain ⟨p, hp, rfl⟩ := List.mem_map.1 hl
      rcases lineStarts_state (.inl rfl) p hp with hs | hs
      · exact hrec p hp hs
      · exact hquoted p hp hs
    rw [textRows, List.filter_eq_self.2 (by simpa using hnone)]

/-- A file whose first line is a comment is read as the rows after it. -/
theorem read_csv_skips_leading_comment :
    InputFormat.csv.read ⟨"data.csv", some "# note\nt,v\n".toUTF8.data⟩ =
      .ok ([rowEntry ["t", "v"]], none) := by
  have hskip : rowsSkippingFrom true .start (fileLines "# note\nt,v\n") = [["t", "v"]] := by
    decide +kernel
  have hread := (@read_csv_skips_comment_records ⟨"data.csv", some "# note\nt,v\n".toUTF8.data⟩
    "# note\nt,v\n" (readsAs_of_check (by decide +kernel))).1 (by decide +kernel)
  rwa [hskip] at hread

/-- A quoted cell that goes on into a line starting with `#` loses that line. No record of the
text begins with a comment line, yet it is read as other rows than those of its lines. -/
theorem quoted_comment_line_is_dropped :
    (∀ p ∈ lineStarts .start (fileLines "a,\"x\n#y\"\n"),
        p.2 = .startRecord → isCommentLine p.1 = false) ∧
      rows true (fileLines "a,\"x\n#y\"\n") = [["a", "x\n#y"]] ∧
      textRows "a,\"x\n#y\"\n" = [["a", "x\n"]] := by
  decide +kernel

end SeriesImport.Csv
