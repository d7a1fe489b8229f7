import Mathlib
import SeriesImport.Dispatch.Line
import SeriesImport.Proofs.Number.Numerals
/-!
# The line of a point of texts

A point whose measurement, names, tag values and field values are texts is written as one line,
`lineChars`: the measurement with its commas and spaces escaped; each tag as a comma, its name,
an equal sign and its value, with commas, equal signs and spaces escaped in both; a space; the
fields joined by commas, each its escaped name, an equal sign and its value; a space; the
timestamp's text. A field text that reads as a truth value or a finite number is written bare,
stripped; any other is quoted, with a backslash before each backslash and double quote.

A text written bare that is its own stripped text holds no comma, space, square bracket,
backslash or double quote: truth values are letters, and a number is written with digits,
signs, underscores, a point and an exponent's letter.
-/

namespace SeriesImport.Dispatch

open SeriesImport.Text

/-- Characters with a backslash put before each character of `special`. -/
def escaped (special : List Char) (cs : List Char) : List Char :=
  cs.flatMap fun c => if special.contains c then ['\\', c] else [c]

theorem toList_escapeChars (special : List Char) (s : String) :
    (escapeChars special s).toList = escaped special s.toList := by
  simp [escapeChars, escaped]

/-- The characters escaped in a name or a tag value. -/
def keyEscapes : List Char := [',', '=', ' ']

def textPairs (es : List (String × String)) : List (Value × Value) :=
  es.map fun e => (.str e.1, .str e.2)

/-- Whether a field text is written bare: when it reads as a truth value or a number. -/
def writtenBare (v : String) : Bool :=
  truthLiterals.contains v || (Number.Finite.read? v).isSome

/-- The written form of a field text: bare and stripped, or quoted and escaped. -/
def fieldValueChars (v : String) : List Char :=
  if writtenBare v then (strip v).toList else '"' :: escaped ['\\', '"'] v.toList ++ ['"']

/-- The written form of a tag, after the text before it. -/
def tagChars (e : String × String) : List Char :=
  ',' :: escaped keyEscapes e.1.toList ++ '=' :: escaped keyEscapes e.2.toList

def fieldChars (e : String × String) : List Char :=
  escaped keyEscapes e.1.toList ++ '=' :: fieldValueChars e.2

/-- The line of a measurement, tags and fields that are texts, and the text of a timestamp. -/
def lineChars (m : String) (ts fs : List (String × String)) (stamp : String) : List Char :=
  escaped [',', ' '] m.toList ++ ts.flatMap tagChars ++
    ' ' :: [','].intercalate (fs.map fieldChars) ++ ' ' :: stamp.toList

/-! ## The writer on texts -/

theorem renderField_str (v : String) :
    renderField (.str v) = .ok (String.ofList (fieldValueChars v)) := by
  have h : renderField (.str v) = if writtenBare v then .ok (strip v)
      else .ok ("\"" ++ escapeChars ['\\', '"'] v ++ "\"") := rfl
  rw [h]
  unfold fieldValueChars
  split_ifs
  · simp
  · congr 1
    rw [← String.toList_inj]
    simp [toList_escapeChars]

/-- The head of a line, from the text `init`: each tag of texts is added in its written form. -/
theorem foldlM_tags {F : String → Value × Value → Except Error String}
    (hF : ∀ h k v, F h (.str k, .str v) = .ok (h ++ "," ++ escapeKey k ++ "=" ++ escapeKey v))
    (ts : List (String × String)) (init : String) :
    (textPairs ts).foldlM F init = .ok (String.ofList (init.toList ++ ts.flatMap tagChars)) := by
  induction ts generalizing init with
  | nil =>
    simp only [textPairs, List.map_nil, List.foldlM_nil, List.flatMap_nil, List.append_nil,
      String.ofList_toList]
    rfl
  | cons e ts ih =>
    simp only [textPairs, List.map_cons, List.foldlM_cons, hF, bind, Except.bind] at ih ⊢
    rw [ih]
    congr 2
    simp [tagChars, escapeKey, toList_escapeChars, keyEscapes]

theorem mapM_fields {G : Value × Value → Except Error String}
    (hG : ∀ k v, G (.str k, .str v) = .ok (escapeKey k ++ "=" ++ String.ofList (fieldValueChars v)))
    (fs : List (String × String)) :
    (textPairs fs).mapM G = .ok (fs.map fun e => String.ofList (fieldChars e)) := by
  induction fs with
  | nil => rfl
  | cons e fs ih =>
    simp only [textPairs, List.map_cons, List.mapM_cons, hG, bind, Except.bind] at ih ⊢
    rw [ih]
    simp [fieldChars, escapeKey, escapeChars, escaped, keyEscapes, pure, Except.pure,
      String.append_assoc]

/-- A point of texts is written as its line, unless its timestamp cannot be shown as text. -/
theorem toLine_texts (m : String) (ts fs : List (String × String)) (stamp : Value) :
    Point.toLine ⟨.str m, textPairs ts, textPairs fs, stamp⟩ =
      (shownText stamp).map fun t => String.ofList (lineChars m ts fs t) := by
  unfold Point.toLine
  rw [show Value.textFor "translate" (.str m) = .ok m from rfl]
  simp only [bind, Except.bind]
  rw [foldlM_tags, mapM_fields]
  · cases shownText stamp with
    | error e => rfl
    | ok t =>
      simp only [Except.map, pure, Except.pure, Except.ok.injEq]
      rw [← String.toList_inj]
      simp [lineChars, escapeMeasurement, toList_escapeChars, List.map_map, Function.comp_def]
  · intro k v
    simp only [renderField_str]
    rfl
  · intro h k v
    rfl

/-! ## Texts written bare -/

/-- A text written bare that is its own stripped text holds no character that gives a line its
structure. -/
theorem writtenBare_plain {v : String} (hb : writtenBare v) (hs : strip v = v) :
    ∀ c ∈ v.toList, c ∉ [',', ' ', '[', ']', '\\', '"'] := by
  unfold writtenBare at hb
  simp only [Bool.or_eq_true, List.contains_iff_mem] at hb
  rcases hb with hlit | hnum
  · simp only [truthLiterals, List.mem_cons, List.not_mem_nil, or_false] at hlit
    rcases hlit with rfl | rfl | rfl | rfl | rfl | rfl | rfl | rfl | rfl | rfl <;> simp
  · intro c hc hstruct
    simp only [List.mem_cons, List.not_mem_nil, or_false] at hstruct
    have hascii : c.toNat < 127 := by
      rcases hstruct with rfl | rfl | rfl | rfl | rfl | rfl <;> decide
    have hnumeral := Number.Finite.read?_numeral hs hnum c hc hascii
    rcases hstruct with rfl | rfl | rfl | rfl | rfl | rfl <;> simp [Number.numeral] at hnumeral

/-- The decimal text of an integer: a minus sign when it is negative, then the digits of its
absolute value. -/
theorem toList_toString_int (i : Int) :
    ∃ sign ∈ [[], ['-']], (toString i).toList = sign ++ Nat.toDigits 10 i.natAbs ∧
      (sign = ['-'] ↔ i < 0) := by
  cases i with
  | ofNat n => exact ⟨[], by simp, by simp [Int.repr], by simp⟩
  | negSucc n => exact ⟨['-'], by simp, by simp [Int.repr], by simp [Int.negSucc_lt_zero]⟩

/-- The decimal text of an integer holds no character with structure. -/
theorem toString_int_plain (i : Int) :
    ∀ c ∈ (toString i).toList, c ∉ [',', ' ', '[', ']', '\\', '"'] := by
  obtain ⟨sign, hsign, htext, -⟩ := toList_toString_int i
  intro c hc hstruct
  rw [htext] at hc
  simp only [List.mem_cons, List.not_mem_nil, or_false] at hsign hstruct
  rcases List.mem_append.1 hc with hc | hc
  · rcases hsign with rfl | rfl
    · cases hc
    · rw [List.mem_singleton.1 hc] at hstruct
      simp at hstruct
  · have hdigit := Nat.isDigit_of_mem_toDigits (by decide) (by decide) hc
    rcases hstruct with rfl | rfl | rfl | rfl | rfl | rfl <;> simp at hdigit

end SeriesImport.Dispatch
