import Mathlib
import SeriesImport.Proofs.LineProtocol.RoundTrip
/-!
# Lines of plain texts read back

A line whose measurement, tag keys, tag values and field names are plain texts, with none of the
characters the reader gives a meaning (a comma, an equal sign, a space, a backslash, a double
quote, a square bracket), holds them as they stand: no escaping is needed. A field value is
written in one of two forms (`FieldForm`): bare, a run of characters with no comma, blank,
bracket, backslash or double quote, read as it stands; or quoted, a text with no backslash or
double quote between double quotes, read without the quotes. The timestamp may be left out, and
the line is then stamped with the clock; otherwise it is a sign and a run of ASCII digits
(`StampTime`).
-/

namespace SeriesImport.LineProtocol

open SeriesImport.Text SeriesImport.Dispatch

/-! ## Plain texts and field forms -/

/-- A text a line holds as it stands in every part: not empty, with no character the reader
gives a meaning. -/
def PlainText (s : String) : Prop :=
  s.toList ≠ [] ∧ ∀ c ∈ s.toList, c ∉ [',', '=', ' ', '\\', '"', '[', ']']

theorem PlainText.plainName {s : String} (h : PlainText s) : PlainName s.toList :=
  ⟨h.1, fun c hc hs => h.2 c hc (by simp only [List.mem_cons] at hs ⊢; tauto)⟩

theorem PlainText.unquoted {s : String} (h : PlainText s) :
    ∀ c ∈ s.toList, c ≠ '\\' ∧ c ≠ '"' :=
  fun c hc => ⟨fun he => h.2 c hc (by simp [he]), fun he => h.2 c hc (by simp [he])⟩

theorem PlainText.closesBrackets {s : String} (h : PlainText s) : ClosesBrackets s.toList := by
  intro pre post hs
  exact absurd (show '[' ∈ s.toList by simp [hs]) (fun hm => h.2 _ hm (by simp))

theorem escaped_of_forall_not_mem {special cs : List Char} (h : ∀ c ∈ cs, c ∉ special) :
    escaped special cs = cs := by
  induction cs with
  | nil => rfl
  | cons c cs ih =>
    have hc : special.contains c = false := by simpa using h c (by simp)
    have hrest := ih fun d hd => h d (by simp [hd])
    simp only [escaped, List.flatMap_cons, hc, Bool.false_eq_true, if_false] at hrest ⊢
    rw [hrest]
    rfl

theorem PlainText.escaped_eq {s : String} (h : PlainText s) {special : List Char}
    (hsp : ∀ c ∈ special, c ∈ [',', '=', ' ', '\\', '"', '[', ']']) :
    escaped special s.toList = s.toList :=
  escaped_of_forall_not_mem fun c hc hs => h.2 c hc (hsp c hs)

/-- A field value as a line holds it, and the text it is read as. -/
inductive FieldForm : List Char → String → Prop
  /-- Bare: characters with no comma, blank, square bracket, backslash or double quote. -/
  | bare {cs : List Char} (hne : cs ≠ [])
      (hcs : ∀ c ∈ cs, c ∉ [',', '[', ']', '\\', '"'] ∧ isBlank c = false) :
      FieldForm cs (String.ofList cs)
  /-- Quoted: a text with no backslash or double quote, between double quotes. -/
  | quoted {cs : List Char} (hcs : ∀ c ∈ cs, c ≠ '\\' ∧ c ≠ '"') :
      FieldForm ('"' :: cs ++ ['"']) (String.ofList cs)

/-- The reader takes a field value in either form to its text. -/
theorem FieldForm.valueForm {w : List Char} {v : String} (h : FieldForm w v) :
    Scan.ValueForm w v := by
  intro s hst hesc hq
  cases h with
  | bare hne hcs =>
    have h := @Scan.through_escaped [] s hesc w (fun c hc _ => by
      obtain ⟨hnot, hblank⟩ := hcs c hc
      have hsp : c ≠ ' ' := fun he => by simp [he, isBlank] at hblank
      rw [hst, hq]
      exact Scan.adds_plain (by simp only [List.mem_cons, List.not_mem_nil] at hnot ⊢; tauto)
        (fun _ => by simp))
    rw [Scan.foldl_append] at h
    simpa [escaped, hst] using h
  | @quoted cs hcs =>
    let s1 : Scan := { s with quote := true }
    have h1 : s.feed '"' = .next s1 := by simp [Scan.feed, hesc, hq, s1]
    have h2 := @Scan.through_escaped [] s1 hesc cs
      (fun c hc _ => by simpa [s1, hst] using Scan.adds_quoted (hcs c hc))
    rw [Scan.foldl_append] at h2
    have h2' : s1.Through cs { s1 with value := cs.reverse ++ s1.value } := by
      simpa [s1, hst, escaped] using h2
    have h3 : Scan.Through { s1 with value := cs.reverse ++ s1.value } ['"']
        { s with value := (String.ofList cs).toList.reverse ++ s.value } :=
      ⟨_, by simp [Scan.feed, s1, hesc, hq], rfl⟩
    exact ⟨s1, h1, h2'.append h3⟩

theorem FieldForm.ne_nil {w : List Char} {v : String} (h : FieldForm w v) : w ≠ [] := by
  cases h with
  | bare hne _ => exact hne
  | quoted _ => simp

theorem FieldForm.last {w : List Char} {v : String} (h : FieldForm w v) :
    ∀ c ∈ w.getLast?, isBlank c = false := by
  intro c hc
  cases h with
  | bare hne hcs => exact (hcs c (List.mem_of_getLast? hc)).2
  | quoted hcs =>
    rw [List.getLast?_concat] at hc
    cases hc
    decide

theorem intercalate_concat {α : Type} (sep : List α) (L : List (List α)) (y : List α) :
    ∃ pre, sep.intercalate (L ++ [y]) = pre ++ y := by
  induction L with
  | nil => exact ⟨[], by simp⟩
  | cons a L ih =>
    obtain ⟨pre, hpre⟩ := ih
    refine ⟨a ++ sep ++ pre, ?_⟩
    rw [List.cons_append, List.intercalate_cons_of_ne_nil (by simp), hpre]
    simp

/-! ## The timestamp -/

/-- The time a line's timestamp text stands for at a multiplier: the clock when the line has
none; otherwise the text is a sign and a run of at most 4300 ASCII digits, and the time is the
integer they write times the multiplier. -/
inductive StampTime (mult now : Int) : Option (List Char) → Int → Prop
  | clock : StampTime mult now none now
  | stamp {sign digits : List Char} (hsign : sign ∈ [[], ['-']]) (hne : digits ≠ [])
      (hd : ∀ c ∈ digits, c.isDigit) (hlen : digits.length ≤ Number.intDigitLimit) :
      StampTime mult now (some (sign ++ digits))
        ((if sign = ['-'] then -(digitsValue digits : Int) else digitsValue digits) * mult)

/-- The decimal text of an integer of at most 4300 digits is a timestamp standing for it. -/
theorem stampTime_toString (mult now i : Int)
    (h : (toString i.natAbs).length ≤ Number.intDigitLimit) :
    StampTime mult now (some (toString i).toList) (i * mult) := by
  obtain ⟨sign, hsign, htext, hneg⟩ := toList_toString_int i
  have hlen : (Nat.toDigits 10 i.natAbs).length ≤ Number.intDigitLimit := by
    simpa [← String.length_toList] using h
  have hval : (if sign = ['-'] then -(digitsValue (Nat.toDigits 10 i.natAbs) : Int)
      else digitsValue (Nat.toDigits 10 i.natAbs)) = i := by
    rw [digitsValue_eq, Nat.ofDigitChars_ten_toDigits]
    by_cases hi : i < 0
    · rw [if_pos (hneg.2 hi)]
      omega
    · rw [if_neg (fun h => hi (hneg.1 h))]
      omega
  have hstamp : StampTime mult now (some (sign ++ Nat.toDigits 10 i.natAbs)) _ :=
    .stamp hsign Nat.toDigits_ne_nil
      (fun c hc => Nat.isDigit_of_mem_toDigits (by decide) (by decide) hc) hlen
  rwa [hval, ← htext] at hstamp

theorem stampText_plain {sign digits : List Char} (hsign : sign ∈ [[], ['-']])
    (hd : ∀ c ∈ digits, c.isDigit) :
    ∀ c ∈ sign ++ digits, c ∉ [',', ' ', '[', ']', '\\', '"'] := by
  intro c hc
  rcases List.mem_append.1 hc with hs | hs
  · simp only [List.mem_cons, List.not_mem_nil, or_false] at hsign
    rcases hsign with rfl | rfl <;> simp_all
  · have hdig := hd c hs
    intro hbad
    simp only [List.mem_cons, List.not_mem_nil, or_false] at hbad
    rcases hbad with rfl | rfl | rfl | rfl | rfl | rfl <;> simp at hdig

/-- The characters a timestamp adds to a line: a space and its text, or nothing. -/
def stampChars : Option (List Char) → List Char
  | some cs => ' ' :: cs
  | none => []

/-- A scan that holds a measurement and fields, and no timestamp, finishes with their point
stamped with the clock. -/
theorem Scan.finish_of_holds_clock {s : Scan} {m : List Char} {T F : List (Value × Value)}
    (hh : s.Holds m T F []) (hF : F ≠ []) (hm : m ≠ []) (line : String) (mult now : Int) :
    s.finish line (.int mult) now = .ok ⟨.str (String.ofList m), T, F, .int now⟩ := by
  simp only [Scan.finish, Scan.commit_timestamp, Scan.commit_measurement, hh.timestamp,
    hh.measurement, hh.tags, hh.fields, List.reverse_reverse, List.reverse_nil, List.isEmpty_nil,
    if_true]
  simp [bind, Except.bind, pure, Except.pure, Point.make, Value.truthy, hF, hm]

/-! ## The line -/

/-- The characters of a line of plain texts: the measurement, each tag after a comma, a space,
the fields separated by commas, each a name, an equal sign and the form of its value, and the
timestamp. Each field is its name, the form and the text the form is read as. -/
def plainLine (m : String) (ts : List (String × String))
    (fs : List (String × List Char × String)) (stamp : Option (List Char)) : List Char :=
  m.toList ++ ts.flatMap (fun t => ',' :: t.1.toList ++ '=' :: t.2.toList) ++
    ' ' :: [','].intercalate (fs.map fun f => f.1.toList ++ '=' :: f.2.1) ++ stampChars stamp

section Line

variable {m : String} {ts : List (String × String)} {fs : List (String × List Char × String)}

/-- With plain texts, the line is the written line of its parts, none of which is escaped. -/
theorem plainLine_eq (hm : PlainText m) (hts : ∀ t ∈ ts, PlainText t.1 ∧ PlainText t.2)
    (hfs : ∀ f ∈ fs, PlainText f.1) (stamp : Option (List Char)) :
    plainLine m ts fs stamp =
      escaped [',', ' '] m.toList ++ ts.flatMap tagChars ++ ' ' :: Scan.formFieldsChars fs ++
        stampChars stamp := by
  have hkeys : ∀ c ∈ keyEscapes, c ∈ [',', '=', ' ', '\\', '"', '[', ']'] := by
    simp [keyEscapes]
  have htags : ts.flatMap tagChars =
      ts.flatMap fun t => ',' :: t.1.toList ++ '=' :: t.2.toList :=
    List.flatMap_congr fun t ht => by
      simp only [tagChars, (hts t ht).1.escaped_eq hkeys, (hts t ht).2.escaped_eq hkeys]
  have hfields : (fs.map fun f => escaped keyEscapes f.1.toList ++ '=' :: f.2.1) =
      fs.map fun f => f.1.toList ++ '=' :: f.2.1 :=
    List.map_congr_left fun f hf => by rw [(hfs f hf).escaped_eq hkeys]
  rw [plainLine, Scan.formFieldsChars, hm.escaped_eq (by simp), htags, hfields]

theorem plainLine_head (hm : PlainText m)
    (hhead : ∀ c ∈ m.toList.head?, c ≠ '#' ∧ isBlank c = false)
    (stamp : Option (List Char)) :
    ∀ c ∈ (plainLine m ts fs stamp).head?, isBlank c = false ∧ c ≠ '#' := by
  obtain ⟨c0, rest, hm0⟩ := List.exists_cons_of_ne_nil hm.1
  intro c hc
  simp only [plainLine, hm0, List.cons_append, List.head?_cons, Option.mem_def,
    Option.some.injEq] at hc
  subst hc
  have h0 := hhead c0 (by simp [hm0])
  exact ⟨h0.2, h0.1⟩

/-- The line ends with the timestamp, or with the last field's value. -/
theorem plainLine_last (hne : fs ≠ []) (hfs : ∀ f ∈ fs, FieldForm f.2.1 f.2.2)
    {stamp : Option (List Char)} {mult now T : Int} (hT : StampTime mult now stamp T) :
    ∀ c ∈ (plainLine m ts fs stamp).getLast?, isBlank c = false := by
  intro c hc
  cases hT with
  | @stamp sign digits hsign hdne hd hlen =>
    obtain ⟨init, d, rfl⟩ := List.eq_nil_or_concat' digits |>.resolve_left hdne
    have hline : plainLine m ts fs (some (sign ++ (init ++ [d]))) =
        plainLine m ts fs (some (sign ++ init)) ++ [d] := by
      simp [plainLine, stampChars]
    rw [hline, List.getLast?_concat, Option.mem_some_iff] at hc
    exact hc ▸ isBlank_of_isDigit (hd d (by simp))
  | clock =>
    obtain ⟨init, f, rfl⟩ := List.eq_nil_or_concat' fs |>.resolve_left hne
    have hf := hfs f (by simp)
    obtain ⟨w0, x, hw⟩ := List.eq_nil_or_concat' f.2.1 |>.resolve_left hf.ne_nil
    obtain ⟨pre, hpre⟩ := intercalate_concat [',']
      (init.map fun f => f.1.toList ++ '=' :: f.2.1) (f.1.toList ++ '=' :: f.2.1)
    have hline : plainLine m ts (init ++ [f]) none =
        (m.toList ++ ts.flatMap (fun t => ',' :: t.1.toList ++ '=' :: t.2.toList) ++
          ' ' :: (pre ++ f.1.toList ++ '=' :: w0)) ++ [x] := by
      rw [plainLine, List.map_append, List.map_singleton, hpre, hw]
      simp [stampChars]
    have hlast := hf.last
    rw [hw, List.getLast?_concat] at hlast
    rw [hline, List.getLast?_concat] at hc
    exact hlast c hc

/-- A line of plain texts is read as its point: the measurement, the tags and the fields as they
stand, in order, each field the text its form is read as, and the time its timestamp stands for,
or the clock. -/
theorem readLine_plainLine (hm : PlainText m)
    (hhead : ∀ c ∈ m.toList.head?, c ≠ '#' ∧ isBlank c = false)
    (hts : ∀ t ∈ ts, PlainText t.1 ∧ PlainText t.2) (htnd : (ts.map Prod.fst).Nodup)
    (hne : fs ≠ []) (hfs : ∀ f ∈ fs, PlainText f.1 ∧ FieldForm f.2.1 f.2.2)
    (hfnd : (fs.map Prod.fst).Nodup) {stamp : Option (List Char)} {mult now T : Int}
    (hT : StampTime mult now stamp T) :
    readLine (String.ofList (plainLine m ts fs stamp)) (.int mult) now =
      .ok (some ⟨.str m, textPairs ts, textPairs (fs.map fun f => (f.1, f.2.2)), .int T⟩) := by
  obtain ⟨t, hb, hst, hh⟩ := Scan.through_body hm.plainName
    (fun t ht => ⟨(hts t ht).1.plainName, (hts t ht).2.unquoted⟩)
    (fun t ht => (hts t (List.mem_of_mem_dropLast ht)).2.closesBrackets) hne
    (fun f hf => ⟨(hfs f hf).1.plainName, (hfs f hf).2.valueForm⟩)
  have htags : putTexts [] ts = textPairs ts := putTexts_eq htnd (by simp)
  have hfields : putTexts [] (fs.map fun f => (f.1, f.2.2)) =
      textPairs (fs.map fun f => (f.1, f.2.2)) :=
    putTexts_eq (by simpa [List.map_map, Function.comp_def] using hfnd) (by simp)
  have hfne : textPairs (fs.map fun f => (f.1, f.2.2)) ≠ [] := by simpa [textPairs] using hne
  have hline := readLine_ofList (L := plainLine m ts fs stamp) (by simp [plainLine])
    (plainLine_head hm hhead stamp) (plainLine_last hne (fun f hf => (hfs f hf).2) hT)
    (.int mult) now
  rw [hline, readData, String.toList_ofList, plainLine_eq hm hts (fun f hf => (hfs f hf).1)]
  cases hT with
  | clock =>
    rw [stampChars, List.append_nil, ← List.append_nil (_ ++ _ ++ _), hb.run_append]
    simp only [Scan.run]
    rw [Scan.finish_of_holds_clock hh (by rw [hfields]; exact hfne) (by simpa using hm.1), htags,
      hfields, String.ofList_toList]
    rfl
  | @stamp sign digits hsign hdne hd hlen =>
    obtain ⟨u, hrun, hu⟩ := Scan.run_stamp hb hst hh (stampText_plain hsign hd)
    have hsign' : sign ∈ [[], ['+'], ['-']] := by
      simp only [List.mem_cons, List.not_mem_nil, or_false] at hsign
      rcases hsign with rfl | rfl <;> simp
    have hv := timestampValue?_signed hsign' (show ([] : List Char) ∈ [[], ['\n']] by simp)
      hdne hd
    rw [List.append_nil, if_neg (show ¬Number.intDigitLimit < digits.length by omega)] at hv
    simp only [stampChars]
    rw [hrun]
    dsimp only
    rw [Scan.finish_of_holds hu hv (by rw [hfields]; exact hfne) (by simpa using hm.1), htags,
      hfields, String.ofList_toList]
    rfl

end Line

end SeriesImport.LineProtocol
