import Mathlib
import SeriesImport.Proofs.LineProtocol.Refusals
import SeriesImport.Proofs.Dispatch.Written
/-!
# A written point reads back

A point is written as one line (`Point.toLine`) and a line is read as a point (`readLine`). On a
point whose parts are texts that the line carries, reading the written line gives the point
back: the same measurement, the same tags and fields in the same order, and its integer
timestamp.

The reader takes a character after a backslash as it is and a quoted text as it stands, and the
writer escapes commas, spaces and, in names and tag values, equal signs, so the structure of the
line is the structure of the point. What the line cannot carry is what the reader gives a
meaning that the writer does not escape: a backslash or a double quote in a name or a tag value;
a square bracket in a name; and in a tag value followed by another tag, a `[` after the last
`]`, which leaves a bracketed section open so that the next comma is read as text. The
measurement must not start with `#`, nor with a blank other than a space, which stripping the
line would drop; a field text written bare must be its own stripped text. The keys of the tags,
and those of the fields, are each named once, as in a map.

The timestamp is written as its decimal text. An integer of more than 4300 digits is refused as
it is written. A truth value is written as `True` or `False`, which no line reads as a
timestamp.

The reading is followed part by part: each part of the line takes the scan from one state to the
next (`Scan.Through`), with what the scan holds once its pending pair is stored (`Scan.Holds`).
-/

namespace SeriesImport.LineProtocol

open SeriesImport.Text SeriesImport.Dispatch

/-! ## Texts the line carries -/

/-- A name: not empty, with no backslash, double quote or square bracket. -/
def PlainName (cs : List Char) : Prop := cs ≠ [] ∧ ∀ c ∈ cs, c ∉ ['\\', '"', '[', ']']

/-- Whether a bracketed section is open after the character `c`, when it was open as `b`. -/
def bracketStep (b : Bool) (c : Char) : Bool :=
  if c = '[' then true else if c = ']' then false else b

/-- Whether a bracketed section is open after the characters `cs` of a tag value. -/
def bracketAfter (b : Bool) (cs : List Char) : Bool := cs.foldl bracketStep b

/-- Every `[` of a text has a `]` after it: no `[` comes after the last `]`. -/
def ClosesBrackets (cs : List Char) : Prop := ∀ pre post, cs = pre ++ '[' :: post → ']' ∈ post

theorem bracketAfter_of_closes {cs : List Char} (h : ClosesBrackets cs) : bracketAfter false cs = false := by
  induction cs using List.reverseRecOn with
  | nil => rfl
  | append_singleton xs c ih =>
    rw [bracketAfter, List.foldl_append, List.foldl_cons, List.foldl_nil]
    by_cases hopen : c = '['
    · subst hopen
      exact absurd (h xs [] rfl) (by simp)
    by_cases hclose : c = ']'
    · simp [bracketStep, hclose]
    have hxs : ClosesBrackets xs := by
      intro pre post hpre
      have := h pre (post ++ [c]) (by simp [hpre])
      simpa [hclose, eq_comm] using this
    simpa [bracketAfter, bracketStep, hopen, hclose] using ih hxs

/-- A measurement the written line carries: a name that does not start with `#`, nor with a
blank other than a space, which the writer escapes. -/
def MeasurementText (m : String) : Prop :=
  PlainName m.toList ∧ ∀ c ∈ m.toList.head?, c ≠ '#' ∧ (c = ' ' ∨ isBlank c = false)

/-- Tags the written line carries: names, each once, and values with no backslash or double
quote, every value but the last closing its brackets. -/
structure TagTexts (ts : List (String × String)) : Prop where
  names : ∀ e ∈ ts, PlainName e.1.toList
  values : ∀ e ∈ ts, ∀ c ∈ e.2.toList, c ≠ '\\' ∧ c ≠ '"'
  closed : ∀ e ∈ ts.dropLast, ClosesBrackets e.2.toList
  nodup : (ts.map Prod.fst).Nodup

/-- Fields the written line carries: at least one, names each once, and values that are their
own stripped text when they are written bare. -/
structure FieldTexts (fs : List (String × String)) : Prop where
  nonempty : fs ≠ []
  names : ∀ e ∈ fs, PlainName e.1.toList
  bare : ∀ e ∈ fs, writtenBare e.2 → strip e.2 = e.2
  nodup : (fs.map Prod.fst).Nodup

/-- A point whose measurement, tags and fields are texts the written line carries. -/
structure Point.Writable (p : Point) : Prop where
  measurement : ∃ m, p.measurement = .str m ∧ MeasurementText m
  tags : ∃ ts, p.tags = textPairs ts ∧ TagTexts ts
  fields : ∃ fs, p.fields = textPairs fs ∧ FieldTexts fs

/-- Entries stored one after another, each under a text key with a text value. -/
def putTexts (es : List (Value × Value)) (ts : List (String × String)) : List (Value × Value) :=
  ts.foldl (fun es e => putEntry es (.str e.1) (.str e.2)) es

/-- Text entries stored under keys each named once, and named in none of the entries before,
are kept in order. -/
theorem putTexts_eq {acc : List (Value × Value)} {ts : List (String × String)}
    (hnd : (ts.map Prod.fst).Nodup) (hnew : ∀ e ∈ ts, ∀ a ∈ acc, a.1 ≠ .str e.1) :
    putTexts acc ts = acc ++ textPairs ts := by
  induction ts generalizing acc with
  | nil => simp [putTexts, textPairs]
  | cons e rest ih =>
    obtain ⟨hnot, hnd'⟩ := List.nodup_cons.1 hnd
    have hput : putEntry acc (.str e.1) (.str e.2) = acc ++ [(.str e.1, .str e.2)] := by
      unfold putEntry
      rw [if_neg]
      simp only [List.any_eq_true, Value.sameScalar_str_iff, not_exists, not_and]
      exact fun a ha => hnew e (by simp) a ha
    have hrest : ∀ e' ∈ rest, ∀ a ∈ acc ++ [(.str e.1, .str e.2)], a.1 ≠ .str e'.1 := by
      intro e' he' a ha
      rcases List.mem_append.1 ha with ha | ha
      · exact hnew e' (by simp [he']) a ha
      · rw [List.mem_singleton.1 ha]
        intro heq
        have hk : e.1 = e'.1 := by simpa using heq
        exact hnot (by rw [hk]; exact List.mem_map_of_mem he')
    simp only [putTexts, List.foldl_cons] at ih ⊢
    rw [hput, ih hnd' hrest]
    simp [textPairs]

/-! ## The scan, character by character -/

namespace Scan

@[simp] theorem append_state (s : Scan) (c : Char) : (s.append c).state = s.state := by
  unfold append; split <;> rfl

@[simp] theorem append_escape (s : Scan) (c : Char) : (s.append c).escape = s.escape := by
  unfold append; split <;> rfl

@[simp] theorem append_quote (s : Scan) (c : Char) : (s.append c).quote = s.quote := by
  unfold append; split <;> rfl

@[simp] theorem append_bracket (s : Scan) (c : Char) : (s.append c).bracket = s.bracket := by
  unfold append; split <;> rfl

@[simp] theorem commit_state (s : Scan) : s.commit.state = s.state := by
  unfold commit; split
  · rfl
  · dsimp only; split <;> rfl

@[simp] theorem commit_escape (s : Scan) : s.commit.escape = s.escape := by
  unfold commit; split
  · rfl
  · dsimp only; split <;> rfl

@[simp] theorem commit_quote (s : Scan) : s.commit.quote = s.quote := by
  unfold commit; split
  · rfl
  · dsimp only; split <;> rfl

@[simp] theorem commit_bracket (s : Scan) : s.commit.bracket = s.bracket := by
  unfold commit; split
  · rfl
  · dsimp only; split <;> rfl

@[simp] theorem commit_key (s : Scan) : s.commit.key = [] := by
  unfold commit; split
  · next h => simpa using h
  · rfl

@[simp] theorem commit_value (s : Scan) : s.commit.value = [] := by
  unfold commit; split <;> rfl

@[simp] theorem commit_timestamp_update (s : Scan) (x : List Char) :
    ({ s with timestamp := x } : Scan).commit = { s.commit with timestamp := x } := by
  unfold commit
  split
  · rfl
  · dsimp only
    split <;> rfl

theorem commit_of_key_nil {s : Scan} (hk : s.key = []) : s.commit = { s with value := [] } := by
  simp [commit, hk]

theorem commit_tags_tagValue {s : Scan} (hst : s.state = .tagValue) (hk : s.key ≠ []) :
    s.commit.tags = putEntry s.tags (.str (String.ofList s.key.reverse))
      (.str (String.ofList s.value.reverse)) := by
  simp [commit, hk, hst]

theorem commit_fields_tagValue {s : Scan} (hst : s.state = .tagValue) :
    s.commit.fields = s.fields := by
  unfold commit
  split
  · rfl
  · simp [hst]

theorem commit_fields_fieldValue {s : Scan} (hst : s.state = .fieldValue) (hk : s.key ≠ []) :
    s.commit.fields = putEntry s.fields (.str (String.ofList s.key.reverse))
      (.str (String.ofList s.value.reverse)) := by
  simp [commit, hk, hst]

theorem commit_tags_fieldValue {s : Scan} (hst : s.state = .fieldValue) :
    s.commit.tags = s.tags := by
  unfold commit
  split
  · rfl
  · simp [hst]

/-- A character that a scan in state `st`, quoting when `q`, adds to the part it reads. -/
def Adds (st : State) (q : Bool) (c : Char) : Prop :=
  c ≠ '\\' ∧ c ≠ '"' ∧
    ((q = true ∧ (CharClass.of c).quotable = true) ∨ (Transition.of st (CharClass.of c)).effect = .append)

theorem feed_of_adds {s : Scan} {c : Char} (hesc : s.escape = false) (h : Adds s.state s.quote c) :
    s.feed c = .next (s.append c) := by
  obtain ⟨hback, hq, hadd⟩ := h
  unfold feed
  simp only [hesc, Bool.false_eq_true, if_false, beq_iff_eq, hback, hq]
  split_ifs with hquoted hbracket
  · rfl
  · rfl
  · rcases hadd with ⟨hq', hcls⟩ | happ
    · simp [hq', hcls] at hquoted
    · rw [happ]

/-- A plain character is added in every state but the keys, where an equal sign ends the key. -/
theorem adds_plain {st : State} {c : Char} (hc : c ∉ [',', ' ', '[', ']', '\\', '"'])
    (heq : c = '=' → st ≠ .tagKey ∧ st ≠ .fieldKey) : Adds st false c := by
  simp only [List.mem_cons, List.not_mem_nil, or_false, not_or] at hc
  refine ⟨hc.2.2.2.2.1, hc.2.2.2.2.2, .inr ?_⟩
  have hcls : CharClass.of c = .equals ∧ c = '=' ∨ CharClass.of c = .other := by
    unfold CharClass.of
    split_ifs <;> simp_all
  rcases hcls with ⟨hcls, rfl⟩ | hcls
  · obtain ⟨hk, hf⟩ := heq rfl
    rw [hcls]
    cases st <;> simp_all [Transition.of]
  · rw [hcls, Transition.of_other]

theorem adds_quoted {c : Char} (hc : c ≠ '\\' ∧ c ≠ '"') : Adds .fieldValue true c := by
  refine ⟨hc.1, hc.2, ?_⟩
  unfold CharClass.of
  split_ifs <;> simp [CharClass.quotable, Transition.of]

/-- An unquoted comma or space that leads to a key or the timestamp stores the pending pair. -/
theorem feed_advance_commit {s : Scan} {c : Char} {st : State} (hesc : s.escape = false)
    (hq : s.quote = false) (hc : c = ',' ∨ c = ' ')
    (hb : ¬(s.bracket = true ∧ c = ',' ∧ s.state = .tagValue))
    (ht : Transition.of s.state (CharClass.of c) = ⟨.advance, some st⟩)
    (hst : st ≠ .tagValue ∧ st ≠ .fieldValue) :
    s.feed c = .next { s.commit with state := st } := by
  have hback : c ≠ '\\' ∧ c ≠ '"' := by rcases hc with rfl | rfl <;> decide
  unfold feed
  simp only [hesc, Bool.false_eq_true, if_false, beq_iff_eq, hback.1, hback.2, hq, Bool.false_and]
  rw [if_neg]
  · rw [ht]
    cases st <;> simp_all
  · simp only [Bool.and_eq_true, beq_iff_eq]
    rintro ⟨⟨h1, h2⟩, h3⟩
    exact hb ⟨h1, by rcases hc with rfl | rfl <;> simp_all [CharClass.of], h3⟩

theorem feed_equals {s : Scan} {st : State} (hesc : s.escape = false) (hq : s.quote = false)
    (ht : Transition.of s.state .equals = ⟨.advance, some st⟩)
    (hst : st = .tagValue ∨ st = .fieldValue) :
    s.feed '=' = .next { s with state := st } := by
  unfold feed
  have hcls : CharClass.of '=' = .equals := rfl
  simp only [hesc, hq, hcls, ht]
  rcases hst with rfl | rfl <;> simp [CharClass.quotable, hesc, hq]

theorem through_escape_pair {s : Scan} (hesc : s.escape = false) (c : Char) :
    s.Through ['\\', c] (s.append c) := by
  refine ⟨{ s with escape := true }, by simp [feed, hesc], s.append c, ?_, rfl⟩
  simp only [feed, if_true]
  congr
  cases s
  simp_all

theorem Through.append {s t u : Scan} {xs ys : List Char} (h : s.Through xs t) (h' : t.Through ys u) :
    s.Through (xs ++ ys) u := by
  induction xs generalizing s with
  | nil => cases h; exact h'
  | cons c xs ih =>
    obtain ⟨v, hv, hrest⟩ := h
    exact ⟨v, hv, ih hrest⟩

theorem foldl_append (s : Scan) (cs : List Char) : cs.foldl Scan.append s =
    match s.state with
    | .measurement => { s with measurement := cs.reverse ++ s.measurement }
    | .tagKey | .fieldKey => { s with key := cs.reverse ++ s.key }
    | .tagValue | .fieldValue => { s with value := cs.reverse ++ s.value }
    | .timestamp => { s with timestamp := cs.reverse ++ s.timestamp } := by
  induction cs generalizing s with
  | nil => cases s; rename_i st _ _ _ _ _ _ _ _ _; cases st <;> rfl
  | cons c cs ih =>
    rw [List.foldl_cons, ih]
    cases s
    rename_i st _ _ _ _ _ _ _ _ _
    cases st <;> simp [append]

theorem through_escaped {special : List Char} {s : Scan} (hesc : s.escape = false) {cs : List Char}
    (hcs : ∀ c ∈ cs, c ∉ special → Adds s.state s.quote c) :
    s.Through (escaped special cs) (cs.foldl Scan.append s) := by
  induction cs generalizing s with
  | nil => rfl
  | cons c cs ih =>
    have hfirst : s.Through (if special.contains c then ['\\', c] else [c]) (s.append c) := by
      split_ifs with hs
      · exact through_escape_pair hesc c
      · exact ⟨s.append c, feed_of_adds hesc (hcs c (by simp) (by simpa using hs)), rfl⟩
    have hrest := ih (s := s.append c) (by simpa using hesc)
      (fun d hd hns => by simpa using hcs d (by simp [hd]) hns)
    simpa [escaped, List.flatMap_cons] using hfirst.append hrest

/-! ## Parts of a line -/

/-- What a scan has read outside the pair it is reading, once that pair is stored: the
measurement `m`, the tags and the fields, and the timestamp `stamp`, with no escape or quote
open. -/
structure Holds (s : Scan) (m : List Char) (tags fields : List (Value × Value))
    (stamp : List Char) : Prop where
  escape : s.escape = false
  quote : s.quote = false
  measurement : s.measurement = m.reverse
  tags : s.commit.tags = tags
  fields : s.commit.fields = fields
  timestamp : s.timestamp = stamp.reverse

theorem Holds.commit {s : Scan} {m : List Char} {T F : List (Value × Value)} {stamp : List Char}
    (hh : s.Holds m T F stamp) (st : State) : ({ s.commit with state := st } : Scan).Holds m T F stamp := by
  have hnil : ({ s.commit with state := st } : Scan).key = [] := by simp
  refine ⟨by simp [hh.escape], by simp [hh.quote], by simp [hh.measurement], ?_, ?_,
    by simp [hh.timestamp]⟩
  · rw [commit_of_key_nil hnil]
    exact hh.tags
  · rw [commit_of_key_nil hnil]
    exact hh.fields

theorem Holds.stamp {s : Scan} {m : List Char} {T F : List (Value × Value)}
    (hh : s.Holds m T F []) (cs : List Char) :
    ({ s with timestamp := cs.reverse ++ s.timestamp } : Scan).Holds m T F cs :=
  ⟨hh.escape, hh.quote, hh.measurement, by simpa using hh.tags, by simpa using hh.fields,
    by simp [hh.timestamp]⟩

theorem through_measurement {cs : List Char} (hcs : ∀ c ∈ cs, c ∉ ['\\', '"', '[', ']']) :
    ({} : Scan).Through (escaped [',', ' '] cs) { measurement := cs.reverse } := by
  have h := @through_escaped [',', ' '] {} rfl cs (by
    intro c hc hns
    have hc' := hcs c hc
    simp only [List.mem_cons, List.not_mem_nil, or_false, not_or] at hns hc'
    exact adds_plain (by simp [hns.1, hns.2, hc'.1, hc'.2.1, hc'.2.2.1, hc'.2.2.2])
      (fun _ => by simp))
  rw [foldl_append] at h
  simpa using h

/-- A name escaped in a key is read as it stands. -/
theorem through_name {s : Scan} (hst : s.state = .tagKey ∨ s.state = .fieldKey)
    (hesc : s.escape = false) (hq : s.quote = false) {cs : List Char}
    (hcs : ∀ c ∈ cs, c ∉ ['\\', '"', '[', ']']) :
    s.Through (escaped keyEscapes cs) { s with key := cs.reverse ++ s.key } := by
  have h := @through_escaped keyEscapes s hesc cs (by
    intro c hc hns
    rw [hq]
    have hc' := hcs c hc
    simp only [keyEscapes, List.mem_cons, List.not_mem_nil, or_false, not_or] at hns hc'
    exact adds_plain (by simp [hns.1, hns.2.2, hc'.1, hc'.2.1, hc'.2.2.1, hc'.2.2.2])
      (fun heq => absurd heq hns.2.1))
  rw [foldl_append] at h
  rcases hst with hst | hst <;> simpa [hst] using h

/-- A tag value, escaped as a name, is read as it stands; its square brackets open and close a
bracketed section. -/
theorem through_tagValue {s : Scan} (hst : s.state = .tagValue) (hesc : s.escape = false)
    (hq : s.quote = false) {cs : List Char} (hcs : ∀ c ∈ cs, c ≠ '\\' ∧ c ≠ '"') :
    s.Through (escaped keyEscapes cs)
      { s with value := cs.reverse ++ s.value, bracket := bracketAfter s.bracket cs } := by
  induction cs generalizing s with
  | nil => rfl
  | cons c cs ih =>
    have hc := hcs c (by simp)
    have hfirst : s.Through (if keyEscapes.contains c then ['\\', c] else [c])
        { s with value := c :: s.value, bracket := bracketStep s.bracket c } := by
      split_ifs with hs
      · have hnb : c ≠ '[' ∧ c ≠ ']' := by
          simp only [keyEscapes, List.contains_iff_mem, List.mem_cons, List.not_mem_nil,
            or_false] at hs
          rcases hs with rfl | rfl | rfl <;> decide
        have h := through_escape_pair hesc c
        simp only [append, hst] at h
        simpa [bracketStep, hnb.1, hnb.2, hst] using h
      · refine ⟨_, ?_, rfl⟩
        by_cases hopen : c = '['
        · subst hopen
          simp [feed, hesc, hq, CharClass.of, CharClass.quotable, hst, Transition.of, append,
            bracketStep]
        by_cases hclose : c = ']'
        · subst hclose
          simp [feed, hesc, hq, CharClass.of, CharClass.quotable, hst, Transition.of, append,
            bracketStep]
        have hplain : c ∉ [',', ' ', '[', ']', '\\', '"'] := by
          simp only [keyEscapes, List.contains_iff_mem, List.mem_cons, List.not_mem_nil,
            or_false, not_or] at hs
          simp [hs.1, hs.2.2, hopen, hclose, hc.1, hc.2]
        have h := feed_of_adds hesc (by rw [hst, hq]; exact adds_plain hplain (by
          intro heq; simp [heq, keyEscapes] at hs))
        simpa [append, hst, bracketStep, hopen, hclose] using h
    have hrest := ih (s := { s with value := c :: s.value, bracket := bracketStep s.bracket c })
      hst hesc hq (fun d hd => hcs d (by simp [hd]))
    simpa [escaped, List.flatMap_cons, bracketAfter] using hfirst.append hrest

/-- A tag after the measurement or after another tag is read as its name and value; the pair
before it is stored. -/
theorem through_tag {s : Scan} {m : List Char} {T : List (Value × Value)}
    (hs : s.state = .measurement ∨ s.state = .tagValue) (hb : s.bracket = false)
    (hh : s.Holds m T [] []) {k v : String} (hk : PlainName k.toList)
    (hv : ∀ c ∈ v.toList, c ≠ '\\' ∧ c ≠ '"') :
    ∃ u, s.Through (tagChars (k, v)) u ∧ u.state = .tagValue ∧
      u.bracket = bracketAfter false v.toList ∧ u.Holds m (putEntry T (.str k) (.str v)) [] [] := by
  let u0 : Scan := { s.commit with state := .tagKey }
  have h0 : s.feed ',' = .next u0 := by
    refine feed_advance_commit hh.escape hh.quote (.inl rfl) (by simp [hb]) ?_ (by simp)
    rcases hs with hs | hs <;> rw [hs] <;> rfl
  have h1 := through_name (s := u0) (.inl rfl) (by simp [u0, hh.escape]) (by simp [u0, hh.quote])
    hk.2
  let u1 : Scan := { u0 with key := k.toList.reverse ++ u0.key }
  have h2 : u1.feed '=' = .next { u1 with state := .tagValue } :=
    feed_equals (by simp [u1, u0, hh.escape]) (by simp [u1, u0, hh.quote]) rfl (.inl rfl)
  have h3 := through_tagValue (s := { u1 with state := .tagValue }) rfl
    (by simp [u1, u0, hh.escape]) (by simp [u1, u0, hh.quote]) hv
  refine ⟨_, ⟨u0, h0, h1.append ⟨_, h2, h3⟩⟩, rfl, by simp [u1, u0, hb], ?_⟩
  have hkey : k.toList.reverse ≠ [] := by simpa using hk.1
  refine ⟨by simp [u1, u0, hh.escape], by simp [u1, u0, hh.quote],
    by simp [u1, u0, hh.measurement], ?_, ?_, by simp [u1, u0, hh.timestamp]⟩
  · rw [commit_tags_tagValue rfl (by simpa [u1, u0] using hkey)]
    simp [u1, u0, hh.tags]
  · rw [commit_fields_tagValue rfl]
    simpa [u1, u0] using hh.fields

/-- The tags, each after a comma, are read one by one; every tag value but the last closes its
brackets, so the comma after it starts the next tag. -/
theorem through_tags {s : Scan} {m : List Char} {T : List (Value × Value)}
    (hs : s.state = .measurement ∨ s.state = .tagValue) (hb : s.bracket = false)
    (hh : s.Holds m T [] []) {ts : List (String × String)}
    (hts : ∀ e ∈ ts, PlainName e.1.toList ∧ ∀ c ∈ e.2.toList, c ≠ '\\' ∧ c ≠ '"')
    (hclosed : ∀ e ∈ ts.dropLast, ClosesBrackets e.2.toList) :
    ∃ t, s.Through (ts.flatMap tagChars) t ∧ (t.state = .measurement ∨ t.state = .tagValue) ∧
      t.Holds m (putTexts T ts) [] [] := by
  induction ts generalizing s T with
  | nil => exact ⟨s, rfl, hs, hh⟩
  | cons e rest ih =>
    obtain ⟨u, hu, hust, hub, huh⟩ :=
      through_tag hs hb hh (hts e (by simp)).1 (hts e (by simp)).2
    cases rest with
    | nil => exact ⟨u, by simpa using hu, .inr hust, huh⟩
    | cons e' rest' =>
      have hub' : u.bracket = false := by
        rw [hub]
        exact bracketAfter_of_closes (hclosed e (by simp))
      obtain ⟨t, ht, hts', hth⟩ := ih (.inr hust) hub' huh
        (fun e he => hts e (List.mem_cons_of_mem _ he))
        (fun e he => hclosed e (by simp_all))
      exact ⟨t, by simpa using hu.append ht, hts', hth⟩

/-- A field text as written is read back as it stands, bare or quoted. -/
theorem through_fieldValue {s : Scan} (hst : s.state = .fieldValue) (hesc : s.escape = false)
    (hq : s.quote = false) {v : String} (hv : writtenBare v → strip v = v) :
    s.Through (fieldValueChars v) { s with value := v.toList.reverse ++ s.value } := by
  unfold fieldValueChars
  split_ifs with hb
  · have hplain := writtenBare_plain hb (hv hb)
    rw [hv hb]
    have h := @through_escaped [] s hesc v.toList (fun c hc _ => by
      rw [hst, hq]
      exact adds_plain (hplain c hc) (fun heq => by simp))
    rw [foldl_append] at h
    simpa [escaped, hst] using h
  · let s1 : Scan := { s with quote := true }
    have h1 : s.feed '"' = .next s1 := by simp [feed, hesc, hq, s1]
    have h2 := @through_escaped ['\\', '"'] s1 hesc v.toList
      (fun c _ hns => by
        simp only [List.mem_cons, List.not_mem_nil, or_false, not_or] at hns
        simpa [s1, hst] using adds_quoted hns)
    have h2' : s1.Through (escaped ['\\', '"'] v.toList)
        { s1 with value := v.toList.reverse ++ s1.value } := by
      rw [foldl_append] at h2
      simpa [s1, hst] using h2
    have h3 : Scan.Through { s1 with value := v.toList.reverse ++ s1.value } ['"']
        { s with value := v.toList.reverse ++ s.value } :=
      ⟨_, by simp [feed, s1, hesc, hq], rfl⟩
    exact ⟨s1, h1, h2'.append h3⟩

/-- Characters that a scan reading a field value, with no escape or quote open, reads as the text
`v`, leaving no escape or quote open: the form a field value is written in. -/
def ValueForm (w : List Char) (v : String) : Prop :=
  ∀ s : Scan, s.state = .fieldValue → s.escape = false → s.quote = false →
    s.Through w { s with value := v.toList.reverse ++ s.value }

theorem valueForm_fieldValueChars {v : String} (hv : writtenBare v → strip v = v) :
    ValueForm (fieldValueChars v) v :=
  fun _ hst hesc hq => through_fieldValue hst hesc hq hv

/-- A field after a space or a comma is read as its name and value, the value in any form that
reads as it. -/
theorem through_field_of {s : Scan} {m : List Char} {T F : List (Value × Value)}
    (hst : s.state = .fieldKey) (hkey : s.key = []) (hval : s.value = []) (hh : s.Holds m T F [])
    {k v : String} {w : List Char} (hk : PlainName k.toList) (hw : ValueForm w v) :
    ∃ u, s.Through (escaped keyEscapes k.toList ++ '=' :: w) u ∧ u.state = .fieldValue ∧
      u.Holds m T (putEntry F (.str k) (.str v)) [] := by
  have h1 := through_name (.inr hst) hh.escape hh.quote hk.2
  let u1 : Scan := { s with key := k.toList.reverse ++ s.key }
  have h2 : u1.feed '=' = .next { u1 with state := .fieldValue } :=
    feed_equals (by simp [u1, hh.escape]) (by simp [u1, hh.quote]) (by simp [u1, hst]; rfl)
      (.inr rfl)
  have h3 := hw { u1 with state := .fieldValue } rfl (by simp [u1, hh.escape])
    (by simp [u1, hh.quote])
  refine ⟨_, h1.append ⟨_, h2, h3⟩, rfl, ?_⟩
  have hs := commit_of_key_nil hkey
  have hkey' : k.toList.reverse ≠ [] := by simpa using hk.1
  refine ⟨by simp [u1, hh.escape], by simp [u1, hh.quote], by simp [u1, hh.measurement], ?_, ?_,
    by simp [u1, hh.timestamp]⟩
  · rw [commit_tags_fieldValue rfl, ← hh.tags, hs]
  · rw [commit_fields_fieldValue rfl (by simpa [u1, hkey] using hkey'), ← hh.fields, hs]
    simp [u1, hkey, hval]

/-- The characters of fields, each a name, an equal sign and the form of its value, separated by
commas. Each field is its name, the form and the text the form reads as. -/
def formFieldsChars (fs : List (String × List Char × String)) : List Char :=
  [','].intercalate (fs.map fun f => escaped keyEscapes f.1.toList ++ '=' :: f.2.1)

/-- Fields, separated by commas, are read one by one, each value in a form that reads as it. -/
theorem through_fields_of {s : Scan} {m : List Char} {T F : List (Value × Value)}
    (hst : s.state = .fieldKey) (hkey : s.key = []) (hval : s.value = [])
    (hh : s.Holds m T F []) {fs : List (String × List Char × String)} (hne : fs ≠ [])
    (hfs : ∀ f ∈ fs, PlainName f.1.toList ∧ ValueForm f.2.1 f.2.2) :
    ∃ t, s.Through (formFieldsChars fs) t ∧ t.state = .fieldValue ∧
      t.Holds m T (putTexts F (fs.map fun f => (f.1, f.2.2))) [] := by
  induction fs generalizing s F with
  | nil => exact absurd rfl hne
  | cons f rest ih =>
    obtain ⟨u, hu, hust, huh⟩ :=
      through_field_of hst hkey hval hh (hfs f (by simp)).1 (hfs f (by simp)).2
    cases rest with
    | nil => exact ⟨u, by simpa [formFieldsChars] using hu, hust, huh⟩
    | cons f' rest' =>
      have hc : u.feed ',' = .next { u.commit with state := .fieldKey } :=
        feed_advance_commit huh.escape huh.quote (.inl rfl) (by simp [hust])
          (by rw [hust]; rfl) (by simp)
      obtain ⟨t, ht, htst, hth⟩ := ih rfl (by simp) (by simp) (huh.commit .fieldKey) (by simp)
        (fun e he => hfs e (List.mem_cons_of_mem _ he))
      have hrest : u.Through ([','] ++ formFieldsChars (f' :: rest')) t := ⟨_, hc, ht⟩
      refine ⟨t, ?_, htst, hth⟩
      rw [formFieldsChars, List.map_cons, List.intercalate_cons_of_ne_nil (by simp),
        List.append_assoc]
      exact hu.append hrest

theorem through_stamp {s : Scan} (hst : s.state = .timestamp) (hesc : s.escape = false)
    (hq : s.quote = false) {cs : List Char} (hcs : ∀ c ∈ cs, c ∉ [',', ' ', '[', ']', '\\', '"']) :
    s.Through cs { s with timestamp := cs.reverse ++ s.timestamp } := by
  have h := @through_escaped [] s hesc cs (fun c hc _ => by
    rw [hst, hq]
    exact adds_plain (hcs c hc) (fun _ => by simp))
  rw [foldl_append] at h
  simpa [escaped, hst] using h

end Scan

/-- The measurement, the tags, a space and the fields of a line are read, holding them all, the
last field still pending. -/
theorem Scan.through_body {m : String} {ts : List (String × String)}
    {fs : List (String × List Char × String)} (hm : PlainName m.toList)
    (hts : ∀ e ∈ ts, PlainName e.1.toList ∧ ∀ c ∈ e.2.toList, c ≠ '\\' ∧ c ≠ '"')
    (hclosed : ∀ e ∈ ts.dropLast, ClosesBrackets e.2.toList) (hne : fs ≠ [])
    (hfs : ∀ f ∈ fs, PlainName f.1.toList ∧ ValueForm f.2.1 f.2.2) :
    ∃ t, Scan.Through {}
        (escaped [',', ' '] m.toList ++ ts.flatMap tagChars ++ ' ' :: formFieldsChars fs) t ∧
      t.state = .fieldValue ∧
      t.Holds m.toList (putTexts [] ts) (putTexts [] (fs.map fun f => (f.1, f.2.2))) [] := by
  have h1 := Scan.through_measurement hm.2
  have hh1 : Scan.Holds { measurement := m.toList.reverse } m.toList [] [] [] :=
    ⟨rfl, rfl, rfl, by simp [Scan.commit], by simp [Scan.commit], rfl⟩
  obtain ⟨t2, h2, hst2, hh2⟩ := Scan.through_tags (.inl rfl) rfl hh1 hts hclosed
  have h3 : t2.feed ' ' = .next { t2.commit with state := .fieldKey } := by
    refine Scan.feed_advance_commit hh2.escape hh2.quote (.inr rfl) (by simp) ?_ (by simp)
    rcases hst2 with hs | hs <;> rw [hs] <;> rfl
  have hsp3 : t2.Through [' '] { t2.commit with state := .fieldKey } := ⟨_, h3, rfl⟩
  obtain ⟨t4, h4, hst4, hh4⟩ := Scan.through_fields_of (s := { t2.commit with state := .fieldKey })
    rfl (by simp) (by simp) (hh2.commit .fieldKey) hne hfs
  exact ⟨t4, by simpa using h1.append (h2.append (hsp3.append h4)), hst4, hh4⟩

/-- After the fields, a space and a timestamp are read to the end of the line. -/
theorem Scan.run_stamp {body : List Char} {t : Scan} {m : List Char} {T F : List (Value × Value)}
    (hb : Scan.Through {} body t) (hst : t.state = .fieldValue) (hh : t.Holds m T F [])
    {stamp : List Char} (hstamp : ∀ c ∈ stamp, c ∉ [',', ' ', '[', ']', '\\', '"']) :
    ∃ u, Scan.run {} (body ++ ' ' :: stamp) = .ok u ∧ u.Holds m T F stamp := by
  have h5 : t.feed ' ' = .next { t.commit with state := .timestamp } :=
    Scan.feed_advance_commit hh.escape hh.quote (.inr rfl) (by simp [hst])
      (by rw [hst]; rfl) (by simp)
  have hh5 := hh.commit .timestamp
  have h6 := Scan.through_stamp (s := { t.commit with state := .timestamp }) rfl
    hh5.escape hh5.quote hstamp
  have hall := hb.append (show t.Through (' ' :: stamp) _ from ⟨_, h5, h6⟩)
  refine ⟨_, ?_, hh5.stamp stamp⟩
  rw [← List.append_nil (body ++ ' ' :: stamp), hall.run_append]
  rfl

/-- The written line of a measurement, tags, fields and timestamp is read to the end, holding
them all. -/
theorem Scan.run_lineChars {m : String} {ts fs : List (String × String)} {stamp : String}
    (hm : PlainName m.toList)
    (hts : ∀ e ∈ ts, PlainName e.1.toList ∧ ∀ c ∈ e.2.toList, c ≠ '\\' ∧ c ≠ '"')
    (hclosed : ∀ e ∈ ts.dropLast, ClosesBrackets e.2.toList) (hne : fs ≠ [])
    (hfs : ∀ e ∈ fs, PlainName e.1.toList ∧ (writtenBare e.2 → strip e.2 = e.2))
    (hstamp : ∀ c ∈ stamp.toList, c ∉ [',', ' ', '[', ']', '\\', '"']) :
    ∃ t, Scan.run {} (lineChars m ts fs stamp) = .ok t ∧
      t.Holds m.toList (putTexts [] ts) (putTexts [] fs) stamp.toList := by
  have hne' : fs.map (fun f => (f.1, fieldValueChars f.2, f.2)) ≠ [] := by simpa using hne
  obtain ⟨t, hb, hst, hh⟩ := Scan.through_body hm hts hclosed hne' (by
      simp only [List.mem_map]
      rintro _ ⟨e, he, rfl⟩
      exact ⟨(hfs e he).1, valueForm_fieldValueChars (hfs e he).2⟩)
  have hrun := Scan.run_stamp hb hst hh hstamp
  simp only [formFieldsChars, List.map_map, Function.comp_def, Prod.mk.eta, List.map_id'] at hrun
  exact hrun

/-! ## The timestamp -/

theorem digitsValue_eq (ds : List Char) : digitsValue ds = Nat.ofDigitChars 10 ds 0 := by
  unfold digitsValue
  rw [Nat.ofDigitChars_eq_foldl]
  congr 1
  funext a d
  rw [Nat.mul_comm]
  rfl

/-- The decimal text of an integer reads back as it, unless it has more digits than an integer
is read from. -/
theorem timestampValue?_toString (i : Int) (h : (toString i.natAbs).length ≤ Number.intDigitLimit) :
    timestampValue? (toString i).toList = .ok (some i) := by
  obtain ⟨sign, hsign, htext, hneg⟩ := toList_toString_int i
  have hdigits : ∀ d ∈ Nat.toDigits 10 i.natAbs, d.isDigit :=
    fun d hd => Nat.isDigit_of_mem_toDigits (by decide) (by decide) hd
  have hlen : (Nat.toDigits 10 i.natAbs).length ≤ Number.intDigitLimit := by
    simpa [← String.length_toList] using h
  have hsign' : sign ∈ [[], ['+'], ['-']] := by
    simp only [List.mem_cons, List.not_mem_nil, or_false] at hsign ⊢
    rcases hsign with rfl | rfl <;> simp
  rw [htext, ← List.append_nil (sign ++ _), timestampValue?_signed hsign' (by simp)
    Nat.toDigits_ne_nil hdigits, if_neg (by omega), digitsValue_eq, Nat.ofDigitChars_ten_toDigits]
  congr 2
  by_cases hi : i < 0
  · rw [if_pos (hneg.2 hi)]
    omega
  · rw [if_neg (fun h => hi (hneg.1 h))]
    omega

/-- A scan that holds a measurement, fields and a timestamp that reads finishes with their
point. -/
theorem Scan.finish_of_holds {s : Scan} {m stamp : List Char} {T F : List (Value × Value)}
    (hh : s.Holds m T F stamp) {n : Int} (hv : timestampValue? stamp = .ok (some n))
    (hF : F ≠ []) (hm : m ≠ []) (line : String) (mult now : Int) :
    s.finish line (.int mult) now = .ok ⟨.str (String.ofList m), T, F, .int (n * mult)⟩ := by
  have hstamp : stamp ≠ [] := by
    rintro rfl
    simp [timestampValue?] at hv
  simp only [Scan.finish, commit_timestamp, commit_measurement, hh.timestamp, hh.measurement,
    hh.tags, hh.fields, List.reverse_reverse, List.isEmpty_iff, hstamp, if_false, hv]
  simp [bind, Except.bind, Value.timesInt, Point.make, Value.truthy, hF, hm]

/-! ## Reading the written line -/

/-- A line of data whose ends are not blank and that does not start with `#` is read as it
stands. -/
theorem readLine_ofList {L : List Char} (hne : L ≠ [])
    (hhead : ∀ c ∈ L.head?, isBlank c = false ∧ c ≠ '#')
    (hlast : ∀ c ∈ L.getLast?, isBlank c = false) (mult : Value) (now : Int) :
    readLine (String.ofList L) mult now = (readData (String.ofList L) mult now).map some := by
  have hstrip := toList_strip_ofList (fun c hc => (hhead c hc).1) hlast
  have htext : strip (String.ofList L) = String.ofList L := by
    simpa only [String.ofList_toList] using congrArg String.ofList hstrip
  have hdata : ¬ NoData (strip (String.ofList L)).toList := by
    rw [hstrip]
    rintro (h | h)
    · exact hne h
    · exact (hhead '#' h).2 rfl
  rw [readLine_of_data hdata, htext]

/-- The written line starts with the measurement, escaped: with a backslash, or with its own
first character. -/
theorem lineChars_head {m : String} (hm : MeasurementText m) (ts fs : List (String × String))
    (stamp : String) : ∀ c ∈ (lineChars m ts fs stamp).head?, isBlank c = false ∧ c ≠ '#' := by
  obtain ⟨c0, rest, hm0⟩ := List.exists_cons_of_ne_nil hm.1.1
  obtain ⟨hhash, hblank⟩ := hm.2 c0 (by simp [hm0])
  intro c hc
  simp only [lineChars, escaped, hm0, List.flatMap_cons, List.append_assoc] at hc
  split_ifs at hc with hs
  · simp only [List.cons_append, List.head?_cons, Option.mem_def, Option.some.injEq] at hc
    subst hc
    decide
  · simp only [List.cons_append, List.head?_cons, Option.mem_def, Option.some.injEq] at hc
    subst hc
    refine ⟨?_, hhash⟩
    rcases hblank with rfl | hb
    · simp at hs
    · exact hb

theorem lineChars_getLast? (m : String) (ts fs : List (String × String)) {stamp : String}
    (hs : stamp.toList ≠ []) :
    (lineChars m ts fs stamp).getLast? = stamp.toList.getLast? := by
  obtain ⟨init, x, hx⟩ := List.eq_nil_or_concat stamp.toList |>.resolve_left hs
  rw [List.concat_eq_append] at hx
  rw [lineChars, hx, ← List.cons_append, ← List.append_assoc, List.getLast?_concat,
    List.getLast?_concat]

theorem toString_int_last (i : Int) : ∀ c ∈ (toString i).toList.getLast?, isBlank c = false := by
  obtain ⟨sign, -, htext, -⟩ := toList_toString_int i
  intro c hc
  rw [htext, List.getLast?_append_of_ne_nil _ Nat.toDigits_ne_nil] at hc
  exact isBlank_of_isDigit
    (Nat.isDigit_of_mem_toDigits (by decide) (by decide) (List.mem_of_getLast? hc))

/-- Writing a point whose measurement, tags and fields are texts the line carries, and whose
timestamp is an integer, and reading the line back gives the point: the same measurement, the
same tags and fields in the same order, the same timestamp. Only an integer of more digits than
an integer is shown with fails, as it is written. -/
theorem written_point_reads_back (p : Point) (hp : Point.Writable p) (i : Int)
    (hi : p.timestamp = .int i) (now : Int) :
    (Point.toLine p >>= fun line => readLine line (.int 1) now) =
      if Number.intDigitLimit < (toString i.natAbs).length then
        .error (.badValue intTextLimitMessage)
      else .ok (some p) := by
  obtain ⟨m, hm, hmt⟩ := hp.measurement
  obtain ⟨ts, hts, htt⟩ := hp.tags
  obtain ⟨fs, hfs, hft⟩ := hp.fields
  have hpoint : p = ⟨.str m, textPairs ts, textPairs fs, .int i⟩ := by
    cases p
    simp_all
  rw [hpoint, toLine_texts]
  simp only [shownText, intText]
  split_ifs with hlong
  · rfl
  obtain ⟨t, hrun, hh⟩ := Scan.run_lineChars hmt.1
    (fun e he => ⟨htt.names e he, htt.values e he⟩) htt.closed hft.nonempty
    (fun e he => ⟨hft.names e he, hft.bare e he⟩) (toString_int_plain i)
  have hstamp : (toString i).toList ≠ [] := by
    obtain ⟨sign, -, htext, -⟩ := toList_toString_int i
    rw [htext]
    exact List.append_ne_nil_of_right_ne_nil _ Nat.toDigits_ne_nil
  have hline : readLine (String.ofList (lineChars m ts fs (toString i))) (.int 1) now =
      (readData (String.ofList (lineChars m ts fs (toString i))) (.int 1) now).map some := by
    refine readLine_ofList (by simp [lineChars]) (lineChars_head hmt ts fs _) ?_ (.int 1) now
    rw [lineChars_getLast? m ts fs hstamp]
    exact toString_int_last i
  have htags : putTexts [] ts = textPairs ts := putTexts_eq htt.nodup (by simp)
  have hfields : putTexts [] fs = textPairs fs := putTexts_eq hft.nodup (by simp)
  have hfne : putTexts [] fs ≠ [] := by
    rw [hfields]
    simpa [textPairs] using hft.nonempty
  simp only [Except.map, bind, Except.bind]
  rw [hline]
  unfold readData
  rw [String.toList_ofList, hrun]
  dsimp only
  rw [Scan.finish_of_holds hh (timestampValue?_toString i (by omega)) hfne (by simpa using hmt.1.1),
    htags, hfields]
  simp [Except.map]

theorem written_point_reads_back_sample :
    let p : Point := ⟨.str "cpu load", textPairs [("host", "a,b=c"), ("rack", "r[1")],
      textPairs [("msg", "hot, \"dry\" [x]"), ("n", "15")], .int (-42)⟩
    Point.Writable p ∧ (Point.toLine p >>= fun line => readLine line (.int 1) 0) = .ok (some p) := by
  intro p
  have hw : Point.Writable p := by
    refine ⟨⟨"cpu load", rfl, ⟨by simp, by simp⟩, by simp [isBlank]⟩, ⟨_, rfl, ?_⟩, ⟨_, rfl, ?_⟩⟩
    · refine ⟨by simp [PlainName], by simp, ?_, by simp⟩
      intro e he pre post h
      simp at he
      subst he
      have : '[' ∈ "a,b=c".toList := by rw [h]; simp
      simp at this
    · refine ⟨by simp, by simp [PlainName], ?_, by simp⟩
      intro e he _
      simp only [List.mem_cons, List.not_mem_nil, or_false] at he
      rcases he with rfl | rfl <;> decide
  exact ⟨hw, by rw [written_point_reads_back p hw (-42) rfl 0, if_neg (by decide)]⟩

/-- A truth value as timestamp is written as `True`, which is no timestamp a line is read with:
such a point is not read back. -/
theorem bool_timestamp_does_not_read_back :
    Point.toLine ⟨.str "m", [], [(.str "v", .str "x")], .bool true⟩ = .ok "m v=\"x\" True" ∧
      readLine "m v=\"x\" True" (.int 1) 0 =
        .error (.parse "invalid timestamp: 'True'" none "m v=\"x\" True") := by
  constructor
  · rfl
  · rfl

end SeriesImport.LineProtocol
