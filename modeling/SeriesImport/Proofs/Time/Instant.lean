import Mathlib
import SeriesImport.Time.Instant
/-!
# RFC 3339 instants, read exactly

A text, stripped of blanks, names an instant only in the shape `YYYY-MM-DDTHH:MM:SS`, then
optionally a point and one to nine digits of a second, then `Z` or `±HH:MM`, where a digit may be
of any script (`Stamp.Shaped`). A text of that shape names one when its date, time and offset are
written in ASCII digits and their fields are valid (`Stamp.Valid`): a year from 1, a month and a
day that exist in the proleptic Gregorian calendar, a time within the day or `24:00:00` before
the last day of 9999, and an offset below 24 hours and 60 minutes. The instant is the local date
and time less the offset (`Stamp.utcSeconds`), in nanoseconds, with the fraction read as that
many tenths, hundredths and so on of a second; one whose universal time leaves the years 1 to
9999 is an error.
-/

namespace SeriesImport.Time

open SeriesImport.Text

/-! ## Days of the years 1 to 9999 -/

theorem days_start_of_range : (Date.mk 1 1 1).days = -719162 := by decide

theorem days_end_of_range : (Date.mk 10000 1 1).days = 2932897 := by decide

theorem days_start_le {d : Date} (hv : d.valid = true) (hy : 1 ≤ d.year) :
    (Date.mk 1 1 1).days ≤ d.days := by
  rw [days_start_of_range]
  simp only [Date.valid, Bool.and_eq_true, decide_eq_true_eq] at hv
  obtain ⟨⟨⟨hm1, hm12⟩, hd1⟩, hdl⟩ := hv
  simp only [Date.days, Int.fdiv_eq_ediv_of_nonneg _ (by decide : (0 : Int) ≤ 400)]
  split_ifs <;> omega

/-- The day after a date of a year up to 9999 is no later than 1 January 10000, and is that day
exactly when the date is 31 December 9999. -/
theorem days_succ_le_end {d : Date} (hv : d.valid = true) (hy : d.year ≤ 9999) :
    d.days + 1 ≤ (Date.mk 10000 1 1).days ∧
      (d.days + 1 = (Date.mk 10000 1 1).days ↔ d = ⟨9999, 12, 31⟩) := by
  rw [days_end_of_range]
  obtain ⟨y, m, dd⟩ := d
  simp only [Date.valid, Bool.and_eq_true, decide_eq_true_eq] at hv hy
  obtain ⟨⟨⟨hm1, hm12⟩, hd1⟩, hdl⟩ := hv
  simp only [Date.days, Int.fdiv_eq_ediv_of_nonneg _ (by decide : (0 : Int) ≤ 400),
    Date.mk.injEq]
  have hera : (y - 1) / 400 ≤ 23 ∨ (y - 1) / 400 = 24 := by omega
  have hera' : y / 400 ≤ 23 ∨ y / 400 = 24 := by omega
  interval_cases m <;> simp only [monthLength] at hdl <;> norm_num
  all_goals (try split_ifs at hdl) <;> constructor <;> omega

/-! ## Digits -/

theorem digitValue?_lt {c : Char} {v : Nat} (h : digitValue? c = some v) : v < 10 := by
  unfold digitValue? at h
  cases hf : runStarts.find? (fun s => s ≤ c.toNat && c.toNat < s + 10) with
  | none => simp [hf] at h
  | some s =>
    have hs := List.find?_some hf
    simp only [hf, Option.some.injEq] at h
    simp only [Bool.and_eq_true, decide_eq_true_eq] at hs
    omega

/-- Digits read from a value `a` so far stay below `(a + 1) · 10 ^ k` after `k` more. -/
theorem foldl_digit_lt (cs : List Char) (a : Nat) :
    cs.foldl (fun a c => a * 10 + (digitValue? c).getD 0) a < (a + 1) * 10 ^ cs.length := by
  induction cs generalizing a with
  | nil => simp
  | cons c cs ih =>
    have hc : (digitValue? c).getD 0 < 10 := by
      cases h : digitValue? c with
      | none => simp
      | some v => simpa using digitValue?_lt h
    calc (c :: cs).foldl (fun a c => a * 10 + (digitValue? c).getD 0) a
        < (a * 10 + (digitValue? c).getD 0 + 1) * 10 ^ cs.length := ih _
      _ ≤ (a + 1) * 10 * 10 ^ cs.length := Nat.mul_le_mul_right _ (by omega)
      _ = (a + 1) * 10 ^ (c :: cs).length := by rw [List.length_cons, pow_succ]; ring

theorem slice_lt (cs : List Char) (start len : Nat) : slice cs start len < 10 ^ len := by
  have h := foldl_digit_lt ((cs.drop start).take len) 0
  calc slice cs start len < 10 ^ ((cs.drop start).take len).length := by simpa [slice, digitsValue] using h
    _ ≤ 10 ^ len := Nat.pow_le_pow_right (by decide) (by simp)

theorem fits_length {shape cs : List Char} (h : fits shape cs = true) :
    cs.length = shape.length := by
  simp only [fits, Bool.and_eq_true, beq_iff_eq] at h
  exact h.1.symm

/-- Characters that fit a shape are digits, or characters of the shape. -/
theorem fits_mem {shape cs : List Char} (h : fits shape cs = true) {c : Char} (hc : c ∈ cs) :
    isDigit c = true ∨ c ∈ shape := by
  simp only [fits, Bool.and_eq_true, beq_iff_eq, List.all_eq_true] at h
  obtain ⟨hlen, hall⟩ := h
  obtain ⟨i, hi, rfl⟩ := List.getElem_of_mem hc
  have hi' : i < shape.length := by omega
  have hmem : (shape[i], cs[i]) ∈ shape.zip cs := by
    rw [List.mem_iff_getElem]
    exact ⟨i, by simp; omega, by simp⟩
  have hpair := hall _ hmem
  split at hpair
  · exact .inl hpair
  · right
    rw [beq_iff_eq] at hpair
    simp only at hpair
    rw [← hpair]
    exact List.getElem_mem _

/-- A text that fits a shape holds every character of the shape other than `d`. -/
theorem mem_of_fits {shape cs : List Char} (h : fits shape cs = true) {p : Char} (hp : p ∈ shape)
    (hd : p ≠ 'd') : p ∈ cs := by
  simp only [fits, Bool.and_eq_true, beq_iff_eq, List.all_eq_true] at h
  obtain ⟨hlen, hall⟩ := h
  obtain ⟨i, hi, rfl⟩ := List.getElem_of_mem hp
  have hi' : i < cs.length := by omega
  have hmem : (shape[i], cs[i]) ∈ shape.zip cs := by
    rw [List.mem_iff_getElem]
    exact ⟨i, by simp; omega, by simp⟩
  have hpair := hall _ hmem
  simp only [beq_iff_eq, hd, if_false] at hpair
  rw [hpair]
  exact List.getElem_mem _

/-! ## The shape of an instant -/

/-- An offset written `Z`, or a sign and `HH:MM`. -/
def OffsetShaped (o : List Char) : Prop :=
  o = ['Z'] ∨ ∃ sign body, (sign = '+' ∨ sign = '-') ∧ o = sign :: body ∧
    fits "dd:dd".toList body = true

/-- The text of a stamp: the date and time, a point and the fraction when there is one, and
the offset. -/
def Stamp.chars (st : Stamp) : List Char :=
  st.base ++ (if st.fraction = [] then [] else '.' :: st.fraction) ++ st.offset

/-- A stamp of the shape of an RFC 3339 instant: `YYYY-MM-DDTHH:MM:SS`, at most nine digits of a
second, and an offset, every digit of any script. -/
structure Stamp.Shaped (st : Stamp) : Prop where
  base : fits "dddd-dd-ddTdd:dd:dd".toList st.base = true
  fraction : st.fraction.length ≤ 9 ∧ ∀ c ∈ st.fraction, isDigit c = true
  offset : OffsetShaped st.offset

theorem offsetOk_iff (o : List Char) :
    (o == ['Z'] || ((o.head? == some '+' || o.head? == some '-') &&
      fits "dd:dd".toList (o.drop 1))) = true ↔ OffsetShaped o := by
  unfold OffsetShaped
  cases o with
  | nil => simp
  | cons c body =>
    by_cases hz : c :: body = ['Z']
    · simp [hz]
    · simp only [hz, false_or, List.head?_cons, List.drop_succ_cons, List.drop_zero,
        Option.some.injEq, List.cons.injEq, exists_and_left, Bool.or_eq_true,
        beq_iff_eq, Bool.and_eq_true]
      constructor
      · rintro ⟨hs, hf⟩
        exact ⟨c, hs, body, ⟨rfl, rfl⟩, hf⟩
      · rintro ⟨sign, hs, body', ⟨rfl, rfl⟩, hf⟩
        exact ⟨hs, hf⟩

theorem OffsetShaped.head {o : List Char} (h : OffsetShaped o) :
    ∃ c rest, o = c :: rest ∧ c ≠ '.' ∧ isDigit c = false := by
  rcases h with rfl | ⟨sign, body, hs, rfl, -⟩
  · exact ⟨'Z', [], rfl, by decide, by decide⟩
  · rcases hs with rfl | rfl
    · exact ⟨'+', body, rfl, by decide, by decide⟩
    · exact ⟨'-', body, rfl, by decide, by decide⟩

/-- The reader takes a text of a stamp's shape apart into that stamp. -/
theorem ofChars?_chars {st : Stamp} (hs : st.Shaped) : Stamp.ofChars? st.chars = some st := by
  obtain ⟨b, f, o⟩ := st
  obtain ⟨hb, ⟨hf9, hfd⟩, ho⟩ := hs
  have h19 : b.length = 19 := fits_length hb
  obtain ⟨c, rest, rfl, hcp, hcd⟩ := ho.head
  have hoff := (offsetOk_iff (c :: rest)).2 ho
  unfold Stamp.ofChars?
  simp only [Stamp.chars, List.append_assoc]
  rw [List.take_append_of_le_length (by omega), List.take_of_length_le (by omega),
    List.drop_append_of_le_length (by omega), List.drop_of_length_le (by omega), List.nil_append]
  simp only [hb, Bool.not_true, Bool.false_eq_true, if_false]
  by_cases hf : f = []
  · subst hf
    simp only [if_true, List.nil_append]
    split
    · next r h => exact absurd (List.cons.inj h).1 hcp
    · simp only [hoff, Bool.and_true, ite_true]
  · have htake : (f ++ c :: rest).takeWhile isDigit = f := by
      rw [List.takeWhile_append_of_pos (by simpa using hfd), List.takeWhile_cons_of_neg (by simp [hcd]),
        List.append_nil]
    have hdrop : (f ++ c :: rest).dropWhile isDigit = c :: rest := by
      rw [List.dropWhile_append_of_pos (by simpa using hfd), List.dropWhile_cons_of_neg (by simp [hcd])]
    have hlen : 1 ≤ f.length := List.length_pos_iff.2 hf
    simp only [hf, if_false, List.cons_append, htake, hdrop, hoff]
    simp [hlen, hf9]

/-- What the reader accepts is the text of a stamp of the shape, the stamp it gives. -/
theorem shaped_of_ofChars? {cs : List Char} {st : Stamp} (h : Stamp.ofChars? cs = some st) :
    st.Shaped ∧ cs = st.chars := by
  have hsplit := List.take_append_drop 19 cs
  by_cases hb : fits "dddd-dd-ddTdd:dd:dd".toList (cs.take 19) = true
  · simp only [Stamp.ofChars?, hb, Bool.not_true, Bool.false_eq_true, if_false] at h
    generalize cs.drop 19 = rest at h hsplit
    rcases rest with _ | ⟨c, r⟩
    · simp at h
    · by_cases hc : c = '.'
      · subst hc
        simp only at h
        split at h
        · next hcond =>
          cases h
          simp only [Bool.and_eq_true, decide_eq_true_eq] at hcond
          obtain ⟨⟨h1, h9⟩, hoff⟩ := hcond
          have hne : r.takeWhile isDigit ≠ [] := List.length_pos_iff.1 h1
          refine ⟨⟨hb, ⟨h9, fun c hc => List.mem_takeWhile_imp hc⟩, (offsetOk_iff _).1 hoff⟩, ?_⟩
          simp only [Stamp.chars, hne, if_false, List.append_assoc, List.cons_append,
            List.takeWhile_append_dropWhile, hsplit]
        · cases h
      · split at h
        · next r' h' => exact absurd (List.cons.inj h').1 hc
        · split at h
          · next hcond =>
            cases h
            simp only [Bool.true_and] at hcond
            refine ⟨⟨hb, ⟨by simp, by simp⟩, (offsetOk_iff _).1 hcond⟩, ?_⟩
            simp only [Stamp.chars, if_true, List.append_nil, hsplit]
          · cases h
  · rw [Bool.not_eq_true] at hb
    simp only [Stamp.ofChars?, hb, Bool.not_false, if_true, reduceCtorEq] at h

/-- The reader accepts exactly the texts of the shape of a stamp, and takes each apart into its
stamp. -/
theorem ofChars?_eq_some_iff (cs : List Char) (st : Stamp) :
    Stamp.ofChars? cs = some st ↔ st.Shaped ∧ cs = st.chars :=
  ⟨shaped_of_ofChars?, fun ⟨hs, hcs⟩ => hcs ▸ ofChars?_chars hs⟩

/-- A text without the letter `T`, which parts the date from the time, names no instant. -/
theorem parseInstant_of_not_mem {s : String} (h : 'T' ∉ (strip s).toList) :
    parseInstant s = .ok none := by
  unfold parseInstant
  cases hst : Stamp.ofChars? (strip s).toList with
  | none => rfl
  | some st =>
    obtain ⟨hs, hcs⟩ := shaped_of_ofChars? hst
    have hT : 'T' ∈ st.base := mem_of_fits hs.base (by decide) (by decide)
    exact absurd (hcs ▸ List.mem_append_left _ (List.mem_append_left _ hT)) h

/-! ## The fields of a stamp -/

namespace Stamp

def date (st : Stamp) : Date := ⟨slice st.base 0 4, slice st.base 5 2, slice st.base 8 2⟩

def hour (st : Stamp) : Nat := slice st.base 11 2

def minute (st : Stamp) : Nat := slice st.base 14 2

def second (st : Stamp) : Nat := slice st.base 17 2

def offsetHours (st : Stamp) : Nat := slice st.offset 1 2

def offsetMinutes (st : Stamp) : Nat := slice st.offset 4 2

/-- The sign of the offset: `-1` after `-`, and `1` after `+` or for `Z`. -/
def offsetSign (st : Stamp) : Int := if st.offset.head? = some '-' then -1 else 1

/-- The time of day lies within the day: `24:00:00` counts as the midnight that ends it, which
the last day of 9999 cannot take. -/
def TimeValid (st : Stamp) : Prop :=
  st.hour ≤ 23 ∧ st.minute ≤ 59 ∧ st.second ≤ 59 ∨
    st.hour = 24 ∧ st.minute = 0 ∧ st.second = 0 ∧ st.date ≠ ⟨9999, 12, 31⟩

instance (st : Stamp) : Decidable st.TimeValid :=
  inferInstanceAs (Decidable (st.hour ≤ 23 ∧ st.minute ≤ 59 ∧ st.second ≤ 59 ∨
    st.hour = 24 ∧ st.minute = 0 ∧ st.second = 0 ∧ st.date ≠ ⟨9999, 12, 31⟩))

/-- The fields name an instant: a date from year 1 that exists in the proleptic Gregorian
calendar, a time within its day, and an offset below 24 hours and 60 minutes. -/
def Valid (st : Stamp) : Prop :=
  1 ≤ st.date.year ∧ st.date.valid = true ∧ st.TimeValid ∧ st.offsetHours ≤ 23 ∧
    st.offsetMinutes ≤ 59

instance (st : Stamp) : Decidable st.Valid :=
  inferInstanceAs (Decidable (1 ≤ st.date.year ∧ st.date.valid = true ∧ st.TimeValid ∧
    st.offsetHours ≤ 23 ∧ st.offsetMinutes ≤ 59))

/-- The date, time and offset are written in ASCII digits. -/
def AsciiDigits (st : Stamp) : Prop :=
  ∀ c ∈ st.base ++ st.offset, isDigit c = true → c.toNat < 128

instance (st : Stamp) : Decidable st.AsciiDigits :=
  inferInstanceAs (Decidable (∀ c ∈ st.base ++ st.offset, isDigit c = true → c.toNat < 128))

/-- Seconds from the start of 1970 to the instant in universal time: the local date and time less
the offset. -/
def utcSeconds (st : Stamp) : Int :=
  st.date.days * 86400 + st.hour * 3600 + st.minute * 60 + st.second -
    st.offsetSign * (st.offsetHours * 3600 + st.offsetMinutes * 60)

/-- Nanoseconds of the fraction of a second, whose digits count tenths, hundredths and so on. -/
def nanos (st : Stamp) : Nat := digitsValue st.fraction * 10 ^ (9 - st.fraction.length)

end Stamp

/-- Seconds from the start of 1970 that fall within the years 1 to 9999. -/
def InRange (secs : Int) : Prop :=
  (Date.mk 1 1 1).days * 86400 ≤ secs ∧ secs < (Date.mk 10000 1 1).days * 86400

instance (secs : Int) : Decidable (InRange secs) :=
  inferInstanceAs (Decidable ((Date.mk 1 1 1).days * 86400 ≤ secs ∧
    secs < (Date.mk 10000 1 1).days * 86400))

/-- The local seconds a date and time name: some when the date exists from year 1 on and the time
lies within its day. -/
theorem localSeconds?_eq (st : Stamp) :
    localSeconds? st.base =
      if 1 ≤ st.date.year ∧ st.date.valid = true ∧ st.TimeValid then
        some (st.date.days * 86400 + st.hour * 3600 + st.minute * 60 + st.second)
      else none := by
  have hy : st.date.year ≤ 9999 := by
    have := slice_lt st.base 0 4
    simp only [Stamp.date]
    omega
  unfold localSeconds?
  simp only [show (⟨(slice st.base 0 4 : Int), slice st.base 5 2, slice st.base 8 2⟩ : Date) =
    st.date from rfl]
  simp only [show ((slice st.base 0 4 : Nat) : Int) = st.date.year from rfl,
    show slice st.base 11 2 = st.hour from rfl, show slice st.base 14 2 = st.minute from rfl,
    show slice st.base 17 2 = st.second from rfl]
  simp only [Bool.or_eq_true, decide_eq_true_eq, Bool.not_eq_true', beq_iff_eq, bne_iff_ne,
    ne_eq, ge_iff_le, endOfRange]
  by_cases hv : 1 ≤ st.date.year ∧ st.date.valid = true
  · obtain ⟨hy1, hval⟩ := hv
    have hlast := days_succ_le_end hval hy
    have hend : (Date.mk 10000 1 1).days * 86400 ≤ (st.date.days + 1) * 86400 ↔
        st.date = ⟨9999, 12, 31⟩ := by
      rw [← hlast.2]
      constructor <;> intro h <;> nlinarith [hlast.1]
    split_ifs <;> simp_all [Stamp.TimeValid] <;> omega
  · have hno : st.date.year < 1 ∨ st.date.valid = false := by
      by_contra h
      simp only [not_or, not_lt, Bool.not_eq_false] at h
      exact hv h
    rw [if_pos hno, if_neg (fun h => hv ⟨h.1, h.2.1⟩)]

/-- The offset a stamp writes, in seconds: some when it is below 24 hours and 60 minutes. -/
theorem offsetSeconds?_eq {st : Stamp} (h : OffsetShaped st.offset) :
    offsetSeconds? st.offset =
      if st.offsetHours ≤ 23 ∧ st.offsetMinutes ≤ 59 then
        some (st.offsetSign * (st.offsetHours * 3600 + st.offsetMinutes * 60))
      else none := by
  rcases h with hz | ⟨sign, body, hs, hb, -⟩
  · simp [offsetSeconds?, hz, Stamp.offsetHours, Stamp.offsetMinutes, Stamp.offsetSign, slice,
      digitsValue]
  · have hh : st.offsetHours = slice body 0 2 := by simp [Stamp.offsetHours, hb, slice]
    have hm : st.offsetMinutes = slice body 3 2 := by simp [Stamp.offsetMinutes, hb, slice]
    have hsg : st.offsetSign = if sign = '-' then -1 else 1 := by simp [Stamp.offsetSign, hb]
    rw [hh, hm, hsg, hb]
    unfold offsetSeconds?
    split
    · next heq => rcases hs with rfl | rfl <;> simp at heq
    · next sign' body' heq =>
      obtain ⟨rfl, rfl⟩ := List.cons.inj heq
      simp only [Bool.and_eq_true, Bool.or_eq_true, beq_iff_eq, gt_iff_lt, decide_eq_true_eq]
      split_ifs <;> simp_all <;> omega
    · next heq => simp at heq

/-- In a stamp of the shape every character other than a digit is ASCII, so its date, time and
offset are ASCII exactly when their digits are. -/
theorem all_ascii_iff {st : Stamp} (hs : st.Shaped) :
    (st.base ++ st.offset).all (fun c => decide (c.toNat < 128)) = true ↔ st.AsciiDigits := by
  rw [List.all_eq_true]
  constructor
  · intro h c hc _
    exact of_decide_eq_true (h c hc)
  · intro h c hc
    by_cases hd : isDigit c = true
    · exact decide_eq_true (h c hc hd)
    · apply decide_eq_true
      rcases List.mem_append.1 hc with hc | hc
      · have hshape : ∀ c ∈ "dddd-dd-ddTdd:dd:dd".toList, c.toNat < 128 := by simp
        exact hshape c ((fits_mem hs.base hc).resolve_left hd)
      · rcases hs.offset with hz | ⟨sign, body, hsg, hb, hf⟩
        · rw [hz, List.mem_singleton] at hc
          rw [hc]
          decide
        · rw [hb, List.mem_cons] at hc
          rcases hc with rfl | hc
          · rcases hsg with rfl | rfl <;> decide
          · have hshape : ∀ c ∈ "dd:dd".toList, c.toNat < 128 := by simp
            exact hshape c ((fits_mem hf hc).resolve_left hd)

/-- A date and time that exist from year 1 on lie within the years 1 to 9999. -/
theorem inRange_local {st : Stamp} (hy1 : 1 ≤ st.date.year) (hval : st.date.valid = true)
    (ht : st.TimeValid) :
    InRange (st.date.days * 86400 + st.hour * 3600 + st.minute * 60 + st.second) := by
  have hy : st.date.year ≤ 9999 := by
    have := slice_lt st.base 0 4
    simp only [Stamp.date]
    omega
  have hstart := days_start_le hval hy1
  have hlast := days_succ_le_end hval hy
  unfold InRange
  rcases ht with ⟨hh, hm, hs⟩ | ⟨hh, hm, hs, hne⟩
  · constructor <;> omega
  · have hlt : st.date.days + 1 < (Date.mk 10000 1 1).days :=
      lt_of_le_of_ne hlast.1 fun h => hne (hlast.2.1 h)
    constructor <;> omega

/-- The range check after the offset: an instant shifted by a non-zero offset is refused when
it leaves the years 1 to 9999, and a local one that lies in them needs no check. -/
theorem shifted_outOfRange_iff {secs : Int} (off : Int) (hin : InRange secs) :
    (off != 0 && (decide (secs - off < startOfRange) || decide (secs - off ≥ endOfRange))) = true ↔
      ¬ InRange (secs - off) := by
  by_cases h0 : off = 0
  · subst h0
    simp only [bne_self_eq_false, Bool.false_and, Bool.false_eq_true, false_iff, not_not,
      Int.sub_zero]
    exact hin
  · have hr : InRange (secs - off) ↔ startOfRange ≤ secs - off ∧ secs - off < endOfRange :=
      Iff.rfl
    simp only [hr, Bool.and_eq_true, bne_iff_ne, ne_eq, h0, not_false_eq_true, true_and,
      Bool.or_eq_true, decide_eq_true_eq, not_and_or, not_le, not_lt, ge_iff_le]

/-- The instant a text names. Unless its stripped text has the shape of an RFC 3339 stamp there
is none. For a stamp there is none when a digit of its date, time or offset is not ASCII, or when
its fields name no valid local time in the years 1 to 9999. Otherwise the instant in universal
time is refused when it leaves those years, and else it is read as nanoseconds from 1970. -/
theorem parseInstant_reads_stamps (s : String) :
    ((¬ ∃ st : Stamp, st.Shaped ∧ (strip s).toList = st.chars) → parseInstant s = .ok none) ∧
    ∀ st : Stamp, st.Shaped → (strip s).toList = st.chars →
      parseInstant s =
        if st.AsciiDigits ∧ st.Valid then
          if InRange st.utcSeconds then .ok (some (st.utcSeconds * 1000000000 + st.nanos))
          else .error .dateOutOfRange
        else .ok none := by
  constructor
  · intro hno
    unfold parseInstant
    cases hread : Stamp.ofChars? (strip s).toList with
    | none => rfl
    | some st => exact absurd ⟨st, shaped_of_ofChars? hread⟩ hno
  · intro st hs hcs
    have hread : Stamp.ofChars? (strip s).toList = some st :=
      (ofChars?_eq_some_iff _ _).2 ⟨hs, hcs⟩
    unfold parseInstant
    rw [hread]
    dsimp only
    by_cases ha : st.AsciiDigits
    · have hall := (all_ascii_iff hs).2 ha
      simp only [hall, Bool.not_true, Bool.false_eq_true, if_false]
      rw [localSeconds?_eq, offsetSeconds?_eq hs.offset]
      by_cases hl : 1 ≤ st.date.year ∧ st.date.valid = true ∧ st.TimeValid
      · by_cases ho : st.offsetHours ≤ 23 ∧ st.offsetMinutes ≤ 59
        · have hv : st.Valid := ⟨hl.1, hl.2.1, hl.2.2, ho⟩
          have hin := inRange_local hl.1 hl.2.1 hl.2.2
          simp only [hl, ho, and_self, if_true, ha, hv]
          by_cases hr : InRange st.utcSeconds
          · rw [if_neg (fun h => (shifted_outOfRange_iff _ hin).1 h hr), if_pos hr]
            rfl
          · rw [if_pos ((shifted_outOfRange_iff _ hin).2 hr), if_neg hr]
        · simp [hl, ho, Stamp.Valid]
      · simp only [hl, if_false]
        rw [if_neg (show ¬(st.AsciiDigits ∧ st.Valid) from
          fun h => hl ⟨h.2.1, h.2.2.1, h.2.2.2.1⟩)]
    · have hall : ¬ (st.base ++ st.offset).all (fun c => decide (c.toNat < 128)) = true :=
        fun h => ha ((all_ascii_iff hs).1 h)
      simp only [hall, Bool.not_false, if_true]
      rw [if_neg (fun h => ha h.1)]

theorem Stamp.nanos_lt {st : Stamp} (hs : st.Shaped) : st.nanos < 1000000000 := by
  have hf := foldl_digit_lt st.fraction 0
  have hlen := hs.fraction.1
  calc st.nanos = digitsValue st.fraction * 10 ^ (9 - st.fraction.length) := rfl
    _ < 10 ^ st.fraction.length * 10 ^ (9 - st.fraction.length) :=
        Nat.mul_lt_mul_of_pos_right (by simpa [digitsValue] using hf) (by positivity)
    _ = 1000000000 := by rw [← pow_add, Nat.add_sub_cancel' hlen]; rfl

/-- An instant read from a text lies within the years 1 to 9999, so it has at most 21 digits of
nanoseconds. -/
theorem parseInstant_natAbs_lt {s : String} {ns : Int} (h : parseInstant s = .ok (some ns)) :
    ns.natAbs < 10 ^ 21 := by
  obtain ⟨hno, hst⟩ := parseInstant_reads_stamps s
  by_cases hex : ∃ st : Stamp, st.Shaped ∧ (strip s).toList = st.chars
  · obtain ⟨st, hs, hc⟩ := hex
    rw [hst st hs hc] at h
    split_ifs at h with hv hr
    · cases h
      have hn := Stamp.nanos_lt hs
      obtain ⟨hlo, hhi⟩ := hr
      rw [days_start_of_range] at hlo
      rw [days_end_of_range] at hhi
      have h21 : (10 : Nat) ^ 21 = 1000000000000000000000 := by norm_num
      omega
    · cases h
  · rw [hno hex] at h
    cases h

/- Midnight that ends 1969-12-31, half an hour behind universal time, and an instant that an
offset pushes past the end of 9999. -/
example : parseInstant " 1969-12-31T24:00:00.5-00:30 " = .ok (some 1800500000000) := by rfl

example : parseInstant "9999-12-31T23:59:59-01:00" = .error .dateOutOfRange := by rfl

end SeriesImport.Time
