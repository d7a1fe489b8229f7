import Mathlib
import SeriesImport.Proofs.LineProtocol.Points
/-!
# Why a line is refused

A line that is blank or starts with `#` reads as no point. Any other line, stripped, is refused
for the first of these reasons that applies, in the order the reader checks them:

* the scan meets a square bracket outside a tag value, neither escaped nor quoted;
* the timestamp is not a signed run of ASCII digits (with perhaps one line feed after it);
* the timestamp has more digits than an integer is read from;
* no field was stored;
* the measurement is empty.

Each refusal is a refusal to parse, with its own message, except a timestamp with too many
digits: reading it as an integer fails first, with a value error. So a line without fields
whose timestamp has 4301 digits is refused with that value error, not with `no fields input`.
-/

namespace SeriesImport.LineProtocol

open SeriesImport.Text

/-! ## Timestamps -/

/-- A timestamp text that reads as an integer: an optional sign, a nonempty run of ASCII digits,
and perhaps one line feed, before which a pattern's end also matches. -/
def SignedDigits (text digits : List Char) : Prop :=
  ∃ sign ∈ [[], ['+'], ['-']], ∃ stop ∈ [[], ['\n']], text = sign ++ digits ++ stop ∧
    digits ≠ [] ∧ ∀ d ∈ digits, d.isDigit

/-- The text of a timestamp without one final line feed. -/
def stampBody (cs : List Char) : List Char :=
  match cs.reverse with
  | '\n' :: r => r.reverse
  | _ => cs

/-- The sign of a timestamp body and its digits. -/
def stampSign (body : List Char) : Bool × List Char :=
  match body with
  | '-' :: r => (true, r)
  | '+' :: r => (false, r)
  | _ => (false, body)

/-- The value of a run of decimal digits. -/
def digitsValue (digits : List Char) : Nat :=
  digits.foldl (fun a d => a * 10 + (d.toNat - 48)) 0

/-- The value of a sign and a run of characters: none unless they are a nonempty run of ASCII
digits, and a refusal when they are more than an integer is read from. -/
def stampValue : Bool × List Char → Except Error (Option Int)
  | (neg, digits) =>
    if digits.isEmpty || !digits.all Char.isDigit then .ok none
    else if Number.intDigitLimit < digits.length then .error (.tooManyDigits digits.length)
    else .ok (some (if neg then -(digitsValue digits : Int) else digitsValue digits))

theorem timestampValue?_eq (cs : List Char) :
    timestampValue? cs = stampValue (stampSign (stampBody cs)) := by
  unfold timestampValue? stampValue stampSign stampBody
  rfl

theorem stampBody_spec (cs : List Char) :
    ∃ stop ∈ [[], ['\n']], cs = stampBody cs ++ stop := by
  unfold stampBody
  split
  · next r hr =>
    refine ⟨['\n'], by simp, ?_⟩
    rw [← List.reverse_reverse cs, hr]
    simp
  · exact ⟨[], by simp, by simp⟩

theorem stampSign_spec (body : List Char) :
    ∃ sign ∈ [[], ['+'], ['-']], body = sign ++ (stampSign body).2 ∧
      (stampSign body).1 = decide (sign = ['-']) := by
  unfold stampSign
  split
  · exact ⟨['-'], by simp, by simp⟩
  · exact ⟨['+'], by simp, by simp⟩
  · exact ⟨[], by simp, by simp⟩

/-- Digits after the sign and before the line feed are read as they stand. -/
theorem stampSign_stampBody {sign digits stop : List Char} (hsign : sign ∈ [[], ['+'], ['-']])
    (hstop : stop ∈ [[], ['\n']]) (hne : digits ≠ []) (hd : ∀ d ∈ digits, d.isDigit) :
    stampSign (stampBody (sign ++ digits ++ stop)) = (decide (sign = ['-']), digits) := by
  obtain ⟨init, l, rfl⟩ := List.eq_nil_or_concat digits |>.resolve_left hne
  rw [List.concat_eq_append] at hd ⊢
  have hl : l ≠ '\n' := by
    intro h
    have := hd l (by simp)
    simp [h] at this
  have hbody : stampBody (sign ++ (init ++ [l]) ++ stop) = sign ++ (init ++ [l]) := by
    simp only [List.mem_cons, List.not_mem_nil, or_false] at hstop
    rcases hstop with rfl | rfl
    · unfold stampBody
      split
      · next r hr => simp [List.reverse_append] at hr; exact absurd hr.1 hl
      · simp
    · simp [stampBody, List.reverse_append]
  rw [hbody]
  have hfirst : ∀ r, init ++ [l] ≠ '-' :: r ∧ init ++ [l] ≠ '+' :: r := by
    intro r
    constructor <;> intro h <;> [have := hd '-' (by simp [h]); have := hd '+' (by simp [h])] <;>
      simp at this
  simp only [List.mem_cons, List.not_mem_nil, or_false] at hsign
  rcases hsign with rfl | rfl | rfl
  · unfold stampSign
    split
    · next r hr => exact absurd hr (hfirst r).1
    · next r hr => exact absurd hr (hfirst r).2
    · simp
  · simp [stampSign]
  · simp [stampSign]

/-- A signed run of digits reads as its value, unless it has more digits than an integer is read
from. -/
theorem timestampValue?_signed {sign digits stop : List Char} (hsign : sign ∈ [[], ['+'], ['-']])
    (hstop : stop ∈ [[], ['\n']]) (hne : digits ≠ []) (hd : ∀ d ∈ digits, d.isDigit) :
    timestampValue? (sign ++ digits ++ stop) =
      if Number.intDigitLimit < digits.length then .error (.tooManyDigits digits.length)
      else .ok (some (if sign = ['-'] then -(digitsValue digits : Int) else digitsValue digits)) := by
  rw [timestampValue?_eq, stampSign_stampBody hsign hstop hne hd]
  simp [stampValue, hne, List.all_eq_true.2 hd]

/-- A timestamp text reads as nothing exactly when it is no signed run of digits. -/
theorem timestampValue?_eq_none_iff (text : List Char) :
    timestampValue? text = .ok none ↔ ∀ d, ¬ SignedDigits text d := by
  constructor
  · rintro h d ⟨sign, hsign, stop, hstop, rfl, hne, hd⟩
    rw [timestampValue?_signed hsign hstop hne hd] at h
    split at h <;> cases h
  · intro h
    rw [timestampValue?_eq]
    obtain ⟨stop, hstop, hbody⟩ := stampBody_spec text
    obtain ⟨sign, hsign, hsplit, -⟩ := stampSign_spec (stampBody text)
    generalize stampSign (stampBody text) = sd at hsplit ⊢
    obtain ⟨neg, digits⟩ := sd
    dsimp only [stampValue] at hsplit ⊢
    split_ifs with hcheck
    · rfl
    all_goals
      have hrun : digits ≠ [] ∧ ∀ d ∈ digits, d.isDigit := by simpa using hcheck
      exact absurd ⟨sign, hsign, stop, hstop, by rw [hbody, hsplit], hrun⟩ (h digits)

/-! ## The scan -/

/-- A bracket opens or closes only in a tag value; everywhere else it is refused. -/
theorem Transition.of_effect_eq_reject (st : State) (cls : CharClass) :
    (Transition.of st cls).effect = .reject ↔
      (cls = .openBracket ∨ cls = .closeBracket) ∧ st ≠ .tagValue := by
  cases st <;> cases cls <;> decide

theorem CharClass.of_eq_bracket (c : Char) :
    (CharClass.of c = .openBracket ∨ CharClass.of c = .closeBracket) ↔ c = '[' ∨ c = ']' := by
  unfold CharClass.of
  split_ifs <;> simp_all

namespace Scan

@[simp] theorem commit_timestamp (s : Scan) : s.commit.timestamp = s.timestamp := by
  unfold commit
  split
  · rfl
  · dsimp only
    split <;> rfl

@[simp] theorem commit_measurement (s : Scan) : s.commit.measurement = s.measurement := by
  unfold commit
  split
  · rfl
  · dsimp only
    split <;> rfl

/-- A character is refused exactly when it is a square bracket, neither escaped nor quoted,
outside a tag value. -/
theorem feed_eq_reject_iff {s : Scan} {c c' : Char} :
    s.feed c = .reject c' ↔ c' = c ∧ s.escape = false ∧ s.quote = false ∧
      (c = '[' ∨ c = ']') ∧ s.state ≠ .tagValue := by
  rw [← CharClass.of_eq_bracket]
  have hreject := Transition.of_effect_eq_reject s.state (CharClass.of c)
  unfold feed
  split_ifs with hesc hback hquote
  · simp [hesc]
  · rw [beq_iff_eq] at hback
    subst hback
    simp [CharClass.of]
  · rw [beq_iff_eq] at hquote
    subst hquote
    simp [CharClass.of]
  · dsimp only
    split_ifs with hq hb
    · simp only [Bool.and_eq_true] at hq
      simp only [false_iff]
      rintro ⟨-, -, hquote, hcls, -⟩
      simp [hquote] at hq
    · simp only [Bool.and_eq_true, beq_iff_eq] at hb
      simp [hb.1.2]
    · cases he : (Transition.of s.state (CharClass.of c)).effect
      case reject =>
        rw [he] at hreject
        have hcls := hreject.1 rfl
        have hquoted : s.quote = false := by
          rcases hcls.1 with hc | hc <;> simpa [hc, CharClass.quotable] using hq
        constructor
        · rintro ⟨⟩
          exact ⟨rfl, by simpa using hesc, hquoted, hcls⟩
        · rintro ⟨rfl, -⟩
          rfl
      all_goals
        rw [he] at hreject
        simp only [reduceCtorEq, false_iff]
        rintro ⟨-, -, -, hcls⟩
        exact absurd (hreject.2 hcls) (by simp)

/-- Feeding `cs` from `s` reads every character on, neither stopping nor refusing, and reaches
`t`. -/
def Through : Scan → List Char → Scan → Prop
  | s, [], t => t = s
  | s, c :: cs, t => ∃ u, s.feed c = .next u ∧ Through u cs t

theorem Through.run_append {s t : Scan} {xs : List Char} (h : s.Through xs t) (ys : List Char) :
    s.run (xs ++ ys) = t.run ys := by
  induction xs generalizing s with
  | nil =>
    cases h
    rfl
  | cons c xs ih =>
    obtain ⟨u, hu, hrest⟩ := h
    simp only [List.cons_append, Scan.run, hu]
    exact ih hrest

theorem feed_reject {s : Scan} {c c' : Char} (h : s.feed c = .reject c') : c' = c :=
  (feed_eq_reject_iff.1 h).1

/-- A scan is refused at the first character it refuses, after reading every character before
it on. -/
theorem run_eq_error_iff {s : Scan} {cs : List Char} {c : Char} :
    s.run cs = .error c ↔ ∃ xs ys t, cs = xs ++ c :: ys ∧ s.Through xs t ∧ t.feed c = .reject c := by
  constructor
  · intro h
    induction cs generalizing s with
    | nil => cases h
    | cons d cs ih =>
      simp only [Scan.run] at h
      split at h
      · next u hu =>
        obtain ⟨xs, ys, t, rfl, hxs, ht⟩ := ih h
        exact ⟨d :: xs, ys, t, rfl, ⟨u, hu, hxs⟩, ht⟩
      · cases h
      · next c' hc' =>
        cases h
        have hd := feed_reject hc'
        subst hd
        exact ⟨[], cs, s, rfl, rfl, hc'⟩
  · rintro ⟨xs, ys, t, rfl, hxs, ht⟩
    rw [hxs.run_append, Scan.run, ht]

end Scan

/-! ## Refusals -/

/-- Why a line of data is refused. -/
inductive Refusal where
  /-- A square bracket outside a tag value, neither escaped nor quoted. -/
  | token (c : Char)
  /-- A timestamp that is no signed run of digits. -/
  | timestamp (text : String)
  /-- A timestamp of more digits than an integer is read from. -/
  | longTimestamp (digits : Nat)
  /-- No field. -/
  | noFields
  /-- No measurement. -/
  | noMeasurement

/-- The error of a refusal of the stripped line `line`: a refusal to parse, naming the line, for
all but two. A missing measurement is found when the point is made, which names no line; a
timestamp of too many digits fails as it is read as an integer, with a value error. -/
def Refusal.error (line : String) : Refusal → Error
  | .token c => .parse ("invalid tag value token: '" ++ String.singleton c ++ "'") none line
  | .timestamp text => .parse ("invalid timestamp: " ++ quoted text) none line
  | .longTimestamp n => .tooManyDigits n
  | .noFields => .parse "no fields input" none line
  | .noMeasurement => .parse "measurement is required" none ""

/-- A timestamp text that reads: none, or a signed run of at most as many digits as an integer
is read from. -/
def Readable (text : List Char) : Prop :=
  text = [] ∨ ∃ d, SignedDigits text d ∧ d.length ≤ Number.intDigitLimit

/-- The refusals of a finished scan, the first that applies. -/
inductive Scan.Refuses (s : Scan) : Refusal → Prop
  | timestamp : s.timestamp ≠ [] → (∀ d, ¬ SignedDigits s.timestamp.reverse d) →
      s.Refuses (.timestamp (String.ofList s.timestamp.reverse))
  | longTimestamp {d : List Char} : SignedDigits s.timestamp.reverse d →
      Number.intDigitLimit < d.length → s.Refuses (.longTimestamp d.length)
  | noFields : Readable s.timestamp.reverse → s.commit.fields = [] → s.Refuses .noFields
  | noMeasurement : Readable s.timestamp.reverse → s.commit.fields ≠ [] → s.measurement = [] →
      s.Refuses .noMeasurement

/-- The refusals of a stripped line of data: a refused character, or a refusal of its scan. -/
inductive Refuses (cs : List Char) : Refusal → Prop
  | token {c : Char} : Scan.run {} cs = .error c → Refuses cs (.token c)
  | scan {s : Scan} {r : Refusal} : Scan.run {} cs = .ok s → s.Refuses r → Refuses cs r

/-- A line is refused at a character exactly where the scan of what comes before it stands
outside a tag value, neither escaped nor quoted, and meets a square bracket. -/
theorem Refuses.token_iff {cs : List Char} {c : Char} :
    Refuses cs (.token c) ↔ ∃ xs ys t, cs = xs ++ c :: ys ∧ ({} : Scan).Through xs t ∧
      t.escape = false ∧ t.quote = false ∧ (c = '[' ∨ c = ']') ∧ t.state ≠ .tagValue := by
  constructor
  · rintro (h | ⟨-, hs⟩)
    · obtain ⟨xs, ys, t, rfl, hxs, ht⟩ := Scan.run_eq_error_iff.1 h
      obtain ⟨-, hesc, hquote, hbracket, hstate⟩ := Scan.feed_eq_reject_iff.1 ht
      exact ⟨xs, ys, t, rfl, hxs, hesc, hquote, hbracket, hstate⟩
    · cases hs
  · rintro ⟨xs, ys, t, rfl, hxs, hesc, hquote, hbracket, hstate⟩
    exact .token (Scan.run_eq_error_iff.2
      ⟨xs, ys, t, rfl, hxs, Scan.feed_eq_reject_iff.2 ⟨rfl, hesc, hquote, hbracket, hstate⟩⟩)

theorem Readable.value {text : List Char} (h : Readable text) :
    text = [] ∨ ∃ v, timestampValue? text = .ok (some v) := by
  rcases h with h | ⟨d, ⟨sign, hsign, stop, hstop, rfl, hne, hd⟩, hlen⟩
  · exact .inl h
  · right
    rw [timestampValue?_signed hsign hstop hne hd, if_neg (by omega)]
    exact ⟨_, rfl⟩

/-- A scan whose timestamp reads is finished by the checks of its fields and its measurement. -/
theorem Scan.finish_of_readable {s : Scan} (hr : Readable s.timestamp.reverse) (t : String)
    (m now : Int) : ∃ ts, s.finish t (.int m) now =
      if s.commit.fields = [] then .error (.parse "no fields input" none t)
      else Point.make (.str (String.ofList s.measurement.reverse)) s.commit.tags s.commit.fields ts := by
  rcases hr.value with h0 | ⟨v, hv⟩
  · have hts : s.timestamp = [] := List.reverse_eq_nil_iff.1 h0
    refine ⟨.int now, ?_⟩
    simp only [Scan.finish, commit_timestamp, commit_measurement, hts, List.reverse_nil,
      List.isEmpty_nil, if_true, List.isEmpty_iff]
    split <;> rfl
  · have hne : s.timestamp ≠ [] := by
      rintro hts
      simp [hts, timestampValue?] at hv
    refine ⟨.int (v * m), ?_⟩
    simp only [Scan.finish, commit_timestamp, commit_measurement, List.isEmpty_iff,
      List.reverse_eq_nil_iff, hne, if_false, hv]
    split <;> rfl

/-- A refused scan finishes with the error of its refusal. -/
theorem Scan.finish_of_refuses {s : Scan} {r : Refusal} (h : s.Refuses r) (t : String)
    (m now : Int) : s.finish t (.int m) now = .error (r.error t) := by
  cases h with
  | timestamp hne hnone =>
    have hv := (timestampValue?_eq_none_iff _).2 hnone
    simp [Scan.finish, hne, hv]
    rfl
  | @longTimestamp d hsd hlong =>
    obtain ⟨sign, hsign, stop, hstop, htext, hne, hd⟩ := hsd
    have hv : timestampValue? s.timestamp.reverse = .error (.tooManyDigits d.length) := by
      rw [htext, timestampValue?_signed hsign hstop hne hd, if_pos hlong]
    have hts : s.timestamp ≠ [] := by
      rintro hts
      simp [hts] at htext
      exact hne htext.2.1
    simp [Scan.finish, hts, hv]
    rfl
  | noFields hr hf =>
    obtain ⟨ts, hfin⟩ := s.finish_of_readable hr t m now
    rw [hfin, if_pos hf]
    rfl
  | noMeasurement hr hf hm =>
    obtain ⟨ts, hfin⟩ := s.finish_of_readable hr t m now
    rw [hfin, if_neg hf, hm]
    rfl

/-- A scan that nothing refuses finishes with a point. -/
theorem Scan.finish_ok_of_not_refuses {s : Scan} (h : ∀ r, ¬ s.Refuses r) (t : String)
    (m now : Int) : ∃ p, s.finish t (.int m) now = .ok p := by
  have hr : Readable s.timestamp.reverse := by
    by_cases hts : s.timestamp = []
    · exact .inl (by simp [hts])
    · by_cases hsd : ∃ d, SignedDigits s.timestamp.reverse d
      · obtain ⟨d, hd⟩ := hsd
        refine .inr ⟨d, hd, ?_⟩
        by_contra hlong
        exact h _ (.longTimestamp hd (by omega))
      · exact absurd (.timestamp hts fun d hd => hsd ⟨d, hd⟩) (h _)
  have hf : s.commit.fields ≠ [] := fun hf => h _ (.noFields hr hf)
  have hm : s.measurement ≠ [] := fun hm => h _ (.noMeasurement hr hf hm)
  obtain ⟨ts, hfin⟩ := s.finish_of_readable hr t m now
  rw [hfin, if_neg hf]
  exact ⟨⟨.str (String.ofList s.measurement.reverse), s.commit.tags, s.commit.fields, ts⟩,
    by simp [Point.make, Value.truthy, hm, hf]⟩

/-- A stripped line of data is refused exactly for its refusals, each with its error. -/
theorem readData_eq_error_iff (t : String) (m now : Int) (e : Error) :
    readData t (.int m) now = .error e ↔ ∃ r, Refuses t.toList r ∧ e = r.error t := by
  unfold readData
  cases hrun : Scan.run {} t.toList with
  | error c =>
    constructor
    · rintro ⟨⟩
      exact ⟨.token c, .token hrun, rfl⟩
    · rintro ⟨r, hr, rfl⟩
      cases hr with
      | token h => rw [hrun] at h; cases h; rfl
      | scan h _ => rw [hrun] at h; cases h
  | ok s =>
    dsimp only
    constructor
    · intro h
      by_cases hs : ∃ r, s.Refuses r
      · obtain ⟨r, hr⟩ := hs
        rw [s.finish_of_refuses hr] at h
        cases h
        exact ⟨r, .scan hrun hr, rfl⟩
      · obtain ⟨p, hp⟩ := s.finish_ok_of_not_refuses (fun r hr => hs ⟨r, hr⟩) t m now
        rw [hp] at h
        cases h
    · rintro ⟨r, hr, rfl⟩
      cases hr with
      | token h => rw [hrun] at h; cases h
      | scan h hsr =>
        rw [hrun] at h
        cases h
        exact s.finish_of_refuses hsr t m now

/-- A stripped line that holds no data: empty, or a comment. -/
def NoData (cs : List Char) : Prop := cs = [] ∨ cs.head? = some '#'

theorem readLine_of_data {line : String} (h : ¬ NoData (strip line).toList) (mult : Value)
    (now : Int) : readLine line mult now = (readData (strip line) mult now).map some := by
  unfold readLine
  dsimp only
  split
  · next hnil => exact absurd (.inl hnil) h
  · next rest hc => exact absurd (.inr (by simp [hc])) h
  · rfl

/-- What reading a line refuses. A line that is blank or starts with `#` reads as no point.
Any other line, stripped, is refused exactly when one of its refusals applies, the first that
applies giving the error: a square bracket outside a tag value, neither escaped nor quoted; a
timestamp that is no signed run of digits; a timestamp of more digits than an integer is read
from; no field; no measurement. The error is a refusal to parse for all of them but the
timestamp of too many digits, which is a value error. -/
theorem readLine_refuses_exactly (line : String) (m now : Int) :
    (readLine line (.int m) now = .ok none ↔ NoData (strip line).toList) ∧
    (¬ NoData (strip line).toList → ∀ e, readLine line (.int m) now = .error e ↔
      ∃ r, Refuses (strip line).toList r ∧ e = r.error (strip line)) := by
  refine ⟨⟨fun h => ?_, fun h => ?_⟩, fun hdata e => ?_⟩
  · by_contra hdata
    rw [readLine_of_data hdata] at h
    cases hrd : readData (strip line) (.int m) now <;> simp [hrd, Except.map] at h
  · unfold readLine
    dsimp only
    rcases h with h | h
    · rw [h]
    · obtain ⟨rest, hrest⟩ := List.head?_eq_some_iff.1 h
      rw [hrest]
      rfl
  · rw [readLine_of_data hdata, ← readData_eq_error_iff]
    cases readData (strip line) (.int m) now <;> simp [Except.map]

/-! ## A line without fields and a long timestamp -/

theorem CharClass.of_digit {c : Char} (h : c.isDigit) : CharClass.of c = .other := by
  unfold CharClass.of
  split_ifs <;> simp_all

/-- In the timestamp, outside escapes and quotes, digits are added one by one. -/
theorem Scan.through_digits {s : Scan} (hstate : s.state = .timestamp) (hesc : s.escape = false)
    (hquote : s.quote = false) {ds : List Char} (hd : ∀ c ∈ ds, c.isDigit) :
    s.Through ds { s with timestamp := ds.reverse ++ s.timestamp } := by
  induction ds generalizing s with
  | nil => rfl
  | cons c ds ih =>
    have hc := hd c (by simp)
    have hback : c ≠ '\\' := by rintro rfl; simp at hc
    have hq : c ≠ '"' := by rintro rfl; simp at hc
    refine ⟨s.append c, ?_, ?_⟩
    · simp [Scan.feed, hesc, hback, hq, CharClass.of_digit hc, hquote, CharClass.quotable,
        hstate, Transition.of_other]
    · have h := ih (s := s.append c) (by simp [Scan.append, hstate]) (by simp [Scan.append, hstate, hesc])
        (by simp [Scan.append, hstate, hquote]) fun c hc' => hd c (by simp [hc'])
      simpa [Scan.append, hstate] using h

theorem isBlank_of_isDigit {c : Char} (h : c.isDigit) : isBlank c = false := by
  simp only [Char.isDigit, Bool.and_eq_true, decide_eq_true_eq, ge_iff_le,
    UInt32.le_iff_toNat_le] at h
  change 48 ≤ c.toNat ∧ c.toNat ≤ 57 at h
  unfold isBlank
  simp only [Bool.or_eq_false_iff, Bool.and_eq_false_iff, decide_eq_false_iff_not, not_le,
    beq_eq_false_iff_ne, ne_eq]
  omega

theorem toList_strip_ofList {cs : List Char} (hhead : ∀ c, cs.head? = some c → isBlank c = false)
    (hlast : ∀ c, cs.getLast? = some c → isBlank c = false) :
    (strip (String.ofList cs)).toList = cs := by
  have hkeep : ∀ l : List Char, (∀ c, l.head? = some c → isBlank c = false) →
      l.dropWhile isBlank = l := by
    intro l hl
    cases l with
    | nil => rfl
    | cons c r => exact List.dropWhile_cons_of_neg (by simpa using hl c rfl)
  simp only [strip, stripEnd, stripStart, String.toList_ofList, hkeep cs hhead]
  rw [hkeep cs.reverse (by simpa using hlast), List.reverse_reverse]

/-- A line of a measurement, two spaces and digits scans to the measurement and the digits as
timestamp, with no field. -/
theorem Scan.run_fieldless_digits {ds : List Char} (hd : ∀ c ∈ ds, c.isDigit) :
    Scan.run {} ('m' :: ' ' :: ' ' :: ds) =
      .ok { state := .timestamp, measurement := ['m'], timestamp := ds.reverse } := by
  let s3 : Scan := { state := .timestamp, measurement := ['m'] }
  have h3 : ({} : Scan).Through ['m', ' ', ' '] s3 := ⟨_, rfl, _, rfl, _, rfl, rfl⟩
  rw [show 'm' :: ' ' :: ' ' :: ds = ['m', ' ', ' '] ++ (ds ++ []) by simp, h3.run_append,
    (Scan.through_digits (s := s3) rfl rfl rfl hd).run_append]
  simp [Scan.run, s3]

/-- A line of a measurement, no field and a run of digits as timestamp is refused for the
missing fields, unless the run has more digits than an integer is read from. -/
theorem readLine_fieldless_digits {ds : List Char} (hne : ds ≠ []) (hd : ∀ c ∈ ds, c.isDigit)
    (m now : Int) :
    readLine (String.ofList ('m' :: ' ' :: ' ' :: ds)) (.int m) now =
      .error (if Number.intDigitLimit < ds.length then .tooManyDigits ds.length
        else .parse "no fields input" none (String.ofList ('m' :: ' ' :: ' ' :: ds))) := by
  have hlast : ∀ c, ('m' :: ' ' :: ' ' :: ds).getLast? = some c → isBlank c = false := by
    intro c hc
    obtain ⟨d, r, rfl⟩ := List.exists_cons_of_ne_nil hne
    simp only [List.getLast?_cons_cons] at hc
    exact isBlank_of_isDigit (hd c (List.mem_of_getLast? hc))
  have hstrip : (strip (String.ofList ('m' :: ' ' :: ' ' :: ds))).toList = 'm' :: ' ' :: ' ' :: ds :=
    toList_strip_ofList (by simp [isBlank]) hlast
  have htext : strip (String.ofList ('m' :: ' ' :: ' ' :: ds)) =
      String.ofList ('m' :: ' ' :: ' ' :: ds) := by
    simpa only [String.ofList_toList] using congrArg String.ofList hstrip
  rw [readLine_of_data (by rw [hstrip]; simp [NoData])]
  have hsd : SignedDigits ds.reverse.reverse ds := ⟨[], by simp, [], by simp, by simp, hne, hd⟩
  unfold readData
  rw [htext, String.toList_ofList, Scan.run_fieldless_digits hd]
  dsimp only
  split_ifs with hlong
  · rw [Scan.finish_of_refuses (.longTimestamp hsd hlong)]
    rfl
  · rw [Scan.finish_of_refuses (.noFields (.inr ⟨ds, hsd, by omega⟩) rfl)]
    rfl

/-- A line without fields whose timestamp is a run of 4301 digits is not refused for the missing
fields, as a refusal to parse: reading its timestamp as an integer fails first. -/
theorem fieldless_line_fails_on_its_digits :
    (Scan.run {} ('m' :: ' ' :: ' ' :: List.replicate 4301 '1')).map (·.commit.fields) = .ok [] ∧
      readLine (String.ofList ('m' :: ' ' :: ' ' :: List.replicate 4301 '1')) (.int 1) 0 =
        .error (.tooManyDigits 4301) := by
  have hd : ∀ c ∈ List.replicate 4301 '1', c.isDigit := by
    intro c hc
    rw [List.eq_of_mem_replicate hc]
    rfl
  refine ⟨by rw [Scan.run_fieldless_digits hd]; rfl, ?_⟩
  rw [readLine_fieldless_digits (by rw [Ne, List.replicate_eq_nil_iff]; decide) hd,
    List.length_replicate, if_pos (by decide)]

end SeriesImport.LineProtocol
