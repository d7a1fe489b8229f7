import Mathlib
import SeriesImport.LineProtocol.Read
/-!
# Reading a block of lines

A block of line protocol is read line by line: the text is split at every line break, each line
is read on its own, the lines that hold no point are dropped, and the first bad line fails the
whole block with its number. Nothing a line leaves open, a quote, an escape or a bracket, reaches
the next line, so reading composes over the text.

Two texts joined by a line feed split into the lines of the first, its line feed included, and
then the lines of the second (`lines_append_lineFeed`): a line feed ends a line whatever comes
before it, and a carriage return before it makes one break with it. The line feed adds at most a
blank line to the lines of the first text (`lines_append_lineFeed_end`), and a blank line holds
no point. So the points of the joined text are those of the first and then those of the second;
a failure in the first is the failure of the whole; and a failure in the second comes with its
line number moved on by the number of lines before it.
-/

namespace SeriesImport

/-- A failure's line number moved on by `j`; every other failure stays as it is. -/
def Error.renumber (j : Nat) : Error → Error
  | .parse m (some n) c => .parse m (some (n + j)) c
  | e => e

theorem Error.atLine_add (n : Int) (j : Nat) (c : String) (e : Error) :
    Error.atLine (n + j) c e = (Error.atLine n c e).renumber j := by
  cases e <;> rfl

end SeriesImport

namespace SeriesImport.LineProtocol

open SeriesImport.Text

/-! ## Lines of joined texts -/

/-- A line feed ends the line being gathered: what follows it is split on its own. -/
theorem linesFrom_append_lineFeed (rest : List Char) (xs acc : List Char) (cs : List Char)
    (hxs : xs = cs ++ '\n' :: rest) :
    linesFrom xs acc = linesFrom (cs ++ ['\n']) acc ++ linesFrom rest [] := by
  induction xs, acc using linesFrom.induct generalizing cs with
  | case1 acc _ | case2 acc _ => simp at hxs
  | case3 r acc ih =>
    rcases cs with _ | ⟨c, _ | ⟨d, cs'⟩⟩
    · simp at hxs
    · obtain ⟨rfl, rfl⟩ : '\r' = c ∧ r = rest := by simpa using hxs
      simp [linesFrom.eq_1, linesFrom.eq_2]
    · obtain ⟨rfl, rfl, hr⟩ : '\r' = c ∧ '\n' = d ∧ r = cs' ++ '\n' :: rest := by
        simpa using hxs
      rw [linesFrom.eq_2, ih cs' hr, List.cons_append, List.cons_append, linesFrom.eq_2]
      rfl
  | case4 c r acc hc hb ih =>
    match cs, hxs with
    | [], h =>
      obtain ⟨rfl, rfl⟩ : c = '\n' ∧ r = rest := by simpa using h
      rw [linesFrom.eq_3 _ _ _ (by simp), if_pos hb]
      simp [linesFrom.eq_3, isLineBreak, linesFrom.eq_1]
    | c' :: cs', h =>
      obtain ⟨rfl, hr⟩ : c = c' ∧ r = cs' ++ '\n' :: rest := by simpa using h
      rw [linesFrom.eq_3 _ _ _ hc, if_pos hb, ih cs' hr, List.cons_append,
        linesFrom.eq_3 _ _ _ ?_, if_pos hb]
      · rfl
      rintro rest' rfl hcs
      cases cs' with
      | nil => exact hc rest rfl hr
      | cons d cs'' => exact hc (cs'' ++ '\n' :: rest) rfl (by simp_all)
  | case5 c r acc hc hb ih =>
    match cs, hxs with
    | [], h =>
      obtain ⟨rfl, -⟩ : c = '\n' ∧ r = rest := by simpa using h
      exact absurd (by decide) hb
    | c' :: cs', h =>
      obtain ⟨rfl, hr⟩ : c = c' ∧ r = cs' ++ '\n' :: rest := by simpa using h
      rw [linesFrom.eq_3 _ _ _ hc, if_neg hb, ih cs' hr, List.cons_append,
        linesFrom.eq_3 _ _ _ ?_, if_neg hb]
      rintro rest' rfl hcs
      cases cs' with
      | nil => exact hc rest rfl hr
      | cons d cs'' => exact hc (cs'' ++ '\n' :: rest) rfl (by simp_all)

/-- A line feed at the end adds at most a blank line: the line it ends was gathered already,
unless nothing was gathered since the last break. -/
theorem linesFrom_append_lineFeed_end (cs acc : List Char) :
    ∃ extra, linesFrom (cs ++ ['\n']) acc = linesFrom cs acc ++ extra ∧ ∀ l ∈ extra, l = "" := by
  induction cs, acc using linesFrom.induct with
  | case1 acc hacc =>
    refine ⟨[""], ?_, by simp⟩
    rw [List.nil_append, linesFrom.eq_3 _ _ _ (by simp), if_pos (by decide)]
    simp [linesFrom.eq_1, List.isEmpty_iff.1 hacc]
  | case2 acc hacc =>
    refine ⟨[], ?_, by simp⟩
    rw [List.nil_append, linesFrom.eq_3 _ _ _ (by simp), if_pos (by decide)]
    simp [linesFrom.eq_1, hacc]
  | case3 r acc ih =>
    obtain ⟨extra, h, hbl⟩ := ih
    refine ⟨extra, ?_, hbl⟩
    rw [List.cons_append, List.cons_append, linesFrom.eq_2, linesFrom.eq_2, h]
    rfl
  | case4 c r acc hc hb ih =>
    by_cases hcr : c = '\r' ∧ r = []
    · obtain ⟨rfl, rfl⟩ := hcr
      refine ⟨[], ?_, by simp⟩
      rw [List.cons_append, List.nil_append, linesFrom.eq_2, linesFrom.eq_3 _ _ _ hc, if_pos hb]
      rfl
    · obtain ⟨extra, h, hbl⟩ := ih
      refine ⟨extra, ?_, hbl⟩
      rw [List.cons_append, linesFrom.eq_3 _ _ _ ?_, if_pos hb, h, linesFrom.eq_3 _ _ _ hc,
        if_pos hb]
      · rfl
      rintro rest' rfl hr
      cases r with
      | nil => exact hcr ⟨rfl, rfl⟩
      | cons d r' =>
        obtain ⟨rfl, -⟩ : d = '\n' ∧ r' ++ ['\n'] = rest' := by simpa using hr
        exact hc r' rfl rfl
  | case5 c r acc hc hb ih =>
    obtain ⟨extra, h, hbl⟩ := ih
    refine ⟨extra, ?_, hbl⟩
    have hnr : c ≠ '\r' := by rintro rfl; exact hb (by decide)
    rw [List.cons_append, linesFrom.eq_3 _ _ _ (fun _ h => absurd h hnr), if_neg hb, h,
      linesFrom.eq_3 _ _ _ hc, if_neg hb]

/-- Two texts joined by a line feed split into the lines of the first with the line feed, and
then the lines of the second. -/
theorem lines_append_lineFeed (a b : String) : lines (a ++ "\n" ++ b) = lines (a ++ "\n") ++ lines b := by
  unfold lines
  rw [String.toList_append, String.toList_append]
  exact linesFrom_append_lineFeed b.toList _ [] a.toList (by simp)

theorem lines_append_lineFeed_end (a : String) :
    ∃ extra, lines (a ++ "\n") = lines a ++ extra ∧ ∀ l ∈ extra, l = "" := by
  unfold lines
  rw [String.toList_append]
  exact linesFrom_append_lineFeed_end a.toList []

/-! ## Reading lines one by one -/

section

variable (multiplier : Value) (now : Int)

theorem readLine_empty : readLine "" multiplier now = .ok none := rfl

theorem readLinesFrom_blank (k : Nat) {ls : List String} (h : ∀ l ∈ ls, l = "") :
    readLinesFrom multiplier now k ls = .ok [] := by
  induction ls generalizing k with
  | nil => rfl
  | cons l ls ih =>
    rw [h l (by simp), readLinesFrom, readLine_empty, ih (k + 1) (fun l hl => h l (by simp [hl]))]
    rfl

theorem readLinesFrom_append_ok {k : Nat} {xs : List String} {ps : List Point}
    (h : readLinesFrom multiplier now k xs = .ok ps) (ys : List String) :
    readLinesFrom multiplier now k (xs ++ ys) =
      (readLinesFrom multiplier now (k + xs.length) ys).map (ps ++ ·) := by
  induction xs generalizing k ps with
  | nil =>
    cases h
    simp only [List.nil_append, List.length_nil, Nat.add_zero]
    cases readLinesFrom multiplier now k ys <;> rfl
  | cons l xs ih =>
    rw [readLinesFrom] at h
    split at h
    · cases h
    · next p hp =>
      cases hr : readLinesFrom multiplier now (k + 1) xs with
      | error e => rw [hr] at h; cases h
      | ok qs =>
        rw [hr] at h
        cases h
        rw [List.cons_append, readLinesFrom, hp, ih hr, List.length_cons,
          show k + 1 + xs.length = k + (xs.length + 1) by omega]
        dsimp only
        cases readLinesFrom multiplier now (k + (xs.length + 1)) ys <;> simp [Except.map]

theorem readLinesFrom_append_error {k : Nat} {xs : List String} {e : Error}
    (h : readLinesFrom multiplier now k xs = .error e) (ys : List String) :
    readLinesFrom multiplier now k (xs ++ ys) = .error e := by
  induction xs generalizing k with
  | nil => cases h
  | cons l xs ih =>
    rw [readLinesFrom] at h
    rw [List.cons_append, readLinesFrom]
    split at h
    · exact h
    · cases hr : readLinesFrom multiplier now (k + 1) xs with
      | error e' => rw [hr] at h; cases h; rw [ih hr]; rfl
      | ok qs => rw [hr] at h; cases h

/-- Reading lines numbered from `k + j` fails as reading them from `k` does, `j` lines later. -/
theorem readLinesFrom_add (k j : Nat) (ls : List String) :
    readLinesFrom multiplier now (k + j) ls =
      (readLinesFrom multiplier now k ls).mapError (Error.renumber j) := by
  induction ls generalizing k with
  | nil => rfl
  | cons l ls ih =>
    rw [readLinesFrom, readLinesFrom]
    split
    · next e he => simp [Except.mapError, Error.atLine_add]
    · next p hp =>
      rw [show k + j + 1 = k + 1 + j by omega, ih]
      cases readLinesFrom multiplier now (k + 1) ls <;> rfl

/-- Lines read one by one succeed exactly when each line is read, and give the points of the
lines that hold one, in order. -/
theorem readLinesFrom_eq_ok_iff (k : Nat) (ls : List String) (ps : List Point) :
    readLinesFrom multiplier now k ls = .ok ps ↔
      ∃ qs, ls.mapM (readLine · multiplier now) = .ok qs ∧ ps = qs.filterMap id := by
  induction ls generalizing k ps with
  | nil =>
    constructor
    · rintro ⟨⟩
      exact ⟨[], rfl, rfl⟩
    · rintro ⟨qs, hqs, rfl⟩
      cases hqs
      rfl
  | cons l ls ih =>
    rw [readLinesFrom, List.mapM_cons]
    cases hl : readLine l multiplier now with
    | error e => simp [bind, Except.bind]
    | ok q =>
      cases hr : readLinesFrom multiplier now (k + 1) ls with
      | error e =>
        have hno : ∀ qs, ls.mapM (readLine · multiplier now) ≠ .ok qs := by
          intro qs hqs
          have := (ih (k + 1) _).2 ⟨qs, hqs, rfl⟩
          rw [hr] at this
          cases this
        simp only [Except.map, bind, Except.bind, reduceCtorEq, false_iff, not_exists, not_and]
        intro qs hqs
        split at hqs
        · cases hqs
        · next qs' hqs' => exact absurd hqs' (hno qs')
      | ok ps' =>
        obtain ⟨qs', hqs', rfl⟩ := (ih (k + 1) ps').1 hr
        simp only [Except.map, bind, Except.bind, hqs', pure, Except.pure, Except.ok.injEq,
          exists_eq_left']
        cases q <;> simp [eq_comm]

/-- Lines read one by one fail with the failure of the first line that is not read, numbered by
its place. -/
theorem readLinesFrom_eq_error_iff (k : Nat) (ls : List String) (e : Error) :
    readLinesFrom multiplier now k ls = .error e ↔
      ∃ pre l post e₀, ls = pre ++ l :: post ∧
        (∀ x ∈ pre, ∃ q, readLine x multiplier now = .ok q) ∧
        readLine l multiplier now = .error e₀ ∧ e = Error.atLine (k + pre.length : Nat) (strip l) e₀ := by
  induction ls generalizing k with
  | nil => simp [readLinesFrom]
  | cons l ls ih =>
    rw [readLinesFrom]
    cases hl : readLine l multiplier now with
    | error e₀ =>
      constructor
      · intro h
        cases h
        exact ⟨[], l, ls, e₀, rfl, by simp, hl, by simp⟩
      · rintro ⟨pre, l', post, e₁, hls, hpre, hl', rfl⟩
        cases pre with
        | nil =>
          obtain ⟨rfl, rfl⟩ := List.cons.inj hls
          rw [hl] at hl'
          cases hl'
          rfl
        | cons x pre =>
          obtain ⟨rfl, -⟩ := List.cons.inj hls
          obtain ⟨q, hq⟩ := hpre l (by simp)
          rw [hl] at hq
          cases hq
    | ok q =>
      have hmap : ∀ r : Except Error (List Point),
          Except.map (fun ps => q.toList ++ ps) r = .error e ↔ r = .error e := by
        intro r; cases r <;> simp [Except.map]
      rw [hmap, ih]
      constructor
      · rintro ⟨pre, l', post, e₀, rfl, hpre, hl', rfl⟩
        refine ⟨l :: pre, l', post, e₀, rfl, ?_, hl', ?_⟩
        · intro x hx
          rcases List.mem_cons.1 hx with rfl | hx
          · exact ⟨q, hl⟩
          · exact hpre x hx
        · rw [List.length_cons, show k + 1 + pre.length = k + (pre.length + 1) by omega]
      · rintro ⟨pre, l', post, e₀, hls, hpre, hl', rfl⟩
        cases pre with
        | nil =>
          obtain ⟨rfl, rfl⟩ := List.cons.inj hls
          rw [hl] at hl'
          cases hl'
        | cons x pre =>
          obtain ⟨rfl, rfl⟩ := List.cons.inj hls
          refine ⟨pre, l', post, e₀, rfl, fun y hy => hpre y (by simp [hy]), hl', ?_⟩
          rw [List.length_cons, show k + 1 + pre.length = k + (pre.length + 1) by omega]

/-- A text with a line feed after it reads as the text does: the line feed adds at most a blank
line. -/
theorem readLinesFrom_lineFeed_end (a : String) :
    readLinesFrom multiplier now 1 (lines (a ++ "\n")) = readText a multiplier now := by
  obtain ⟨extra, hsplit, hblank⟩ := lines_append_lineFeed_end a
  rw [hsplit, readText]
  cases h : readLinesFrom multiplier now 1 (lines a) with
  | ok ps =>
    rw [readLinesFrom_append_ok multiplier now h, readLinesFrom_blank multiplier now _ hblank]
    simp [Except.map]
  | error e => exact readLinesFrom_append_error multiplier now h extra

end

/-- Reading a block composes over its lines. A block reads as its lines do, one by one, the
lines without a point dropped; it fails with its first bad line and that line's number. Two
blocks joined by a line feed read as the points of the first and then those of the second; a
failure in the first is the failure of the whole; and a failure in the second keeps its message
and its line, and its number moves on by the number of lines of the first and its line feed. -/
theorem readText_composes (multiplier : Value) (now : Int) :
    (∀ text ps, readText text multiplier now = .ok ps ↔
      ∃ qs, (lines text).mapM (readLine · multiplier now) = .ok qs ∧ ps = qs.filterMap id) ∧
    (∀ text e, readText text multiplier now = .error e ↔
      ∃ pre l post e₀, lines text = pre ++ l :: post ∧
        (∀ x ∈ pre, ∃ q, readLine x multiplier now = .ok q) ∧
        readLine l multiplier now = .error e₀ ∧ e = Error.atLine (1 + pre.length : Nat) (strip l) e₀) ∧
    ∀ a b : String,
      (∀ xs ys, readText a multiplier now = .ok xs → readText b multiplier now = .ok ys →
        readText (a ++ "\n" ++ b) multiplier now = .ok (xs ++ ys)) ∧
      (∀ e, readText a multiplier now = .error e →
        readText (a ++ "\n" ++ b) multiplier now = .error e) ∧
      (∀ xs e, readText a multiplier now = .ok xs → readText b multiplier now = .error e →
        readText (a ++ "\n" ++ b) multiplier now = .error (e.renumber (lines (a ++ "\n")).length)) := by
  refine ⟨fun text ps => readLinesFrom_eq_ok_iff multiplier now 1 _ ps,
    fun text e => readLinesFrom_eq_error_iff multiplier now 1 _ e, fun a b => ?_⟩
  have hjoin : readText (a ++ "\n" ++ b) multiplier now =
      readLinesFrom multiplier now 1 (lines (a ++ "\n") ++ lines b) := by
    rw [readText, lines_append_lineFeed]
  have hfirst := readLinesFrom_lineFeed_end multiplier now a
  refine ⟨fun xs ys ha hb => ?_, fun e ha => ?_, fun xs e ha hb => ?_⟩
  · rw [ha] at hfirst
    rw [hjoin, readLinesFrom_append_ok multiplier now hfirst, readLinesFrom_add, ← readText, hb]
    rfl
  · rw [ha] at hfirst
    rw [hjoin, readLinesFrom_append_error multiplier now hfirst]
  · rw [ha] at hfirst
    rw [hjoin, readLinesFrom_append_ok multiplier now hfirst, readLinesFrom_add, ← readText, hb]
    rfl

/-- A first block ending in a carriage return and a second whose third line is bad: the carriage
return and the joining line feed make one break, so the bad line is the fourth of the whole. -/
theorem readText_composes_after_carriage_return :
    readText "m v=1 1\r" (.int 1) 0 = .ok [⟨.str "m", [], [(.str "v", .str "1")], .int 1⟩] ∧
      readText "\n# c\nm v=1 x" (.int 1) 0 =
        .error (.parse "invalid timestamp: 'x'" (some 3) "m v=1 x") ∧
      readText ("m v=1 1\r" ++ "\n" ++ "\n# c\nm v=1 x") (.int 1) 0 =
        .error (.parse "invalid timestamp: 'x'" (some 4) "m v=1 x") := by
  have ha : readText "m v=1 1\r" (.int 1) 0 = .ok [⟨.str "m", [], [(.str "v", .str "1")], .int 1⟩] := by
    cbv
  have hb : readText "\n# c\nm v=1 x" (.int 1) 0 =
      .error (.parse "invalid timestamp: 'x'" (some 3) "m v=1 x") := by
    cbv
  have hlen : (lines ("m v=1 1\r" ++ "\n")).length = 1 := by cbv
  have h := ((readText_composes (.int 1) 0).2.2 "m v=1 1\r" "\n# c\nm v=1 x").2.2 _ _ ha hb
  rw [hlen] at h
  exact ⟨ha, hb, h⟩

end SeriesImport.LineProtocol
