import Mathlib
import SeriesImport.Proofs.Number.Nearest
/-!
# The magnitudes that round to a double

A positive double `m · 2^e` is what every magnitude within half a unit of it rounds to: the
interval reaches half a unit `2^(e-1)` above it and half a unit below, except at a power of two
above the least exponent, where the doubles below lie twice as close and the interval reaches a
quarter of a unit below. Its ends round to the double exactly when `m` is even, as a tie goes to
the even significand (`RoundsTo`).
-/

namespace SeriesImport.Number

/-- A positive finite double `m · 2^e`: a significand of at most fifty-three bits, of exactly
fifty-three above the least exponent, and an exponent from `-1074` to `971`. -/
structure PositiveDouble (m : ℕ) (e : ℤ) : Prop where
  pos : 0 < m
  lt : m < 2 ^ 53
  least : -1074 ≤ e
  most : e ≤ 971
  normal : e = -1074 ∨ 2 ^ 52 ≤ m

/-- A finite double read off its bits with a positive significand is a positive double. -/
theorem Binary.ofBits_positive {b : ℕ} {neg : Bool} {m : ℕ} {e : ℤ}
    (h : Binary.ofBits b = .finite neg m e) (hm : 0 < m) : PositiveDouble m e := by
  have hfr : b % 2 ^ 52 < 2 ^ 52 := Nat.mod_lt _ (by positivity)
  have hef : b / 2 ^ 52 % 2048 < 2048 := Nat.mod_lt _ (by decide)
  unfold Binary.ofBits at h
  dsimp only at h
  split_ifs at h
  · cases h
    exact ⟨hm, by omega, le_rfl, by omega, .inl rfl⟩
  · cases h
    simp only [beq_iff_eq] at *
    exact ⟨hm, by omega, by omega, by omega, .inr (by omega)⟩

/-! ## Rounding to the nearest integer -/

/-- Rounding lands on an even integer when the rational lies half-way. -/
theorem even_roundEven_of_tie {y : ℚ} (h : |(roundEven y : ℚ) - y| = 1 / 2) :
    Even (roundEven y) := by
  have hlo := Int.floor_le y
  have hhi := Int.lt_floor_add_one y
  unfold roundEven at h ⊢
  dsimp only at h ⊢
  split_ifs at h ⊢ with hbelow habove
  · rw [abs_sub_comm, abs_of_nonneg (by linarith)] at h
    linarith
  · rw [abs_of_nonneg (by push_cast; linarith)] at h
    push_cast at h
    linarith
  · rw [Int.even_iff]
    omega

/-- An integer less than half away from a rational, or half away and even, is the rational
rounded. -/
theorem roundEven_eq_of_near {y : ℚ} {n : ℤ}
    (h : |(n : ℚ) - y| < 1 / 2 ∨ (|(n : ℚ) - y| = 1 / 2 ∧ Even n)) : roundEven y = n := by
  have hr := roundEven_sub_le y
  have htri : |(n : ℚ) - roundEven y| ≤ |(n : ℚ) - y| + |(roundEven y : ℚ) - y| := by
    rw [abs_sub_comm (roundEven y : ℚ)]
    exact abs_sub_le _ _ _
  rcases h with h | ⟨h, heven⟩
  · have hint : |n - roundEven y| < 1 := by
      have : |(n : ℚ) - roundEven y| < 1 := by linarith
      exact_mod_cast this
    rw [abs_lt] at hint
    omega
  · by_contra hne
    have hone : (1 : ℚ) ≤ |(n : ℚ) - roundEven y| := by
      exact_mod_cast Int.one_le_abs (sub_ne_zero.2 (Ne.symm hne))
    have heven' := even_roundEven_of_tie (le_antisymm hr (by linarith))
    have hint : |n - roundEven y| ≤ 1 := by
      have : |(n : ℚ) - roundEven y| ≤ 1 := by linarith
      exact_mod_cast this
    rw [abs_le] at hint
    obtain ⟨a, ha⟩ := heven
    obtain ⟨b, hb⟩ := heven'
    omega

/-! ## The last place of a magnitude -/

/-- The last place of a positive magnitude below `2^(q+53)`, and at least `2^(q+52)` unless `q`
is the least exponent, is `q`. -/
theorem lastPlace_eq {x : ℚ} {q : ℤ} (hx : 0 < x) (hq : -1074 ≤ q)
    (hlow : q = -1074 ∨ 2 ^ (q + 52) ≤ x) (hhigh : x < 2 ^ (q + 53)) : lastPlace x = q := by
  have hlog : Int.log 2 x < q + 53 :=
    (Int.lt_zpow_iff_log_lt (b := 2) one_lt_two hx).1 (by exact_mod_cast hhigh)
  unfold lastPlace
  rcases hlow with rfl | hlow
  · omega
  · have : q + 52 ≤ Int.log 2 x :=
      (Int.zpow_le_iff_le_log (b := 2) one_lt_two hx).1 (by exact_mod_cast hlow)
    omega

/-- Above the least exponent the last place of a magnitude is fifty-two places below its
binade. -/
theorem lastPlace_binade {x : ℚ} (hx : 0 < x) (h : -1074 < lastPlace x) :
    2 ^ (lastPlace x + 52) ≤ x := by
  unfold lastPlace at h ⊢
  rw [max_eq_left (by omega), sub_add_cancel]
  exact zpow_log_le hx

/-! ## The rounding interval -/

/-- How far below a double its rounding interval reaches, in quarters of its unit: two, and one
at a power of two above the least exponent, where the doubles below lie twice as close. -/
def lowerGap (m : ℕ) (e : ℤ) : ℕ := if m == 2 ^ 52 && e > -1074 then 1 else 2

theorem lowerGap_cases (m : ℕ) (e : ℤ) :
    (lowerGap m e = 1 ∧ m = 2 ^ 52 ∧ -1074 < e) ∨ (lowerGap m e = 2 ∧ (m ≠ 2 ^ 52 ∨ e ≤ -1074)) := by
  unfold lowerGap
  by_cases hm : m = 2 ^ 52 <;> by_cases he : -1074 < e <;> simp [hm, he] <;> omega

theorem lowerGap_pos (m : ℕ) (e : ℤ) : 0 < lowerGap m e := by
  unfold lowerGap
  split <;> omega

theorem lowerGap_le_two (m : ℕ) (e : ℤ) : lowerGap m e ≤ 2 := by
  unfold lowerGap
  split <;> omega

/-- The magnitudes between `lo` and `hi`, the ends included when `closed`. -/
def Within (lo hi : ℚ) (closed : Bool) (x : ℚ) : Prop :=
  if closed then lo ≤ x ∧ x ≤ hi else lo < x ∧ x < hi

/-- The magnitudes that round to the positive double `m · 2^e`, counted in quarters of its
unit: from `lowerGap` quarters below it to two quarters above, the ends included when `m` is
even. -/
def RoundsTo (m : ℕ) (e : ℤ) (x : ℚ) : Prop :=
  Within ((4 * m - lowerGap m e : ℕ) * 2 ^ (e - 2)) ((4 * m + 2 : ℕ) * 2 ^ (e - 2)) (m % 2 == 0) x

theorem Within.convex {lo hi y a b : ℚ} {closed : Bool} (ha : Within lo hi closed a)
    (hb : Within lo hi closed b) (hay : a ≤ y) (hyb : y ≤ b) : Within lo hi closed y := by
  unfold Within at *
  cases closed
  · exact ⟨ha.1.trans_le hay, hyb.trans_lt hb.2⟩
  · exact ⟨ha.1.trans hay, hyb.trans hb.2⟩

theorem Within.of_strict {lo hi x : ℚ} (closed : Bool) (hlo : lo < x) (hhi : x < hi) :
    Within lo hi closed x := by
  unfold Within
  cases closed
  · exact ⟨hlo, hhi⟩
  · exact ⟨hlo.le, hhi.le⟩

theorem Within.lo_le {lo hi x : ℚ} {closed : Bool} (h : Within lo hi closed x) : lo ≤ x := by
  unfold Within at h
  cases closed
  · exact h.1.le
  · exact h.1

theorem Within.le_hi {lo hi x : ℚ} {closed : Bool} (h : Within lo hi closed x) : x ≤ hi := by
  unfold Within at h
  cases closed
  · exact h.2.le
  · exact h.2

theorem Within.widen {lo hi lo' hi' x : ℚ} {closed : Bool} (h : Within lo hi closed x)
    (hlo : lo' ≤ lo) (hhi : hi ≤ hi') : Within lo' hi' closed x := by
  unfold Within at h ⊢
  cases closed
  · exact ⟨hlo.trans_lt h.1, h.2.trans_le hhi⟩
  · exact ⟨hlo.trans h.1, h.2.trans hhi⟩

section Interval

variable {m : ℕ} {e : ℤ}

theorem zpow_quarters (e : ℤ) (k : ℤ) : (2 : ℚ) ^ (e + k) = 2 ^ (k + 2) * 2 ^ (e - 2) := by
  rw [← zpow_add₀ two_ne_zero]
  congr 1
  ring

theorem zpow_eq_four_mul (e : ℤ) : (2 : ℚ) ^ e = 4 * 2 ^ (e - 2) := by
  have h := zpow_quarters e 0
  norm_num at h
  exact h

/-- The ends of the interval, in quarters of the unit: the lower end `lowerGap` quarters below,
the upper end two above. -/
theorem roundsTo_iff (hm : 0 < m) (x : ℚ) :
    RoundsTo m e x ↔ Within (4 * m - lowerGap m e) (4 * m + 2) (m % 2 == 0) (x / 2 ^ (e - 2)) := by
  have hu : (0 : ℚ) < 2 ^ (e - 2) := zpow_pos two_pos _
  have hg : lowerGap m e ≤ 4 * m := by have := lowerGap_le_two m e; omega
  unfold RoundsTo Within
  rw [Nat.cast_sub hg]
  push_cast
  split <;> simp only [le_div_iff₀ hu, div_le_iff₀ hu, lt_div_iff₀ hu, div_lt_iff₀ hu]

/-- The last place and the significand a magnitude rounds to, when they make `m · 2^e`, give
`m · 2^e` as the nearest double. -/
theorem roundToDouble_of_place (hd : PositiveDouble m e) {x : ℚ} {q n : ℤ}
    (hq : lastPlace x = q) (hn : roundEven (x / 2 ^ q) = n) (hv : (n : ℚ) * 2 ^ q = m * 2 ^ e) :
    roundToDouble x = some ((m : ℚ) * 2 ^ e) := by
  have hlt : (m : ℚ) * 2 ^ e < 2 ^ 1024 := lt_two_pow_1024 hd.lt (by have := hd.most; omega)
  unfold roundToDouble
  rw [hq, hn, hv, if_pos hlt]

/-- Within a quarter of a unit below the power of two `2^52 · 2^e`, above the least exponent, a
magnitude lies in the binade below, whose unit is half as large, and its significand there rounds
up to `2^53`. Counted in quarters of the unit `2^e`, the magnitude is `y` with
`4 · 2^52 - 1 ≤ y < 4 · 2^52`. -/
theorem roundToDouble_below_power (hd : PositiveDouble (2 ^ 52) e) (he : -1074 < e) {y : ℚ}
    (hlo : 4 * 2 ^ 52 - 1 ≤ y) (hhi : y < 4 * 2 ^ 52) :
    roundToDouble (y * 2 ^ (e - 2)) = some (((2 ^ 52 : ℕ) : ℚ) * 2 ^ e) := by
  have hu : (0 : ℚ) < 2 ^ (e - 2) := zpow_pos two_pos _
  refine roundToDouble_of_place hd (q := e - 1) (n := 2 ^ 53) ?_ ?_ ?_
  · apply lastPlace_eq (mul_pos (by linarith) hu) (by omega)
    · right
      rw [show e - 1 + 52 = e + 51 by ring, zpow_quarters]
      norm_num
      nlinarith
    · rw [show e - 1 + 53 = e + 52 by ring, zpow_quarters]
      norm_num
      nlinarith
  · have hhalf : y * 2 ^ (e - 2) / 2 ^ (e - 1) = y / 2 := by
      rw [show e - 1 = e - 2 + 1 by ring, zpow_add_one₀ two_ne_zero]
      field_simp
    apply roundEven_eq_of_near
    rw [hhalf]
    rcases hlo.eq_or_lt with heq | hgt
    · right
      refine ⟨?_, by decide⟩
      rw [← heq]
      norm_num
    · left
      rw [abs_lt]
      push_cast
      constructor <;> linarith
  · rw [show e = e - 1 + 1 by ring, zpow_add_one₀ two_ne_zero]
    push_cast
    ring_nf

/-- A magnitude within half a unit of `m · 2^e`, at an end only when `m` is even, and in the
binade of `m · 2^e` unless `e` is the least exponent, has `e` as its last place and rounds to
`m · 2^e`. Counted in quarters of the unit, the magnitude is `y` with `4m - 2 ≤ y ≤ 4m + 2`. -/
theorem roundToDouble_at_own_place (hd : PositiveDouble m e) {y : ℚ}
    (hy : Within (4 * m - 2) (4 * m + 2) (m % 2 == 0) y) (hbin : e = -1074 ∨ 2 ^ 54 ≤ y) :
    roundToDouble (y * 2 ^ (e - 2)) = some ((m : ℚ) * 2 ^ e) := by
  have hu : (0 : ℚ) < 2 ^ (e - 2) := zpow_pos two_pos _
  have hm : (1 : ℚ) ≤ m := by exact_mod_cast hd.pos
  have hm53 : (m : ℚ) + 1 ≤ 2 ^ 53 := by exact_mod_cast hd.lt
  have hlo := hy.lo_le
  have hhi := hy.le_hi
  refine roundToDouble_of_place hd (q := e) (n := m) ?_ ?_ rfl
  · apply lastPlace_eq (mul_pos (by linarith) hu) hd.least
    · rcases hbin with he | hy54
      · exact .inl he
      · right
        rw [zpow_quarters]
        norm_num
        nlinarith
    · rw [zpow_quarters]
      norm_num
      nlinarith
  · have hquarter : y * 2 ^ (e - 2) / 2 ^ e = y / 4 := by
      rw [zpow_eq_four_mul e]
      field_simp
    apply roundEven_eq_of_near
    rw [hquarter]
    push_cast
    by_cases hpar : m % 2 = 0
    · have habs : |(m : ℚ) - y / 4| ≤ 1 / 2 := by
        rw [abs_le]
        constructor <;> linarith
      rcases habs.lt_or_eq with hlt | heq
      · exact .inl hlt
      · exact .inr ⟨heq, by exact_mod_cast Nat.even_iff.2 hpar⟩
    · simp only [Within, hpar, beq_iff_eq, if_false] at hy
      left
      rw [abs_lt]
      constructor <;> linarith [hy.1, hy.2]

/-- A magnitude in the rounding interval of `m · 2^e` rounds to it. -/
theorem roundToDouble_of_roundsTo (hd : PositiveDouble m e) {x : ℚ} (h : RoundsTo m e x) :
    roundToDouble x = some ((m : ℚ) * 2 ^ e) := by
  have hu : (0 : ℚ) < 2 ^ (e - 2) := zpow_pos two_pos _
  obtain ⟨y, rfl⟩ : ∃ y, x = y * 2 ^ (e - 2) := ⟨x / 2 ^ (e - 2), (div_mul_cancel₀ _ hu.ne').symm⟩
  have hy := (roundsTo_iff hd.pos _).1 h
  rw [mul_div_cancel_right₀ _ hu.ne'] at hy
  rcases lowerGap_cases m e with ⟨hg, rfl, he⟩ | ⟨hg, hne⟩
  · rw [hg] at hy
    push_cast at hy
    by_cases hbelow : y < 4 * 2 ^ 52
    · exact roundToDouble_below_power hd he hy.lo_le hbelow
    · rw [not_lt] at hbelow
      refine roundToDouble_at_own_place hd (hy.widen (by push_cast; linarith) (by push_cast; rfl)) ?_
      exact .inr (by linarith)
  · rw [hg] at hy
    push_cast at hy
    refine roundToDouble_at_own_place hd hy ?_
    rcases hne with hne | hle
    · rcases hd.normal with he | hnorm
      · exact .inl he
      · have hm : (2 : ℚ) ^ 52 + 1 ≤ m := by exact_mod_cast (show 2 ^ 52 + 1 ≤ m by omega)
        exact .inr (by linarith [hy.lo_le])
    · exact .inl (le_antisymm hle hd.least)

/-- A positive magnitude that rounds to `m · 2^e` has its last place at `e` or below: at a higher
one its significand, of fifty-three bits, would pass `m · 2^e`. -/
theorem lastPlace_le_of_roundToDouble (hd : PositiveDouble m e) {x : ℚ} (hx : 0 < x)
    (h : roundToDouble x = some ((m : ℚ) * 2 ^ e)) : lastPlace x ≤ e := by
  unfold roundToDouble at h
  dsimp only at h
  split_ifs at h
  simp only [Option.some.injEq] at h
  by_contra hlt
  rw [not_le] at hlt
  have hn52 := (significand_bounds hx).2 (by have := hd.least; omega)
  have hm53 : (m : ℚ) + 1 ≤ 2 ^ 53 := by exact_mod_cast hd.lt
  have hbig : (m : ℚ) * 2 ^ e < roundEven (x / 2 ^ lastPlace x) * 2 ^ lastPlace x := by
    calc (m : ℚ) * 2 ^ e < 2 ^ 53 * 2 ^ e := by gcongr; linarith
      _ = 2 ^ 52 * 2 ^ (e + 1) := by rw [zpow_add_one₀ two_ne_zero]; ring
      _ ≤ roundEven (x / 2 ^ lastPlace x) * 2 ^ lastPlace x := by
          gcongr
          · exact_mod_cast hn52
          · exact one_le_two
          · omega
  linarith

/-- A magnitude whose last place lies below `e` and that rounds to `m · 2^e` lies within a
quarter of a unit of it, inside its rounding interval. -/
theorem roundsTo_of_lastPlace_lt (hd : PositiveDouble m e) {x : ℚ} (hq : lastPlace x < e)
    (h : roundToDouble x = some ((m : ℚ) * 2 ^ e)) : RoundsTo m e x := by
  have hu : (0 : ℚ) < 2 ^ (e - 2) := zpow_pos two_pos _
  have hhalf : (2 : ℚ) ^ lastPlace x / 2 ≤ 2 ^ (e - 2) := by
    rw [div_le_iff₀ two_pos, ← zpow_add_one₀ two_ne_zero]
    exact zpow_le_zpow_right₀ one_le_two (by omega)
  have hsub := (roundToDouble_sub_le h).trans hhalf
  obtain ⟨y, rfl⟩ : ∃ y, x = y * 2 ^ (e - 2) := ⟨x / 2 ^ (e - 2), (div_mul_cancel₀ _ hu.ne').symm⟩
  rw [roundsTo_iff hd.pos, mul_div_cancel_right₀ _ hu.ne']
  have hclose : |4 * (m : ℚ) - y| ≤ 1 := by
    have h' : |4 * (m : ℚ) - y| * 2 ^ (e - 2) ≤ 2 ^ (e - 2) := by
      rw [← abs_of_pos hu, ← abs_mul, abs_of_pos hu]
      calc |(4 * (m : ℚ) - y) * 2 ^ (e - 2)| = |(m : ℚ) * 2 ^ e - y * 2 ^ (e - 2)| := by
            rw [zpow_eq_four_mul e]; ring_nf
        _ ≤ 2 ^ (e - 2) := hsub
    exact (mul_le_iff_le_one_left hu).1 h'
  rw [abs_le] at hclose
  rcases lowerGap_cases m e with ⟨hg, rfl, -⟩ | ⟨hg, -⟩
  · simp only [Within, hg]
    push_cast at hclose ⊢
    norm_num
    constructor <;> linarith
  · rw [hg]
    exact Within.of_strict _ (by push_cast; linarith) (by linarith)

/-- A magnitude whose last place is `e` and that rounds to `m · 2^e` has `m` as its significand
rounded. -/
theorem roundEven_of_roundToDouble {x : ℚ} (hq : lastPlace x = e)
    (h : roundToDouble x = some ((m : ℚ) * 2 ^ e)) : roundEven (x / 2 ^ e) = m := by
  unfold roundToDouble at h
  dsimp only at h
  split_ifs at h
  simp only [Option.some.injEq, hq] at h
  exact_mod_cast mul_right_cancel₀ (zpow_pos two_pos e).ne' h

/-- A magnitude whose last place is `e` and that rounds to `m · 2^e` lies within half a unit of
it, at an end only when `m` is even, and in the binade of `m · 2^e` when `m` is a power of two:
inside its rounding interval. -/
theorem roundsTo_of_lastPlace_eq (hd : PositiveDouble m e) {x : ℚ} (hx : 0 < x)
    (hq : lastPlace x = e) (h : roundToDouble x = some ((m : ℚ) * 2 ^ e)) : RoundsTo m e x := by
  have hu : (0 : ℚ) < 2 ^ (e - 2) := zpow_pos two_pos _
  have hn := roundEven_of_roundToDouble hq h
  obtain ⟨y, rfl⟩ : ∃ y, x = y * 2 ^ (e - 2) := ⟨x / 2 ^ (e - 2), (div_mul_cancel₀ _ hu.ne').symm⟩
  have hquarter : y * 2 ^ (e - 2) / 2 ^ e = y / 4 := by
    rw [zpow_eq_four_mul e]
    field_simp
  rw [hquarter] at hn
  have hhalf := roundEven_sub_le (y / 4)
  rw [hn] at hhalf
  push_cast at hhalf
  rw [abs_le] at hhalf
  have htie : (y = 4 * m - 2 ∨ y = 4 * m + 2) → m % 2 = 0 := by
    intro hy
    have habs : |(roundEven (y / 4) : ℚ) - y / 4| = 1 / 2 := by
      rw [hn]
      push_cast
      rcases hy with hy | hy <;> rw [hy, abs_eq (by norm_num)] <;> ring_nf <;> simp
    have heven := even_roundEven_of_tie habs
    rw [hn] at heven
    exact Nat.even_iff.1 (by exact_mod_cast heven)
  rw [roundsTo_iff hd.pos, mul_div_cancel_right₀ _ hu.ne']
  rcases lowerGap_cases m e with ⟨hg, rfl, he⟩ | ⟨hg, -⟩
  · have hbin := lastPlace_binade hx (by omega)
    rw [hq, zpow_quarters] at hbin
    have hy54 : (2 : ℚ) ^ 54 ≤ y := by
      norm_num at hbin
      nlinarith
    simp only [Within, hg]
    push_cast at hhalf ⊢
    norm_num
    constructor <;> linarith
  · rw [hg]
    by_cases hpar : m % 2 = 0
    · simp only [Within, hpar]
      push_cast
      norm_num
      constructor <;> linarith
    · have hlo : 4 * (m : ℚ) - 2 < y := by
        rcases hhalf.2.lt_or_eq with hlt | heq
        · linarith
        · exact absurd (htie (.inl (by linarith))) hpar
      have hhi : y < 4 * (m : ℚ) + 2 := by
        rcases hhalf.1.lt_or_eq with hlt | heq
        · linarith
        · exact absurd (htie (.inr (by linarith))) hpar
      exact Within.of_strict _ (by push_cast; linarith) hhi

/-- A magnitude that rounds to `m · 2^e` lies in its rounding interval. -/
theorem roundsTo_of_roundToDouble (hd : PositiveDouble m e) {x : ℚ} (hx : 0 ≤ x)
    (h : roundToDouble x = some ((m : ℚ) * 2 ^ e)) : RoundsTo m e x := by
  have hxpos : 0 < x := by
    rcases hx.lt_or_eq with hpos | rfl
    · exact hpos
    · rw [roundToDouble_zero, Option.some.injEq] at h
      have : (0 : ℚ) < m * 2 ^ e := mul_pos (by exact_mod_cast hd.pos) (zpow_pos two_pos e)
      linarith
  rcases (lastPlace_le_of_roundToDouble hd hxpos h).lt_or_eq with hlt | heq
  · exact roundsTo_of_lastPlace_lt hd hlt h
  · exact roundsTo_of_lastPlace_eq hd hxpos heq h

/-- Rounding a magnitude to the nearest double gives the positive double `m · 2^e` exactly on
its rounding interval. -/
theorem roundToDouble_eq_iff (hd : PositiveDouble m e) {x : ℚ} (hx : 0 ≤ x) :
    roundToDouble x = some ((m : ℚ) * 2 ^ e) ↔ RoundsTo m e x :=
  ⟨roundsTo_of_roundToDouble hd hx, roundToDouble_of_roundsTo hd⟩

end Interval

end SeriesImport.Number
