import Mathlib
import SeriesImport.Proofs.Number.Whole
import SeriesImport.Proofs.Number.Interval
/-!
# The shortest digits of a double

The search for the shortest digits of a positive double `m · 2^e` tries the grids of one, two,
up to seventeen significant digits, that is the multiples of `10^k` for `k` going down from the
double's leading decimal place. On each grid only the two neighbours of the value can be the
nearest point in the rounding interval, and `gridHit` keeps the nearer one that lies in it
(`gridHit_some`, `gridHit_nearest`), or none when no point of the grid does (`gridHit_none`).
Over the search's common denominator these are statements about the rationals that round to the
double (`gridPoint_some`, `gridPoint_none`). The interval is wider than the step of the grid of
seventeen digits (`gridPoint_seventeen`), so the search stops at the first grid that has a point
in it (`shortestFrom_found`).

A decimal of `a` digits at or above the leading place lies on the grid of `a` digits
(`Decimal.onGrid`), and one below it leaves the leading power of ten inside the interval, a point
of the grid of one digit; either way no shorter decimal escapes the search.
-/

namespace SeriesImport.Number

/-- A whole number between `low` and `high`, the ends included when `closed`. -/
def Inside (low high : ℕ) (closed : Bool) (y : ℕ) : Prop :=
  if closed then low ≤ y ∧ y ≤ high else low < y ∧ y < high

theorem Inside.convex {low high a b y : ℕ} {closed : Bool} (ha : Inside low high closed a)
    (hb : Inside low high closed b) (hay : a ≤ y) (hyb : y ≤ b) : Inside low high closed y := by
  unfold Inside at *
  cases closed <;> simp only [Bool.false_eq_true, if_false, if_true] at * <;> omega

theorem Inside.of_strict {low high y : ℕ} (closed : Bool) (hlo : low < y) (hhi : y < high) :
    Inside low high closed y := by
  unfold Inside
  cases closed <;> simp only [Bool.false_eq_true, if_false, if_true] <;> omega

/-! ## Powers and the leading place -/

theorem pow2_cast {k : ℤ} (hk : 0 ≤ k) : ((pow2 k : ℕ) : ℚ) = 2 ^ k := by
  rw [pow2, Nat.cast_pow, Nat.cast_ofNat, ← zpow_natCast, Int.toNat_of_nonneg hk]

theorem pow10_cast {k : ℤ} (hk : 0 ≤ k) : ((pow10 k : ℕ) : ℚ) = 10 ^ k := by
  rw [pow10, Nat.cast_pow, Nat.cast_ofNat, ← zpow_natCast, Int.toNat_of_nonneg hk]

theorem pow10_ratio (n d : ℕ) (k : ℤ) :
    ((n * pow10 (-k) : ℕ) : ℚ) / (d * pow10 k : ℕ) = n / d / 10 ^ k := by
  have h := pow_toNat_div_pow_toNat 10 (-k)
  rw [neg_neg] at h
  simp only [pow10, Nat.cast_mul, Nat.cast_pow, Nat.cast_ofNat]
  rw [mul_div_mul_comm, h, zpow_neg]
  ring

theorem decimalLength_bounds {d : ℕ} (hd : 0 < d) :
    (10 : ℚ) ^ ((decimalLength d : ℤ) - 1) ≤ d ∧ (d : ℚ) < 10 ^ (decimalLength d : ℤ) := by
  have hlen : 0 < decimalLength d := Nat.length_toDigits_pos
  constructor
  · rw [show (decimalLength d : ℤ) - 1 = ((decimalLength d - 1 : ℕ) : ℤ) by omega, zpow_natCast]
    exact_mod_cast pow_decimalLength_le hd
  · rw [zpow_natCast]
    exact_mod_cast lt_pow_decimalLength d

/-- `ratioLog10` finds the leading decimal place of a quotient from the digit counts of its
terms. -/
theorem ratioLog10_bounds {num den : ℕ} (hn : 0 < num) (hd : 0 < den) :
    (10 : ℚ) ^ ratioLog10 num den ≤ num / den ∧ (num : ℚ) / den < 10 ^ (ratioLog10 num den + 1) := by
  have hdq : (0 : ℚ) < den := by exact_mod_cast hd
  set a : ℤ := (decimalLength num : ℤ) - decimalLength den with ha
  obtain ⟨hn1, hn2⟩ := decimalLength_bounds hn
  obtain ⟨hd1, hd2⟩ := decimalLength_bounds hd
  have hlo : (10 : ℚ) ^ (a - 1) ≤ num / den := by
    rw [le_div_iff₀ hdq]
    calc (10 : ℚ) ^ (a - 1) * den ≤ 10 ^ (a - 1) * 10 ^ (decimalLength den : ℤ) := by gcongr
      _ = 10 ^ ((decimalLength num : ℤ) - 1) := by rw [← zpow_add₀ (by norm_num)]; congr 1; omega
      _ ≤ num := hn1
  have hhi : (num : ℚ) / den < 10 ^ (a + 1) := by
    rw [div_lt_iff₀ hdq]
    calc (num : ℚ) < 10 ^ (decimalLength num : ℤ) := hn2
      _ = 10 ^ (a + 1) * 10 ^ ((decimalLength den : ℤ) - 1) := by
        rw [← zpow_add₀ (by norm_num)]; congr 1; omega
      _ ≤ 10 ^ (a + 1) * den := by gcongr
  have hcmp : num * pow10 (-a) < den * pow10 a ↔ (num : ℚ) / den < 10 ^ a := by
    have hpos : (0 : ℚ) < (den * pow10 a : ℕ) := by
      have : 0 < pow10 a := by unfold pow10; positivity
      exact_mod_cast Nat.mul_pos hd this
    rw [← Nat.cast_lt (α := ℚ), ← div_lt_one hpos, pow10_ratio,
      div_lt_one (zpow_pos (by norm_num) a)]
  unfold ratioLog10
  dsimp only
  rw [← ha]
  split_ifs with h
  · exact ⟨(zpow_le_zpow_right₀ (by norm_num) (by omega)).trans hlo, by
      rw [sub_add_cancel]; exact hcmp.1 h⟩
  · exact ⟨not_lt.1 (fun h' => h (hcmp.2 h')), hhi⟩

/-- The leading decimal place of the double `m · 2^e`. -/
def leadingPlace (m : ℕ) (e : ℤ) : ℤ := ratioLog10 (m * pow2 e) (pow2 (-e))

theorem leadingPlace_bounds {m : ℕ} {e : ℤ} (hm : 0 < m) :
    (10 : ℚ) ^ leadingPlace m e ≤ m * 2 ^ e ∧ (m : ℚ) * 2 ^ e < 10 ^ (leadingPlace m e + 1) := by
  have hv : ((m * pow2 e : ℕ) : ℚ) / (pow2 (-e) : ℕ) = m * 2 ^ e := by
    simp only [pow2, Nat.cast_mul, Nat.cast_pow, Nat.cast_ofNat]
    rw [mul_div_assoc, pow_toNat_div_pow_toNat]
  rw [← hv]
  exact ratioLog10_bounds (Nat.mul_pos hm (by unfold pow2; positivity)) (by unfold pow2; positivity)

section Grid

variable {value low high unit c : ℕ} {closed : Bool}

theorem inside_iff (x : ℕ) :
    (if closed then low ≤ x * unit && x * unit ≤ high else low < x * unit && x * unit < high) =
      true ↔ Inside low high closed (x * unit) := by
  cases closed <;> simp [Inside]

theorem grid_neighbours (value : ℕ) (hu : 0 < unit) :
    value / unit * unit ≤ value ∧ value < (value / unit + 1) * unit := by
  constructor
  · exact Nat.div_mul_le_self value unit
  · rw [Nat.add_mul, one_mul]
    have := Nat.lt_div_mul_add hu (a := value)
    omega

theorem abs_sub_of_le {a v : ℕ} (h : a ≤ v) : |(a : ℤ) - v| = ((v - a : ℕ) : ℤ) := by
  rw [abs_of_nonpos (by omega)]
  omega

theorem abs_sub_of_ge {a v : ℕ} (h : v ≤ a) : |(a : ℤ) - v| = ((a - v : ℕ) : ℤ) := by
  rw [abs_of_nonneg (by omega)]
  omega

/-- The grid point the search keeps is one of the two next to the value, in the interval, and
at least as near to the value as either of them that is in the interval. -/
theorem gridHit_some (hu : 0 < unit) (hlv : low < value) (hvh : value < high)
    (h : gridHit value low high unit closed = some c) :
    (c = value / unit ∨ c = value / unit + 1) ∧ Inside low high closed (c * unit) ∧
      ∀ n, (n = value / unit ∨ n = value / unit + 1) → Inside low high closed (n * unit) →
        |((c * unit : ℕ) : ℤ) - value| ≤ |((n * unit : ℕ) : ℤ) - value| := by
  obtain ⟨hbelow, habove⟩ := grid_neighbours value hu
  have hd0 := abs_sub_of_le hbelow
  have hd1 := abs_sub_of_ge habove.le
  unfold gridHit at h
  dsimp only at h
  split at h
  · next hdvd =>
    cases h
    have hexact := Nat.div_mul_cancel (Nat.dvd_of_mod_eq_zero (by simpa using hdvd))
    refine ⟨.inl rfl, by rw [hexact]; exact Inside.of_strict _ hlv hvh, fun n _ _ => ?_⟩
    rw [hexact, sub_self, abs_zero]
    exact abs_nonneg _
  · split at h
    · next hc hc1 =>
      rw [inside_iff] at hc hc1
      split at h <;> cases h
      · next hnear =>
        refine ⟨.inl rfl, hc, fun n hn _ => ?_⟩
        simp only [Bool.or_eq_true, decide_eq_true_eq, Bool.and_eq_true, beq_iff_eq] at hnear
        rcases hn with rfl | rfl
        · exact le_rfl
        · rw [hd0, hd1]
          omega
      · next hnear =>
        refine ⟨.inr rfl, hc1, fun n hn _ => ?_⟩
        simp only [Bool.or_eq_true, decide_eq_true_eq, Bool.and_eq_true, beq_iff_eq,
          not_or, not_and] at hnear
        rcases hn with rfl | rfl
        · rw [hd0, hd1]
          omega
        · exact le_rfl
    · next hc hc1 =>
      rw [inside_iff] at hc
      cases h
      refine ⟨.inl rfl, hc, fun n hn hin => ?_⟩
      rcases hn with rfl | rfl
      · exact le_rfl
      · rw [← inside_iff] at hin
        simp [hin] at hc1
    · next hc hc1 =>
      rw [inside_iff] at hc1
      cases h
      refine ⟨.inr rfl, hc1, fun n hn hin => ?_⟩
      rcases hn with rfl | rfl
      · rw [← inside_iff] at hin
        simp [hin] at hc
      · exact le_rfl
    · cases h

theorem inside_neighbour (hu : 0 < unit) (hlv : low < value) (hvh : value < high) {y : ℕ}
    (hy : Inside low high closed (y * unit)) :
    (y ≤ value / unit ∧ Inside low high closed (value / unit * unit)) ∨
      (value / unit + 1 ≤ y ∧ Inside low high closed ((value / unit + 1) * unit)) := by
  obtain ⟨hbelow, habove⟩ := grid_neighbours value hu
  have hval : Inside low high closed value := Inside.of_strict _ hlv hvh
  rcases le_or_gt y (value / unit) with hle | hgt
  · exact .inl ⟨hle, hy.convex hval (Nat.mul_le_mul_right _ hle) hbelow⟩
  · exact .inr ⟨hgt, hval.convex hy habove.le (Nat.mul_le_mul_right _ hgt)⟩

/-- When the search keeps no grid point, no grid point lies in the interval. -/
theorem gridHit_none (hu : 0 < unit) (hlv : low < value) (hvh : value < high)
    (h : gridHit value low high unit closed = none) (y : ℕ) :
    ¬ Inside low high closed (y * unit) := by
  intro hy
  unfold gridHit at h
  dsimp only at h
  split at h
  · cases h
  · split at h
    · split at h <;> cases h
    · cases h
    · cases h
    · next hc hc1 =>
      rcases inside_neighbour hu hlv hvh hy with ⟨-, hin⟩ | ⟨-, hin⟩
      · rw [← inside_iff] at hin
        simp [hin] at hc
      · rw [← inside_iff] at hin
        simp [hin] at hc1

/-- The grid point the search keeps is at least as near to the value as any grid point in the
interval. -/
theorem gridHit_nearest (hu : 0 < unit) (hlv : low < value) (hvh : value < high)
    (h : gridHit value low high unit closed = some c) {y : ℕ}
    (hy : Inside low high closed (y * unit)) :
    |((c * unit : ℕ) : ℤ) - value| ≤ |((y * unit : ℕ) : ℤ) - value| := by
  obtain ⟨hbelow, habove⟩ := grid_neighbours value hu
  obtain ⟨-, -, hnear⟩ := gridHit_some hu hlv hvh h
  rcases inside_neighbour hu hlv hvh hy with ⟨hle, hin⟩ | ⟨hge, hin⟩
  · have hmul := Nat.mul_le_mul_right unit hle
    refine (hnear _ (.inl rfl) hin).trans ?_
    rw [abs_sub_of_le hbelow, abs_sub_of_le (hmul.trans hbelow)]
    omega
  · have hmul := Nat.mul_le_mul_right unit hge
    refine (hnear _ (.inr rfl) hin).trans ?_
    rw [abs_sub_of_ge habove.le, abs_sub_of_ge (habove.le.trans hmul)]
    omega

end Grid

/-! ## The grids of the search -/

theorem inside_iff_within {low high y : ℕ} {closed : Bool} :
    Inside low high closed y ↔ Within (low : ℚ) high closed y := by
  unfold Inside Within
  cases closed <;> simp only [Bool.false_eq_true, if_false, if_true, Nat.cast_le, Nat.cast_lt]

theorem within_mul_iff {lo hi x D : ℚ} {closed : Bool} (hD : 0 < D) :
    Within (lo * D) (hi * D) closed (x * D) ↔ Within lo hi closed x := by
  unfold Within
  cases closed <;> simp only [Bool.false_eq_true, if_false, if_true, mul_le_mul_iff_left₀ hD,
    mul_lt_mul_iff_left₀ hD]

section Search

variable {m : ℕ} {e : ℤ}

/-- The place of the grid of `n` significant digits. -/
def gridPlace (m : ℕ) (e : ℤ) (n : ℕ) : ℤ := leadingPlace m e + 1 - n

/-- The common denominator of the search on the grid of `n` digits: it clears the binary places
of the double's interval and the decimal places of the grid. -/
def gridDen (m : ℕ) (e : ℤ) (n : ℕ) : ℕ := pow2 (max 0 (2 - e)) * pow10 (max 0 (-gridPlace m e n))

/-- The point of the grid of `n` digits that the search keeps, if any: the double's interval
and the grid, all as numerators over `gridDen`. -/
def gridPoint (m : ℕ) (e : ℤ) (n : ℕ) : Option ℕ :=
  let b : Int := max 0 (2 - e)
  let k := gridPlace m e n
  let t : Int := max 0 (-k)
  let scale := pow2 (e - 2 + b) * pow10 t
  let unit := pow10 (k + t) * pow2 b
  gridHit (4 * m * scale) ((4 * m - lowerGap m e) * scale) ((4 * m + 2) * scale) unit (m % 2 == 0)

theorem shortestFrom_succ (m : ℕ) (e : ℤ) (n fuel : ℕ) :
    shortestFrom m e n (fuel + 1) = match gridPoint m e n with
      | some c => Decimal.normalize ⟨c, gridPlace m e n⟩
      | none => shortestFrom m e (n + 1) fuel := by
  conv_lhs => unfold shortestFrom
  rfl

theorem gridDen_pos (m : ℕ) (e : ℤ) (n : ℕ) : (0 : ℚ) < gridDen m e n := by
  unfold gridDen pow2 pow10
  positivity

theorem gridScale_cast (m : ℕ) (e : ℤ) (n : ℕ) :
    ((pow2 (e - 2 + max 0 (2 - e)) * pow10 (max 0 (-gridPlace m e n)) : ℕ) : ℚ) =
      2 ^ (e - 2) * gridDen m e n := by
  rw [gridDen, Nat.cast_mul, Nat.cast_mul, pow2_cast (by omega), pow2_cast (by omega),
    zpow_add₀ two_ne_zero]
  ring

theorem gridUnit_cast (m : ℕ) (e : ℤ) (n : ℕ) :
    ((pow10 (gridPlace m e n + max 0 (-gridPlace m e n)) * pow2 (max 0 (2 - e)) : ℕ) : ℚ) =
      10 ^ gridPlace m e n * gridDen m e n := by
  rw [gridDen, Nat.cast_mul, Nat.cast_mul, pow10_cast (by omega), pow10_cast (by omega),
    zpow_add₀ (by norm_num)]
  ring


/-- The numbers the search compares on a grid, over a common denominator `D`: a grid point lies
between the scaled ends exactly when it rounds to the double. -/
theorem inside_grid_iff {S U : ℕ} {D : ℚ} {k : ℤ} (hD : 0 < D) (hS : (S : ℚ) = 2 ^ (e - 2) * D)
    (hU : (U : ℚ) = 10 ^ k * D) (y : ℕ) :
    Inside ((4 * m - lowerGap m e) * S) ((4 * m + 2) * S) (m % 2 == 0) (y * U) ↔
      RoundsTo m e (y * 10 ^ k) := by
  have hlo : (((4 * m - lowerGap m e) * S : ℕ) : ℚ) =
      ((4 * m - lowerGap m e : ℕ) : ℚ) * 2 ^ (e - 2) * D := by
    rw [Nat.cast_mul, hS]; ring
  have hhi : (((4 * m + 2) * S : ℕ) : ℚ) = ((4 * m + 2 : ℕ) : ℚ) * 2 ^ (e - 2) * D := by
    rw [Nat.cast_mul, hS]; ring
  have hy : ((y * U : ℕ) : ℚ) = (y : ℚ) * 10 ^ k * D := by
    rw [Nat.cast_mul, hU]; ring
  rw [inside_iff_within, hlo, hhi, hy, within_mul_iff hD]
  rfl

/-- The search on the grid of `n` digits, over the common denominator: a quarter of the
double's unit is the numerator `S`, the grid's step the numerator `U`. -/
theorem gridPoint_eq (m : ℕ) (e : ℤ) (n : ℕ) :
    ∃ S U : ℕ, 0 < S ∧ 0 < U ∧ (S : ℚ) = 2 ^ (e - 2) * gridDen m e n ∧
      (U : ℚ) = 10 ^ gridPlace m e n * gridDen m e n ∧
      gridPoint m e n =
        gridHit (4 * m * S) ((4 * m - lowerGap m e) * S) ((4 * m + 2) * S) U (m % 2 == 0) := by
  have hD := gridDen_pos m e n
  refine ⟨_, _, ?_, ?_, gridScale_cast m e n, gridUnit_cast m e n, rfl⟩
  · have h : (0 : ℚ) < 2 ^ (e - 2) * gridDen m e n := mul_pos (zpow_pos two_pos _) hD
    rw [← gridScale_cast] at h
    exact_mod_cast h
  · have h : (0 : ℚ) < 10 ^ gridPlace m e n * gridDen m e n := mul_pos (zpow_pos (by norm_num) _) hD
    rw [← gridUnit_cast] at h
    exact_mod_cast h

theorem value_grid {S : ℕ} {D : ℚ} (hS : (S : ℚ) = 2 ^ (e - 2) * D) :
    ((4 * m * S : ℕ) : ℚ) = m * 2 ^ e * D := by
  rw [Nat.cast_mul, hS, zpow_eq_four_mul e]
  push_cast
  ring

theorem grid_ends {S : ℕ} (hm : 0 < m) (hS : 0 < S) :
    (4 * m - lowerGap m e) * S < 4 * m * S ∧ 4 * m * S < (4 * m + 2) * S := by
  have hg := lowerGap_pos m e
  constructor
  · exact Nat.mul_lt_mul_of_pos_right (by omega) hS
  · exact Nat.mul_lt_mul_of_pos_right (by omega) hS

/-- When the search keeps no point of the grid of `n` digits, no point of it rounds to the
double. -/
theorem gridPoint_none (hd : PositiveDouble m e) {n : ℕ} (h : gridPoint m e n = none) (y : ℕ) :
    ¬ RoundsTo m e (y * 10 ^ gridPlace m e n) := by
  have hD := gridDen_pos m e n
  obtain ⟨S, U, hSpos, hUpos, hS, hU, hgrid⟩ := gridPoint_eq m e n
  rw [hgrid] at h
  obtain ⟨hlo, hhi⟩ := grid_ends (e := e) hd.pos hSpos
  rw [← inside_grid_iff hD hS hU]
  exact gridHit_none hUpos hlo hhi h y

/-- The point the search keeps on the grid of `n` digits rounds to the double, lies at most one
step above it, and is at least as near to it as every point of the grid that rounds to it. -/
theorem gridPoint_some (hd : PositiveDouble m e) {n c : ℕ} (h : gridPoint m e n = some c) :
    RoundsTo m e (c * 10 ^ gridPlace m e n) ∧
      (c : ℚ) * 10 ^ gridPlace m e n ≤ m * 2 ^ e + 10 ^ gridPlace m e n ∧
      ∀ y : ℕ, RoundsTo m e (y * 10 ^ gridPlace m e n) →
        |(c : ℚ) * 10 ^ gridPlace m e n - m * 2 ^ e| ≤
          |(y : ℚ) * 10 ^ gridPlace m e n - m * 2 ^ e| := by
  have hD := gridDen_pos m e n
  obtain ⟨S, U, hSpos, hUpos, hS, hU, hgrid⟩ := gridPoint_eq m e n
  rw [hgrid] at h
  obtain ⟨hlo, hhi⟩ := grid_ends (e := e) hd.pos hSpos
  obtain ⟨hc, hin, -⟩ := gridHit_some hUpos hlo hhi h
  have hv := value_grid (m := m) hS
  have hdist : ∀ z : ℕ, |((z * U : ℕ) : ℚ) - ((4 * m * S : ℕ) : ℚ)| =
      |(z : ℚ) * 10 ^ gridPlace m e n - m * 2 ^ e| * gridDen m e n := by
    intro z
    rw [Nat.cast_mul, hU, hv, ← abs_of_pos hD, ← abs_mul, abs_of_pos hD]
    ring_nf
  refine ⟨(inside_grid_iff hD hS hU c).1 hin, ?_, fun y hy => ?_⟩
  · have hle : c * U ≤ 4 * m * S + U := by
      have hbelow := (grid_neighbours (4 * m * S) hUpos).1
      rcases hc with rfl | rfl
      · omega
      · rw [Nat.add_mul, one_mul]
        omega
    have hle' : ((c * U : ℕ) : ℚ) ≤ ((4 * m * S : ℕ) : ℚ) + U := by exact_mod_cast hle
    rw [Nat.cast_mul, hU, hv] at hle'
    have : ((c : ℚ) * 10 ^ gridPlace m e n) * gridDen m e n ≤
        (m * 2 ^ e + 10 ^ gridPlace m e n) * gridDen m e n := by
      linarith
    exact le_of_mul_le_mul_right this hD
  · have hnear := gridHit_nearest hUpos hlo hhi h ((inside_grid_iff hD hS hU y).2 hy)
    have hnear' : |((c * U : ℕ) : ℚ) - ((4 * m * S : ℕ) : ℚ)| ≤
        |((y * U : ℕ) : ℚ) - ((4 * m * S : ℕ) : ℚ)| := by
      exact_mod_cast hnear
    rw [hdist, hdist] at hnear'
    exact le_of_mul_le_mul_right hnear' hD

/-- The search from the grid of `n` digits, with `fuel` grids to try, keeps the point of the
first grid that has one, if one of them does. -/
theorem shortestFrom_found (fuel : ℕ) : ∀ n : ℕ,
    (∃ j, n ≤ j ∧ j < n + fuel ∧ gridPoint m e j ≠ none) →
    ∃ j c, n ≤ j ∧ j < n + fuel ∧ (∀ i, n ≤ i → i < j → gridPoint m e i = none) ∧
      gridPoint m e j = some c ∧ shortestFrom m e n fuel = Decimal.normalize ⟨c, gridPlace m e j⟩ := by
  induction fuel with
  | zero =>
    rintro n ⟨j, h1, h2, -⟩
    omega
  | succ fuel ih =>
    rintro n ⟨j, h1, h2, hj⟩
    rw [shortestFrom_succ]
    cases hg : gridPoint m e n with
    | some c => exact ⟨n, c, le_rfl, by omega, fun i h1 h2 => by omega, hg, rfl⟩
    | none =>
      have hjn : j ≠ n := fun h => hj (h ▸ hg)
      obtain ⟨j', c, h1', h2', hnone, hc, heq⟩ := ih (n + 1) ⟨j, by omega, by omega, hj⟩
      refine ⟨j', c, by omega, by omega, fun i hi1 hi2 => ?_, hc, heq⟩
      rcases hi1.eq_or_lt with rfl | hlt
      · exact hg
      · exact hnone i hlt hi2

theorem RoundsTo.pos (hd : PositiveDouble m e) {x : ℚ} (h : RoundsTo m e x) : 0 < x := by
  have hg := lowerGap_le_two m e
  have hlo : (0 : ℚ) < ((4 * m - lowerGap m e : ℕ) : ℚ) * 2 ^ (e - 2) := by
    have : 0 < 4 * m - lowerGap m e := by have := hd.pos; omega
    positivity
  exact hlo.trans_le h.lo_le

/-- A double lies in its own rounding interval. -/
theorem roundsTo_self (hd : PositiveDouble m e) : RoundsTo m e (m * 2 ^ e) := by
  have hg1 := lowerGap_pos m e
  have hu : (0 : ℚ) < 2 ^ (e - 2) := zpow_pos two_pos _
  have hgm : lowerGap m e ≤ 4 * m := by
    have := hd.pos
    have := lowerGap_le_two m e
    omega
  apply Within.of_strict
  · rw [Nat.cast_sub hgm, zpow_eq_four_mul e]
    push_cast
    have : (1 : ℚ) ≤ lowerGap m e := by exact_mod_cast hg1
    nlinarith
  · rw [zpow_eq_four_mul e]
    push_cast
    nlinarith

/-- Seventeen significant digits always suffice: the rounding interval is wider than the step of
the grid of seventeen digits, so a point of that grid lies inside it. -/
theorem gridPoint_seventeen (hd : PositiveDouble m e) : gridPoint m e 17 ≠ none := by
  intro hnone
  set k := gridPlace m e 17 with hk
  have hu : (0 : ℚ) < 2 ^ (e - 2) := zpow_pos two_pos _
  have hstep : (0 : ℚ) < 10 ^ k := zpow_pos (by norm_num) _
  have h4 := zpow_eq_four_mul e
  have htop : (10 : ℚ) ^ k * 10 ^ 16 ≤ m * 2 ^ e := by
    have h := (leadingPlace_bounds (e := e) hd.pos).1
    calc (10 : ℚ) ^ k * 10 ^ 16 = 10 ^ (k + 16) := by
          rw [zpow_add₀ (by norm_num)]; norm_num
      _ = 10 ^ leadingPlace m e := by
          rw [hk, gridPlace]; congr 1; push_cast; ring
      _ ≤ m * 2 ^ e := h
  have hwide : 4 * m < (2 + lowerGap m e) * 10 ^ 16 := by
    rcases lowerGap_cases m e with ⟨h, rfl, -⟩ | ⟨h, -⟩
    · rw [h]
      norm_num
    · have hlt := hd.lt
      rw [h]
      omega
  have hwide' : (10 : ℚ) ^ k < (2 + lowerGap m e) * 2 ^ (e - 2) := by
    have hq : (4 * m : ℚ) < (2 + lowerGap m e) * 10 ^ 16 := by exact_mod_cast hwide
    rw [h4] at htop
    nlinarith
  set lo : ℚ := ((4 * m - lowerGap m e : ℕ) : ℚ) * 2 ^ (e - 2) with hlo
  have hgm : lowerGap m e ≤ 4 * m := by
    have hpos := hd.pos
    have := lowerGap_le_two m e
    omega
  have hlo0 : 0 ≤ lo := by positivity
  have hfl := Nat.floor_le (div_nonneg hlo0 hstep.le)
  have hfl1 := Nat.lt_floor_add_one (lo / 10 ^ k)
  apply gridPoint_none hd hnone (⌊lo / 10 ^ k⌋₊ + 1)
  apply Within.of_strict
  · rw [div_lt_iff₀ hstep] at hfl1
    rw [← hk]
    push_cast
    exact hfl1
  · rw [le_div_iff₀ hstep] at hfl
    have hhi : lo + 10 ^ k < ((4 * m + 2 : ℕ) : ℚ) * 2 ^ (e - 2) := by
      rw [hlo, Nat.cast_sub hgm]
      push_cast
      linarith
    rw [← hk]
    push_cast at hhi ⊢
    linarith

end Search

/-! ## Normalised digits -/

def Decimal.value (d : Decimal) : ℚ := d.digits * 10 ^ d.exp

theorem normalize_go_value (c : ℕ) (x : ℤ) (fuel : ℕ) :
    (Decimal.normalize.go c x fuel).value = c * 10 ^ x := by
  induction fuel generalizing c x with
  | zero => rfl
  | succ fuel ih =>
    unfold Decimal.normalize.go
    split_ifs with hz
    · rw [ih, zpow_add_one₀ (by norm_num)]
      have hc : (c : ℚ) = (c / 10 : ℕ) * 10 := by exact_mod_cast (Nat.div_mul_cancel (by omega)).symm
      rw [hc]
      ring
    · rfl

theorem normalize_go_le (c : ℕ) (x : ℤ) (fuel : ℕ) : (Decimal.normalize.go c x fuel).digits ≤ c := by
  induction fuel generalizing c x with
  | zero => exact le_rfl
  | succ fuel ih =>
    unfold Decimal.normalize.go
    split_ifs
    · exact (ih _ _).trans (Nat.div_le_self c 10)
    · exact le_rfl

/-- Normalising a positive number with fuel for all its digits leaves positive digits without a
trailing zero. -/
theorem normalize_go_trailing {c : ℕ} (x : ℤ) {fuel : ℕ} (hc : 0 < c) (hf : c ≤ fuel) :
    0 < (Decimal.normalize.go c x fuel).digits ∧ (Decimal.normalize.go c x fuel).digits % 10 ≠ 0 := by
  induction fuel generalizing c x with
  | zero => omega
  | succ fuel ih =>
    unfold Decimal.normalize.go
    split_ifs with hz
    · exact ih _ (by omega) (by omega)
    · dsimp only
      omega

/-- The normal form of at most `10^j` has at most `j` digits. -/
theorem normalize_length_le {c j : ℕ} (k : ℤ) (hj : 1 ≤ j) (hc : c ≤ 10 ^ j) :
    decimalLength (Decimal.normalize ⟨c, k⟩).digits ≤ j := by
  rcases hc.lt_or_eq with hlt | rfl
  · exact decimalLength_le_of_lt (by omega) ((normalize_go_le c k c).trans_lt hlt)
  · have h10 : 10 ^ j = 10 ^ (j - 1) * 10 := by rw [← pow_succ]; congr 1; omega
    have hpos : 0 < 10 ^ (j - 1) := by positivity
    have hfuel : ∀ f, decimalLength (Decimal.normalize.go (10 ^ j) k (f + 1)).digits ≤ j := by
      intro f
      rw [Decimal.normalize.go, if_pos (by omega), h10, Nat.mul_div_cancel _ (by norm_num)]
      apply decimalLength_le_of_lt (by omega)
      calc (Decimal.normalize.go (10 ^ (j - 1)) (k + 1) f).digits ≤ 10 ^ (j - 1) :=
            normalize_go_le _ _ _
        _ < 10 ^ j := by rw [h10]; omega
    have hpow : 0 < 10 ^ j := by positivity
    obtain ⟨f, hf⟩ : ∃ f, 10 ^ j = f + 1 := ⟨10 ^ j - 1, by omega⟩
    have := hfuel f
    rw [← hf] at this
    exact this


/-- A decimal of `a` digits at or above `10^top` lies on the grid of `10^(top + 1 - a)`: its last
digit stands at that place or above. -/
theorem Decimal.onGrid {d : Decimal} (hpos : 0 < d.digits) {top : ℤ} (h : (10 : ℚ) ^ top ≤ d.value) :
    ∃ y : ℕ, d.value = y * 10 ^ (top + 1 - decimalLength d.digits) := by
  have hlen := (decimalLength_bounds hpos).2
  have hx : top + 1 - decimalLength d.digits ≤ d.exp := by
    have hlt : (10 : ℚ) ^ top < 10 ^ ((decimalLength d.digits : ℤ) + d.exp) := by
      calc (10 : ℚ) ^ top ≤ d.value := h
        _ = d.digits * 10 ^ d.exp := rfl
        _ < 10 ^ (decimalLength d.digits : ℤ) * 10 ^ d.exp := by gcongr
        _ = 10 ^ ((decimalLength d.digits : ℤ) + d.exp) := by rw [zpow_add₀ (by norm_num)]
    have := (zpow_lt_zpow_iff_right₀ (by norm_num : (1 : ℚ) < 10)).1 hlt
    omega
  refine ⟨d.digits * 10 ^ (d.exp - (top + 1 - decimalLength d.digits)).toNat, ?_⟩
  rw [Decimal.value, Nat.cast_mul, Nat.cast_pow, Nat.cast_ofNat, ← zpow_natCast,
    Int.toNat_of_nonneg (by omega), mul_assoc, ← zpow_add₀ (by norm_num)]
  congr 2
  ring

section Shortest

variable {m : ℕ} {e : ℤ}

/-- The point the search keeps on the grid of `j` digits is at most `10^j` steps: the double
lies below the power of ten after its leading place, and the point at most a step above it. -/
theorem gridPoint_le_pow (hd : PositiveDouble m e) {j c : ℕ} (hc : gridPoint m e j = some c) :
    c ≤ 10 ^ j := by
  obtain ⟨-, hup, -⟩ := gridPoint_some hd hc
  have htop := (leadingPlace_bounds (e := e) hd.pos).2
  have hstep : (0 : ℚ) < 10 ^ gridPlace m e j := zpow_pos (by norm_num) _
  have h10 : (10 : ℚ) ^ (leadingPlace m e + 1) = (10 ^ j : ℕ) * 10 ^ gridPlace m e j := by
    rw [gridPlace, Nat.cast_pow, Nat.cast_ofNat, ← zpow_natCast, ← zpow_add₀ (by norm_num)]
    congr 1
    ring
  have hlt : (c : ℚ) * 10 ^ gridPlace m e j < ((10 ^ j : ℕ) + 1) * 10 ^ gridPlace m e j := by
    rw [add_mul, one_mul, ← h10]
    exact hup.trans_lt (by linarith)
  have : (c : ℚ) < (10 ^ j : ℕ) + 1 := lt_of_mul_lt_mul_right hlt hstep.le
  exact_mod_cast Nat.lt_succ_iff.1 (by exact_mod_cast this)

theorem RoundsTo.digits_pos (hd : PositiveDouble m e) {d : Decimal} (h : RoundsTo m e d.value) :
    0 < d.digits := by
  apply Nat.pos_of_ne_zero
  intro h0
  have := h.pos hd
  simp [Decimal.value, h0] at this

/-- A decimal that rounds to the double lies on the grid of as many digits as it has, or below
the leading power of ten, which then rounds to the double too. -/
theorem RoundsTo.onGrid_or_below (hd : PositiveDouble m e) {d : Decimal}
    (h : RoundsTo m e d.value) :
    (∃ y : ℕ, d.value = y * 10 ^ gridPlace m e (decimalLength d.digits)) ∨
      (d.value < 10 ^ leadingPlace m e ∧ RoundsTo m e (10 ^ leadingPlace m e)) := by
  rcases le_or_gt (10 ^ leadingPlace m e) d.value with hle | hlt
  · exact .inl (Decimal.onGrid (h.digits_pos hd) hle)
  · exact .inr ⟨hlt, h.convex (roundsTo_self hd) hlt.le (leadingPlace_bounds hd.pos).1⟩

/-- The shortest digits of a positive double: positive and without a trailing zero, they round
to the double; no decimal with fewer digits does, and of those with as many digits none is
nearer to the double. -/
theorem shortest_spec (hd : PositiveDouble m e) :
    0 < (shortest m e).digits ∧ (shortest m e).digits % 10 ≠ 0 ∧
      RoundsTo m e (shortest m e).value ∧
      ∀ d : Decimal, RoundsTo m e d.value →
        decimalLength (shortest m e).digits ≤ decimalLength d.digits ∧
          (decimalLength (shortest m e).digits = decimalLength d.digits →
            |(shortest m e).value - m * 2 ^ e| ≤ |d.value - m * 2 ^ e|) := by
  obtain ⟨j, c, hj1, hj17, hnone, hc, heq⟩ :=
    shortestFrom_found (m := m) (e := e) 17 1 ⟨17, by omega, by omega, gridPoint_seventeen hd⟩
  obtain ⟨hin, -, hnear⟩ := gridPoint_some hd hc
  have hc0 : 0 < c := by
    apply Nat.pos_of_ne_zero
    intro h0
    have := hin.pos hd
    simp [h0] at this
  have hval : (shortest m e).value = c * 10 ^ gridPlace m e j := by
    rw [shortest, heq]
    exact normalize_go_value c _ c
  have hone : RoundsTo m e (10 ^ leadingPlace m e) → j = 1 := by
    intro h1
    by_contra hj
    apply gridPoint_none hd (hnone 1 le_rfl (by omega)) 1
    simpa [gridPlace] using h1
  obtain ⟨hdpos, htrail⟩ := normalize_go_trailing (c := c) (gridPlace m e j) hc0 le_rfl
  have hlen : decimalLength (shortest m e).digits ≤ j := by
    rw [shortest, heq]
    exact normalize_length_le _ hj1 (gridPoint_le_pow hd hc)
  refine ⟨by rw [shortest, heq]; exact hdpos, by rw [shortest, heq]; exact htrail,
    hval ▸ hin, fun d hdr => ?_⟩
  have hlen1 : 1 ≤ decimalLength d.digits := Nat.length_toDigits_pos
  have hja : j ≤ decimalLength d.digits := by
    by_contra hlt
    rcases hdr.onGrid_or_below hd with ⟨y, hy⟩ | ⟨-, h1⟩
    · exact gridPoint_none hd (hnone _ hlen1 (by omega)) y (hy ▸ hdr)
    · have := hone h1
      omega
  refine ⟨hlen.trans hja, fun heqlen => ?_⟩
  have hja' : decimalLength d.digits = j := by omega
  rw [hval]
  rcases hdr.onGrid_or_below hd with ⟨y, hy⟩ | ⟨hlt, h1⟩
  · rw [hja'] at hy
    rw [hy]
    exact hnear y (hy ▸ hdr)
  · have hj := hone h1
    subst hj
    have htop := (leadingPlace_bounds (e := e) hd.pos).1
    have h10 : ((1 : ℕ) : ℚ) * 10 ^ gridPlace m e 1 = 10 ^ leadingPlace m e := by
      simp [gridPlace]
    have hnear1 := hnear 1 (h10 ▸ h1)
    rw [h10] at hnear1
    refine hnear1.trans ?_
    rw [abs_sub_comm, abs_of_nonneg (by linarith), abs_sub_comm, abs_of_nonneg (by linarith)]
    linarith

end Shortest

end SeriesImport.Number
