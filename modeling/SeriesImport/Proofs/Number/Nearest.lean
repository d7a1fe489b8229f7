import Mathlib
import SeriesImport.Proofs.Number.Bits
/-!
# Rounding to the nearest double

A magnitude `x ≥ 0` rounds to a double at its last place `q = lastPlace x`: a double carries
fifty-three significant bits, and no place lies below `2^-1074`. The double is
`roundEven (x / 2^q) · 2^q`, a tie going to the even significand, and there is none when that
reaches `2^1024`, past the largest double (`roundToDouble`). It lies within half a unit in the
last place of `x` (`roundToDouble_sub_le`).

`nearestBits` finds the binade of a quotient from the bit lengths of its terms
(`ratioLog2_eq_log`) and the significand by whole division (`divRoundEven_eq`). Its bits are the
subnormal, normal or infinite double that rounding the quotient gives (`nearestBits_cases`), so
the double a decimal is read as represents the decimal rounded to the nearest double, with its
sign (`ofFloat_ofDecimal`). Cut toward zero, it gives the whole part of the rounded magnitude
(`Binary.Represents.truncate`).
-/

namespace SeriesImport.Number

/-! ## Rounding to an integer -/

/-- A rational rounded to the nearest integer, a tie going to the even one. -/
def roundEven (x : ℚ) : ℤ :=
  let k := ⌊x⌋
  if x - k < 1 / 2 then k
  else if 1 / 2 < x - k then k + 1
  else k + k % 2

theorem floor_le_roundEven (x : ℚ) : ⌊x⌋ ≤ roundEven x := by
  unfold roundEven
  dsimp only
  split_ifs <;> omega

theorem roundEven_le_floor_add_one (x : ℚ) : roundEven x ≤ ⌊x⌋ + 1 := by
  unfold roundEven
  dsimp only
  split_ifs <;> omega

theorem le_roundEven {x : ℚ} {k : ℤ} (h : (k : ℚ) ≤ x) : k ≤ roundEven x :=
  (Int.le_floor.2 h).trans (floor_le_roundEven x)

theorem roundEven_le {x : ℚ} {k : ℤ} (h : x ≤ k) : roundEven x ≤ k := by
  have hf : ⌊x⌋ ≤ k := by simpa using Int.floor_mono h
  rcases hf.lt_or_eq with hlt | heq
  · exact (roundEven_le_floor_add_one x).trans (by omega)
  · have hx : x = k := le_antisymm h (heq ▸ Int.floor_le x)
    subst hx
    simp [roundEven]

theorem roundEven_sub_le (x : ℚ) : |(roundEven x : ℚ) - x| ≤ 1 / 2 := by
  have hlo := Int.floor_le x
  have hhi := Int.lt_floor_add_one x
  have hm0 : (0 : ℚ) ≤ ((⌊x⌋ % 2 : ℤ) : ℚ) := by
    exact_mod_cast Int.emod_nonneg ⌊x⌋ two_ne_zero
  have hm1 : ((⌊x⌋ % 2 : ℤ) : ℚ) ≤ 1 := by
    exact_mod_cast (show ⌊x⌋ % 2 ≤ 1 by omega)
  unfold roundEven
  dsimp only
  split_ifs <;> push_cast <;> rw [abs_le] <;> constructor <;> linarith

/-- `divRoundEven` rounds a quotient of naturals to the nearest integer, a tie to the even one. -/
theorem divRoundEven_eq (n : ℕ) {d : ℕ} (hd : 0 < d) :
    (divRoundEven n d : ℤ) = roundEven ((n : ℚ) / d) := by
  have hdq : (0 : ℚ) < d := by exact_mod_cast hd
  have hfloor : ⌊(n : ℚ) / d⌋ = ((n / d : ℕ) : ℤ) := by
    rw [Rat.floor_natCast_div_natCast, Int.natCast_div]
  have hfrac : (n : ℚ) / d - ((n / d : ℕ) : ℤ) = ((n % d : ℕ) : ℚ) / d := by
    have hn : (n : ℚ) = d * (n / d : ℕ) + (n % d : ℕ) := by
      exact_mod_cast (Nat.div_add_mod n d).symm
    rw [Int.cast_natCast, hn]
    field_simp
    ring
  have hbelow : ((n % d : ℕ) : ℚ) / d < 1 / 2 ↔ 2 * (n % d) < d := by
    rw [div_lt_iff₀ hdq, ← Nat.cast_lt (α := ℚ)]
    push_cast
    constructor <;> intro h <;> linarith
  have habove : 1 / 2 < ((n % d : ℕ) : ℚ) / d ↔ d < 2 * (n % d) := by
    rw [lt_div_iff₀ hdq, ← Nat.cast_lt (α := ℚ)]
    push_cast
    constructor <;> intro h <;> linarith
  unfold divRoundEven roundEven
  simp only [hfloor, hfrac, hbelow, habove]
  rcases lt_trichotomy (2 * (n % d)) d with h | h | h
  · simp [h, h.ne, Nat.not_lt.2 h.le]
  · simp [h]
    split <;> omega
  · simp [h, Nat.not_lt.2 h.le]


/-! ## Powers cut at zero -/

/-- A power to an integer cut at zero, over the power to its negation cut at zero, is the power
to the integer. -/
theorem pow_toNat_div_pow_toNat (b : ℚ) (k : ℤ) :
    b ^ k.toNat / b ^ (-k).toNat = b ^ k := by
  rcases le_or_gt 0 k with hk | hk
  · rw [Int.toNat_eq_zero.2 (by omega : -k ≤ 0), pow_zero, div_one, ← zpow_natCast,
      Int.toNat_of_nonneg hk]
  · rw [Int.toNat_eq_zero.2 hk.le, pow_zero, ← zpow_natCast, Int.toNat_of_nonneg (by omega),
      zpow_neg, one_div, inv_inv]

theorem pow2_scaled (n d : ℕ) (k : ℤ) :
    ((n * pow2 (-k) : ℕ) : ℚ) / (d * pow2 k : ℕ) = n / d / 2 ^ k := by
  have h := pow_toNat_div_pow_toNat 2 (-k)
  rw [neg_neg] at h
  simp only [pow2, Nat.cast_mul, Nat.cast_pow, Nat.cast_ofNat]
  rw [mul_div_mul_comm, h, zpow_neg]
  ring

theorem pow10_scaled (d : ℕ) (e : ℤ) :
    ((d * pow10 e : ℕ) : ℚ) / (pow10 (-e) : ℕ) = d * 10 ^ e := by
  simp only [pow10, Nat.cast_mul, Nat.cast_pow, Nat.cast_ofNat]
  rw [mul_div_assoc, pow_toNat_div_pow_toNat]

/-! ## Binades -/

theorem zpow_log_le {x : ℚ} (hx : 0 < x) : (2 : ℚ) ^ Int.log 2 x ≤ x := by
  exact_mod_cast Int.zpow_log_le_self one_lt_two hx

theorem lt_zpow_log_add_one (x : ℚ) : x < 2 ^ (Int.log 2 x + 1) := by
  exact_mod_cast Int.lt_zpow_succ_log_self one_lt_two x

theorem log_eq_of_bounds {x : ℚ} {k : ℤ} (h1 : (2 : ℚ) ^ k ≤ x) (h2 : x < 2 ^ (k + 1)) :
    Int.log 2 x = k := by
  have hx : 0 < x := lt_of_lt_of_le (zpow_pos two_pos k) h1
  apply le_antisymm
  · have := (Int.lt_zpow_iff_log_lt (b := 2) one_lt_two hx).1 (by exact_mod_cast h2)
    omega
  · exact (Int.zpow_le_iff_le_log (b := 2) one_lt_two hx).1 (by exact_mod_cast h1)

/-- `ratioLog2` finds the binade of a quotient from the bit lengths of its terms. -/
theorem ratioLog2_eq_log {num den : ℕ} (hn : 0 < num) (hd : 0 < den) :
    ratioLog2 num den = Int.log 2 ((num : ℚ) / den) := by
  have hdq : (0 : ℚ) < den := by exact_mod_cast hd
  set b : ℤ := (num.log2 : ℤ) - den.log2 with hb
  have hn1 : (2 : ℚ) ^ (num.log2 : ℤ) ≤ num := by
    rw [zpow_natCast]; exact_mod_cast Nat.log2_self_le hn.ne'
  have hn2 : (num : ℚ) < 2 ^ ((num.log2 : ℤ) + 1) := by
    rw [← Nat.cast_succ, zpow_natCast]; exact_mod_cast Nat.lt_log2_self
  have hd1 : (2 : ℚ) ^ (den.log2 : ℤ) ≤ den := by
    rw [zpow_natCast]; exact_mod_cast Nat.log2_self_le hd.ne'
  have hd2 : (den : ℚ) < 2 ^ ((den.log2 : ℤ) + 1) := by
    rw [← Nat.cast_succ, zpow_natCast]; exact_mod_cast Nat.lt_log2_self
  have hlo : (2 : ℚ) ^ (b - 1) ≤ num / den := by
    rw [le_div_iff₀ hdq]
    calc (2 : ℚ) ^ (b - 1) * den ≤ 2 ^ (b - 1) * 2 ^ ((den.log2 : ℤ) + 1) := by gcongr
      _ = 2 ^ (num.log2 : ℤ) := by rw [← zpow_add₀ two_ne_zero]; congr 1; omega
      _ ≤ num := hn1
  have hhi : (num : ℚ) / den < 2 ^ (b + 1) := by
    rw [div_lt_iff₀ hdq]
    calc (num : ℚ) < 2 ^ ((num.log2 : ℤ) + 1) := hn2
      _ = 2 ^ (b + 1) * 2 ^ (den.log2 : ℤ) := by rw [← zpow_add₀ two_ne_zero]; congr 1; omega
      _ ≤ 2 ^ (b + 1) * den := by gcongr
  have hcmp : num * pow2 (-b) < den * pow2 b ↔ (num : ℚ) / den < 2 ^ b := by
    have hpos : (0 : ℚ) < (den * pow2 b : ℕ) := by
      have : 0 < pow2 b := by unfold pow2; positivity
      exact_mod_cast Nat.mul_pos hd this
    rw [← Nat.cast_lt (α := ℚ), ← div_lt_one hpos, pow2_scaled,
      div_lt_one (zpow_pos two_pos b)]
  unfold ratioLog2
  dsimp only
  split_ifs with h
  · exact (log_eq_of_bounds hlo (by rw [sub_add_cancel]; exact hcmp.1 h)).symm
  · exact (log_eq_of_bounds (not_lt.1 (fun h' => h (hcmp.2 h'))) hhi).symm


/-! ## Rounding to the nearest double -/

/-- The exponent of the last place of a double of magnitude `x`: a double carries fifty-three
significant bits, and none below `2^-1074`. -/
def lastPlace (x : ℚ) : ℤ := max (Int.log 2 x - 52) (-1074)

/-- A magnitude rounded to the nearest double, a tie going to the even significand; `none` when
the result lies at `2^1024` or beyond, past the largest double. -/
def roundToDouble (x : ℚ) : Option ℚ :=
  let r := roundEven (x / 2 ^ lastPlace x) * (2 : ℚ) ^ lastPlace x
  if r < 2 ^ 1024 then some r else none

/-- The double a magnitude rounds to lies within half a unit in its last place. -/
theorem roundToDouble_sub_le {x r : ℚ} (h : roundToDouble x = some r) :
    |r - x| ≤ 2 ^ lastPlace x / 2 := by
  unfold roundToDouble at h
  dsimp only at h
  split_ifs at h
  cases h
  set q := lastPlace x
  have hp : (0 : ℚ) < 2 ^ q := zpow_pos two_pos _
  calc |(roundEven (x / 2 ^ q) : ℚ) * 2 ^ q - x|
      = |((roundEven (x / 2 ^ q) : ℚ) - x / 2 ^ q) * 2 ^ q| := by
        rw [sub_mul, div_mul_cancel₀ _ hp.ne']
    _ = |(roundEven (x / 2 ^ q) : ℚ) - x / 2 ^ q| * 2 ^ q := by rw [abs_mul, abs_of_pos hp]
    _ ≤ 1 / 2 * 2 ^ q := by gcongr; exact roundEven_sub_le _
    _ = 2 ^ q / 2 := by ring

/-- A positive magnitude at its last place has a significand of at most fifty-three bits, and of
exactly fifty-three unless the magnitude lies below the normal range. -/
theorem significand_bounds {x : ℚ} (hx : 0 < x) :
    roundEven (x / 2 ^ lastPlace x) ≤ 2 ^ 53 ∧
      (lastPlace x ≠ -1074 → 2 ^ 52 ≤ roundEven (x / 2 ^ lastPlace x)) := by
  have hp : (0 : ℚ) < 2 ^ lastPlace x := zpow_pos two_pos _
  have hq : Int.log 2 x - 52 ≤ lastPlace x := le_max_left _ _
  constructor
  · apply roundEven_le
    rw [div_le_iff₀ hp]
    calc x ≤ 2 ^ (Int.log 2 x + 1) := (lt_zpow_log_add_one x).le
      _ ≤ 2 ^ ((53 : ℤ) + lastPlace x) := zpow_le_zpow_right₀ one_le_two (by omega)
      _ = ((2 ^ 53 : ℤ) : ℚ) * 2 ^ lastPlace x := by
        rw [zpow_add₀ two_ne_zero]; norm_num
  · intro hne
    have heq : lastPlace x = Int.log 2 x - 52 := by
      unfold lastPlace at hne ⊢; omega
    apply le_roundEven
    rw [le_div_iff₀ hp]
    calc ((2 ^ 52 : ℤ) : ℚ) * 2 ^ lastPlace x = 2 ^ Int.log 2 x := by
          rw [heq, zpow_sub₀ two_ne_zero]; field_simp; norm_num
      _ ≤ x := zpow_log_le hx

theorem lt_two_pow_1024 {m k : ℕ} {q : ℤ} (hm : m < 2 ^ k) (hq : k + q ≤ 1024) :
    (m : ℚ) * 2 ^ q < 2 ^ 1024 := by
  calc (m : ℚ) * 2 ^ q < 2 ^ k * 2 ^ q := by gcongr; exact_mod_cast hm
    _ = 2 ^ ((k : ℤ) + q) := by rw [zpow_add₀ two_ne_zero, zpow_natCast]
    _ ≤ 2 ^ (1024 : ℤ) := zpow_le_zpow_right₀ one_le_two hq
    _ = 2 ^ 1024 := zpow_natCast _ _

theorem two_pow_1024_le {m k : ℕ} {q : ℤ} (hm : 2 ^ k ≤ m) (hq : 1024 ≤ k + q) :
    2 ^ 1024 ≤ (m : ℚ) * 2 ^ q := by
  calc (2 : ℚ) ^ 1024 = 2 ^ (1024 : ℤ) := (zpow_natCast _ _).symm
    _ ≤ 2 ^ ((k : ℤ) + q) := zpow_le_zpow_right₀ one_le_two hq
    _ = 2 ^ k * 2 ^ q := by rw [zpow_add₀ two_ne_zero, zpow_natCast]
    _ ≤ m * 2 ^ q := by gcongr; exact_mod_cast hm


/-! ## The bits of the nearest double -/

/-- The three shapes of `nearestBits num den`: the fraction of a subnormal double, the exponent
field and fraction of a normal one, or the pattern of infinity, each with what rounding
`num / den` to the nearest double gives. -/
theorem nearestBits_cases (num : ℕ) {den : ℕ} (hden : 0 < den) :
    (∃ m, m < 2 ^ 52 ∧ nearestBits num den = m ∧
        roundToDouble (num / den) = some ((m : ℚ) * 2 ^ (-1074 : ℤ))) ∨
    (∃ m ef, 2 ^ 52 ≤ m ∧ m < 2 ^ 53 ∧ 0 < ef ∧ ef < 2047 ∧
        nearestBits num den = ef * 2 ^ 52 + (m - 2 ^ 52) ∧
        roundToDouble (num / den) = some ((m : ℚ) * 2 ^ ((ef : ℤ) - 1075))) ∨
    (nearestBits num den = 2047 * 2 ^ 52 ∧ roundToDouble (num / den) = none) := by
  rcases Nat.eq_zero_or_pos num with rfl | hnum
  · left
    refine ⟨0, by norm_num, rfl, ?_⟩
    simp [roundToDouble, roundEven]
  set x : ℚ := num / den with hx
  have hxpos : 0 < x := by positivity
  set q := lastPlace x with hq
  obtain ⟨hle, hge⟩ := significand_bounds hxpos
  have hq0 : -1074 ≤ q := le_max_right _ _
  have hplace : max (ratioLog2 num den - 52) (-1074) = q := by
    rw [ratioLog2_eq_log hnum hden]
    rfl
  have hm0 : (divRoundEven (num * pow2 (-q)) (den * pow2 q) : ℤ) = roundEven (x / 2 ^ q) := by
    rw [divRoundEven_eq _ (Nat.mul_pos hden (by unfold pow2; positivity)), pow2_scaled]
  rw [nearestBits, if_neg (by simpa using hnum.ne')]
  dsimp only
  rw [hplace]
  generalize divRoundEven (num * pow2 (-q)) (den * pow2 q) = m0 at hm0 ⊢
  have hr : roundToDouble x =
      if (m0 : ℚ) * 2 ^ q < 2 ^ 1024 then some ((m0 : ℚ) * 2 ^ q) else none := by
    simp only [roundToDouble, ← hq, ← hm0, Int.cast_natCast]
  have hm53 : m0 ≤ 2 ^ 53 := by rw [← hm0] at hle; exact_mod_cast hle
  have hm52 : q ≠ -1074 → 2 ^ 52 ≤ m0 := fun h => by
    have := hge h
    rw [← hm0] at this
    exact_mod_cast this
  rw [hr]
  by_cases h53 : m0 = 2 ^ 53
  · subst h53
    simp only [beq_self_eq_true, if_true, lt_self_iff_false, if_false]
    have hval : ((2 ^ 53 : ℕ) : ℚ) * 2 ^ q = ((2 ^ 52 : ℕ) : ℚ) * 2 ^ (q + 1) := by
      rw [zpow_add_one₀ two_ne_zero]
      push_cast
      ring
    by_cases hbig : q + 1 + 1075 ≥ 2047
    · right; right
      refine ⟨by rw [if_pos hbig]; norm_num,
        if_neg (not_lt.2 (two_pow_1024_le le_rfl (by omega)))⟩
    · right; left
      refine ⟨2 ^ 52, (q + 1 + 1075).toNat, le_rfl, by norm_num, by omega, by omega,
        by rw [if_neg hbig], ?_⟩
      rw [if_pos (lt_two_pow_1024 (k := 54) (by norm_num) (by omega)), hval]
      congr 3
      omega
  · have hlt : m0 < 2 ^ 53 := lt_of_le_of_ne hm53 h53
    have hbeq : (m0 == 2 ^ 53) = false := by simpa using h53
    simp only [hbeq, Bool.false_eq_true, if_false]
    by_cases hsub : m0 < 2 ^ 52
    · have hq1 : q = -1074 := by
        by_contra hne
        exact absurd (hm52 hne) (by omega)
      left
      refine ⟨m0, hsub, by rw [if_pos hsub], ?_⟩
      rw [if_pos (lt_two_pow_1024 hsub (by omega)), hq1]
    · by_cases hbig : q + 1075 ≥ 2047
      · right; right
        refine ⟨by rw [if_neg hsub, if_pos hbig]; norm_num,
          if_neg (not_lt.2 (two_pow_1024_le (not_lt.1 hsub) (by omega)))⟩
      · right; left
        refine ⟨m0, (q + 1075).toNat, not_lt.1 hsub, hlt, by omega, by omega,
          by rw [if_neg hsub, if_neg hbig], ?_⟩
        rw [if_pos (lt_two_pow_1024 hlt (by omega))]
        congr 3
        omega

theorem nearestBits_lt (num : ℕ) {den : ℕ} (hden : 0 < den) : nearestBits num den < 2 ^ 63 := by
  rcases nearestBits_cases num hden with
    ⟨m, hm, hb, -⟩ | ⟨m, ef, -, hm, -, he, hb, -⟩ | ⟨hb, -⟩ <;> rw [hb] <;> omega

/-! ## Doubles that represent a rounded magnitude -/

/-- A double represents, with a sign, a magnitude rounded to doubles: it is finite with that
sign and value, or the infinity of that sign where the magnitude rounds past the largest
double. -/
def Binary.Represents (neg : Bool) : Binary → Option ℚ → Prop
  | .finite s m e, some r => s = neg ∧ (m : ℚ) * 2 ^ e = r
  | .infinite s, none => s = neg
  | _, _ => False

theorem Binary.Represents.ne_nan {neg : Bool} {b : Binary} {r : Option ℚ}
    (h : b.Represents neg r) : b ≠ .nan := by
  rintro rfl
  cases r <;> exact h

/-- The bits `nearestBits num den`, under a sign bit, are the double nearest to `num / den`. -/
theorem ofBits_nearestBits (neg : Bool) (num : ℕ) {den : ℕ} (hden : 0 < den) :
    (Binary.ofBits ((if neg then 2 ^ 63 else 0) + nearestBits num den)).Represents neg
      (roundToDouble (num / den)) := by
  rcases nearestBits_cases num hden with
    ⟨m, hm, hb, hr⟩ | ⟨m, ef, hm1, hm2, he1, he2, hb, hr⟩ | ⟨hb, hr⟩
  · rw [hb, hr, show (if neg then 2 ^ 63 else 0) + m = (if neg then 2 ^ 63 else 0) + 0 * 2 ^ 52 + m
      by rw [zero_mul, add_zero], Binary.ofBits_fields neg (by norm_num) hm]
    simp [Binary.Represents]
  · rw [hb, hr, ← add_assoc, Binary.ofBits_fields neg (by omega) (by omega)]
    simp only [Binary.Represents, if_neg (by omega : ef ≠ 2047), if_neg (by omega : ef ≠ 0),
      Nat.sub_add_cancel hm1, true_and]
  · rw [hb, hr, ← add_zero ((if neg then 2 ^ 63 else 0) + 2047 * 2 ^ 52),
      Binary.ofBits_fields neg (by norm_num) (by norm_num)]
    simp [Binary.Represents]

/-- The double `nearest` builds is the double nearest to the quotient, with the sign asked for. -/
theorem ofFloat_nearest (neg : Bool) (num : ℕ) {den : ℕ} (hden : 0 < den) :
    (Binary.ofFloat (nearest neg num den)).Represents neg (roundToDouble (num / den)) := by
  have h := ofBits_nearestBits neg num hden
  have hlt := nearestBits_lt num hden
  have hbits : (if neg then nearestBits num den + 2 ^ 63 else nearestBits num den) =
      (if neg then 2 ^ 63 else 0) + nearestBits num den := by
    cases neg <;> simp [Nat.add_comm]
  unfold nearest
  dsimp only
  rw [hbits, Binary.ofFloat_ofBits (by split <;> omega) h.ne_nan]
  exact h

/-! ## Magnitudes outside the doubles -/

/-- A magnitude below half the least subnormal rounds to zero. -/
theorem roundToDouble_of_lt {x : ℚ} (h0 : 0 ≤ x) (h : x < 2 ^ (-1075 : ℤ)) :
    roundToDouble x = some 0 := by
  have hq : -1074 ≤ lastPlace x := le_max_right _ _
  have hp : (0 : ℚ) < 2 ^ lastPlace x := zpow_pos two_pos _
  have hsmall : x / 2 ^ lastPlace x < 1 / 2 := by
    rw [div_lt_iff₀ hp]
    calc x < 2 ^ (-1075 : ℤ) := h
      _ = 1 / 2 * 2 ^ (-1074 : ℤ) := by
        rw [show (-1075 : ℤ) = -1 + -1074 by norm_num, zpow_add₀ two_ne_zero]
        norm_num
      _ ≤ 1 / 2 * 2 ^ lastPlace x := by gcongr; exact one_le_two
  have hfloor : ⌊x / 2 ^ lastPlace x⌋ = 0 :=
    Int.floor_eq_zero_iff.2 ⟨div_nonneg h0 hp.le, by linarith⟩
  have hzero : roundEven (x / 2 ^ lastPlace x) = 0 := by
    simp only [roundEven, hfloor, Int.cast_zero, sub_zero, if_pos hsmall]
  simp [roundToDouble, hzero]

/-- A magnitude at `2^1024` or beyond rounds past the largest double. -/
theorem roundToDouble_of_ge {x : ℚ} (h : 2 ^ 1024 ≤ x) : roundToDouble x = none := by
  have hx : 0 < x := lt_of_lt_of_le (by positivity) h
  have hlog : 1024 ≤ Int.log 2 x :=
    (Int.zpow_le_iff_le_log (b := 2) one_lt_two hx).1 (by exact_mod_cast h)
  have heq : lastPlace x = Int.log 2 x - 52 := by unfold lastPlace; omega
  have hsig := (significand_bounds hx).2 (by omega)
  have hp : (0 : ℚ) < 2 ^ lastPlace x := zpow_pos two_pos _
  simp only [roundToDouble]
  rw [if_neg (not_lt.2 _)]
  calc (2 : ℚ) ^ 1024 = 2 ^ (1024 : ℤ) := (zpow_natCast _ _).symm
    _ ≤ 2 ^ Int.log 2 x := zpow_le_zpow_right₀ one_le_two hlog
    _ = ((2 ^ 52 : ℤ) : ℚ) * 2 ^ lastPlace x := by
      rw [heq, zpow_sub₀ two_ne_zero]; field_simp; norm_num
    _ ≤ roundEven (x / 2 ^ lastPlace x) * 2 ^ lastPlace x := by gcongr

theorem roundToDouble_zero : roundToDouble 0 = some 0 :=
  roundToDouble_of_lt le_rfl (zpow_pos two_pos _)

theorem ofFloat_infinity (neg : Bool) : Binary.ofFloat (infinity neg) = .infinite neg := by
  have hbits : (if neg then 0xFFF0000000000000 else 0x7FF0000000000000) =
      (if neg then 2 ^ 63 else 0) + 2047 * 2 ^ 52 + 0 := by
    cases neg <;> norm_num
  have hinf : Binary.ofBits ((if neg then 2 ^ 63 else 0) + 2047 * 2 ^ 52 + 0) = _ :=
    Binary.ofBits_fields neg (by norm_num) (by norm_num)
  simp only [if_true] at hinf
  unfold infinity
  rw [hbits, Binary.ofFloat_ofBits (by split <;> norm_num) (by rw [hinf]; simp), hinf]

/-! ## Decimals -/

theorem lt_pow_decimalLength (d : ℕ) : d < 10 ^ decimalLength d :=
  (Nat.length_toDigits_le_iff (by norm_num) Nat.length_toDigits_pos).1 le_rfl

theorem pow_decimalLength_le {d : ℕ} (hd : 0 < d) : 10 ^ (decimalLength d - 1) ≤ d := by
  unfold decimalLength
  rcases Nat.lt_or_ge (Nat.toDigits 10 d).length 2 with h | h
  · rw [show (Nat.toDigits 10 d).length - 1 = 0 by omega, pow_zero]
    exact hd
  · by_contra hlt
    have := (Nat.length_toDigits_le_iff (by norm_num) (by omega)).2 (not_le.1 hlt)
    omega

/-- The double `ofDecimal` builds is the double nearest to `digits · 10^exp`, with the sign
asked for. -/
theorem ofFloat_ofDecimal (neg : Bool) (digits : ℕ) (exp : ℤ) :
    (Binary.ofFloat (ofDecimal neg digits exp)).Represents neg
      (roundToDouble (digits * 10 ^ exp)) := by
  have hlen : 0 < decimalLength digits := Nat.length_toDigits_pos
  have h10 : (0 : ℚ) < 10 ^ exp := zpow_pos (by norm_num) _
  unfold ofDecimal
  split_ifs with h0 hbig hsmall
  · simp only [beq_iff_eq] at h0
    subst h0
    simpa using ofFloat_nearest neg 0 one_pos
  · have hd : 0 < digits := Nat.pos_of_ne_zero (by simpa using h0)
    rw [ofFloat_infinity, roundToDouble_of_ge]
    · rfl
    calc (2 : ℚ) ^ 1024 ≤ 10 ^ (400 : ℤ) := by
          rw [zpow_ofNat]; exact_mod_cast (by decide +kernel : 2 ^ 1024 ≤ 10 ^ 400)
      _ ≤ 10 ^ (((decimalLength digits - 1 : ℕ) : ℤ) + exp) :=
        zpow_le_zpow_right₀ (by norm_num) (by omega)
      _ = (10 ^ (decimalLength digits - 1) : ℕ) * 10 ^ exp := by
        rw [zpow_add₀ (by norm_num), zpow_natCast]; push_cast; rfl
      _ ≤ digits * 10 ^ exp := by gcongr; exact_mod_cast pow_decimalLength_le hd
  · rw [roundToDouble_of_lt (by positivity)]
    · simpa [roundToDouble_zero] using ofFloat_nearest neg 0 one_pos
    calc (digits : ℚ) * 10 ^ exp < (10 ^ decimalLength digits : ℕ) * 10 ^ exp := by
          gcongr; exact_mod_cast lt_pow_decimalLength digits
      _ = 10 ^ ((decimalLength digits : ℤ) + exp) := by
        rw [zpow_add₀ (by norm_num), zpow_natCast]; push_cast; rfl
      _ ≤ 10 ^ (-401 : ℤ) := zpow_le_zpow_right₀ (by norm_num) (by omega)
      _ < 2 ^ (-1075 : ℤ) := by
        rw [zpow_neg, zpow_neg, zpow_ofNat, zpow_ofNat,
          inv_lt_inv₀ (by positivity) (by positivity)]
        exact_mod_cast (by decide +kernel : 2 ^ 1075 < 10 ^ 401)
  · have h := @ofFloat_nearest neg (digits * pow10 exp) (pow10 (-exp))
      (by unfold pow10; positivity)
    rwa [pow10_scaled] at h

/-! ## Cutting toward zero -/

theorem floor_mul_zpow (m : ℕ) (e : ℤ) :
    ⌊(m : ℚ) * 2 ^ e⌋ = ((if e ≥ 0 then m * pow2 e else m / pow2 (-e) : ℕ) : ℤ) := by
  split_ifs with he
  · have h : (m : ℚ) * 2 ^ e = ((m * pow2 e : ℕ) : ℚ) := by
      rw [pow2, Nat.cast_mul, Nat.cast_pow, Nat.cast_ofNat, ← zpow_natCast,
        Int.toNat_of_nonneg he]
    rw [h, Int.floor_natCast]
  · have h : (m : ℚ) * 2 ^ e = (m : ℚ) / (pow2 (-e) : ℕ) := by
      rw [pow2, Nat.cast_pow, Nat.cast_ofNat, ← zpow_natCast, Int.toNat_of_nonneg (by omega),
        zpow_neg, div_eq_mul_inv, inv_inv]
    rw [h, Rat.floor_natCast_div_natCast, Int.natCast_div]

/-- A finite double cut toward zero gives the whole part of its magnitude, with its sign. -/
theorem Binary.Represents.truncate {neg : Bool} {b : Binary} {r : ℚ}
    (h : b.Represents neg (some r)) : b.truncate = some (if neg then -⌊r⌋ else ⌊r⌋) := by
  cases b with
  | finite s m e =>
    obtain ⟨rfl, rfl⟩ := h
    simp only [Binary.truncate, floor_mul_zpow]
  | infinite s => exact h.elim
  | nan => exact h.elim

end SeriesImport.Number
