import Mathlib
import SeriesImport.Number.Layout
import SeriesImport.Proofs.Number.Nearest
/-!
# Whole doubles are written as whole numbers

A double that holds a whole number has shortest digits that reach at least to its units. The
search for them tries grids of one, two, three significant digits and so on, that is grids of
steps `10^k` with `k` going down from the double's leading place; the grid of units (`k = 0`)
comes before any grid of fractions, and a whole number lies on it, so the search stops there at
the latest. Written in the plain layout, such a double is its sign and a run of decimal digits:
the shortest digits, then zeros up to the units.

That run is the whole number the shortest digits write (`Binary.shortestWhole`). It is the
double's own value only when the shortest digits are all of its digits: `1e23` is written
`100000000000000000000000`, while the double holds `99999999999999991611392`.
-/

namespace SeriesImport.Number

/-- A double that holds a whole number: finite, with no binary places below the units. -/
def Binary.Whole : Binary → Prop
  | .finite _ m e => 2 ^ (-e).toNat ∣ m
  | _ => False

/-- The whole number that the shortest digits of a finite double write, with zeros up to its
units, and its sign. -/
def Binary.shortestWhole : Binary → Int
  | .finite neg m e =>
    let n : Nat := if m = 0 then 0 else (shortest m e).digits * 10 ^ (shortest m e).exp.toNat
    if neg then -n else n
  | _ => 0

/-! ## Digits -/

theorem toDigits_mul_pow_ten {d : Nat} (hd : 0 < d) (z : Nat) :
    Nat.toDigits 10 (d * 10 ^ z) = Nat.toDigits 10 d ++ List.replicate z '0' := by
  induction z with
  | zero => simp
  | succ z ih =>
    have hpos : 0 < d * 10 ^ z := Nat.mul_pos hd (Nat.pow_pos (by decide))
    rw [List.replicate_succ', ← List.append_assoc, ← ih, show ['0'] = Nat.toDigits 10 0 from rfl,
      Nat.toDigits_append_toDigits (by decide) hpos (by decide)]
    congr 1
    ring

theorem decimalLength_le_of_lt {n k : Nat} (hk : 0 < k) (h : n < 10 ^ k) : decimalLength n ≤ k :=
  (Nat.length_toDigits_le_iff (by decide) hk).2 h

theorem decimalLength_mono {a b : Nat} (h : a ≤ b) : decimalLength a ≤ decimalLength b :=
  decimalLength_le_of_lt Nat.length_toDigits_pos (lt_of_le_of_lt h (lt_pow_decimalLength b))

/-! ## Normalising the digits -/

/-- Removing trailing zeros raises the exponent by as many places as zeros are removed, and the
digits followed by those zeros are the digits before. -/
theorem normalize_go_spec (c : Nat) (x : Int) (n : Nat) :
    ∃ z : Nat, (Decimal.normalize.go c x n).exp = x + z ∧
      Nat.toDigits 10 (Decimal.normalize.go c x n).digits ++ List.replicate z '0' =
        Nat.toDigits 10 c := by
  induction n generalizing c x with
  | zero => exact ⟨0, by simp [Decimal.normalize.go], by simp [Decimal.normalize.go]⟩
  | succ n ih =>
    unfold Decimal.normalize.go
    split_ifs with hz
    · obtain ⟨z, hexp, hdigits⟩ := ih (c / 10) (x + 1)
      have hc : c = c / 10 * 10 ^ 1 := by omega
      have hpos : 0 < c / 10 := by omega
      refine ⟨z + 1, by rw [hexp]; push_cast; ring, ?_⟩
      rw [List.replicate_succ', ← List.append_assoc, hdigits, hc,
        toDigits_mul_pow_ten hpos 1, ← hc]
      rfl
    · exact ⟨0, by simp, by simp⟩

/-! ## The search for the shortest digits -/

theorem gridHit_le {value low high unit c : Nat} {closed : Bool}
    (h : gridHit value low high unit closed = some c) : c ≤ value / unit + 1 := by
  unfold gridHit at h
  dsimp only at h
  repeat' split at h
  all_goals simp only [Option.some.injEq, reduceCtorEq] at h <;> omega

theorem gridHit_of_dvd {value low high unit : Nat} {closed : Bool} (h : value % unit = 0) :
    gridHit value low high unit closed = some (value / unit) := by
  simp [gridHit, h]

theorem ratioLog10_le (num den : Nat) : ratioLog10 num den ≤ decimalLength num := by
  unfold ratioLog10
  dsimp only
  split_ifs <;> omega

/-- The leading place of a quotient of at least one is not negative. -/
theorem ratioLog10_nonneg {num den : Nat} (h : den ≤ num) : 0 ≤ ratioLog10 num den := by
  have hlen := decimalLength_mono h
  unfold ratioLog10
  dsimp only
  split_ifs with hlt
  · by_contra hneg
    have hzero : (decimalLength num : Int) - decimalLength den = 0 := by omega
    rw [hzero] at hlt
    simp [pow10] at hlt
    omega
  · omega

/-- Digits that reach to the units: a decimal exponent of at least zero, and at most 620 digits
with the zeros up to the units. -/
structure Decimal.Units (d : Decimal) : Prop where
  exp : 0 ≤ d.exp
  length : (decimalLength d.digits : Int) + d.exp ≤ 620

/-- `2^1024`, past every finite double, has 309 decimal digits. -/
theorem two_pow_1024_lt : (2 : Nat) ^ 1024 < 10 ^ 309 :=
  calc (2 : Nat) ^ 1024 = (2 ^ 64) ^ 16 := by rw [← pow_mul]
    _ < (2 * 10 ^ 19) ^ 16 := Nat.pow_lt_pow_left (by decide) (by decide)
    _ = 2 ^ 16 * 10 ^ 304 := by rw [mul_pow, ← pow_mul]
    _ < 10 ^ 5 * 10 ^ 304 := Nat.mul_lt_mul_of_pos_right (by decide) (by positivity)
    _ = 10 ^ 309 := by rw [← pow_add]

/-- A grid point of at most `2^1024` at a step `10^k` with `0 ≤ k ≤ 309` normalises to digits
that reach to the units. -/
theorem normalize_units {c : Nat} {k : Int} (hc : c ≤ 2 ^ 1024) (hk0 : 0 ≤ k) (hk : k ≤ 309) :
    (Decimal.normalize ⟨c, k⟩).Units := by
  obtain ⟨z, hexp, hdigits⟩ := normalize_go_spec c k c
  have hlen : decimalLength (Decimal.normalize ⟨c, k⟩).digits + z = decimalLength c := by
    have := congrArg List.length hdigits
    simpa [decimalLength, Decimal.normalize] using this
  have hc309 : decimalLength c ≤ 309 :=
    decimalLength_le_of_lt (by decide) (lt_of_le_of_lt hc two_pow_1024_lt)
  refine ⟨?_, ?_⟩ <;> simp only [Decimal.normalize] at hexp hlen ⊢ <;> omega

/-! ## The search on a whole double -/

section Search

variable {m : Nat} {e : Int}

theorem mul_two_pow_lt {m a j b : Nat} (hm : m < 2 ^ a) (hj : j ≤ b) : m * 2 ^ j < 2 ^ (a + b) := by
  rw [pow_add]
  exact Nat.mul_lt_mul_of_lt_of_le hm (Nat.pow_le_pow_right (by decide) hj) (by positivity)

theorem num_lt (hm53 : m < 2 ^ 53) (he : e ≤ 971) : m * pow2 e < 2 ^ 1024 := by
  rw [show (1024 : Nat) = 53 + 971 from rfl]
  exact mul_two_pow_lt hm53 (by omega)

theorem den_le_num (hw : 2 ^ (-e).toNat ∣ m) (hm : 0 < m) : pow2 (-e) ≤ m * pow2 e := by
  by_cases he : 0 ≤ e
  · have h1 : pow2 (-e) = 1 := by simp [pow2, show (-e).toNat = 0 by omega]
    rw [h1]
    exact Nat.one_le_iff_ne_zero.2 (Nat.mul_ne_zero (by omega) (by simp [pow2]))
  · have h1 : pow2 e = 1 := by simp [pow2, show e.toNat = 0 by omega]
    rw [h1, Nat.mul_one]
    exact Nat.le_of_dvd hm hw

/-- The grid values of a round with a step of at least one: the double scaled by four, over
the denominator `2^b`, stays below `2^1024`. -/
theorem scaled_lt (hm53 : m < 2 ^ 53) (he : e ≤ 971) :
    4 * m * pow2 (e - 2 + max 0 (2 - e)) < 2 ^ 1024 := by
  have h4 : 4 * m < 2 ^ 55 := by
    calc 4 * m < 4 * 2 ^ 53 := by omega
      _ = 2 ^ 55 := by norm_num
  rw [show (1024 : Nat) = 55 + 969 from rfl]
  exact mul_two_pow_lt h4 (by omega)

/-- On the grid of units a whole double is a grid point. -/
theorem scaled_dvd (hw : 2 ^ (-e).toNat ∣ m) :
    4 * m * pow2 (e - 2 + max 0 (2 - e)) % pow2 (max 0 (2 - e)) = 0 := by
  by_cases he2 : 2 ≤ e
  · simp [pow2, show (max 0 (2 - e)).toNat = 0 by omega, Nat.mod_one]
  · have h1 : pow2 (e - 2 + max 0 (2 - e)) = 1 := by
      simp [pow2, show (e - 2 + max 0 (2 - e)).toNat = 0 by omega]
    rw [h1, Nat.mul_one]
    apply Nat.mod_eq_zero_of_dvd
    by_cases he1 : e = 1
    · subst he1
      exact Dvd.intro (2 * m) (by simp [pow2]; ring)
    · have hb : pow2 (max 0 (2 - e)) = 4 * 2 ^ (-e).toNat := by
        simp only [pow2, show (max 0 (2 - e)).toNat = 2 + (-e).toNat by omega, pow_add]
        norm_num
      rw [hb]
      exact Nat.mul_dvd_mul_left 4 hw

/-- Each round of the search on a whole double, from a step of at least one, ends on digits that
reach to the units: the round on the grid of units always keeps a point. -/
theorem shortestFrom_units (hw : 2 ^ (-e).toNat ∣ m) (hm53 : m < 2 ^ 53) (he : e ≤ 971)
    (fuel : Nat) :
    ∀ n : Nat, 1 ≤ n → (n : Int) ≤ ratioLog10 (m * pow2 e) (pow2 (-e)) + 1 →
      (shortestFrom m e n fuel).Units := by
  induction fuel with
  | zero =>
    intro n _ _
    have hlen : decimalLength m ≤ 16 :=
      decimalLength_le_of_lt (by decide) (lt_of_lt_of_le hm53 (by decide))
    show Decimal.Units ⟨m, 0⟩
    exact ⟨le_refl _, by simp only; omega⟩
  | succ fuel ih =>
    intro n hn hk
    have hk0 : 0 ≤ ratioLog10 (m * pow2 e) (pow2 (-e)) + 1 - n := by omega
    have htop := ratioLog10_le (m * pow2 e) (pow2 (-e))
    have hnum : decimalLength (m * pow2 e) ≤ 309 :=
      decimalLength_le_of_lt (by decide) (lt_trans (num_lt hm53 he) two_pow_1024_lt)
    unfold shortestFrom
    dsimp only
    rw [show max 0 (-(ratioLog10 (m * pow2 e) (pow2 (-e)) + 1 - n)) = 0 by omega]
    split
    · next c hc =>
      have hcle := gridHit_le hc
      have hdiv := Nat.div_le_self (4 * m * (pow2 (e - 2 + max 0 (2 - e)) * pow10 0))
        (pow10 (ratioLog10 (m * pow2 e) (pow2 (-e)) + 1 - n + 0) * pow2 (max 0 (2 - e)))
      have hval := scaled_lt hm53 he
      simp only [pow10, Int.toNat_zero, pow_zero, Nat.mul_one] at hdiv hcle
      exact normalize_units (by omega) hk0 (by omega)
    · next hnone =>
      refine ih (n + 1) (by omega) ?_
      by_contra hlast
      have hunits : ratioLog10 (m * pow2 e) (pow2 (-e)) + 1 - n = 0 := by omega
      rw [hunits, gridHit_of_dvd (by simpa [pow10] using scaled_dvd hw)] at hnone
      cases hnone

theorem shortest_units (hw : 2 ^ (-e).toNat ∣ m) (hm : 0 < m) (hm53 : m < 2 ^ 53) (he : e ≤ 971) :
    (shortest m e).Units := by
  have htop := ratioLog10_nonneg (den_le_num hw hm)
  exact shortestFrom_units hw hm53 he 17 1 le_rfl (by omega)

end Search

/-- A finite double has a significand below `2^53` and an exponent of at most 971. -/
theorem Binary.ofBits_finite {b : Nat} {neg : Bool} {m : Nat} {e : Int}
    (h : Binary.ofBits b = .finite neg m e) : m < 2 ^ 53 ∧ e ≤ 971 := by
  have hfr : b % 2 ^ 52 < 2 ^ 52 := Nat.mod_lt _ (by positivity)
  have hef : b / 2 ^ 52 % 2048 < 2048 := Nat.mod_lt _ (by decide)
  unfold Binary.ofBits at h
  dsimp only at h
  split_ifs at h with hinf hsub
  · cases h
    omega
  · cases h
    simp only [beq_iff_eq] at hinf
    omega

/-! ## The plain layout -/

/-- Digits that reach to the units are written in the plain layout as the digits and then zeros
up to the units. -/
theorem writeDecimal_plain_units {d : Decimal} (hd : d.Units) :
    (Layout.plain.writeDecimal d).toList =
      Nat.toDigits 10 d.digits ++ List.replicate d.exp.toNat '0' := by
  have hlen : 0 < (Nat.toDigits 10 d.digits).length := Nat.length_toDigits_pos
  have hexp := hd.exp
  unfold Layout.writeDecimal
  simp only [Layout.plain, digitChars, if_true, Bool.false_eq_true, if_false, String.append_empty]
  rw [if_neg (by omega), if_neg (by omega), String.toList_ofList]
  congr 2
  omega

/-- The plain layout writes a decimal with digits and perhaps a point, never as nothing. -/
theorem writeDecimal_plain_chars (d : Decimal) :
    (Layout.plain.writeDecimal d).toList ≠ [] ∧
      ∀ c ∈ (Layout.plain.writeDecimal d).toList, c.isDigit ∨ c = '.' := by
  have hdig : ∀ c ∈ digitChars d.digits, c.isDigit :=
    fun c hc => Nat.isDigit_of_mem_toDigits (by decide) (by decide) hc
  have hne : digitChars d.digits ≠ [] := Nat.toDigits_ne_nil
  unfold Layout.writeDecimal
  simp only [Layout.plain, if_true, Bool.false_eq_true, if_false, String.append_empty]
  split_ifs
  · refine ⟨by simp, fun c hc => ?_⟩
    simp only [String.toList_ofList, List.mem_cons, List.mem_append, List.mem_replicate] at hc
    rcases hc with rfl | rfl | ⟨-, rfl⟩ | hc
    · exact .inl (by decide)
    · exact .inr rfl
    · exact .inl (by decide)
    · exact .inl (hdig c hc)
  · refine ⟨by simp, fun c hc => ?_⟩
    simp only [String.toList_ofList, List.mem_append, List.mem_cons] at hc
    rcases hc with hc | rfl | hc
    · exact .inl (hdig c (List.mem_of_mem_take hc))
    · exact .inr rfl
    · exact .inl (hdig c (List.mem_of_mem_drop hc))
  · refine ⟨by simp [hne], fun c hc => ?_⟩
    simp only [String.toList_ofList, List.mem_append, List.mem_replicate] at hc
    rcases hc with hc | ⟨-, rfl⟩
    · exact .inl (hdig c hc)
    · exact .inl (by decide)

/-- The plain layout writes a double with digits, a minus sign, a point and the letters of `nan`
and `inf`, never as nothing. -/
theorem plain_write_chars (x : Float) :
    (Layout.plain.write x).toList ≠ [] ∧
      ∀ c ∈ (Layout.plain.write x).toList, c.isDigit ∨ c ∈ ['-', '.', 'n', 'a', 'i', 'f'] := by
  unfold Layout.write
  split
  · simp
  · split <;> simp
  · next neg m e _ =>
    have hsign : ∀ c ∈ (if neg then "-" else "").toList, c = '-' := by
      cases neg <;> simp
    have hzero : ∀ c ∈ (if Layout.plain.pointZero then "0.0" else "0").toList, c = '0' := by
      simp [Layout.plain]
    obtain ⟨hne, hchars⟩ := writeDecimal_plain_chars (shortest m e)
    dsimp only
    split
    · refine ⟨by simp [Layout.plain], fun c hc => ?_⟩
      rcases List.mem_append.1 (String.toList_append ▸ hc) with hc | hc
      · simp [hsign c hc]
      · exact .inl (hzero c hc ▸ by decide)
    · refine ⟨by simp [hne], fun c hc => ?_⟩
      rcases List.mem_append.1 (String.toList_append ▸ hc) with hc | hc
      · simp [hsign c hc]
      · rcases hchars c hc with h | h
        · exact .inl h
        · simp [h]

/-- A whole double is written in the plain layout as its sign and a run of at most 620 digits:
the shortest digits, then zeros up to the units. The run writes the whole number
`Binary.shortestWhole`. -/
theorem plain_write_whole {x : Float} (hx : (Binary.ofFloat x).Whole) :
    ∃ (neg : Bool) (d z : Nat), (Layout.plain.write x).toList =
        (if neg then ['-'] else []) ++ Nat.toDigits 10 d ++ List.replicate z '0' ∧
      decimalLength d + z ≤ 620 ∧
      (Binary.ofFloat x).shortestWhole =
        if neg then -((d * 10 ^ z : Nat) : Int) else ((d * 10 ^ z : Nat) : Int) := by
  unfold Layout.write
  cases hb : Binary.ofFloat x with
  | nan => simp [hb, Binary.Whole] at hx
  | infinite => simp [hb, Binary.Whole] at hx
  | finite neg m e =>
    rw [hb] at hx
    have hsign : (if neg then "-" else "").toList = if neg then ['-'] else [] := by
      cases neg <;> rfl
    by_cases hm : m = 0
    · subst hm
      refine ⟨neg, 0, 0, ?_, by decide, ?_⟩
      · simp [Layout.plain, hsign]
      · simp [Binary.shortestWhole]
    · obtain ⟨hm53, he⟩ := Binary.ofBits_finite hb
      have hunits := shortest_units hx (Nat.pos_of_ne_zero hm) hm53 he
      refine ⟨neg, (shortest m e).digits, (shortest m e).exp.toNat, ?_, by
        have := hunits.length; have := hunits.exp; omega, ?_⟩
      · simp [hm, String.toList_append, hsign, writeDecimal_plain_units hunits]
      · simp [Binary.shortestWhole, hm]

end SeriesImport.Number
