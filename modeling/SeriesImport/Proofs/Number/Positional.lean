import Mathlib
import SeriesImport.Field
import SeriesImport.Proofs.Number.ShortestDigits
/-!
# Doubles written as positional numerals

The plain layout writes a finite double as a positional numeral: a minus sign when it is
negative, the whole digits, and a point followed by the fraction digits only where there is a
fraction, never an exponent. `PlainNumeral` is that grammar together with the magnitude the text
stands for: the digits read as one whole number over ten to the number of fraction digits.

A nonzero double is written from its shortest digits (`plainNumeral_writeDecimal`). They have no
trailing zero, so the fraction ends in a nonzero digit, and the whole part is a lone `0` or has
no leading zero.
-/

namespace SeriesImport.Number

/-! ## The grammar of a plain numeral -/

/-- The digits of a numeral on either side of the point: a lone `0` or digits that do not start
with `0` before it, and digits that do not end in `0` after it. -/
structure NumeralParts (whole frac : List Char) : Prop where
  whole_ne_nil : whole ≠ []
  lead : whole.head? = some '0' → whole = ['0']
  digits : ∀ c ∈ whole ++ frac, c.isDigit
  last : frac.getLast? ≠ some '0'

/-- `PlainNumeral neg v s`: the text `s` is a positional numeral with the sign `neg` that
stands for the magnitude `v`. -/
inductive PlainNumeral : Bool → ℚ → List Char → Prop
  /-- A minus sign when negative, the whole digits, and a point before the fraction digits where
  there are any. The magnitude is all the digits read as one number over ten to the number of
  fraction digits. -/
  | parts (neg : Bool) {whole frac : List Char} (h : NumeralParts whole frac) :
      PlainNumeral neg (Nat.ofDigitChars 10 (whole ++ frac) 0 / 10 ^ frac.length)
        ((if neg then ['-'] else []) ++ whole ++ (if frac = [] then [] else '.' :: frac))

/-! ## The digits of a positive number -/

theorem ofDigitChars_replicate_zero (k init : ℕ) :
    Nat.ofDigitChars 10 (List.replicate k '0') init = init * 10 ^ k := by
  induction k generalizing init with
  | zero => simp [Nat.ofDigitChars]
  | succ k ih =>
    rw [List.replicate_succ, Nat.ofDigitChars_cons, ih]
    simp only [Nat.sub_self, Nat.add_zero, pow_succ]
    ring

/-- The digits of a positive number do not start with `0`. -/
theorem toDigits_head_ne_zero {n : ℕ} (hn : 0 < n) : (Nat.toDigits 10 n).head? ≠ some '0' := by
  induction n using Nat.strong_induction_on with
  | _ n ih =>
    by_cases hsmall : n < 10
    · rw [Nat.toDigits_of_lt_base hsmall]
      interval_cases n <;> decide
    · have hq : 0 < n / 10 := by omega
      have hsplit := Nat.toDigits_append_toDigits (b := 10) (by norm_num) hq (Nat.mod_lt n (by norm_num))
      rw [Nat.div_add_mod] at hsplit
      rw [← hsplit, List.head?_append_of_ne_nil _ Nat.toDigits_ne_nil]
      exact ih (n / 10) (by omega) hq

theorem toDigits_getLast_ne_zero {n : ℕ} (hn : n % 10 ≠ 0) :
    (Nat.toDigits 10 n).getLast? ≠ some '0' := by
  intro hlast
  obtain ⟨init, hinit⟩ := List.getLast?_eq_some_iff.1 hlast
  have hval := Nat.ofDigitChars_ten_toDigits (n := n)
  rw [hinit, Nat.ofDigitChars_append, Nat.ofDigitChars_cons, Nat.ofDigitChars_nil,
    Nat.sub_self, Nat.add_zero] at hval
  omega

theorem Decimal.value_eq_div {d : Decimal} {k : ℕ} (hk : (k : ℤ) = -d.exp) :
    d.value = d.digits / 10 ^ k := by
  rw [Decimal.value, div_eq_mul_inv, ← zpow_natCast, ← zpow_neg, hk, neg_neg]

theorem Decimal.value_nonneg (d : Decimal) : 0 ≤ d.value := by
  unfold Decimal.value
  positivity

/-! ## The plain layout -/

section Layout

variable {d : Decimal}

/-- Positive digits with no trailing zero are written in the plain layout as the parts of a
numeral for their value. -/
theorem writeDecimal_plain_parts (hpos : 0 < d.digits) (hz : d.digits % 10 ≠ 0) :
    ∃ whole frac : List Char, NumeralParts whole frac ∧
      d.value = Nat.ofDigitChars 10 (whole ++ frac) 0 / 10 ^ frac.length ∧
      (Layout.plain.writeDecimal d).toList = whole ++ (if frac = [] then [] else '.' :: frac) := by
  set ds := Nat.toDigits 10 d.digits with hds
  have hne : ds ≠ [] := Nat.toDigits_ne_nil
  have hdig : ∀ c ∈ ds, c.isDigit :=
    fun c hc => Nat.isDigit_of_mem_toDigits (by decide) (by decide) hc
  have hhead : ds.head? ≠ some '0' := toDigits_head_ne_zero hpos
  have hlast : ds.getLast? ≠ some '0' := toDigits_getLast_ne_zero hz
  have hval : Nat.ofDigitChars 10 ds 0 = d.digits := Nat.ofDigitChars_ten_toDigits
  unfold Layout.writeDecimal
  simp only [Layout.plain, digitChars, ← hds, if_true, Bool.false_eq_true, if_false,
    String.append_empty]
  split_ifs with hlow hmid
  · set z := (-(d.exp + ds.length)).toNat
    have hfrac : List.replicate z '0' ++ ds ≠ [] := List.append_ne_nil_of_right_ne_nil _ hne
    refine ⟨['0'], List.replicate z '0' ++ ds, ⟨by simp, fun _ => rfl, ?_, ?_⟩, ?_, ?_⟩
    · intro c hc
      simp only [List.cons_append, List.nil_append, List.mem_cons, List.mem_append,
        List.mem_replicate] at hc
      rcases hc with rfl | ⟨-, rfl⟩ | hc
      · decide
      · decide
      · exact hdig c hc
    · rwa [List.getLast?_append_of_ne_nil _ hne]
    · have hlen : ((List.replicate z '0' ++ ds).length : ℤ) = -d.exp := by
        simp only [List.length_append, List.length_replicate, Nat.cast_add, z]
        omega
      have hzeros : ['0'] ++ (List.replicate z '0' ++ ds) = List.replicate (z + 1) '0' ++ ds := by
        simp [List.replicate_succ]
      rw [Decimal.value_eq_div hlen, hzeros, Nat.ofDigitChars_append, ofDigitChars_replicate_zero,
        Nat.zero_mul, hval]
    · rw [String.toList_ofList, if_neg hfrac]
      rfl
  · set p := (d.exp + ds.length).toNat
    have hp0 : p ≠ 0 := by omega
    have hpn : p < ds.length := by omega
    have hdrop : ds.drop p ≠ [] := by simpa [List.drop_eq_nil_iff] using hpn
    refine ⟨ds.take p, ds.drop p, ⟨?_, ?_, ?_, ?_⟩, ?_, ?_⟩
    · simpa [List.take_eq_nil_iff, hp0] using hne
    · intro h
      rw [List.head?_take, if_neg hp0] at h
      exact absurd h hhead
    · rwa [List.take_append_drop]
    · rwa [List.getLast?_drop, if_neg (by omega)]
    · have hlen : ((ds.drop p).length : ℤ) = -d.exp := by
        simp only [List.length_drop]
        omega
      rw [Decimal.value_eq_div hlen, List.take_append_drop, hval]
    · rw [String.toList_ofList, if_neg hdrop]
  · have hexp : 0 ≤ d.exp := by omega
    refine ⟨ds ++ List.replicate d.exp.toNat '0', [], ⟨?_, ?_, ?_, by simp⟩, ?_, ?_⟩
    · exact List.append_ne_nil_of_left_ne_nil hne _
    · intro h
      rw [List.head?_append_of_ne_nil _ hne] at h
      exact absurd h hhead
    · intro c hc
      simp only [List.append_nil, List.mem_append, List.mem_replicate] at hc
      rcases hc with hc | ⟨-, rfl⟩
      · exact hdig c hc
      · decide
    · have hpow : (10 : ℚ) ^ d.exp = 10 ^ d.exp.toNat := by
        rw [← zpow_natCast, Int.toNat_of_nonneg hexp]
      rw [List.append_nil, Nat.ofDigitChars_append, ofDigitChars_replicate_zero, hval,
        Decimal.value, hpow]
      simp
    · rw [String.toList_ofList, if_pos rfl, List.append_nil]
      congr 2
      omega

/-- The plain layout writes positive digits with no trailing zero, after a sign, as the numeral
of their value. -/
theorem plainNumeral_writeDecimal (neg : Bool) (hpos : 0 < d.digits) (hz : d.digits % 10 ≠ 0) :
    PlainNumeral neg d.value ((if neg then ['-'] else []) ++ (Layout.plain.writeDecimal d).toList) := by
  obtain ⟨whole, frac, hparts, hv, hs⟩ := writeDecimal_plain_parts hpos hz
  rw [hv, hs, ← List.append_assoc]
  exact .parts neg hparts

end Layout

/-! ## Writing a double -/

theorem sign_toList (neg : Bool) :
    (if neg then "-" else "").toList = if neg then ['-'] else [] := by
  cases neg <;> rfl

/-- A finite double is written in the plain layout as a numeral: zero as `0` with its sign, and
any other double as the numeral of its shortest digits. Those digits round to the double, no
decimal with fewer digits rounds to it, and none with as many is nearer to it. -/
theorem plainFloat_shortest_numeral (x : Float) :
    match Binary.ofFloat x with
    | .nan => plainFloat x = "nan"
    | .infinite neg => plainFloat x = if neg then "-inf" else "inf"
    | .finite neg m e =>
      if m = 0 then plainFloat x = if neg then "-0" else "0"
      else ∃ d : Decimal, 0 < d.digits ∧ d.digits % 10 ≠ 0 ∧
        PlainNumeral neg d.value (plainFloat x).toList ∧
        roundToDouble d.value = some ((m : ℚ) * 2 ^ e) ∧
        ∀ d' : Decimal, roundToDouble d'.value = some ((m : ℚ) * 2 ^ e) →
          decimalLength d.digits ≤ decimalLength d'.digits ∧
            (decimalLength d.digits = decimalLength d'.digits →
              |d.value - m * 2 ^ e| ≤ |d'.value - m * 2 ^ e|) := by
  cases hb : Binary.ofFloat x with
  | nan => simp only [plainFloat, Layout.write, hb]
  | infinite neg => simp only [plainFloat, Layout.write, hb]
  | finite neg m e =>
    simp only [plainFloat, Layout.write, hb]
    by_cases hm : m = 0
    · subst hm
      simp only [beq_self_eq_true, if_true]
      cases neg <;> decide
    · have hd : PositiveDouble m e := Binary.ofBits_positive hb (Nat.pos_of_ne_zero hm)
      obtain ⟨hpos, hz, hround, hbest⟩ := shortest_spec hd
      have hiff := fun d : Decimal => roundToDouble_eq_iff hd (Decimal.value_nonneg d)
      rw [if_neg hm, if_neg (by simpa using hm)]
      refine ⟨shortest m e, hpos, hz, ?_, (hiff _).2 hround, fun d' h' => hbest d' ((hiff d').1 h')⟩
      rw [String.toList_append, sign_toList]
      exact plainNumeral_writeDecimal neg hpos hz

end SeriesImport.Number
