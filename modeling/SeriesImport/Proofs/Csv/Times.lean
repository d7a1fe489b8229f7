import Mathlib
import SeriesImport.Proofs.Number.Nearest
import SeriesImport.Proofs.Number.Numerals
import SeriesImport.Proofs.Time.Instant
import SeriesImport.Csv.Step
/-!
# Times written as decimal numerals with a point

A time cell that holds a decimal numeral with a point, such as `1700000000.5`, is no integer, so
it is read as a double: the double nearest to the numeral, ties to even, or infinity when the
numeral is too large for any double. A finite double is cut toward zero and multiplied by the
precision's multiplier. An infinite one is no number, and as the numeral names no instant either,
the time falls back to the current one.

The truncation therefore acts on the nearest double and not on the written value: a numeral just
below an integer may round up to it, and beyond `2 ^ 53` the last integer digits are those of the
double.
-/

namespace SeriesImport.Number

open SeriesImport.Text

/-! ## Numerals with a point -/

def digitChar (d : Fin 10) : Char := Char.ofNat (48 + d)

/-- The value of decimal digits, the most significant first. -/
def decimalValue (ds : List (Fin 10)) : ℕ := ds.foldl (fun v (d : Fin 10) => v * 10 + d) 0

/-- The sign written before a numeral: none, `-` for `some true`, `+` for `some false`. -/
def signChars : Option Bool → List Char
  | none => []
  | some true => ['-']
  | some false => ['+']

/-- A decimal numeral with a point: an optional sign, digits, a point and digits, with at least
one digit. -/
structure PointNumeral where
  sign : Option Bool
  whole : List (Fin 10)
  frac : List (Fin 10)
  written : whole ≠ [] ∨ frac ≠ []

namespace PointNumeral

variable (n : PointNumeral)

/-- The digits after the sign, with the point between the whole and the fractional part. -/
def body : List Char := n.whole.map digitChar ++ '.' :: n.frac.map digitChar

def text : String := String.ofList (signChars n.sign ++ n.body)

def negative : Bool := n.sign == some true

/-- All the digits of the numeral, read as one integer. -/
def digits : ℕ := decimalValue (n.whole ++ n.frac)

/-- The exact value of the numeral without its sign. -/
def magnitude : ℚ := n.digits / 10 ^ n.frac.length

end PointNumeral

/-! ## The characters of a numeral -/

/-- The characters written after the sign: the point and the digits. -/
inductive BodyChar : Char → Prop
  | point : BodyChar '.'
  | digit (d : Fin 10) : BodyChar (digitChar d)

@[simp] theorem asciiDigit?_digitChar : ∀ d : Fin 10, asciiDigit? (digitChar d) = some (d : ℕ) := by
  decide

theorem digitChar_plain : ∀ d : Fin 10, (digitChar d).toLower = digitChar d ∧
    isBlank (digitChar d) = false ∧ (digitChar d).toNat < 127 ∧
    digitChar d ∉ ['_', 'T', '-', '+', '.', 'i', 'n'] := by
  decide

/-- A character after the sign is no blank, ASCII, kept by lowercasing, and neither an
underscore, the letter `T`, a sign, nor a letter that starts `inf` or `nan`. -/
theorem BodyChar.plain {c : Char} (h : BodyChar c) :
    c.toLower = c ∧ isBlank c = false ∧ c.toNat < 127 ∧ c ∉ ['_', 'T', '-', '+', 'i', 'n'] := by
  cases h with
  | point => decide
  | digit d =>
    obtain ⟨hl, hb, ha, hn⟩ := digitChar_plain d
    exact ⟨hl, hb, ha, fun hm => hn (by simp at hm ⊢; tauto)⟩

namespace PointNumeral

variable (n : PointNumeral)

theorem body_mem {c : Char} (hc : c ∈ n.body) : BodyChar c := by
  simp only [body, List.mem_append, List.mem_map, List.mem_cons] at hc
  rcases hc with ⟨d, -, rfl⟩ | rfl | ⟨d, -, rfl⟩
  · exact .digit d
  · exact .point
  · exact .digit d

theorem text_toList : n.text.toList = signChars n.sign ++ n.body := String.toList_ofList

theorem text_plain {c : Char} (hc : c ∈ n.text.toList) :
    isBlank c = false ∧ c.toNat < 127 ∧ c ≠ '_' ∧ c ≠ 'T' := by
  rw [text_toList, List.mem_append] at hc
  rcases hc with hc | hc
  · rcases n with ⟨_ | _ | _, whole, frac, _⟩ <;> simp only [signChars, List.mem_singleton,
      List.not_mem_nil] at hc <;> subst hc <;> decide
  · obtain ⟨-, hb, ha, hn⟩ := (n.body_mem hc).plain
    exact ⟨hb, ha, fun h => hn (by simp [h]), fun h => hn (by simp [h])⟩

end PointNumeral

/-! ## Reading the digits -/

theorem foldl_digits (a : ℕ) (ds : List (Fin 10)) :
    ds.foldl (fun (v : ℕ) (d : Fin 10) => v * 10 + d) a = a * 10 ^ ds.length + decimalValue ds := by
  induction ds generalizing a with
  | nil => simp [decimalValue]
  | cons d ds ih =>
    simp only [decimalValue, List.foldl_cons] at ih ⊢
    rw [ih, ih (0 * 10 + d), List.length_cons, pow_succ]
    ring

theorem decimalValue_append (xs ys : List (Fin 10)) :
    decimalValue (xs ++ ys) = decimalValue xs * 10 ^ ys.length + decimalValue ys := by
  rw [decimalValue, List.foldl_append, foldl_digits]
  rfl

theorem digitRun_cons_of_ne {c : Char} (hc : c ≠ '_') (acc k : ℕ) (rest : List Char) :
    digitRun acc k (c :: rest) =
      match asciiDigit? c with
      | some d => digitRun (acc * 10 + d) (k + 1) rest
      | none => some (acc, k, c :: rest) :=
  digitRun.eq_4 _ _ _ _ (fun _ _ h => absurd h hc) (fun h => absurd h hc)

theorem digitRun_digits (acc k : ℕ) (ds : List (Fin 10)) (rest : List Char) :
    digitRun acc k (ds.map digitChar ++ rest) =
      digitRun (ds.foldl (fun (v : ℕ) (d : Fin 10) => v * 10 + d) acc) (k + ds.length) rest := by
  induction ds generalizing acc k with
  | nil => rfl
  | cons d ds ih =>
    have hu : digitChar d ≠ '_' := fun h => (digitChar_plain d).2.2.2 (by simp [h])
    rw [List.map_cons, List.cons_append, digitRun_cons_of_ne hu, asciiDigit?_digitChar]
    dsimp only
    rw [ih, List.foldl_cons, List.length_cons, Nat.add_right_comm, Nat.add_assoc]

theorem spanDigits.go_digits (v k : ℕ) (ds : List (Fin 10)) (rest : List Char) :
    spanDigits.go v k (ds.map digitChar ++ rest) =
      spanDigits.go (ds.foldl (fun (v : ℕ) (d : Fin 10) => v * 10 + d) v) (k + ds.length) rest := by
  induction ds generalizing v k with
  | nil => rfl
  | cons d ds ih =>
    rw [List.map_cons, List.cons_append, spanDigits.go, asciiDigit?_digitChar]
    dsimp only
    rw [ih, List.foldl_cons, List.length_cons, Nat.add_right_comm, Nat.add_assoc]

namespace PointNumeral

variable (n : PointNumeral)

theorem spanDigits_body :
    spanDigits n.body = (decimalValue n.whole, n.whole.length, '.' :: n.frac.map digitChar) := by
  rw [spanDigits, body, spanDigits.go_digits, foldl_digits, spanDigits.go]
  simp [asciiDigit?]

theorem splitFraction_frac :
    splitFraction ('.' :: n.frac.map digitChar) = (decimalValue n.frac, n.frac.length, []) := by
  rw [splitFraction, spanDigits, ← List.append_nil (n.frac.map digitChar), spanDigits.go_digits,
    foldl_digits]
  simp [spanDigits.go]

theorem splitSign_text : splitSign (signChars n.sign ++ n.body) = (n.negative, n.body) := by
  obtain ⟨c, rest, hcr⟩ := List.exists_cons_of_ne_nil (show n.body ≠ [] by simp [body])
  have hc := (n.body_mem (hcr ▸ List.mem_cons_self)).plain.2.2.2
  unfold negative
  rcases n.sign with _ | _ | _
  · rw [signChars, List.nil_append, hcr]
    unfold splitSign
    split <;> simp_all
  · rfl
  · rfl

theorem digitRun_body :
    digitRun 0 0 n.body = some (decimalValue n.whole, n.whole.length, '.' :: n.frac.map digitChar) := by
  rw [body, digitRun_digits, foldl_digits, digitRun_cons_of_ne (by decide)]
  simp [asciiDigit?]

theorem readIntAscii_text (i : ℤ) : readIntAscii n.text.toList ≠ .value i := by
  obtain ⟨c, rest, hcr⟩ := List.exists_cons_of_ne_nil (show n.body ≠ [] by simp [body])
  have hrun := n.digitRun_body
  rw [readIntAscii, text_toList, splitSign_text]
  rw [hcr] at hrun ⊢
  dsimp only
  rw [hrun]
  split
  · split_ifs <;> simp_all
  · simp

theorem trimAscii_text : trimAscii (asciiForm n.text.toList) = n.text.toList := by
  rw [trimAscii_asciiForm (fun _ hc => (n.text_plain (List.mem_of_mem_head? hc)).1)
    (fun _ hc => (n.text_plain (List.mem_of_mem_getLast? hc)).1)]
  unfold asciiForm
  conv_rhs => rw [← List.map_id n.text.toList]
  exact List.map_congr_left fun c hc => if_pos (n.text_plain hc).2.1

theorem readInt?_text : readInt? n.text = none := by
  unfold readInt? readIntText
  rw [trimAscii_text]
  split
  · next i hi => exact absurd hi (n.readIntAscii_text i)
  · rfl

/-- After the sign, the text is read as all its digits, scaled down by as many tens as there are
digits after the point. -/
theorem readUnsignedReal_body (neg : Bool) :
    readUnsignedReal neg n.body = some (.finite neg n.digits (-n.frac.length)) := by
  have hlow : lowerAscii n.body = n.body := by
    conv_rhs => rw [← List.map_id n.body]
    exact List.map_congr_left fun c hc => (n.body_mem hc).plain.1
  have hword : ∀ w : List Char, 'i' ∈ w ∨ 'n' ∈ w → n.body ≠ w := by
    rintro w hw rfl
    rcases hw with hw | hw <;> exact (n.body_mem hw).plain.2.2.2 (by simp)
  have hlen : n.whole.length + n.frac.length ≠ 0 := by
    rcases n.written with h | h <;> simp [h]
  unfold readUnsignedReal
  simp only [hlow, Bool.or_eq_true, beq_iff_eq, hword "inf".toList (.inl (by decide)),
    hword "infinity".toList (.inl (by decide)), hword "nan".toList (.inr (by decide)),
    spanDigits_body, splitFraction_frac, hlen, or_self, if_false]
  simp [readExponent, digits, decimalValue_append]

theorem readReal?_text : readReal? n.text = some (.finite n.negative n.digits (-n.frac.length)) := by
  have hu : ¬ n.text.toList.contains '_' = true := by
    simpa using fun h => (n.text_plain h).2.2.1 rfl
  unfold readReal?
  rw [trimAscii_text, readRealAscii, if_neg hu, Option.bind_some]
  dsimp only
  rw [text_toList, splitSign_text]
  exact n.readUnsignedReal_body n.negative

theorem text_isEmpty : n.text.isEmpty = false := by
  have hne : n.text.toList ≠ [] := by simp [text_toList, body]
  rw [Bool.eq_false_iff]
  intro h
  exact hne (by rw [String.isEmpty_iff.1 h]; rfl)

theorem digits_mul_zpow : (n.digits : ℚ) * 10 ^ (-(n.frac.length : ℤ)) = n.magnitude := by
  rw [magnitude, zpow_neg, zpow_natCast, div_eq_mul_inv]

theorem T_not_mem : 'T' ∉ n.text.toList := fun h => (n.text_plain h).2.2.2 rfl

end PointNumeral

end SeriesImport.Number

namespace SeriesImport.Csv

open Number Text

/-- A time cell that holds a decimal numeral with a point is read as the numeral's nearest double,
cut toward zero and scaled by the multiplier. A numeral too large for any double gives the current
time `now`. -/
theorem cellTime_truncates_nearest_double {cell : String} {n : PointNumeral}
    (h : strip cell = n.text) (multiplier now : ℤ) :
    cellTime cell multiplier now =
      .ok (match roundToDouble n.magnitude with
        | some r => (if n.negative then -⌊r⌋ else ⌊r⌋) * multiplier
        | none => now) := by
  have hrep := ofFloat_ofDecimal n.negative n.digits (-n.frac.length)
  rw [n.digits_mul_zpow] at hrep
  unfold cellTime Finite.read?
  simp only [h, n.text_isEmpty, n.readInt?_text, n.readReal?_text, Bool.false_eq_true, if_false]
  generalize ofDecimal n.negative n.digits (-n.frac.length) = f at hrep ⊢
  cases hb : Binary.ofFloat f with
  | finite s m e =>
    rw [hb] at hrep
    cases hr : roundToDouble n.magnitude with
    | none => rw [hr] at hrep; exact hrep.elim
    | some r =>
      rw [hr] at hrep
      simp only [Finite.scale, truncate, hb, hrep.truncate, Option.getD_some]
      rfl
  | infinite s =>
    rw [hb] at hrep
    cases hr : roundToDouble n.magnitude with
    | some r => rw [hr] at hrep; exact hrep.elim
    | none =>
      have hT : 'T' ∉ (strip cell).toList := h ▸ n.T_not_mem
      simp only [Time.parseInstant_of_not_mem hT]
      rfl
  | nan => exact (hrep.ne_nan hb).elim

end SeriesImport.Csv

namespace SeriesImport.Csv

open Number Text

theorem cellTime_twelve_and_a_half :
    let n : PointNumeral := ⟨none, [1, 2], [5], .inl (List.cons_ne_nil _ _)⟩
    strip " 12.5 " = n.text ∧
      cellTime " 12.5 " 1000 0 = .ok (match roundToDouble n.magnitude with
        | some r => (if n.negative then -⌊r⌋ else ⌊r⌋) * 1000
        | none => 0) :=
  have hs : strip " 12.5 " = PointNumeral.text ⟨none, [1, 2], [5], .inl (List.cons_ne_nil _ _)⟩ := by
    decide
  ⟨hs, cellTime_truncates_nearest_double hs 1000 0⟩

theorem cellTime_point_rounds_first :
    (cellTime "0.99999999999999999" 1 0).toOption = some 1 ∧
      (cellTime "1700000000123456789.0" 1 0).toOption = some 1700000000123456768 ∧
      (cellTime "1700000000123456789" 1 0).toOption = some 1700000000123456789 := by
  decide +kernel

end SeriesImport.Csv
