import Mathlib
import SeriesImport.Number.Finite
/-!
# The characters of a number

A text reads as a number only when, in its ASCII form and without the blanks around it, it is
written with digits, signs, underscores, a decimal point and the letter of an exponent: the
integer reader takes a sign and digits with underscores between them, the real reader a sign,
digits, a point and an exponent, once the underscores are dropped. A text without blanks at its
ends keeps all its characters when it is trimmed, so every ASCII character of a stripped text
that reads as a finite number is one of these.
-/

namespace SeriesImport.Text

/-- A stripped text starts and ends with characters that are not blank. -/
theorem strip_ends (s : String) :
    (∀ c ∈ (strip s).toList.head?, isBlank c = false) ∧
      (∀ c ∈ (strip s).toList.getLast?, isBlank c = false) := by
  have hsplit := List.takeWhile_append_dropWhile (p := isBlank) (l := (stripStart s).toList.reverse)
  have hkept : (stripStart s).toList =
      (strip s).toList ++ ((stripStart s).toList.reverse.takeWhile isBlank).reverse := by
    simp only [strip, stripEnd, String.toList_ofList]
    rw [← List.reverse_append, hsplit, List.reverse_reverse]
  constructor
  · intro c hc
    apply stripStart_head s c
    rw [hkept, List.head?_append, Option.mem_def.1 hc]
    rfl
  · intro c hc
    simp only [strip, stripEnd, String.toList_ofList, List.getLast?_reverse] at hc
    have h := List.head?_dropWhile_not isBlank (stripStart s).toList.reverse
    rw [hc] at h
    simpa using h

end SeriesImport.Text

namespace SeriesImport.Number

open SeriesImport.Text

/-- The ASCII characters a finite number is written with. -/
def numeral (c : Char) : Bool :=
  c.isDigit || c == '+' || c == '-' || c == '_' || c == '.' || c == 'e' || c == 'E'

/-! ## Integers -/

theorem numeral_of_asciiDigit {c : Char} {d : Nat} (h : asciiDigit? c = some d) : numeral c := by
  unfold asciiDigit? at h
  split at h
  · next hc =>
    have hd : c.isDigit := by
      simp only [Bool.and_eq_true, decide_eq_true_eq] at hc
      rw [Char.isDigit_iff_toNat]
      exact ⟨hc.1, hc.2⟩
    simp [numeral, hd]
  · cases h

theorem splitSign_numeral (cs : List Char) :
    ∃ sign, (∀ c ∈ sign, numeral c) ∧ cs = sign ++ (splitSign cs).2 := by
  unfold splitSign
  split
  · exact ⟨['-'], by simp [numeral], rfl⟩
  · exact ⟨['+'], by simp [numeral], rfl⟩
  · exact ⟨[], by simp, rfl⟩

/-- A run of digits with single underscores between them is written with numerals. -/
theorem digitRun_numeral {acc n : Nat} {cs after : List Char} {v k : Nat}
    (h : digitRun acc n cs = some (v, k, after)) :
    ∃ ds, cs = ds ++ after ∧ ∀ d ∈ ds, numeral d := by
  fun_induction digitRun acc n cs with
  | case1 => cases h; exact ⟨[], rfl, by simp⟩
  | case2 acc n c rest d hd ih =>
    obtain ⟨ds, rfl, hnum⟩ := ih h
    refine ⟨'_' :: c :: ds, rfl, ?_⟩
    simp only [List.forall_mem_cons]
    exact ⟨rfl, numeral_of_asciiDigit hd, hnum⟩
  | case3 | case4 => cases h
  | case5 acc n c rest _ _ d hd ih =>
    obtain ⟨ds, rfl, hnum⟩ := ih h
    exact ⟨c :: ds, rfl, List.forall_mem_cons.2 ⟨numeral_of_asciiDigit hd, hnum⟩⟩
  | case6 => cases h; exact ⟨[], rfl, by simp⟩

theorem readIntAscii_numeral {cs : List Char} {i : Int} (h : readIntAscii cs = .value i) :
    ∀ c ∈ cs, numeral c := by
  obtain ⟨sign, hsign, hcs⟩ := splitSign_numeral cs
  unfold readIntAscii at h
  generalize splitSign cs = sb at h hcs
  obtain ⟨neg, body⟩ := sb
  dsimp only at h hcs
  split at h
  · split at h
    · next v n after _ hrun =>
      obtain ⟨ds, hds, hnum⟩ := digitRun_numeral hrun
      split at h
      · cases h
      split at h
      · next hend =>
        rw [hcs, hds, List.isEmpty_iff.1 hend, List.append_nil]
        intro c hc
        rcases List.mem_append.1 hc with hc | hc
        · exact hsign c hc
        · exact hnum c hc
      · cases h
    · cases h
  · cases h

/-! ## Reals -/

theorem spanDigits.go_numeral (v n : Nat) (cs : List Char) :
    ∃ ds, cs = ds ++ (spanDigits.go v n cs).2.2 ∧ ∀ d ∈ ds, numeral d := by
  induction cs generalizing v n with
  | nil => exact ⟨[], rfl, by simp⟩
  | cons c rest ih =>
    unfold spanDigits.go
    split
    · next d hd =>
      obtain ⟨ds, hds, hnum⟩ := ih (v * 10 + d) (n + 1)
      exact ⟨c :: ds, by rw [List.cons_append, ← hds],
        List.forall_mem_cons.2 ⟨numeral_of_asciiDigit hd, hnum⟩⟩
    · exact ⟨[], rfl, by simp⟩

theorem spanDigits_numeral (cs : List Char) :
    ∃ ds, cs = ds ++ (spanDigits cs).2.2 ∧ ∀ d ∈ ds, numeral d :=
  spanDigits.go_numeral 0 0 cs

theorem splitFraction_numeral (cs : List Char) :
    ∃ pre, (∀ c ∈ pre, numeral c) ∧ cs = pre ++ (splitFraction cs).2.2 := by
  unfold splitFraction
  split
  · next r =>
    obtain ⟨ds, hr, hnum⟩ := spanDigits_numeral r
    exact ⟨'.' :: ds, List.forall_mem_cons.2 ⟨rfl, hnum⟩, by rw [List.cons_append, ← hr]⟩
  · exact ⟨[], by simp, rfl⟩

theorem readExponent_numeral {cs : List Char} {e : Int} (h : readExponent cs = some e) :
    ∀ c ∈ cs, numeral c := by
  cases cs with
  | nil => simp
  | cons c r =>
    simp only [readExponent] at h
    split at h
    · next hexp =>
      split at h
      · cases h
      · next hrest =>
        have hc : numeral c := by
          simp only [Bool.or_eq_true, beq_iff_eq] at hexp
          rcases hexp with rfl | rfl <;> rfl
        obtain ⟨sign, hsign, hr⟩ := splitSign_numeral r
        obtain ⟨ds, hs, hds⟩ := spanDigits_numeral (splitSign r).2
        simp only [Bool.or_eq_true, beq_iff_eq, Bool.not_eq_eq_eq_not, Bool.not_true,
          List.isEmpty_eq_false_iff, not_or, not_not, ne_eq] at hrest
        rw [hr, hs, hrest.2, List.append_nil]
        intro x hx
        simp only [List.mem_cons, List.mem_append] at hx
        rcases hx with rfl | hx | hx
        · exact hc
        · exact hsign x hx
        · exact hds x hx
    · cases h

theorem readUnsignedReal_numeral {neg neg' : Bool} {cs : List Char} {d : Nat} {x : Int}
    (h : readUnsignedReal neg cs = some (.finite neg' d x)) : ∀ c ∈ cs, numeral c := by
  unfold readUnsignedReal at h
  simp only at h
  split_ifs at h with hinf hnan
  · cases h
  · cases h
  obtain ⟨e, he, -⟩ := Option.map_eq_some_iff.1 h
  obtain ⟨ds, hcs, hds⟩ := spanDigits_numeral cs
  obtain ⟨pre, hpre, hrest⟩ := splitFraction_numeral (spanDigits cs).2.2
  rw [hcs, hrest]
  intro c hc
  simp only [List.mem_append] at hc
  rcases hc with hc | hc | hc
  · exact hds c hc
  · exact hpre c hc
  · exact readExponent_numeral he c hc

/-- Dropping underscores keeps every other character. -/
theorem dropUnderscores.go_mem {prev : Option Char} {cs out : List Char}
    (h : dropUnderscores.go prev cs = some out) : ∀ c ∈ cs, c = '_' ∨ c ∈ out := by
  induction cs generalizing prev out with
  | nil => simp
  | cons c rest ih =>
    unfold dropUnderscores.go at h
    split_ifs at h with hc hprev
    · simp only [beq_iff_eq] at hc
      split at h
      · split_ifs at h
        intro x hx
        rcases List.mem_cons.1 hx with rfl | hx
        · exact .inl hc
        · exact ih h x hx
      · cases h
    · obtain ⟨out', h', rfl⟩ := Option.map_eq_some_iff.1 h
      intro x hx
      rcases List.mem_cons.1 hx with rfl | hx
      · exact .inr List.mem_cons_self
      · exact (ih h' x hx).imp_right (List.mem_cons_of_mem c)

theorem readRealAscii_numeral {cs : List Char} {neg : Bool} {d : Nat} {x : Int}
    (h : readRealAscii cs = some (.finite neg d x)) : ∀ c ∈ cs, numeral c := by
  unfold readRealAscii at h
  obtain ⟨cs', hcs', h⟩ := Option.bind_eq_some_iff.1 h
  obtain ⟨sign, hsign, hbody⟩ := splitSign_numeral cs'
  have hnum : ∀ c ∈ cs', numeral c := by
    rw [hbody]
    intro c hc
    rcases List.mem_append.1 hc with hc | hc
    · exact hsign c hc
    · exact readUnsignedReal_numeral h c hc
  split_ifs at hcs'
  · intro c hc
    rcases dropUnderscores.go_mem hcs' c hc with rfl | hc
    · rfl
    · exact hnum c hc
  · cases hcs'
    exact hnum

/-! ## The ASCII form of a stripped text -/

theorem toNat_ofNat_eq (n : Nat) : (Char.ofNat n).toNat = n ∨ (Char.ofNat n).toNat = 0 := by
  unfold Char.ofNat
  split
  · exact .inl (by simp [Char.ofNatAux, Char.toNat])
  · exact .inr rfl

theorem isBlank_of_isAsciiBlank {c : Char} (h : isAsciiBlank c) : isBlank c := by
  simp only [isAsciiBlank, Bool.or_eq_true, beq_iff_eq] at h
  rcases h with (((((rfl | rfl) | rfl) | rfl) | rfl) | rfl) <;> rfl

/-- A character that is not blank has an ASCII form that is no ASCII blank: itself, a digit, or
a question mark. -/
theorem isAsciiBlank_asciiForm {c : Char} (h : isBlank c = false) :
    ∀ d ∈ asciiForm [c], isAsciiBlank d = false := by
  simp only [asciiForm, List.map_cons, List.map_nil, List.mem_singleton, forall_eq]
  split_ifs with hlt hb
  · cases hc : isAsciiBlank c
    · rfl
    · exact absurd (isBlank_of_isAsciiBlank hc) (by simp [h])
  · exact absurd hb (by simp [h])
  · split
    · next d _ =>
      have hcode := toNat_ofNat_eq (48 + d)
      unfold isAsciiBlank
      simp only [Bool.or_eq_false_iff, beq_eq_false_iff_ne, ne_eq]
      refine ⟨⟨⟨⟨⟨?_, ?_⟩, ?_⟩, ?_⟩, ?_⟩, ?_⟩ <;> intro heq <;> rw [heq] at hcode <;>
        simp at hcode <;> omega
    · rfl

/-- The ASCII form of a text without blanks at its ends has no ASCII blanks to trim. -/
theorem trimAscii_asciiForm {cs : List Char} (hhead : ∀ c ∈ cs.head?, isBlank c = false)
    (hlast : ∀ c ∈ cs.getLast?, isBlank c = false) : trimAscii (asciiForm cs) = asciiForm cs := by
  have hkeep : ∀ l : List Char, (∀ d ∈ l.head?, isAsciiBlank d = false) →
      l.dropWhile isAsciiBlank = l := by
    intro l hl
    cases l with
    | nil => rfl
    | cons d r => exact List.dropWhile_cons_of_neg (by simpa using hl d rfl)
  have hfirst : ∀ d ∈ (asciiForm cs).head?, isAsciiBlank d = false := by
    intro d hd
    cases cs with
    | nil => cases hd
    | cons c r =>
      exact isAsciiBlank_asciiForm (hhead c rfl) d (by simp [asciiForm] at hd ⊢; exact hd.symm)
  have hend : ∀ d ∈ (asciiForm cs).reverse.head?, isAsciiBlank d = false := by
    intro d hd
    rw [List.head?_reverse] at hd
    obtain ⟨c, hc, hcd⟩ : ∃ c ∈ cs.getLast?, asciiForm [c] = [d] := by
      simp only [asciiForm, List.getLast?_map, Option.mem_def, Option.map_eq_some_iff] at hd
      obtain ⟨c, hc, rfl⟩ := hd
      exact ⟨c, hc, rfl⟩
    exact isAsciiBlank_asciiForm (hlast c hc) d (by rw [hcd]; exact List.mem_singleton_self d)
  unfold trimAscii
  rw [hkeep _ hfirst, hkeep _ hend, List.reverse_reverse]

/-- Every ASCII character of a stripped text that reads as a number is a digit, a sign, an
underscore, a point or the letter of an exponent. -/
theorem Finite.read?_numeral {s : String} (hs : strip s = s) (h : (Finite.read? s).isSome) :
    ∀ c ∈ s.toList, c.toNat < 127 → numeral c := by
  have htrim : trimAscii (asciiForm s.toList) = asciiForm s.toList := by
    obtain ⟨hhead, hlast⟩ := strip_ends s
    rw [hs] at hhead hlast
    exact trimAscii_asciiForm hhead hlast
  have hform : ∀ c ∈ asciiForm s.toList, numeral c := by
    unfold Finite.read? at h
    simp only [hs] at h
    split_ifs at h
    · simp at h
    split at h
    · next i hi =>
      unfold readInt? readIntText at hi
      split at hi
      · next hv => rw [htrim] at hv; exact readIntAscii_numeral hv
      · cases hi
    · split at h
      · next neg d x hr =>
        unfold readReal? at hr
        rw [htrim] at hr
        exact readRealAscii_numeral hr
      · cases h
  intro c hc hlt
  apply hform
  obtain ⟨pre, post, hcs⟩ := List.append_of_mem hc
  rw [hcs]
  simp [asciiForm, hlt]

end SeriesImport.Number
