import FormLogic.Number.Layout
import FormLogic.Proofs.Number.Nearest
import FormLogic.Proofs.Number.Spelling

/-!
# Written numbers are read back

The fewest digits of a magnitude lie in its window, so they are near it
(`Magnitude.near_shortest`), whichever length the search stops at.  Each notation of the language's
own layout spells these digits with the same value, so what is written is a number literal, and
its number is the one that was written (`Layout.exists_spelling`).
-/

namespace FormLogic

/-! ## 1. Scales of decimals -/

namespace Decimal

/-- Zeros behind the digits are a higher exponent. -/
theorem units_mul_pow (digits k : ℕ) (e : ℤ) :
    (⟨digits * 10 ^ k, e⟩ : Decimal).units = (⟨digits, k + e⟩ : Decimal).units := by
  have hpow : (10 : ℚ) ^ (k + e : ℤ) = 10 ^ k * 10 ^ e := by
    rw [zpow_add₀ (by norm_num), zpow_natCast]
  simp only [units, hpow]
  push_cast
  ring

/-- **Zeros at the end of the digits do not count.** -/
theorem units_dropZeros (d : Decimal) : d.dropZeros.units = d.units := by
  induction d using dropZeros.induct with
  | case1 d h ih =>
    have hdigits : d.digits / 10 * 10 ^ 1 = d.digits := by omega
    have hshift := units_mul_pow (d.digits / 10) 1 d.exponent
    rw [hdigits, Int.add_comm] at hshift
    rw [dropZeros, dif_pos h, ih]
    exact hshift.symm
  | case2 d h => rw [dropZeros, dif_neg h]

end Decimal

/-! ## 2. The window of a magnitude -/

namespace Window

/-- A natural number on the scale of a window, in units of the smallest positive number. -/
def unitsOf (w : Window) (n : ℕ) : ℚ := (⟨n, w.scale⟩ : Decimal).units

theorem unitsOf_eq (w : Window) (n : ℕ) : w.unitsOf n = n * w.unitsOf 1 := by
  simp [unitsOf, Decimal.units, mul_assoc]

theorem unitsOf_one_pos (w : Window) : 0 < w.unitsOf 1 := by
  have hunits : (0 : ℚ) < Binary64.unitsPerOne := by exact_mod_cast Binary64.unitsPerOne_pos
  unfold unitsOf Decimal.units
  positivity

theorem unitsOf_le_iff (w : Window) {n n' : ℕ} : w.unitsOf n ≤ w.unitsOf n' ↔ n ≤ n' := by
  rw [w.unitsOf_eq n, w.unitsOf_eq n', mul_le_mul_iff_of_pos_right w.unitsOf_one_pos]
  exact Nat.cast_le

theorem unitsOf_lt_iff (w : Window) {n n' : ℕ} : w.unitsOf n < w.unitsOf n' ↔ n < n' := by
  rw [w.unitsOf_eq n, w.unitsOf_eq n', mul_lt_mul_iff_of_pos_right w.unitsOf_one_pos]
  exact Nat.cast_lt

theorem between_of_contains {w : Window} {n : ℕ} (h : w.contains n = true) :
    w.lower ≤ n ∧ n ≤ w.upper ∧ (w.closed = false → w.lower < n ∧ n < w.upper) := by
  unfold contains at h
  split at h
  · next hclosed =>
    obtain ⟨hlower, hupper⟩ : w.lower ≤ n ∧ n ≤ w.upper := by simpa using h
    exact ⟨hlower, hupper, fun hopen => absurd hclosed (by simp [hopen])⟩
  · obtain ⟨hlower, hupper⟩ : w.lower < n ∧ n < w.upper := by simpa using h
    exact ⟨hlower.le, hupper.le, fun _ => ⟨hlower, hupper⟩⟩

/-- **A cut lies in the window.** -/
theorem exists_of_withDigits? {w : Window} {tie : Tie} {count : ℕ} {d : Decimal}
    (h : w.withDigits? tie count = some d) :
    ∃ n, w.contains n = true ∧ d.units = w.unitsOf n := by
  unfold withDigits? at h
  dsimp only at h
  generalize w.length - count = place at h
  generalize w.value / Nat.pow 10 place = digits at h
  have hcut : ∀ digits', w.contains (digits' * Nat.pow 10 place) = true →
      some (⟨digits', place + w.scale⟩ : Decimal) = some d →
      ∃ n, w.contains n = true ∧ d.units = w.unitsOf n := by
    intro digits' hcontains hd
    obtain rfl := Option.some.inj hd
    exact ⟨_, hcontains, (Decimal.units_mul_pow digits' place w.scale).symm⟩
  split at h
  · next hdown _ => exact hcut _ hdown h
  · next _ hup => exact hcut _ hup h
  · next hdown hup =>
    split at h
    · exact hcut _ hdown h
    split at h
    · exact hcut _ hup h
    cases tie with
    | up => exact hcut _ hup h
    | even =>
      rcases Nat.mod_two_eq_zero_or_one digits with heven | hodd
      · rw [heven] at h
        exact hcut _ hdown h
      · rw [hodd] at h
        exact hcut _ hup h
  · exact absurd h (by simp)

/-- A quarter of a step of the magnitude, on the scale of its window. -/
def quarter (m : Magnitude) : ℕ := Nat.pow 5 (1076 - m.exponent) <<< (m.exponent - 1076)

/-- Four quarters are a step. -/
theorem unitsOf_quarter (m : Magnitude) :
    (ofMagnitude m).unitsOf (quarter m) = 2 ^ m.exponent / 4 := by
  obtain ⟨u, hunits, hu⟩ := Binary64.exists_unitsPerOne_eq
  obtain ⟨k, j, hquarter, hscale, hsum⟩ : ∃ k j : ℕ, quarter m = 5 ^ k * 2 ^ j ∧
      (ofMagnitude m).scale = -(k : ℤ) ∧ 1076 + j = m.exponent + k := by
    have hshift : quarter m = 5 ^ (1076 - m.exponent) * 2 ^ (m.exponent - 1076) :=
      Nat.shiftLeft_eq _ _
    exact ⟨_, _, hshift, rfl, by omega⟩
  have hsum : 2 + j + u = m.exponent + k := by omega
  have hstep : 4 * (5 ^ k * 2 ^ j * 2 ^ u) = 2 ^ m.exponent * 10 ^ k :=
    calc 4 * (5 ^ k * 2 ^ j * 2 ^ u) = 2 ^ (2 + j + u) * 5 ^ k := by ring
      _ = 2 ^ m.exponent * (2 * 5) ^ k := by rw [hsum, mul_pow]; ring
  have hstep : (4 : ℚ) * (5 ^ k * 2 ^ j * 2 ^ u) = 2 ^ m.exponent * 10 ^ k := by
    exact_mod_cast hstep
  rw [unitsOf, Decimal.units, hscale, hquarter, hunits, zpow_neg, zpow_natCast]
  push_cast
  field_simp
  linarith

theorem quarter_pos (m : Magnitude) : 0 < quarter m := by
  have hpos : 0 < (ofMagnitude m).unitsOf (quarter m) := by
    rw [unitsOf_quarter]
    positivity
  rw [unitsOf_eq] at hpos
  exact_mod_cast pos_of_mul_pos_left hpos (ofMagnitude m).unitsOf_one_pos.le

/-- Quarters of a step are units. -/
theorem unitsOf_mul_quarter (m : Magnitude) (n : ℕ) :
    (ofMagnitude m).unitsOf (n * quarter m) = n / 4 * 2 ^ m.exponent := by
  have hquarter := unitsOf_quarter m
  rw [unitsOf_eq] at hquarter ⊢
  push_cast
  rw [mul_assoc, hquarter]
  ring

section Ends

variable {m : Magnitude} (hm : m.significand ≠ 0)

include hm

theorem unitsOf_lower : (ofMagnitude m).unitsOf (ofMagnitude m).lower = m.lowerEnd := by
  have hdown := m.down_le
  have hcast : ((4 * m.significand - m.down : ℕ) : ℚ) = 4 * m.significand - m.down := by
    rw [Nat.cast_sub (by omega)]
    push_cast
    rfl
  have hlower : (ofMagnitude m).lower = (4 * m.significand - m.down) * quarter m := rfl
  rw [hlower, unitsOf_mul_quarter, hcast, Magnitude.lowerEnd]

omit hm in
theorem unitsOf_upper (m : Magnitude) :
    (ofMagnitude m).unitsOf (ofMagnitude m).upper = m.upperEnd := by
  have hupper : (ofMagnitude m).upper = (4 * m.significand + 2) * quarter m := rfl
  rw [hupper, unitsOf_mul_quarter, Magnitude.upperEnd]
  push_cast
  rfl

/-- **The window holds what is near the magnitude.** -/
theorem near_of_contains {n : ℕ} (h : (ofMagnitude m).contains n = true) :
    m.Near ((ofMagnitude m).unitsOf n) := by
  obtain ⟨hlower, hupper, hopen⟩ := between_of_contains h
  constructor
  · rw [← unitsOf_lower hm]
    exact (ofMagnitude m).unitsOf_le_iff.mpr hlower
  · rw [← unitsOf_upper]
    exact (ofMagnitude m).unitsOf_le_iff.mpr hupper
  · intro hodd
    have hclosed : (ofMagnitude m).closed = false := by
      show (m.significand % 2 == 0) = false
      simp [hodd]
    obtain ⟨hlower, hupper⟩ := hopen hclosed
    rw [← unitsOf_lower hm, ← unitsOf_upper]
    exact ⟨(ofMagnitude m).unitsOf_lt_iff.mpr hlower, (ofMagnitude m).unitsOf_lt_iff.mpr hupper⟩

theorem contains_value : (ofMagnitude m).contains (ofMagnitude m).value = true := by
  have hquarter := quarter_pos m
  have hdown : 0 < m.down := by
    unfold Magnitude.down
    split <;> decide
  have hlower : (ofMagnitude m).lower < (ofMagnitude m).value :=
    Nat.mul_lt_mul_of_pos_right (by omega : 4 * m.significand - m.down < 4 * m.significand) hquarter
  have hupper : (ofMagnitude m).value < (ofMagnitude m).upper :=
    Nat.mul_lt_mul_of_pos_right (by omega : 4 * m.significand < 4 * m.significand + 2) hquarter
  unfold contains
  split <;> simp [hlower, hupper, hlower.le, hupper.le]

end Ends

end Window

namespace Magnitude

theorem units_eq_zero_iff {m : Magnitude} : m.units = 0 ↔ m.significand = 0 := by
  rw [units, Nat.shiftLeft_eq, Nat.mul_eq_zero]
  have := Nat.two_pow_pos m.exponent
  omega

/-- There is one magnitude without a size. -/
theorem eq_zero {m : Magnitude} (h : m.significand = 0) : m = .zero := by
  obtain ⟨significand, exponent, hlt, hnormal, hle⟩ := m
  obtain rfl : significand = 0 := h
  obtain rfl : exponent = 0 := hnormal.resolve_right (by decide)
  rfl

/-- **The fewest digits are near the magnitude.** -/
theorem near_shortest {m : Magnitude} (hm : m.significand ≠ 0) (tie : Tie) :
    m.Near (m.shortest tie).units := by
  rw [shortest, Decimal.units_dropZeros]
  cases hcut : (List.range 17).findSome? fun n =>
      (Window.ofMagnitude m).withDigits? tie (n + 1) with
  | none => exact Window.near_of_contains hm (Window.contains_value hm)
  | some d =>
    obtain ⟨count, -, hcount⟩ := List.exists_of_findSome?_eq_some hcut
    obtain ⟨n, hcontains, hunits⟩ := Window.exists_of_withDigits? hcount
    rw [Option.getD_some, hunits]
    exact Window.near_of_contains hm hcontains

end Magnitude

/-! ## 3. Runs of digits -/

namespace Numeral

open Text

theorem decimalValue_append (a b : List Char) :
    decimalValue (a ++ b) = 10 ^ b.length * decimalValue a + decimalValue b := by
  have happend : Nat.ofDigitChars 10 (a ++ b) 0 = Nat.ofDigitChars 10 b (Nat.ofDigitChars 10 a 0) :=
    Nat.ofDigitChars_append 0
  exact happend.trans Nat.ofDigitChars_eq_ofDigitChars_zero

namespace Digits

/-- The digits of a natural number. -/
def ofNat (n : ℕ) : Digits :=
  ⟨Nat.toDigits 10 n, fun _ hc => Number.isAsciiDigit_of_mem_toDigits hc⟩

def zeros (k : ℕ) : Digits where
  val := List.replicate k '0'
  property := by
    intro c hc
    rw [(List.mem_replicate.mp hc).2]
    decide

/-- One run of digits behind another. -/
def append (a b : Digits) : Digits where
  val := a.1 ++ b.1
  property := List.forall_mem_append.mpr ⟨a.2, b.2⟩

theorem ofNat_ne_nil (n : ℕ) : (ofNat n).1 ≠ [] := Nat.toDigits_ne_nil

theorem decimalValue_ofNat (n : ℕ) : decimalValue (ofNat n) = n := Nat.ofDigitChars_ten_toDigits

theorem decimalValue_zeros (k : ℕ) : decimalValue (zeros k) = 0 := by
  have hzeros : Nat.ofDigitChars 10 (List.replicate k '0') 0 = 10 ^ k * 0 :=
    Nat.ofDigitChars_replicate_zero
  exact hzeros.trans (Nat.mul_zero _)

end Digits

/-- Every exponent can be written with a sign. -/
theorem Exponent.exists_text (value : ℤ) :
    ∃ e : Exponent, e.value = value ∧
      e.text = 'e' :: (if value < 0 then '-' else '+') :: Nat.toDigits 10 value.natAbs := by
  have hvalue := Digits.decimalValue_ofNat value.natAbs
  have hdigits := Digits.ofNat_ne_nil value.natAbs
  by_cases hsign : value < 0
  · refine ⟨⟨'e', .minus, .ofNat value.natAbs, .inl rfl, hdigits⟩, ?_, by rw [if_pos hsign]; rfl⟩
    rw [Exponent.value, if_pos rfl, hvalue]
    omega
  · refine ⟨⟨'e', .plus, .ofNat value.natAbs, .inl rfl, hdigits⟩, ?_, by rw [if_neg hsign]; rfl⟩
    rw [Exponent.value, if_neg (by simp), hvalue]
    omega

end Numeral

/-! ## 4. Notations -/

namespace Layout

open Numeral Text

/-- **A text spells a decimal**: it is a literal of the same value that begins with a digit. -/
def Spelled (text : List Char) (d : Decimal) : Prop :=
  ∃ s : Spelling, s.whole.1 ≠ [] ∧ s.text = text ∧ s.decimal.units = d.units

/-- A literal of the decimal itself spells it. -/
theorem Spelled.of_decimal {s : Spelling} (hwhole : s.whole.1 ≠ []) {text : List Char}
    (htext : s.text = text) {d : Decimal} (hdigits : s.decimal.digits = d.digits)
    (hexponent : s.decimal.exponent = d.exponent) : Spelled text d :=
  ⟨s, hwhole, htext, by rw [Decimal.units, hdigits, hexponent, Decimal.units]⟩

section Notations

variable (digits : Digits) (hdigits : digits.1 ≠ [])

/-- Zeros may stand between the point and the digits. -/
theorem spelled_zeros_digits (k : ℕ) :
    Spelled ('0' :: '.' :: (List.replicate k '0' ++ digits.1))
      ⟨decimalValue digits, -(k + digits.1.length)⟩ := by
  let s : Spelling :=
    ⟨⟨['0'], by decide⟩, some (.append (.zeros k) digits), none, by simp⟩
  refine Spelled.of_decimal (s := s) (by simp [s]) ?_ ?_ ?_
  · simp [s, Spelling.text, Spelling.mantissa, Spelling.fractionText, Spelling.exponentText,
      Digits.append, Digits.zeros]
  · change decimalValue (['0'] ++ ((Digits.zeros k).1 ++ digits.1)) = decimalValue digits.1
    rw [decimalValue_append, decimalValue_append, Digits.decimalValue_zeros]
    simp [decimalValue]
  · simp [s, Spelling.decimal, Spelling.fractionDigits, Digits.append, Digits.zeros]

include hdigits

/-- The point may stand among the digits. -/
theorem spelled_point {k : ℕ} (hk : k ≠ 0) (hlength : k < digits.1.length) :
    Spelled (digits.1.take k ++ '.' :: digits.1.drop k)
      ⟨decimalValue digits, k - digits.1.length⟩ := by
  have hwhole : digits.1.take k ≠ [] := by simp [hdigits, hk]
  let s : Spelling :=
    ⟨⟨digits.1.take k, fun c hc => digits.2 c (List.mem_of_mem_take hc)⟩,
      some ⟨digits.1.drop k, fun c hc => digits.2 c (List.mem_of_mem_drop hc)⟩, none,
      List.append_ne_nil_of_left_ne_nil hwhole _⟩
  refine Spelled.of_decimal (s := s) hwhole ?_ ?_ ?_
  · simp [s, Spelling.text, Spelling.mantissa, Spelling.fractionText, Spelling.exponentText]
  · change decimalValue (digits.1.take k ++ digits.1.drop k) = decimalValue digits.1
    rw [List.take_append_drop]
  · simp only [s, Spelling.decimal, Spelling.fractionDigits, Option.elim, List.length_drop]
    omega

/-- Zeros may stand behind the digits. -/
theorem spelled_digits_zeros (k : ℕ) :
    Spelled (digits.1 ++ List.replicate k '0') ⟨decimalValue digits, k⟩ := by
  have hwhole : digits.1 ++ List.replicate k '0' ≠ [] :=
    List.append_ne_nil_of_left_ne_nil hdigits _
  let s : Spelling := ⟨.append digits (.zeros k), none, none,
    List.append_ne_nil_of_left_ne_nil hwhole _⟩
  refine ⟨s, hwhole, ?_, ?_⟩
  · simp [s, Spelling.text, Spelling.mantissa, Spelling.fractionText, Spelling.exponentText,
      Digits.append, Digits.zeros]
  · have hvalue : decimalValue (digits.1 ++ (Digits.zeros k).1) = decimalValue digits * 10 ^ k := by
      rw [decimalValue_append, Digits.decimalValue_zeros, Digits.zeros, List.length_replicate]
      ring
    have hdecimal : s.decimal = ⟨decimalValue digits * 10 ^ k, 0⟩ := by
      rw [← hvalue]
      simp [s, Spelling.decimal, Spelling.fractionDigits, Digits.append]
    rw [hdecimal, Decimal.units_mul_pow, add_zero]

/-- Positional notation spells the digits with the point at its position. -/
theorem spelled_plain (point : ℤ) :
    Spelled (display.plain digits point) ⟨decimalValue digits, point - digits.1.length⟩ := by
  unfold plain
  split
  · next hpoint =>
    have h := spelled_zeros_digits digits (-point).toNat
    have hexponent : -(((-point).toNat : ℤ) + digits.1.length) = point - digits.1.length := by omega
    rwa [hexponent] at h
  · next hpoint =>
    obtain ⟨k, rfl⟩ := Int.eq_ofNat_of_zero_le (not_le.mp hpoint).le
    rw [Int.toNat_natCast]
    split
    · next hlength => exact spelled_point digits hdigits (by omega) hlength
    · next hlength =>
      have h := spelled_digits_zeros digits hdigits (k - digits.1.length)
      have hexponent : ((k - digits.1.length : ℕ) : ℤ) = k - digits.1.length := by omega
      rw [hexponent] at h
      simpa [display] using h

/-- So does notation with an exponent. -/
theorem spelled_scientific (point : ℤ) :
    Spelled (scientific digits point) ⟨decimalValue digits, point - digits.1.length⟩ := by
  obtain ⟨d, rest, hcons⟩ := List.exists_cons_of_ne_nil hdigits
  obtain ⟨e, hvalue, htext⟩ := Exponent.exists_text (point - 1)
  let s : Spelling :=
    ⟨⟨[d], fun c hc => digits.2 c (by simp_all)⟩,
      if rest = [] then none else some ⟨rest, fun c hc => digits.2 c (by simp_all)⟩,
      some e, by simp⟩
  have hfraction : s.fractionDigits = rest := by
    cases rest <;> simp [s, Spelling.fractionDigits]
  refine Spelled.of_decimal (s := s) (by simp [s]) ?_ ?_ ?_
  · unfold scientific
    dsimp only
    rw [← htext, hcons]
    cases rest <;> simp [s, Spelling.text, Spelling.mantissa, Spelling.fractionText,
      Spelling.exponentText]
  · rw [Spelling.decimal, hfraction, hcons]
    rfl
  · have hvalue : s.exponent.elim 0 Exponent.value = point - 1 := hvalue
    rw [Spelling.decimal, hfraction, hvalue, hcons, List.length_cons]
    push_cast
    ring

end Notations

/-- The fewest digits are what is written. -/
theorem spelled_magnitude {m : Magnitude} (hm : m.significand ≠ 0) :
    Spelled (display.magnitude m) (m.shortest .up) := by
  have hmagnitude : display.magnitude m =
      let digits := Digits.ofNat (m.shortest .up).digits
      let point := digits.1.length + (m.shortest .up).exponent
      if -5 ≤ point ∧ point ≤ 21 then display.plain digits point else scientific digits point :=
    if_neg hm
  rw [hmagnitude]
  generalize m.shortest .up = d
  have hdigits := Digits.ofNat_ne_nil d.digits
  let point := (Digits.ofNat d.digits).1.length + d.exponent
  have hdecimal : (⟨decimalValue (Digits.ofNat d.digits),
      point - (Digits.ofNat d.digits).1.length⟩ : Decimal) = d := by
    rw [Digits.decimalValue_ofNat, add_sub_cancel_left]
  have hplain := spelled_plain _ hdigits point
  have hscientific := spelled_scientific _ hdigits point
  rw [hdecimal] at hplain hscientific
  dsimp only
  split
  · exact hplain
  · exact hscientific

/-- **A written magnitude is a number literal**, which is read as the magnitude with either sign. -/
theorem exists_spelling (m : Magnitude) :
    ∃ s : Spelling, s.whole.1 ≠ [] ∧ s.text = display.magnitude m ∧
      ∀ negative, s.decimal.toBinary64 negative = .finite negative m := by
  by_cases hm : m.significand = 0
  · obtain rfl := Magnitude.eq_zero hm
    refine ⟨⟨⟨['0'], by decide⟩, none, none, by decide⟩, by decide, rfl, fun negative => ?_⟩
    cases negative <;> rfl
  · obtain ⟨s, hwhole, htext, hunits⟩ := spelled_magnitude hm
    refine ⟨s, hwhole, htext, Decimal.toBinary64_of_near hm ?_⟩
    rw [hunits]
    exact Magnitude.near_shortest hm .up

end Layout

/-! ## 5. Numbers -/

theorem Binary64.isZero_finite (negative : Bool) (m : Magnitude) :
    (Binary64.finite negative m).isZero = (m.significand == 0) := by
  have hzero : (Binary64.finite negative m).isZero = (Binary64.signedUnits negative m == 0) := rfl
  rw [hzero, Bool.eq_iff_iff, beq_iff_eq, beq_iff_eq, ← Magnitude.units_eq_zero_iff,
    Binary64.signedUnits]
  split <;> omega

/-- The number as it is read back from its text: both zeros have one text. -/
def Binary64.readBack (n : Binary64) : Binary64 := if n.isZero then .zero else n

namespace Number

theorem format_readBack (n : Binary64) : format n.readBack = format n := by
  cases n with
  | nan => rfl
  | infinite negative => cases negative <;> rfl
  | finite negative m =>
    rw [Binary64.readBack, Binary64.isZero_finite]
    by_cases hm : m.significand = 0
    · obtain rfl := Magnitude.eq_zero hm
      cases negative <;> rfl
    · simp [hm]

/-- **Every number is read back from its text**, a negative zero as zero. -/
theorem lenient?_format {n : Binary64} (h : n.isNaN = false) :
    lenient? (format n) = some n.readBack := by
  cases n with
  | nan => exact absurd h (by decide)
  | infinite negative => cases negative <;> rfl
  | finite negative m =>
    obtain ⟨s, -, htext, hvalue⟩ := Layout.exists_spelling m
    rw [Binary64.readBack, Binary64.isZero_finite, format, ← htext]
    by_cases hm : m.significand = 0
    · obtain rfl := Magnitude.eq_zero hm
      have hread := s.lenient?_signed false
      rw [hvalue] at hread
      simpa [hm, Binary64.zero] using hread
    · have hread := s.lenient?_signed negative
      rw [hvalue] at hread
      simpa [hm] using hread

/-- So the number that is read back is written as it would be shown. -/
theorem lenient?_format_readBack {n : Binary64} (h : n.isNaN = false) :
    lenient? (format n.readBack) = some n.readBack := by
  rw [format_readBack, lenient?_format h]

/-- What the text of a number begins with. -/
theorem head?_format_ne (n : Binary64) {c : Char} (hdigit : Text.isAsciiDigit c = false)
    (hother : c ∉ ['.', '-', 'I', 'N']) : (format n).head? ≠ some c := by
  simp only [List.mem_cons, List.not_mem_nil, or_false, not_or] at hother
  obtain ⟨hpoint, hminus, hinfinity, hnan⟩ := hother
  cases n with
  | nan => simpa [format] using Ne.symm hnan
  | infinite negative => cases negative <;> simp [format, Ne.symm hminus, Ne.symm hinfinity]
  | finite negative m =>
    obtain ⟨s, -, htext, -⟩ := Layout.exists_spelling m
    rw [format, ← htext]
    split
    · simpa using Ne.symm hminus
    · exact s.head?_text_ne hdigit hpoint

end Number

end FormLogic
