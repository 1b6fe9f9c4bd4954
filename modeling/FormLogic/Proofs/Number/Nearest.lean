import FormLogic.Number.Decimal
import Mathlib.Algebra.Order.Field.Power
import Mathlib.Algebra.Order.Ring.Rat
import Mathlib.Tactic.FieldSimp
import Mathlib.Tactic.Linarith
import Mathlib.Tactic.NormNum
import Mathlib.Tactic.Positivity
import Mathlib.Tactic.Ring

/-!
# The nearest number

Which numbers are rounded to a magnitude: those between the points halfway to its neighbours, the
points themselves included when its significand is even (`Magnitude.Near`).  Rounding a quotient
of natural numbers takes every such quotient to the magnitude (`round?_of_near`), and so does
reading a decimal fraction, for every exponent (`Decimal.toBinary64_of_near`).
-/

namespace FormLogic

/-- One is a power of two, with an exponent that no tactic should take for a small number. -/
theorem Binary64.exists_unitsPerOne_eq : ∃ k, unitsPerOne = 2 ^ k ∧ k = 1074 := by
  have hshift : ∀ n : ℕ, ∃ k, 1 <<< n = 2 ^ k ∧ k = n := fun n => ⟨n, Nat.one_shiftLeft n, rfl⟩
  exact hshift 1074

theorem Binary64.unitsPerOne_pos : 0 < unitsPerOne := by
  obtain ⟨k, hunits, -⟩ := exists_unitsPerOne_eq
  rw [hunits]
  exact Nat.two_pow_pos k

namespace Magnitude

/-! ## 1. What is near a magnitude -/

/-- The way down to the point halfway to the next magnitude, in quarters of a step: half a step, but
just above a power of two the steps below are half as long. -/
def down (m : Magnitude) : ℕ := if m.significand = 1 <<< 52 ∧ m.exponent ≠ 0 then 1 else 2

/-- The least number of units that is not farther from a smaller magnitude. -/
def lowerEnd (m : Magnitude) : ℚ := (4 * m.significand - m.down) / 4 * 2 ^ m.exponent

/-- The greatest number of units that is not farther from a greater magnitude. -/
def upperEnd (m : Magnitude) : ℚ := (4 * m.significand + 2) / 4 * 2 ^ m.exponent

/-- **A number of units is rounded to the magnitude**: it is not nearer to another one, and a tie
goes to an even significand. -/
structure Near (m : Magnitude) (q : ℚ) : Prop where
  lower : m.lowerEnd ≤ q
  upper : q ≤ m.upperEnd
  strict : m.significand % 2 = 1 → m.lowerEnd < q ∧ q < m.upperEnd

theorem down_le (m : Magnitude) : m.down ≤ 2 := by
  unfold down
  split <;> omega

theorem half_le_lowerEnd {m : Magnitude} (hm : m.significand ≠ 0) : 1 / 2 ≤ m.lowerEnd := by
  have hdown : (m.down : ℚ) ≤ 2 := by exact_mod_cast m.down_le
  have hsignificand : (1 : ℚ) ≤ m.significand := by exact_mod_cast Nat.one_le_iff_ne_zero.mpr hm
  have hpow : (1 : ℚ) ≤ 2 ^ m.exponent := one_le_pow₀ (by norm_num)
  calc (1 : ℚ) / 2 ≤ (4 * m.significand - m.down) / 4 * 1 := by linarith
    _ ≤ m.lowerEnd := by
      unfold lowerEnd
      gcongr
      linarith

theorem upperEnd_lt (m : Magnitude) : m.upperEnd < 2 ^ 53 * 2 ^ m.exponent := by
  have hsignificand : (m.significand : ℚ) + 1 ≤ 2 ^ 53 := by exact_mod_cast m.significand_lt
  have hstep : (0 : ℚ) < 2 ^ m.exponent := by positivity
  exact mul_lt_mul_of_pos_right (by linarith) hstep

/-! ## 2. Rounding a quotient -/

/-- **The nearest natural number of a quotient**: no other one is nearer, and a tie goes to the even
one. -/
theorem roundQuotient_eq {num den q : ℕ} (hden : 0 < den)
    (hlower : 2 * (q * den) ≤ 2 * num + den) (hupper : 2 * num ≤ 2 * (q * den) + den)
    (hodd : q % 2 = 1 → 2 * (q * den) < 2 * num + den ∧ 2 * num < 2 * (q * den) + den) :
    roundQuotient num den = q := by
  have hnum : den * (num / den) + num % den = num := Nat.div_add_mod num den
  have hrest : num % den < den := Nat.mod_lt num hden
  unfold roundQuotient
  generalize num / den = whole, num % den = rest at *
  rw [Nat.mul_comm] at hnum
  obtain rfl | rfl : q = whole ∨ q = whole + 1 := by
    rcases Nat.lt_or_ge q whole with hlt | hge
    · have hmul : (q + 1) * den ≤ whole * den := Nat.mul_le_mul_right den hlt
      rw [Nat.add_mul] at hmul
      omega
    · rcases Nat.lt_or_ge (whole + 1) q with hlt | hle
      · have hmul : (whole + 2) * den ≤ q * den := Nat.mul_le_mul_right den hlt
        rw [Nat.add_mul] at hmul
        omega
      · omega
  · dsimp only
    split
    · rfl
    · rw [if_neg (by omega)]
      have heven : q % 2 ≠ 1 := fun h => by have := hodd h; omega
      omega
  · rw [Nat.add_mul] at hlower hupper hodd
    dsimp only
    split
    · omega
    · split
      · rfl
      · have heven : (whole + 1) % 2 ≠ 1 := fun h => by have := hodd h; omega
        omega

/-- The exponent that rounding chooses: the quotient has 53 binary digits then, or fewer at the
least exponent. -/
theorem log2_sub_eq {quotient e : ℕ} (hlower : e = 0 ∨ 2 ^ (52 + e) ≤ quotient)
    (hupper : quotient < 2 ^ (53 + e)) : quotient.log2 - 52 = e := by
  rcases Nat.eq_zero_or_pos quotient with rfl | hpos
  · rcases hlower with rfl | hlower
    · rfl
    · exact absurd hlower (Nat.not_le.mpr (Nat.two_pow_pos _))
  · have hlog := (Nat.log2_lt hpos.ne').mpr hupper
    rcases hlower with rfl | hlower
    · omega
    · have := (Nat.le_log2 hpos.ne').mpr hlower
      omega

/-- The parts of a magnitude make it up. -/
theorem ofParts?_self (m : Magnitude) : ofParts? m.significand m.exponent = some m := by
  unfold ofParts?
  rw [dif_pos ⟨m.significand_lt, m.normal, m.exponent_le⟩]

/-- What is near a magnitude, said of natural numbers. -/
theorem near_div_iff {m : Magnitude} {num den : ℕ} (hden : 0 < den) : m.Near (num / den) ↔
    4 * (m.significand * (2 ^ m.exponent * den)) ≤ 4 * num + m.down * (2 ^ m.exponent * den) ∧
    4 * num ≤ 4 * (m.significand * (2 ^ m.exponent * den)) + 2 * (2 ^ m.exponent * den) ∧
    (m.significand % 2 = 1 →
      4 * (m.significand * (2 ^ m.exponent * den)) < 4 * num + m.down * (2 ^ m.exponent * den) ∧
      4 * num < 4 * (m.significand * (2 ^ m.exponent * den)) + 2 * (2 ^ m.exponent * den)) := by
  have hden' : (0 : ℚ) < den := by exact_mod_cast hden
  have hlower : m.lowerEnd * den * 4 =
      4 * (m.significand * (2 ^ m.exponent * den)) - m.down * (2 ^ m.exponent * den) := by
    unfold lowerEnd
    ring
  have hupper : m.upperEnd * den * 4 =
      4 * (m.significand * (2 ^ m.exponent * den)) + 2 * (2 ^ m.exponent * den) := by
    unfold upperEnd
    ring
  have hle : m.lowerEnd ≤ num / den ↔ (4 : ℚ) * (m.significand * (2 ^ m.exponent * den)) ≤
      4 * num + m.down * (2 ^ m.exponent * den) := by
    rw [le_div_iff₀ hden']
    constructor <;> intro h <;> linarith
  have hge : num / den ≤ m.upperEnd ↔
      (4 : ℚ) * num ≤
        4 * (m.significand * (2 ^ m.exponent * den)) + 2 * (2 ^ m.exponent * den) := by
    rw [div_le_iff₀ hden']
    constructor <;> intro h <;> linarith
  have hlt : m.lowerEnd < num / den ↔ (4 : ℚ) * (m.significand * (2 ^ m.exponent * den)) <
      4 * num + m.down * (2 ^ m.exponent * den) := by
    rw [lt_div_iff₀ hden']
    constructor <;> intro h <;> linarith
  have hgt : num / den < m.upperEnd ↔
      (4 : ℚ) * num <
        4 * (m.significand * (2 ^ m.exponent * den)) + 2 * (2 ^ m.exponent * den) := by
    rw [div_lt_iff₀ hden']
    constructor <;> intro h <;> linarith
  have hnear : m.Near (num / den) ↔ m.lowerEnd ≤ num / den ∧ num / den ≤ m.upperEnd ∧
      (m.significand % 2 = 1 → m.lowerEnd < num / den ∧ num / den < m.upperEnd) :=
    ⟨fun h => ⟨h.lower, h.upper, h.strict⟩, fun ⟨hl, hu, hs⟩ => ⟨hl, hu, hs⟩⟩
  rw [hnear, hle, hge, hlt, hgt]
  exact_mod_cast Iff.rfl

/-- Rounding with the exponent that the quotient calls for. -/
theorem round?_eq {num den e : ℕ} (hden : 0 < den) (hlower : e = 0 ∨ 2 ^ 52 * (2 ^ e * den) ≤ num)
    (hupper : num < 2 ^ 53 * (2 ^ e * den)) :
    round? num den =
      if roundQuotient num (2 ^ e * den) < 1 <<< 53 then
        ofParts? (roundQuotient num (2 ^ e * den)) e
      else
        ofParts? (1 <<< 52) (e + 1) := by
  have hexponent : (num / den).log2 - 52 = e := by
    refine log2_sub_eq (hlower.imp_right fun h => ?_) ?_
    · rw [Nat.le_div_iff_mul_le hden, pow_add, mul_assoc]
      exact h
    · rw [Nat.div_lt_iff_lt_mul hden, pow_add, mul_assoc]
      exact hupper
  rw [round?, hexponent, Nat.shiftLeft_eq, mul_comm den]

/-- **Rounding takes what is near a magnitude to it.** -/
theorem round?_of_near {m : Magnitude} {num den : ℕ} (hden : 0 < den)
    (h : m.Near (num / den)) : round? num den = some m := by
  obtain ⟨hlower, hupper, hodd⟩ := (near_div_iff hden).mp h
  have hsignificand : m.significand + 1 ≤ 2 ^ 53 := m.significand_lt
  have hstep : 0 < 2 ^ m.exponent * den := Nat.mul_pos (Nat.two_pow_pos _) hden
  have hdown : m.down * (2 ^ m.exponent * den) ≤ 2 * (2 ^ m.exponent * den) :=
    Nat.mul_le_mul_right _ m.down_le
  by_cases hquotient : m.exponent = 0 ∨ 2 ^ 52 * (2 ^ m.exponent * den) ≤ num
  · have hmax := Nat.mul_le_mul_right (2 ^ m.exponent * den) hsignificand
    rw [Nat.add_mul] at hmax
    have hround : roundQuotient num (2 ^ m.exponent * den) = m.significand :=
      roundQuotient_eq hstep (by omega) (by omega) fun h => by have := hodd h; omega
    rw [round?_eq hden hquotient (by omega), hround, if_pos m.significand_lt, ofParts?_self]
  · -- below a power of two the quotient is rounded up to it, with the exponent before
    obtain ⟨hexponent, hquotient⟩ := not_or.mp hquotient
    have hleast : m.significand = 1 <<< 52 := by
      refine Nat.le_antisymm (Nat.not_lt.mp fun hlt => ?_) (m.normal.resolve_left hexponent)
      have := Nat.mul_le_mul_right (2 ^ m.exponent * den) (Nat.succ_le_of_lt hlt)
      rw [Nat.succ_mul] at this
      omega
    have hdown : m.down = 1 := if_pos ⟨hleast, hexponent⟩
    obtain ⟨e, he⟩ := Nat.exists_eq_succ_of_ne_zero hexponent
    have hdouble : 2 ^ m.exponent * den = 2 * (2 ^ e * den) := by
      rw [he, pow_succ]
      ring
    rw [hdouble, hleast, hdown] at hlower
    rw [hdouble] at hquotient
    have hround : roundQuotient num (2 ^ e * den) = 2 ^ 53 :=
      roundQuotient_eq (by omega) (by omega) (by omega) fun h => absurd h (by decide)
    have hlast : 2 ^ 52 * (2 ^ e * den) ≤ num := by omega
    rw [round?_eq hden (.inr hlast) (by omega), hround, if_neg (by decide), ← hleast,
      ← Nat.succ_eq_add_one, ← he, ofParts?_self]

theorem ofUnits_of_near {m : Magnitude} {num den : ℕ} (hden : 0 < den) (h : m.Near (num / den))
    (negative : Bool) : Binary64.ofUnits negative num den = .finite negative m := by
  unfold Binary64.ofUnits
  rw [round?_of_near hden h]

/-- A magnitude is near itself. -/
theorem near_units (m : Magnitude) : m.Near m.units := by
  have hdown : (0 : ℚ) < m.down := by
    unfold down
    split <;> norm_num
  have hunits : (m.units : ℚ) = 4 * m.significand / 4 * 2 ^ m.exponent := by
    rw [units, Nat.shiftLeft_eq]
    push_cast
    ring
  have hlower : m.lowerEnd < m.units := by
    rw [hunits, lowerEnd]
    gcongr
    linarith
  have hupper : (m.units : ℚ) < m.upperEnd := by
    rw [hunits, upperEnd]
    gcongr
    linarith
  exact ⟨hlower.le, hupper.le, fun _ => ⟨hlower, hupper⟩⟩

/-- **What is a magnitude already is not rounded.** -/
theorem ofUnits_units (negative : Bool) (m : Magnitude) :
    Binary64.ofUnits negative m.units 1 = .finite negative m :=
  ofUnits_of_near Nat.one_pos (by rw [Nat.cast_one, div_one]; exact m.near_units) negative

end Magnitude

/-! ## 3. Reading a decimal fraction -/

namespace Decimal

/-- The value of a decimal fraction as a number of units. -/
def units (d : Decimal) : ℚ := d.digits * 10 ^ d.exponent * Binary64.unitsPerOne

theorem units_of_nonneg {d : Decimal} (h : 0 ≤ d.exponent) :
    d.units = (d.digits * 10 ^ d.exponent.toNat * Binary64.unitsPerOne : ℕ) / (1 : ℕ) := by
  obtain ⟨k, hk⟩ := Int.eq_ofNat_of_zero_le h
  simp [units, hk]

theorem units_of_neg {d : Decimal} (h : d.exponent < 0) :
    d.units = (d.digits * Binary64.unitsPerOne : ℕ) / (10 ^ (-d.exponent).toNat : ℕ) := by
  obtain ⟨k, hk⟩ := Int.eq_ofNat_of_zero_le (Int.neg_nonneg_of_nonpos h.le)
  have hexponent : d.exponent = -k := by rw [Int.eq_neg_comm, hk]
  simp [units, hexponent, div_eq_mul_inv]
  ring

/-- A power of ten that is not computed is beyond every magnitude. -/
theorem upperEnd_lt_units {d : Decimal} (hdigits : d.digits ≠ 0) (h : 310 ≤ d.exponent)
    (m : Magnitude) : m.upperEnd < d.units := by
  obtain ⟨j, k, hbound, hj, hk⟩ : ∃ j k, 2 ^ 53 * 2 ^ j ≤ 10 ^ k * Binary64.unitsPerOne ∧
      j = 2045 ∧ k = 310 := ⟨2045, 310, by decide +kernel, rfl, rfl⟩
  have hunits : 10 ^ k * Binary64.unitsPerOne ≤
      d.digits * 10 ^ d.exponent.toNat * Binary64.unitsPerOne := by
    refine Nat.mul_le_mul_right _ ?_
    calc 10 ^ k ≤ 10 ^ d.exponent.toNat := Nat.pow_le_pow_right (by decide) (by omega)
      _ ≤ d.digits * 10 ^ d.exponent.toNat :=
        Nat.le_mul_of_pos_left _ (Nat.pos_of_ne_zero hdigits)
  have hstep : 2 ^ 53 * 2 ^ m.exponent ≤ 2 ^ 53 * 2 ^ j :=
    Nat.mul_le_mul_left _ (Nat.pow_le_pow_right (by decide) (hj ▸ m.exponent_le))
  calc m.upperEnd < 2 ^ 53 * 2 ^ m.exponent := m.upperEnd_lt
    _ ≤ (d.digits * 10 ^ d.exponent.toNat * Binary64.unitsPerOne : ℕ) := by
      exact_mod_cast hstep.trans (hbound.trans hunits)
    _ = d.units := by rw [units_of_nonneg (by omega), Nat.cast_one, div_one]

/-- What is rounded to zero without being computed is below every other magnitude. -/
theorem units_lt_half {d : Decimal} (h : (d.digits.log2 : ℤ) + 1077 < -3 * d.exponent) :
    d.units < 1 / 2 := by
  obtain ⟨k, hunits, hk⟩ := Binary64.exists_unitsPerOne_eq
  have hexponent : d.exponent < 0 := by omega
  have hnum : 2 * (d.digits * Binary64.unitsPerOne) < 10 ^ (-d.exponent).toNat :=
    calc 2 * (d.digits * Binary64.unitsPerOne)
        < 2 * (2 ^ (d.digits.log2 + 1) * Binary64.unitsPerOne) := by
          have hlog : d.digits < 2 ^ (d.digits.log2 + 1) := Nat.lt_log2_self
          exact Nat.mul_lt_mul_of_pos_left
            (Nat.mul_lt_mul_of_pos_right hlog Binary64.unitsPerOne_pos) (by decide)
      _ = 2 ^ (d.digits.log2 + 1 + k + 1) := by rw [hunits, ← pow_add, ← pow_succ']
      _ ≤ 2 ^ (3 * (-d.exponent).toNat) := Nat.pow_le_pow_right (by decide) (by omega)
      _ = 8 ^ (-d.exponent).toNat := Nat.pow_mul 2 3 _
      _ ≤ 10 ^ (-d.exponent).toNat := Nat.pow_le_pow_left (by decide) _
  have hden : (0 : ℚ) < (10 ^ (-d.exponent).toNat : ℕ) := by positivity
  have hnum : (2 : ℚ) * (d.digits * Binary64.unitsPerOne : ℕ) < (10 ^ (-d.exponent).toNat : ℕ) := by
    exact_mod_cast hnum
  rw [units_of_neg hexponent, div_lt_iff₀ hden]
  linarith

/-- **A decimal fraction is read as the magnitude that it is near.** -/
theorem toBinary64_of_near {d : Decimal} {m : Magnitude} (hm : m.significand ≠ 0)
    (h : m.Near d.units) (negative : Bool) : d.toBinary64 negative = .finite negative m := by
  have hhalf := (Magnitude.half_le_lowerEnd hm).trans h.lower
  have hdigits : d.digits ≠ 0 := by
    intro hzero
    rw [units, hzero] at hhalf
    norm_num at hhalf
  have hlarge : ¬ 310 ≤ d.exponent := fun hexponent =>
    absurd h.upper (not_le.mpr (upperEnd_lt_units hdigits hexponent m))
  have hsmall : ¬ (d.digits.log2 : ℤ) + 1077 < -3 * d.exponent := fun hexponent =>
    absurd hhalf (not_le.mpr (units_lt_half hexponent))
  rw [toBinary64, if_neg hdigits, if_neg hlarge, if_neg hsmall]
  split
  · next hexponent =>
    rw [units_of_nonneg hexponent] at h
    exact Magnitude.ofUnits_of_near Nat.one_pos h negative
  · next hexponent =>
    rw [units_of_neg (not_le.mp hexponent)] at h
    exact Magnitude.ofUnits_of_near (Nat.pow_pos (by decide)) h negative

end Decimal

end FormLogic
