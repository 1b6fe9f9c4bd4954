import FormLogic.Proofs.Number.Nearest

/-!
# Rounding is to the nearest number

`Nearest` says which numbers are near a magnitude, and that all of them are rounded to it.  Rounding
answers with nothing else: what it gives is near the quotient (`Magnitude.near_of_round?`), and it
gives nothing only to a quotient that lies beyond the greatest magnitude.  So a decimal fraction and
a natural number are read as the one number that is nearest to them (`Decimal.nearest_toBinary64`,
`Binary64.nearest_ofNat`, `Binary64.Nearest.unique`).
-/

namespace FormLogic

namespace Magnitude

/-! ## 1. Rounding a quotient -/

/-- **The natural number that a quotient is taken to is nearest to it**, and a tie goes to the even
one. -/
theorem roundQuotient_spec (num : ℕ) {den : ℕ} (hden : 0 < den) :
    2 * (roundQuotient num den * den) ≤ 2 * num + den ∧
    2 * num ≤ 2 * (roundQuotient num den * den) + den ∧
    (roundQuotient num den % 2 = 1 →
      2 * (roundQuotient num den * den) < 2 * num + den ∧
      2 * num < 2 * (roundQuotient num den * den) + den) := by
  have hnum : den * (num / den) + num % den = num := Nat.div_add_mod num den
  have hrest : num % den < den := Nat.mod_lt num hden
  unfold roundQuotient
  generalize num / den = whole, num % den = rest at *
  rw [Nat.mul_comm] at hnum
  dsimp only
  split
  · omega
  · split
    · rw [Nat.add_mul]
      omega
    · rcases Nat.mod_two_eq_zero_or_one whole with heven | hodd
      · rw [heven, Nat.add_zero]
        omega
      · rw [hodd, Nat.add_mul]
        omega

/-- Every quotient has an exponent to be rounded with. -/
theorem exists_round?_eq (num : ℕ) {den : ℕ} (hden : 0 < den) :
    ∃ e, (e = 0 ∨ 2 ^ 52 * (2 ^ e * den) ≤ num) ∧ num < 2 ^ 53 * (2 ^ e * den) ∧
      round? num den =
        if roundQuotient num (2 ^ e * den) < 1 <<< 53 then
          ofParts? (roundQuotient num (2 ^ e * den)) e
        else
          ofParts? (1 <<< 52) (e + 1) := by
  let e := (num / den).log2 - 52
  have hlower : e = 0 ∨ 2 ^ 52 * (2 ^ e * den) ≤ num := by
    rcases Nat.lt_or_ge (num / den).log2 53 with hsmall | hlarge
    · exact .inl (by omega)
    · have hne : num / den ≠ 0 := by
        intro hzero
        rw [hzero] at hlarge
        exact absurd hlarge (by decide)
      have hlog : 52 + e ≤ (num / den).log2 := by omega
      have hpow := (Nat.le_log2 hne).mp hlog
      rw [Nat.le_div_iff_mul_le hden, pow_add, mul_assoc] at hpow
      exact .inr hpow
  have hupper : num < 2 ^ 53 * (2 ^ e * den) := by
    have hlog : num / den < 2 ^ ((num / den).log2 + 1) := Nat.lt_log2_self
    have hpow := hlog.trans_le (Nat.pow_le_pow_right Nat.two_pos
      (by omega : (num / den).log2 + 1 ≤ 53 + e))
    rwa [Nat.div_lt_iff_lt_mul hden, pow_add, mul_assoc] at hpow
  exact ⟨e, hlower, hupper, round?_eq hden hlower hupper⟩

theorem parts_of_ofParts? {significand exponent : ℕ} {m : Magnitude}
    (h : ofParts? significand exponent = some m) :
    m.significand = significand ∧ m.exponent = exponent := by
  unfold ofParts? at h
  split at h
  · obtain rfl := Option.some.inj h
    exact ⟨rfl, rfl⟩
  · cases h

/-- **What a quotient is rounded to is near it.** -/
theorem near_of_round? {m : Magnitude} {num den : ℕ} (hden : 0 < den)
    (h : round? num den = some m) : m.Near (num / den) := by
  obtain ⟨e, hlower, hupper, hround⟩ := exists_round?_eq num hden
  have hstep : 0 < 2 ^ e * den := Nat.mul_pos (Nat.two_pow_pos _) hden
  obtain ⟨hle, hge, hodd⟩ := roundQuotient_spec num hstep
  rw [hround] at h
  rw [near_div_iff hden]
  generalize roundQuotient num (2 ^ e * den) = q at *
  split at h
  · obtain ⟨hsignificand, hexponent⟩ := parts_of_ofParts? h
    rw [hsignificand, hexponent]
    by_cases hleast : q = 1 <<< 52 ∧ e ≠ 0
    · -- above a power of two the quotient is not below the magnitude
      have hdown : m.down = 1 := if_pos (by rwa [hsignificand, hexponent])
      have hquotient := hlower.resolve_left hleast.2
      rw [hdown, hleast.1]
      rw [hleast.1] at hge
      omega
    · have hdown : m.down = 2 := if_neg (by rwa [hsignificand, hexponent])
      rw [hdown]
      omega
  · -- a step above the greatest significand stands the least one of the next exponent
    next hcarry =>
    obtain ⟨hsignificand, hexponent⟩ := parts_of_ofParts? h
    have hq : q * (2 ^ e * den) = 2 ^ 53 * (2 ^ e * den) := by
      have hq : q ≤ 2 ^ 53 := by
        by_contra hlt
        have hmul := Nat.mul_le_mul_right (2 ^ e * den) (Nat.lt_of_not_le hlt)
        rw [Nat.succ_mul] at hmul
        omega
      rw [Nat.le_antisymm hq (Nat.not_lt.mp hcarry)]
    have hdown : m.down = 1 := if_pos ⟨hsignificand, by omega⟩
    have hdouble : 2 ^ (e + 1) * den = 2 * (2 ^ e * den) := by
      rw [pow_succ]
      ring
    rw [hsignificand, hexponent, hdown, hdouble]
    omega

/-! ## 2. The greatest magnitude -/

/-- The greatest magnitude. -/
def largest : Magnitude := ⟨1 <<< 53 - 1, 2045, by decide, by decide, by decide⟩

theorem lt_of_ofParts?_eq_none {significand exponent : ℕ} (h : ofParts? significand exponent = none)
    (hlt : significand < 1 <<< 53) (hnormal : exponent = 0 ∨ 1 <<< 52 ≤ significand) :
    largest.exponent < exponent := by
  unfold ofParts? at h
  split at h
  · cases h
  · next hparts => exact Nat.lt_of_not_le fun hle => hparts ⟨hlt, hnormal, hle⟩

/-- **Only a quotient beyond the greatest magnitude is not rounded.** -/
theorem upperEnd_le_of_round?_eq_none {num den : ℕ} (hden : 0 < den)
    (h : round? num den = none) : largest.upperEnd ≤ num / den := by
  obtain ⟨e, hlower, hupper, hround⟩ := exists_round?_eq num hden
  have hstep : 0 < 2 ^ e * den := Nat.mul_pos (Nat.two_pow_pos _) hden
  obtain ⟨hle, hge, -⟩ := roundQuotient_spec num hstep
  have hden' : (0 : ℚ) < den := by exact_mod_cast hden
  have hbound :
      2 ^ 55 * (2 ^ largest.exponent * den) ≤ 4 * num + 2 * (2 ^ largest.exponent * den) := by
    rw [hround] at h
    generalize roundQuotient num (2 ^ e * den) = q at *
    split at h
    · next hlt =>
      have hnormal : e = 0 ∨ 1 <<< 52 ≤ q := by
        refine hlower.imp_right fun hquotient => Nat.le_of_not_lt fun hq => ?_
        have hmul := Nat.mul_le_mul_right (2 ^ e * den) (Nat.succ_le_of_lt hq)
        rw [Nat.succ_mul] at hmul
        omega
      have hexponent := lt_of_ofParts?_eq_none h hlt hnormal
      have hquotient := hlower.resolve_left (by omega)
      have hpow : 2 * (2 ^ largest.exponent * den) ≤ 2 ^ e * den := by
        rw [← mul_assoc, ← pow_succ']
        exact Nat.mul_le_mul_right den (Nat.pow_le_pow_right Nat.two_pos hexponent)
      omega
    · next hcarry =>
      have hexponent := lt_of_ofParts?_eq_none h (by decide) (.inr le_rfl)
      have hpow : 2 ^ largest.exponent * den ≤ 2 ^ e * den :=
        Nat.mul_le_mul_right den (Nat.pow_le_pow_right Nat.two_pos (Nat.le_of_lt_succ hexponent))
      have hmul := Nat.mul_le_mul_right (2 ^ e * den) (Nat.le_of_not_lt hcarry)
      omega
  have hsignificand : (largest.significand : ℚ) + 1 = 2 ^ 53 := by exact_mod_cast rfl
  have hbound : (2 : ℚ) ^ 55 * (2 ^ largest.exponent * den) ≤
      4 * num + 2 * (2 ^ largest.exponent * den) := by exact_mod_cast hbound
  rw [le_div_iff₀ hden', upperEnd, eq_sub_of_add_eq hsignificand]
  linarith

theorem upperEnd_le_of_exponent_le {m : Magnitude} {exponent : ℕ} (h : m.exponent ≤ exponent) :
    m.upperEnd ≤ (4 * m.significand + 2) / 4 * 2 ^ exponent := by
  have hstep : (2 : ℚ) ^ m.exponent ≤ 2 ^ exponent := pow_le_pow_right₀ (by norm_num) h
  exact mul_le_mul_of_nonneg_left hstep (by positivity)

/-- What is near a magnitude is not beyond the greatest one. -/
theorem Near.lt_largest {m : Magnitude} {q : ℚ} (h : m.Near q) : q < largest.upperEnd := by
  have hlargest : (largest.significand : ℚ) + 1 = 2 ^ 53 := by exact_mod_cast rfl
  have hpos : (0 : ℚ) < 2 ^ largest.exponent := by positivity
  have hlt : m.significand < 2 ^ 53 := m.significand_lt
  have hexponent : m.exponent ≤ largest.exponent := m.exponent_le
  have hscale := upperEnd_le_of_exponent_le hexponent
  rcases Nat.mod_two_eq_zero_or_one m.significand with heven | hodd
  · have hbound : (m.significand : ℚ) + 2 ≤ 2 ^ 53 := by exact_mod_cast (by omega)
    refine (h.upper.trans hscale).trans_lt (mul_lt_mul_of_pos_right ?_ hpos)
    linarith
  · have hbound : (m.significand : ℚ) + 1 ≤ 2 ^ 53 := by exact_mod_cast hlt
    refine (h.strict hodd).2.trans_le (hscale.trans (mul_le_mul_of_nonneg_right ?_ hpos.le))
    linarith

/-- **No quantity is near two magnitudes.** -/
theorem Near.unique {m m' : Magnitude} {q : ℚ} (hq : 0 ≤ q) (h : m.Near q) (h' : m'.Near q) :
    m = m' := by
  have hquotient : q = (q.num.toNat : ℚ) / (q.den : ℚ) := by
    have hnum : ((q.num.toNat : ℤ) : ℚ) = q.num := by
      rw [Int.toNat_of_nonneg (Rat.num_nonneg.mpr hq)]
    rw [← Int.cast_natCast, hnum, Rat.num_div_den]
  rw [hquotient] at h h'
  exact Option.some.inj ((round?_of_near q.den_pos h).symm.trans (round?_of_near q.den_pos h'))

/-- Half a unit is not more than zero. -/
theorem near_zero {q : ℚ} (hnonneg : 0 ≤ q) (hhalf : q ≤ 1 / 2) : zero.Near q := by
  have hdown : (0 : ℚ) ≤ zero.down := Nat.cast_nonneg _
  have hsignificand : (zero.significand : ℚ) = 0 := by exact_mod_cast rfl
  refine ⟨?_, ?_, fun hodd => absurd hodd (by decide)⟩
  · have hexponent : zero.exponent = 0 := rfl
    rw [lowerEnd, hsignificand, hexponent]
    linarith
  · have hexponent : zero.exponent = 0 := rfl
    rw [upperEnd, hsignificand, hexponent]
    linarith

end Magnitude

/-! ## 3. The nearest number -/

namespace Binary64

/-- **The number that is nearest** to a quantity of units with a sign: a finite one whose magnitude
it is near, or the infinite one when it lies beyond all of these. -/
inductive Nearest (negative : Bool) (q : ℚ) : Binary64 → Prop where
  | finite {m : Magnitude} (near : m.Near q) : Nearest negative q (.finite negative m)
  | infinite (beyond : Magnitude.largest.upperEnd ≤ q) : Nearest negative q (.infinite negative)

/-- **There is one nearest number.** -/
theorem Nearest.unique {negative : Bool} {q : ℚ} (hq : 0 ≤ q) {x y : Binary64}
    (hx : Nearest negative q x) (hy : Nearest negative q y) : x = y := by
  cases hx with
  | finite hnear =>
    cases hy with
    | finite hnear' => rw [hnear.unique hq hnear']
    | infinite hbeyond => exact absurd hnear.lt_largest (not_lt.mpr hbeyond)
  | infinite hbeyond =>
    cases hy with
    | finite hnear => exact absurd hnear.lt_largest (not_lt.mpr hbeyond)
    | infinite _ => rfl

theorem nearest_ofUnits (negative : Bool) (num : ℕ) {den : ℕ} (hden : 0 < den) :
    Nearest negative (num / den) (ofUnits negative num den) := by
  unfold ofUnits
  cases hround : Magnitude.round? num den with
  | some m => exact .finite (Magnitude.near_of_round? hden hround)
  | none => exact .infinite (Magnitude.upperEnd_le_of_round?_eq_none hden hround)

/-- A natural number is rounded to the nearest number. -/
theorem nearest_ofNat (n : ℕ) : Nearest false (n * unitsPerOne) (ofNat n) := by
  have h := nearest_ofUnits false (n * unitsPerOne) Nat.one_pos
  rwa [Nat.cast_mul, Nat.cast_one, div_one] at h

end Binary64

namespace Decimal

theorem units_nonneg (d : Decimal) : 0 ≤ d.units := by
  unfold units
  positivity

/-- **A decimal fraction is read as the nearest number**, whatever its exponent is. -/
theorem nearest_toBinary64 (negative : Bool) (d : Decimal) :
    Binary64.Nearest negative d.units (d.toBinary64 negative) := by
  unfold toBinary64
  split
  · next hdigits =>
    have hunits : d.units = 0 := by rw [units, hdigits, Nat.cast_zero, zero_mul, zero_mul]
    rw [hunits]
    exact .finite (Magnitude.near_zero le_rfl (by norm_num))
  · next hdigits =>
    split
    · next hlarge => exact .infinite (upperEnd_lt_units hdigits hlarge _).le
    split
    · next hsmall => exact .finite (Magnitude.near_zero d.units_nonneg (units_lt_half hsmall).le)
    split
    · next hexponent =>
      rw [units_of_nonneg hexponent]
      exact Binary64.nearest_ofUnits negative _ Nat.one_pos
    · next hexponent =>
      rw [units_of_neg (not_le.mp hexponent)]
      exact Binary64.nearest_ofUnits negative _ (Nat.pow_pos (by decide))

end Decimal

end FormLogic
