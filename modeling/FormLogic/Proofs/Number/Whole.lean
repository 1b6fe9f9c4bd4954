import FormLogic.Proofs.Value.Output

/-!
# Whole numbers

The integers up to `2^53` in size are numbers themselves (`Binary64.exact_of_le`), and the floor of
any number is one, whatever its size (`Binary64.exists_floor`).  Among integers the operations on
numbers are those on integers: the floor changes nothing, cutting the fraction off gives the integer
back, comparisons are its comparisons, and a sum of up to `2^53` in size is exact
(`Binary64.IsInt.add`).
-/

namespace FormLogic.Binary64

/-! ## 1. Integers that are numbers -/

/-- **A natural number that is not rounded**: some magnitude has its units. -/
def Exact (n : ℕ) : Prop := ∃ m : Magnitude, m.units = n * unitsPerOne

/-- A natural number is exact when its units have 53 binary digits before some zeros. -/
theorem exact_of_parts {n significand : ℕ} (exponent : ℕ) (hlower : 2 ^ 52 ≤ significand)
    (hupper : significand < 2 ^ 53) (hexponent : exponent ≤ 2045)
    (hunits : significand * 2 ^ exponent = n * unitsPerOne) : Exact n :=
  ⟨⟨significand, exponent, hupper, .inr hlower, hexponent⟩, (Nat.shiftLeft_eq ..).trans hunits⟩

/-- **Natural numbers up to `2^53` are exact.** -/
theorem exact_of_le {n : ℕ} (hn : n ≤ 2 ^ 53) : Exact n := by
  obtain ⟨k, hone, hk⟩ := exists_unitsPerOne_eq
  by_cases hzero : n = 0
  · exact ⟨.zero, by rw [hzero, Nat.zero_mul]; rfl⟩
  rcases Nat.lt_or_eq_of_le hn with hlt | rfl
  · -- doubled as often as the number has binary digits less than 53
    have hdigits : n.log2 < 53 := (Nat.log2_lt hzero).mpr hlt
    have hsplit : (2 : ℕ) ^ n.log2 * 2 ^ (52 - n.log2) = 2 ^ 52 := by
      rw [← Nat.pow_add, Nat.add_sub_cancel' (by omega)]
    have hlower := Nat.mul_le_mul_right (2 ^ (52 - n.log2)) (Nat.log2_self_le hzero)
    have hupper := Nat.mul_lt_mul_of_pos_right (Nat.lt_log2_self (n := n))
      (Nat.two_pow_pos (52 - n.log2))
    rw [hsplit] at hlower
    rw [Nat.pow_succ, Nat.mul_right_comm, hsplit] at hupper
    refine exact_of_parts (k - (52 - n.log2)) hlower hupper (by omega) ?_
    rw [hone, Nat.mul_assoc, ← Nat.pow_add, Nat.add_sub_cancel' (by omega)]
  · refine exact_of_parts (k + 1) (Nat.le_refl _) (by decide) (by omega) ?_
    rw [hone, Nat.pow_succ]
    ring

theorem Exact.ofUnits_eq {n : ℕ} (h : Exact n) (negative : Bool) :
    ∃ m : Magnitude, m.units = n * unitsPerOne ∧
      ofUnits negative (n * unitsPerOne) 1 = .finite negative m := by
  obtain ⟨m, hm⟩ := h
  exact ⟨m, hm, by rw [← hm, m.ofUnits_units]⟩

/-- An exact number of ones is an integer. -/
theorem Exact.isInt {n : ℕ} (h : Exact n) (negative : Bool) :
    (ofUnits negative (n * unitsPerOne) 1).IsInt (signed negative n) := by
  obtain ⟨m, hm, heq⟩ := h.ofUnits_eq negative
  rw [heq]
  show some (signed negative m.units) = _
  rw [hm, signed_mul]

theorem isInt_ofNat {n : ℕ} (h : Exact n) : (ofNat n).IsInt n := h.isInt false

theorem isFinite_ofNat {n : ℕ} (h : Exact n) : (ofNat n).isFinite = true := by
  obtain ⟨m, -, heq⟩ := h.ofUnits_eq false
  rw [ofNat, heq]
  rfl

theorem isInt_ofInt {i : ℤ} (h : Exact i.natAbs) : (ofInt i).IsInt i := by
  have hsign : signed (decide (i < 0)) i.natAbs = i := by
    unfold signed
    split <;> rename_i hneg <;> simp only [decide_eq_true_eq] at hneg <;> omega
  have := h.isInt (decide (i < 0))
  rwa [hsign] at this

/-! ## 2. The floor -/

/-- The whole part of a magnitude, and one more where there is a fraction, is exact. -/
theorem exact_whole (m : Magnitude) {up : ℕ} (hup : up ≤ 1)
    (hfraction : unitsPerOne ∣ m.units → up = 0) :
    Exact (m.units / unitsPerOne + up) := by
  obtain ⟨k, hone, hk⟩ := exists_unitsPerOne_eq
  have hunits : m.units = m.significand * 2 ^ m.exponent := Nat.shiftLeft_eq ..
  by_cases hexponent : k ≤ m.exponent
  · have hdvd : unitsPerOne ∣ m.units := by
      rw [hone, hunits]
      exact Nat.dvd_mul_left_of_dvd (Nat.pow_dvd_pow 2 hexponent) _
    exact ⟨m, by rw [hfraction hdvd, Nat.add_zero, Nat.div_mul_cancel hdvd]⟩
  · have hlt : m.units < 2 ^ 53 * unitsPerOne := by
      rw [hone, hunits]
      exact Nat.mul_lt_mul_of_lt_of_le m.significand_lt
        (Nat.pow_le_pow_right Nat.two_pos (by omega)) (Nat.two_pow_pos _)
    have := Nat.div_lt_of_lt_mul (Nat.mul_comm _ _ ▸ hlt)
    exact exact_of_le (by omega)

/-- **The floor is the greatest integer that is not greater.**  It is never rounded. -/
theorem exists_floor (negative : Bool) (m : Magnitude) :
    ∃ n, (finite negative m).floor = .finite negative n ∧
      (finite negative n).IsInt (signedUnits negative m / unitsPerOne) := by
  have hsign : (unitsPerOne : ℤ).sign = 1 :=
    Int.sign_eq_one_of_pos (by exact_mod_cast unitsPerOne_pos)
  have hdvd : (unitsPerOne : ℤ) ∣ m.units ↔ m.units % unitsPerOne = 0 :=
    Int.natCast_dvd_natCast.trans Nat.dvd_iff_mod_eq_zero
  obtain ⟨up, hup, hfraction, hfloor, hquotient⟩ : ∃ up ≤ 1, (unitsPerOne ∣ m.units → up = 0) ∧
      (finite negative m).floor
        = ofUnits negative ((m.units / unitsPerOne + up) * unitsPerOne) 1 ∧
      signed negative (m.units / unitsPerOne + up) = signedUnits negative m / unitsPerOne := by
    refine ⟨_, ?_, fun hdvd => ?_, rfl, ?_⟩
    · split <;> omega
    · simp [Nat.dvd_iff_mod_eq_zero.mp hdvd]
    · cases negative with
      | false => simp [signed, signedUnits]
      | true =>
        by_cases h : m.units % unitsPerOne = 0
        · simp [signed, signedUnits, Int.neg_ediv, hdvd, h]
        · simp [signed, signedUnits, Int.neg_ediv, hdvd, hsign, h]
          omega
  have hexact := exact_whole m hup hfraction
  obtain ⟨n, -, heq⟩ := hexact.ofUnits_eq negative
  exact ⟨n, hfloor.trans heq, hquotient ▸ heq ▸ hexact.isInt negative⟩

/-! ## 3. Operations on integers -/

theorem isNaN_of_isFinite {x : Binary64} (h : x.isFinite = true) : x.isNaN = false := by
  cases x with
  | nan => cases h
  | infinite _ => rfl
  | finite _ _ => rfl

namespace IsInt

variable {x y : Binary64} {i j : ℤ}

theorem lt_iff (hx : x.IsInt i) (hy : y.IsInt j) : x.lt y = true ↔ i < j := by
  have hpos : (0 : ℤ) < unitsPerOne := by exact_mod_cast unitsPerOne_pos
  rw [lt, hx, hy]
  exact decide_eq_true_iff.trans (Int.mul_lt_mul_right hpos)

theorem le_iff (hx : x.IsInt i) (hy : y.IsInt j) : x.le y = true ↔ i ≤ j := by
  have hpos : (0 : ℤ) < unitsPerOne := by exact_mod_cast unitsPerOne_pos
  rw [le, hx, hy]
  exact decide_eq_true_iff.trans (Int.mul_le_mul_right hpos)

/-- The floor of an integer is that integer. -/
theorem floor (hx : x.IsInt i) (hfinite : x.isFinite = true) :
    x.floor.isFinite = true ∧ x.floor.IsInt i := by
  cases x with
  | nan => cases hfinite
  | infinite _ => cases hfinite
  | finite negative m =>
    obtain ⟨n, hfloor, hint⟩ := exists_floor negative m
    have hunits : signedUnits negative m = i * unitsPerOne := Option.some.inj hx
    rw [hunits, Int.mul_ediv_cancel _ (by exact_mod_cast unitsPerOne_pos.ne')] at hint
    exact ⟨hfloor ▸ rfl, hfloor ▸ hint⟩

/-- Nothing is cut off from an integer. -/
theorem truncate (hx : x.IsInt i) (hfinite : x.isFinite = true) : x.truncate = i := by
  cases x with
  | nan => cases hfinite
  | infinite _ => cases hfinite
  | finite negative m =>
    obtain ⟨hunits, hsign⟩ := isInt_finite_iff.mp hx
    show signed negative (m.units / unitsPerOne) = i
    rw [hunits, Nat.mul_div_cancel _ unitsPerOne_pos, hsign]

/-- **A sum of integers that is exact is their sum.** -/
theorem add (hx : x.IsInt i) (hy : y.IsInt j) (hxfinite : x.isFinite = true)
    (hyfinite : y.isFinite = true) (hexact : Exact (i + j).natAbs) : (x.add y).IsInt (i + j) := by
  cases x with
  | nan => cases hxfinite
  | infinite _ => cases hxfinite
  | finite s m =>
    cases y with
    | nan => cases hyfinite
    | infinite _ => cases hyfinite
    | finite t n =>
      have hpos : (0 : ℤ) < unitsPerOne := by exact_mod_cast unitsPerOne_pos
      have hsum : signedUnits s m + signedUnits t n = (i + j) * unitsPerOne := by
        rw [Option.some.inj hx, Option.some.inj hy, Int.add_mul]
      have hnegative : (i + j) * unitsPerOne < 0 ↔ i + j < 0 := by
        rw [Int.mul_neg_iff]
        omega
      have hadd : (finite s m).add (finite t n)
          = ofUnits (decide (i + j < 0) || (i + j == 0 && s && t))
              ((i + j).natAbs * unitsPerOne) 1 := by
        have hzero : ((i + j) * unitsPerOne == 0) = (i + j == 0) := by
          rw [Bool.eq_iff_iff, beq_iff_eq, beq_iff_eq, Int.mul_eq_zero]
          omega
        rw [Binary64.add, hsum, hzero, decide_eq_decide.mpr hnegative, Int.natAbs_mul,
          Int.natAbs_natCast]
      -- the sign is that of the sum, and does not matter for zero
      have hsign : signed (decide (i + j < 0) || (i + j == 0 && s && t)) (i + j).natAbs
          = i + j := by
        rcases Int.lt_trichotomy (i + j) 0 with hlt | heq | hgt
        · simp [signed, hlt, abs_of_neg hlt]
        · simp [signed, heq]
        · simp [signed, hgt.ne', hgt.not_gt, hgt.le]
      have hint := hexact.isInt (decide (i + j < 0) || (i + j == 0 && s && t))
      rwa [hsign, ← hadd] at hint

end IsInt

/-! ## 4. Zero and the infinite numbers -/

theorem isInt_zero : zero.IsInt 0 := congrArg some (Int.zero_mul _).symm

theorem floor_zero : zero.floor = zero := by
  have hunits : Magnitude.zero.units = 0 := rfl
  have hwhole : zero.floor
      = ofUnits false (Magnitude.zero.units / unitsPerOne * unitsPerOne) 1 := rfl
  rw [hwhole, hunits, Nat.zero_div, Nat.zero_mul]
  exact Magnitude.ofUnits_units false .zero

theorem finite_lt_zero (m : Magnitude) : (finite false m).lt .zero = false := by
  have hrank : (finite false m).rank? = some (m.units : ℤ) := rfl
  have hzero : zero.rank? = some 0 := rfl
  rw [lt, hrank, hzero]
  exact decide_eq_false (by omega)

theorem infinite_lt_zero (negative : Bool) : (infinite negative).lt .zero = negative := by
  cases negative <;> rfl

theorem ofUnits_lt_zero (num den : ℕ) : (ofUnits false num den).lt .zero = false := by
  unfold ofUnits
  split
  · exact finite_lt_zero _
  · exact infinite_lt_zero false

theorem units_lt_shift (m : Magnitude) {n : ℕ} (h : 2098 ≤ n) : m.units < 1 <<< n := by
  have hexponent := m.exponent_le
  calc m.units
      = m.significand * 2 ^ m.exponent := Nat.shiftLeft_eq ..
    _ < 2 ^ 53 * 2 ^ m.exponent := Nat.mul_lt_mul_of_pos_right m.significand_lt (Nat.two_pow_pos _)
    _ = 2 ^ (53 + m.exponent) := (Nat.pow_add ..).symm
    _ ≤ 2 ^ n := Nat.pow_le_pow_right Nat.two_pos (by omega)
    _ = 1 <<< n := (Nat.one_shiftLeft n).symm

/-- Every finite number is below the infinite one. -/
theorem finite_lt_infinite (negative : Bool) (m : Magnitude) :
    (finite negative m).lt (.infinite false) = true := by
  obtain ⟨n, hrank, hlarge⟩ : ∃ n : ℕ, (infinite false).rank? = some (n : ℤ) ∧ m.units < n :=
    ⟨_, rfl, units_lt_shift m (by decide)⟩
  have hle : signedUnits negative m ≤ m.units := by
    unfold signedUnits
    split <;> omega
  rw [lt, hrank]
  exact decide_eq_true (by omega)

end FormLogic.Binary64
