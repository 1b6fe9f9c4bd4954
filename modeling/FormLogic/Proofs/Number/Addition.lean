import FormLogic.Proofs.Number.ReadBack
import FormLogic.Proofs.Number.Rounding

/-!
# Adding zeros

A sum of two numbers is rounded, so a list of numbers has different totals in different orders.  A
zero is an exception.  It changes no number it is added to but a negative zero, and it can be added
before or after another term (`Binary64.add_zero_right_comm`), so a zero anywhere among the terms of
a total may as well stand in front of them (`Binary64.foldl_add_insert_zero`).
-/

namespace FormLogic

theorem Magnitude.units_eq_zero_iff_eq_zero {m : Magnitude} : m.units = 0 ↔ m = .zero := by
  constructor
  · exact fun h => eq_zero (units_eq_zero_iff.mp h)
  · rintro rfl
    rfl

namespace Binary64

/-! ## 1. Sums of two -/

/-- No whole number of units but zero is rounded to zero. -/
theorem ofUnits_ne_zero {num : ℕ} (h : num ≠ 0) (negative s : Bool) :
    ofUnits negative num 1 ≠ .finite s .zero := by
  intro hzero
  have hnearest := nearest_ofUnits negative num Nat.one_pos
  rw [hzero] at hnearest
  cases hnearest with
  | finite hnear =>
    have hupper := hnear.upper
    have hone : (1 : ℚ) ≤ num := by exact_mod_cast Nat.one_le_iff_ne_zero.mpr h
    have hend : Magnitude.zero.upperEnd = 1 / 2 := by
      simp [Magnitude.upperEnd, Magnitude.zero]
      norm_num
    rw [hend, Nat.cast_one, div_one] at hupper
    linarith

protected theorem add_comm (a b : Binary64) : a.add b = b.add a := by
  cases a with
  | nan => cases b <;> rfl
  | infinite s =>
    cases b with
    | nan => rfl
    | infinite t => cases s <;> cases t <;> rfl
    | finite t n => rfl
  | finite s m =>
    cases b with
    | nan => rfl
    | infinite t => rfl
    | finite t n =>
      simp only [add, Int.add_comm (signedUnits s m), Bool.and_assoc, Bool.and_comm s]

/-- Adding a zero changes nothing but the sign of a negative zero. -/
theorem finite_add_zero (s t : Bool) (m : Magnitude) :
    (finite s m).add (.finite t .zero) =
      if m = .zero then .finite (s && t) .zero else .finite s m := by
  have hzero : signedUnits t .zero = 0 := by cases t <;> rfl
  simp only [add, hzero, Int.add_zero]
  split
  · next hm =>
    subst hm
    have hzero : signedUnits s .zero = 0 := by cases s <;> rfl
    rw [hzero]
    exact Magnitude.ofUnits_units (s && t) .zero
  · next hm =>
    have hunits : 0 < m.units :=
      Nat.pos_of_ne_zero (mt Magnitude.units_eq_zero_iff_eq_zero.mp hm)
    have hsign : (decide (signedUnits s m < 0) || (signedUnits s m == 0 && s && t)) = s := by
      cases s <;> simp [signedUnits, hunits]
    have hsize : (signedUnits s m).natAbs = m.units := by
      cases s <;> simp [signedUnits]
    rw [hsign, hsize]
    exact Magnitude.ofUnits_units s m

protected theorem add_zero {a : Binary64} (h : a ≠ zero.neg) : a.add .zero = a := by
  cases a with
  | nan => rfl
  | infinite s => rfl
  | finite s m =>
    rw [zero, finite_add_zero, Bool.and_false]
    split
    · next hm =>
      subst hm
      cases s
      · rfl
      · exact absurd rfl h
    · rfl

theorem add_neg_zero (a : Binary64) : a.add zero.neg = a := by
  cases a with
  | nan => rfl
  | infinite s => rfl
  | finite s m =>
    rw [zero, neg, Bool.not_false, finite_add_zero, Bool.and_true]
    split
    · next hm => rw [hm]
    · rfl

theorem zero_add_zero : zero.add .zero = .zero :=
  (finite_add_zero false false .zero).trans (if_pos rfl)

theorem neg_zero_add_zero : zero.neg.add .zero = .zero :=
  (finite_add_zero true false .zero).trans (if_pos rfl)

/-- **A sum is negative zero only when both terms are.** -/
theorem eq_neg_zero_of_add {a b : Binary64} (h : a.add b = zero.neg) :
    a = zero.neg ∧ b = zero.neg := by
  cases a with
  | nan => cases h
  | infinite s =>
    cases b with
    | nan => cases h
    | infinite t => cases s <;> cases t <;> cases h
    | finite t n => cases h
  | finite s m =>
    cases b with
    | nan => cases h
    | infinite t => cases h
    | finite t n =>
      have hsum : signedUnits s m + signedUnits t n = 0 := by
        by_contra hne
        exact ofUnits_ne_zero (Int.natAbs_ne_zero.mpr hne) _ _ h
      simp only [add, hsum] at h
      have hsign : (s && t) = true := by
        have hzero := Magnitude.ofUnits_units (s && t) .zero
        exact (Binary64.finite.inj (hzero.symm.trans h)).1
      obtain ⟨rfl, rfl⟩ := Bool.and_eq_true_iff.mp hsign
      have hunits : m.units = 0 ∧ n.units = 0 := by
        simp only [signedUnits, if_pos] at hsum
        omega
      rw [Magnitude.units_eq_zero_iff_eq_zero.mp hunits.1,
        Magnitude.units_eq_zero_iff_eq_zero.mp hunits.2]
      exact ⟨rfl, rfl⟩

/-- **A zero can be added before or after.** -/
theorem add_zero_right_comm (a b : Binary64) : (a.add b).add .zero = (a.add .zero).add b := by
  by_cases ha : a = zero.neg
  · rw [ha, neg_zero_add_zero, Binary64.add_comm zero.neg b, add_neg_zero, Binary64.add_comm]
  · rw [Binary64.add_zero ha, Binary64.add_zero fun h => ha (eq_neg_zero_of_add h).1]

/-! ## 2. Totals -/

theorem foldl_add_zero (xs : List Binary64) (a : Binary64) :
    (xs.foldl add a).add .zero = xs.foldl add (a.add .zero) := by
  induction xs generalizing a with
  | nil => rfl
  | cons x xs ih => rw [List.foldl_cons, List.foldl_cons, ih, add_zero_right_comm]

/-- **A zero among the terms** of a total may as well stand in front. -/
theorem foldl_add_insert_zero (above below : List Binary64) (a : Binary64) :
    (above ++ .zero :: below).foldl add a = (above ++ below).foldl add (a.add .zero) := by
  rw [List.foldl_append, List.foldl_cons, foldl_add_zero, ← List.foldl_append]

/-- Zero divided by a count is zero. -/
theorem zero_div_ofNat (n : ℕ) : zero.div (.ofNat (n + 1)) = .zero := by
  have hne : (n + 1) * unitsPerOne ≠ 0 := Nat.mul_ne_zero n.succ_ne_zero unitsPerOne_pos.ne'
  have hnearest := nearest_ofNat (n + 1)
  have hcount := ofUnits_ne_zero hne false false
  change ofNat (n + 1) ≠ _ at hcount
  generalize ofNat (n + 1) = count at *
  cases hnearest with
  | infinite _ => rfl
  | @finite m _ =>
    have hunits : m.units ≠ 0 := fun h => hcount (by rw [Magnitude.units_eq_zero_iff_eq_zero.mp h])
    have hzero : Magnitude.zero.Near ((0 : ℕ) / m.units) :=
      Magnitude.near_zero (by simp) (by simp)
    have hproduct : Magnitude.zero.units * unitsPerOne = 0 := Nat.zero_mul _
    rw [zero, div, if_neg hunits, hproduct,
      Magnitude.ofUnits_of_near (Nat.pos_of_ne_zero hunits) hzero]
    rfl

end Binary64

end FormLogic
