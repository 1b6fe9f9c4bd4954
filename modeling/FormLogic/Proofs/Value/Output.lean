import FormLogic.Proofs.Number.ReadBack
import FormLogic.Proofs.Value.Document
import FormLogic.Proofs.Value.Readings

/-!
# Values written out

Output writes a whole number below `2^53` as an integer, any other finite number as it is, and has
no place for `nan` and the infinities.  Integers are written as themselves (`IsInt`), so no number
that has a place is changed: a value that is written out is read back with `null` for each number
that has none, at any depth, and a plain zero for a negative one (`Value.output_read_back`).
-/

namespace FormLogic

namespace Binary64

/-! ## 1. Integers -/

/-- **The number is the integer**: it has the units of it. -/
def IsInt (x : Binary64) (i : ℤ) : Prop := x.rank? = some (i * unitsPerOne)

/-- A natural number under a sign. -/
def signed (negative : Bool) (n : ℕ) : ℤ := if negative then -n else n

theorem natAbs_signed (negative : Bool) (n : ℕ) : (signed negative n).natAbs = n := by
  cases negative
  · exact Int.natAbs_natCast n
  · exact (Int.natAbs_neg n).trans (Int.natAbs_natCast n)

theorem signed_mul (negative : Bool) (n d : ℕ) :
    signed negative (n * d) = signed negative n * d := by
  cases negative <;> simp [signed]

/-- A finite number is an integer when its units are those of the integer's size, and the sign is
that of the integer. -/
theorem isInt_finite_iff {negative : Bool} {m : Magnitude} {i : ℤ} :
    (finite negative m).IsInt i ↔
      m.units = i.natAbs * unitsPerOne ∧ signed negative i.natAbs = i := by
  have hone : (unitsPerOne : ℤ) ≠ 0 := by exact_mod_cast unitsPerOne_pos.ne'
  have hrank : (finite negative m).IsInt i ↔ signed negative m.units = i * unitsPerOne :=
    Option.some_inj
  rw [hrank]
  constructor
  · intro h
    have hunits : m.units = i.natAbs * unitsPerOne := by
      rw [← natAbs_signed negative m.units, h, Int.natAbs_mul, Int.natAbs_natCast]
    rw [hunits, signed_mul] at h
    exact ⟨hunits, Int.eq_of_mul_eq_mul_right hone h⟩
  · rintro ⟨hunits, hsign⟩
    rw [hunits, signed_mul, hsign]

/-- **What is an integer is the number nearest to it**, a negative zero apart. -/
theorem ofInt_eq_readBack {x : Binary64} {i : ℤ} (hfinite : x.isFinite = true) (h : x.IsInt i) :
    ofInt i = x.readBack := by
  cases x with
  | nan => cases hfinite
  | infinite negative => cases hfinite
  | finite negative m =>
    obtain ⟨hunits, hsign⟩ := isInt_finite_iff.mp h
    rw [ofInt, ← hunits, m.ofUnits_units, readBack, isZero_finite]
    by_cases hm : m.significand = 0
    · have hi : i = 0 := by
        rw [Magnitude.units_eq_zero_iff.mpr hm] at hunits
        exact Int.natAbs_eq_zero.mp ((Nat.mul_eq_zero.mp hunits.symm).resolve_right
          unitsPerOne_pos.ne')
      rw [hi, Magnitude.eq_zero hm]
      rfl
    · have hi : i ≠ 0 := by
        rintro rfl
        exact hm (Magnitude.units_eq_zero_iff.mp (hunits.trans (Nat.zero_mul _)))
      have hnegative : decide (i < 0) = negative := by
        cases negative with
        | false =>
          have hsign : (i.natAbs : ℤ) = i := hsign
          exact decide_eq_false (by omega)
        | true =>
          have hsign : -(i.natAbs : ℤ) = i := hsign
          exact decide_eq_true (by omega)
      simp [hm, hnegative]

theorem units_le_shift {n : ℕ} (h : 1127 ≤ n) : 2 ^ 53 * unitsPerOne ≤ 1 <<< n := by
  obtain ⟨k, hunits, hk⟩ := exists_unitsPerOne_eq
  rw [hunits, ← Nat.pow_add, Nat.one_shiftLeft]
  exact Nat.pow_le_pow_right (by decide) (by omega)

/-- No infinity is a small integer. -/
theorem isFinite_of_isInt {x : Binary64} {i : ℤ} (h : x.IsInt i) (hi : i.natAbs < 2 ^ 53) :
    x.isFinite = true := by
  cases x with
  | nan => cases h
  | finite _ _ => rfl
  | infinite negative =>
    obtain ⟨n, hrank, hlarge⟩ : ∃ n, (infinite negative).rank? = some (signed negative n) ∧
        2 ^ 53 * unitsPerOne ≤ n := ⟨_, rfl, units_le_shift (by decide)⟩
    have hunits : n = i.natAbs * unitsPerOne := by
      rw [← natAbs_signed negative n, Option.some.inj (hrank.symm.trans h), Int.natAbs_mul,
        Int.natAbs_natCast]
    rw [hunits] at hlarge
    exact absurd hi (not_lt.mpr (Nat.le_of_mul_le_mul_right hlarge unitsPerOne_pos))

/-! ## 2. Numbers written out -/

/-- A finite number is written as an integer when it is whole and below `2^53` in size. -/
theorem toOutput_finite (negative : Bool) (m : Magnitude) :
    (finite negative m).toOutput =
      if unitsPerOne ∣ m.units ∧ m.units / unitsPerOne < 2 ^ 53 then
        .integer (signed negative (m.units / unitsPerOne))
      else .double (finite negative m) := by
  have hbound : (ofNat (1 <<< 53)).rank? = some ((2 ^ 53 * unitsPerOne : ℕ) : ℤ) := by
    decide +kernel
  have hlt : (finite negative m).abs.lt (ofNat (1 <<< 53)) = true ↔
      m.units / unitsPerOne < 2 ^ 53 := by
    rw [lt, hbound, Nat.div_lt_iff_lt_mul unitsPerOne_pos]
    exact decide_eq_true_iff.trans Int.ofNat_lt
  have hwhole : (finite negative m).isWhole = true ↔ unitsPerOne ∣ m.units :=
    beq_iff_eq.trans Nat.dvd_iff_mod_eq_zero.symm
  refine if_congr ?_ rfl rfl
  rw [Bool.and_eq_true, hwhole, hlt]

/-- **The numbers that are written as integers** are the integers below `2^53` in size, and each is
written as itself. -/
theorem toOutput_eq_integer_iff {x : Binary64} {i : ℤ} :
    x.toOutput = .integer i ↔ x.IsInt i ∧ i.natAbs < 2 ^ 53 := by
  cases x with
  | nan => exact ⟨nofun, fun h => absurd (isFinite_of_isInt h.1 h.2) Bool.false_ne_true⟩
  | infinite negative =>
    exact ⟨nofun, fun h => absurd (isFinite_of_isInt h.1 h.2) Bool.false_ne_true⟩
  | finite negative m =>
    rw [toOutput_finite, isInt_finite_iff]
    constructor
    · intro h
      split at h
      · next hint =>
        obtain rfl := Document.integer.inj h
        rw [natAbs_signed, Nat.div_mul_cancel hint.1]
        exact ⟨⟨rfl, rfl⟩, hint.2⟩
      · cases h
    · rintro ⟨⟨hunits, hsign⟩, hlt⟩
      have hquotient : m.units / unitsPerOne = i.natAbs := by
        rw [hunits, Nat.mul_div_cancel _ unitsPerOne_pos]
      rw [hquotient, if_pos ⟨hunits ▸ Nat.dvd_mul_left _ _, hlt⟩, hsign]

/-- Any other number is written as it is stored. -/
theorem toOutput_eq_toDocument {x : Binary64} (h : ∀ i : ℤ, x.IsInt i → 2 ^ 53 ≤ i.natAbs) :
    x.toOutput = x.toDocument := by
  unfold toOutput
  split
  · next hint =>
    have hinteger : x.toOutput = .integer x.truncate := if_pos hint
    obtain ⟨his, hlt⟩ := toOutput_eq_integer_iff.mp hinteger
    exact absurd hlt (not_lt.mpr (h _ his))
  · rfl

end Binary64

/-! ## 3. Values written out -/

namespace Value

/-- **What output keeps of a number**: nothing of one that is not finite, and of a negative zero not
the sign. -/
def kept (x : Binary64) : Value := if x.isFinite then .number x.readBack else .null

/-- A number that is written out is read as what is kept of it. -/
theorem ofDocument?_toOutput_number (x : Binary64) : ofDocument? x.toOutput = some (kept x) := by
  by_cases hint : ∃ i : ℤ, x.IsInt i ∧ i.natAbs < 2 ^ 53
  · obtain ⟨i, hi, hlt⟩ := hint
    have hfinite := Binary64.isFinite_of_isInt hi hlt
    rw [Binary64.toOutput_eq_integer_iff.mpr ⟨hi, hlt⟩, ofDocument?,
      Binary64.ofInt_eq_readBack hfinite hi, kept, if_pos hfinite]
  · have hlarge : ∀ i : ℤ, x.IsInt i → 2 ^ 53 ≤ i.natAbs :=
      fun i hi => not_lt.mp fun hlt => hint ⟨i, hi, hlt⟩
    have hzero : x.isZero = false := by
      refine Bool.eq_false_iff.mpr fun hzero => ?_
      obtain ⟨r, hx, hr⟩ := Binary64.eq_iff.mp hzero
      have hint : x.IsInt 0 := hx.trans (hr.symm.trans (congrArg some (Int.zero_mul _).symm))
      exact absurd (hlarge 0 hint) (by decide)
    rw [Binary64.toOutput_eq_toDocument hlarge, Binary64.toDocument, kept, Binary64.readBack, hzero]
    split <;> rfl

/-- **Output loses only what it has no place for.**  A value is read back with `null` in place of
`nan` and the infinities, at any depth, and with a plain zero for a negative one.  The numbers that
are written as integers are the integers below `2^53` in size, each of them as itself, and they are
read back as they were. -/
theorem output_read_back :
    (∀ v : Value, v.Ordered → ofDocument? v.toOutput = some (v.mapNumbers kept)) ∧
    ∀ (x : Binary64) (i : ℤ),
      (x.toOutput = .integer i ↔ x.IsInt i ∧ i.natAbs < 2 ^ 53) ∧
      (x.IsInt i → i.natAbs < 2 ^ 53 →
        ofDocument? (Value.number x).toOutput = some (.number x.readBack)) := by
  refine ⟨fun v hv => ofDocument?_toDocumentBy ofDocument?_toOutput_number v hv, fun x i =>
    ⟨Binary64.toOutput_eq_integer_iff, fun hi hlt => ?_⟩⟩
  have hkept : kept x = .number x.readBack := if_pos (Binary64.isFinite_of_isInt hi hlt)
  exact (ofDocument?_toOutput_number x).trans (congrArg some hkept)

/-- The greatest of the integers, with its sign, beside numbers that are not kept, in a list in a
map. -/
theorem output_read_back_of_unusual_numbers :
    let x : Binary64 := .ofInt (-9007199254740991)
    let v : Value := .map [("a", .list [.number .nan, .number (.finite true .zero),
      .number (.infinite true)]), ("b", .number x)]
    v.Ordered ∧ ofDocument? v.toOutput = some
      (.map [("a", .list [.null, .number .zero, .null]), ("b", .number x)]) ∧
    x.IsInt (-9007199254740991) ∧ (-9007199254740991 : ℤ).natAbs < 2 ^ 53 ∧
      x.toOutput = .integer (-9007199254740991) ∧
      ofDocument? (Value.number x).toOutput = some (.number x) := by
  intro x v
  have hordered : v.Ordered := by
    refine ⟨List.pairwise_pair.mpr (by decide), ?_⟩
    simp [entriesOrdered, listOrdered, Ordered]
  have hnan : kept .nan = .null := rfl
  have hinfinite : kept (.infinite true) = .null := rfl
  have hzero : kept (.finite true .zero) = .number .zero := rfl
  have hfinite : x.isFinite = true := by decide +kernel
  have hback : x.readBack = x := by decide +kernel
  have hx : kept x = .number x := by rw [kept, if_pos hfinite, hback]
  have hint : x.IsInt (-9007199254740991) := by
    unfold Binary64.IsInt
    decide +kernel
  have hlt : (-9007199254740991 : ℤ).natAbs < 2 ^ 53 := by decide
  have hread := output_read_back.1 v hordered
  obtain ⟨hwritten, hinteger⟩ := output_read_back.2 x (-9007199254740991)
  have hinteger := hinteger hint hlt
  rw [hback] at hinteger
  refine ⟨hordered, ?_, hint, hlt, hwritten.mpr ⟨hint, hlt⟩, hinteger⟩
  simpa [v, mapNumbers, entriesMapNumbers, listMapNumbers, hnan, hinfinite, hzero, hx] using hread

end Value

end FormLogic
