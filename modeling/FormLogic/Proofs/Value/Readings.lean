import FormLogic.Expression.Comparison
import FormLogic.Proofs.Number.Strict
import FormLogic.Proofs.Value.Equality

/-!
# Equality and order on the two readings

Equality reads a whole text or nothing, and order reads as much of it as is a number.  What the
strict reading takes for a number the lenient one reads as the same number, but for hexadecimal
numbers, of which it reads the zero alone (`Number.lenient?_of_strict_ne_nan`).  Two operands that
are equal by their strict readings are therefore in order both ways, unless just one of them is
hexadecimal and the number is not zero.
-/

namespace FormLogic

open Text Numeral

/-! ## 1. Blank text behind a number -/

/-- No digit of any script is blank. -/
theorem Text.isDigit_eq_false_of_isBlank {c : Char} (h : isBlank c = true) : isDigit c = false := by
  have hdigits : (digitZeros.all fun z =>
      (List.range 10).all fun d => !isBlank (Char.ofNat (z + d))) = true := by decide +kernel
  have hascii : 0x30 ∈ digitZeros := by decide
  rw [Bool.eq_false_iff]
  intro hdigit
  obtain ⟨z, hz, hlower, hupper⟩ : ∃ z ∈ digitZeros, z ≤ c.toNat ∧ c.toNat < z + 10 := by
    rcases Bool.or_eq_true_iff.mp hdigit with hc | hc
    · obtain ⟨hlower, hupper⟩ := Bool.and_eq_true_iff.mp hc
      exact ⟨0x30, hascii, of_decide_eq_true hlower, Nat.lt_succ_of_le (of_decide_eq_true hupper)⟩
    · simpa using hc
  have hblank := List.all_eq_true.mp (List.all_eq_true.mp hdigits z hz) (c.toNat - z)
    (List.mem_range.mpr (by omega))
  rw [Nat.add_sub_cancel' hlower, Char.ofNat_toNat, h] at hblank
  cases hblank

/-- **A literal ends in front of blank text.** -/
theorem Numeral.Spelling.stops_of_blank (s : Spelling) {after : List Char} (h : Blank after) :
    s.Stops after := by
  cases after with
  | nil => exact s.stops_nil
  | cons c after =>
    have hc := h c List.mem_cons_self
    have hne : ∀ d, isBlank d = false → c ≠ d := by
      rintro d hd rfl
      rw [hc] at hd
      cases hd
    refine ⟨fun d hd => ?_, fun _ _ => ?_, fun _ => ?_⟩
    · exact Option.some.inj hd ▸ isDigit_eq_false_of_isBlank hc
    · exact fun hd => hne '.' (by decide) (Option.some.inj hd)
    · simp [scanExponent, hne 'e' (by decide), hne 'E' (by decide)]

/-! ## 2. The two readings of a text -/

namespace Number

variable {text : List Char}

/-- Blank characters in front do not count, so the trimmed text is read, with those behind it. -/
theorem lenient?_trim (text : List Char) :
    ∃ after, Blank after ∧ lenient? text = lenient? (trim text ++ after) := by
  obtain ⟨after, hafter, htext⟩ := exists_trimEnd (trimStart text)
  exact ⟨after, hafter, by rw [trim, ← htext, lenient?_trimStart]⟩

theorem lenient?_of_blank (h : Blank text) : lenient? text = none := by
  have htrim : trimStart text = [] := List.dropWhile_eq_nil_iff.mpr h
  rw [lenient?, htrim]
  rfl

/-- **Of a hexadecimal number the zero is read**: the mark ends it. -/
theorem lenient?_of_isMarked (h : isMarked (trim text) = true) : lenient? text = some .zero := by
  obtain ⟨mark, rest, hmark, htrim⟩ := isMarked_iff.mp h
  obtain ⟨after, -, hread⟩ := lenient?_trim text
  have hzero := Spelling.zero.lenient?_append (Spelling.stops_zero hmark (rest ++ after)) .unsigned
  rw [hread, htrim]
  exact hzero.trans (congrArg some (by decide +kernel))

/-- **What is a number strictly is the same number leniently**, but for hexadecimal numbers. -/
theorem lenient?_of_strict_ne_nan (hne : strict text ≠ .nan) :
    (lenient? text).getD .zero = if isMarked (trim text) then .zero else strict text := by
  cases hmarked : isMarked (trim text) with
  | true => rw [lenient?_of_isMarked hmarked, if_pos rfl, Option.getD_some]
  | false =>
    rw [if_neg Bool.false_ne_true]
    obtain ⟨after, hafter, hread⟩ := lenient?_trim text
    rcases exists_text_of_strict_ne_nan hne with ⟨n, htext⟩ | ⟨h, htext⟩
    · cases n with
      | blank =>
        have hblank : Blank text := trim_eq_nil_iff.mp htext.symm
        rw [lenient?_of_blank hblank, strict_of_blank htext.symm, Option.getD_none]
      | signed n =>
        rw [hread, ← htext]
        cases n with
        | infinity sign =>
          have hlenient := lenient?_infinity sign after
          rw [← List.append_assoc] at hlenient
          rw [strict_of_infinity htext.symm]
          exact congrArg (Option.getD · .zero) hlenient
        | literal sign s =>
          have hlenient := s.lenient?_append (s.stops_of_blank hafter) sign
          rw [← List.append_assoc] at hlenient
          rw [strict_of_literal htext.symm]
          exact congrArg (Option.getD · .zero) hlenient
      | hexadecimal h =>
        have htrue : isMarked h.text = true := isMarked_iff.mpr ⟨_, _, h.mark_eq, rfl⟩
        rw [show h.text = trim text from htext, hmarked] at htrue
        cases htrue
    · have htrue : isMarked h.plusText = true := isMarked_iff.mpr ⟨_, _, h.mark_eq, rfl⟩
      rw [htext, hmarked] at htrue
      cases htrue

end Number

/-! ## 3. Equal numbers -/

namespace Binary64

variable {a b c : Binary64}

theorem eq_iff : a.eq b = true ↔ ∃ r, a.rank? = some r ∧ b.rank? = some r := by
  unfold eq
  cases a.rank? with
  | none => simp
  | some r =>
    cases b.rank? with
    | none => simp
    | some s =>
      rw [beq_iff_eq]
      constructor
      · rintro rfl
        exact ⟨r, rfl, rfl⟩
      · rintro ⟨_, hr, hs⟩
        exact Option.some.inj (hr.trans hs.symm)

theorem le_iff : a.le b = true ↔ ∃ r s, a.rank? = some r ∧ b.rank? = some s ∧ r ≤ s := by
  unfold le
  cases a.rank? <;> cases b.rank? <;> simp

/-- **Numbers are equal when they are in order both ways.** -/
theorem le_and_ge_iff : a.le b = true ∧ b.le a = true ↔ a.eq b = true := by
  rw [le_iff, le_iff, eq_iff]
  constructor
  · rintro ⟨⟨r, s, ha, hb, hrs⟩, s', r', hb', ha', hsr⟩
    obtain rfl : s = s' := Option.some.inj (hb.symm.trans hb')
    obtain rfl : r = r' := Option.some.inj (ha.symm.trans ha')
    exact ⟨r, ha, Int.le_antisymm hrs hsr ▸ hb⟩
  · rintro ⟨r, ha, hb⟩
    exact ⟨⟨r, r, ha, hb, le_rfl⟩, r, r, hb, ha, le_rfl⟩

/-- Equal numbers are equal to the same numbers. -/
theorem eq_congr_left (h : a.eq b = true) (c : Binary64) : a.eq c = b.eq c := by
  obtain ⟨r, ha, hb⟩ := eq_iff.mp h
  rw [eq, eq, ha, hb]

theorem ne_nan_of_eq (h : a.eq b = true) : a ≠ .nan := by
  rintro rfl
  cases h

end Binary64

/-! ## 4. Equality and order of operands -/

namespace Resolved

/-- What is compared by number in both ways: numbers and texts. -/
inductive Operand : Resolved → Prop where
  | number (x : Binary64) : Operand (some (.number x))
  | string (s : String) : Operand (some (.string s))

/-- Whether the operand is a text that begins like a hexadecimal number. -/
def isHexadecimal : Resolved → Bool
  | some (.string s) => isMarked (trim s.toList)
  | _ => false

/-- **The number for the order is the number for equality**, but for hexadecimal numbers. -/
theorem Operand.toNumber_eq {a : Resolved} (ha : Operand a) (hne : strictNumber a ≠ .nan) :
    toNumber a = if a.isHexadecimal then .zero else strictNumber a := by
  cases ha with
  | number x => rfl
  | string s => exact Number.lenient?_of_strict_ne_nan hne

/-- **Equality and order read the same number** of every text that is a number, but for hexadecimal
numbers, which are zero for the order.  So operands that are equal by number are in order both ways
if both or neither of them are hexadecimal, or if the number is zero, and otherwise they are not. -/
theorem readings_agree :
    (∀ s : String, strictNumber (some (.string s)) ≠ .nan →
      toNumber (some (.string s)) =
        if isMarked (trim s.toList) then .zero else strictNumber (some (.string s))) ∧
    (∀ a b : Resolved, Operand a → Operand b → (strictNumber a).eq (strictNumber b) = true →
      ((Comparison.ge.apply a b = true ∧ Comparison.le.apply a b = true) ↔
        a.isHexadecimal = b.isHexadecimal ∨ (strictNumber a).isZero = true)) := by
  refine ⟨fun s hne => (Operand.string s).toNumber_eq hne, fun a b ha hb heq => ?_⟩
  have heq' : (strictNumber b).eq (strictNumber a) = true := Binary64.eq_comm _ _ ▸ heq
  have hzero : Binary64.zero.eq .zero = true := by decide +kernel
  have horder : (Comparison.ge.apply a b = true ∧ Comparison.le.apply a b = true) ↔
      (toNumber a).eq (toNumber b) = true := and_comm.trans Binary64.le_and_ge_iff
  rw [horder, ha.toNumber_eq (Binary64.ne_nan_of_eq heq),
    hb.toNumber_eq (Binary64.ne_nan_of_eq heq')]
  -- a hexadecimal operand stands for zero, and the other one for the common number
  cases a.isHexadecimal <;> cases b.isHexadecimal
  · simp [heq]
  · simp [Binary64.isZero]
  · simp [Binary64.isZero, Binary64.eq_comm .zero, Binary64.eq_congr_left heq]
  · simp [hzero]

/-- The text and the number are in order both ways, blank characters and exponent or not. -/
theorem readings_agree_of_exponent :
    let a : Resolved := some (.string "\t-1.5e1 ")
    let b : Resolved := some (.number (.ofInt (-15)))
    (strictNumber a ≠ .nan ∧ toNumber a = strictNumber a) ∧
      (strictNumber a).eq (strictNumber b) = true ∧
      Comparison.ge.apply a b = true ∧ Comparison.le.apply a b = true := by
  intro a b
  have hne : strictNumber a ≠ .nan := by decide +kernel
  have heq : (strictNumber a).eq (strictNumber b) = true := by decide +kernel
  have hmarked : isMarked (trim "\t-1.5e1 ".toList) = false := by decide
  have hread := readings_agree.1 "\t-1.5e1 " hne
  rw [hmarked, if_neg Bool.false_ne_true] at hread
  exact ⟨⟨hne, hread⟩, heq,
    (readings_agree.2 a b (.string _) (.number _) heq).mpr (.inl hmarked)⟩

/-- The text `0x10` equals the number sixteen, and is less than it. -/
theorem not_readings_agree_of_hexadecimal :
    let a : Resolved := some (.string "0x10")
    let b : Resolved := some (.number (.ofNat 16))
    (strictNumber a ≠ .nan ∧ toNumber a ≠ strictNumber a) ∧
      (strictNumber a).eq (strictNumber b) = true ∧ Comparison.ge.apply a b = false := by
  decide +kernel

end Resolved

end FormLogic
