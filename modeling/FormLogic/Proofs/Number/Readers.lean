import FormLogic.Proofs.Arithmetic.Literal
import FormLogic.Proofs.Arithmetic.Substitution
import FormLogic.Proofs.Expression.Source
import FormLogic.Proofs.Number.Strict

/-!
# The text of a number in every reader

Text becomes a number in four places: by the lenient and by the strict reading, as a literal of an
expression, and in arithmetic.  Each has a scanner of its own, and arithmetic looks for operators
before anything else.  All of them take the text of a number as a whole and give the number back,
a negative zero as zero (`Number.read_format`).
-/

namespace FormLogic

open Numeral Text

namespace Number

/-- **What is written of a number behind its sign**, and the number that it is under either
sign. -/
inductive Unsigned : List Char → (Bool → Binary64) → Prop where
  | infinity : Unsigned infinityName .infinite
  | literal (s : Spelling) (m : Magnitude) (whole_ne : s.whole.1 ≠ [])
      (value_eq : ∀ negative, s.decimal.toBinary64 negative = .finite negative m) :
      Unsigned s.text (.finite · m)

/-- **The text of a number is a minus sign or nothing, and then a literal or the name of the
infinite number.** -/
theorem exists_unsigned {x : Binary64} (hx : x.isNaN = false) :
    ∃ negative t value, Unsigned t value ∧
      format x = (if negative then ['-'] else []) ++ t ∧ x.readBack = value negative := by
  cases x with
  | nan => exact absurd hx (by decide)
  | infinite negative => exact ⟨negative, _, _, .infinity, rfl, by cases negative <;> rfl⟩
  | finite negative m =>
    obtain ⟨s, hwhole, htext, hvalue⟩ := Layout.exists_spelling m
    rw [format, Binary64.readBack, Binary64.isZero_finite, ← htext]
    by_cases hm : m.significand = 0
    · have hzero : Binary64.zero = .finite false m := by rw [Magnitude.eq_zero hm, Binary64.zero]
      exact ⟨false, _, _, .literal s m hwhole hvalue, by simp [hm], by simp [hm, hzero]⟩
    · exact ⟨negative, _, _, .literal s m hwhole hvalue, by simp [hm], by simp [hm]⟩

namespace Unsigned

variable {t : List Char} {value : Bool → Binary64} (h : Unsigned t value)

include h

/-- The strict reading takes the text with its sign. -/
theorem strict_signed (negative : Bool) :
    strict ((if negative then ['-'] else []) ++ t) = value negative := by
  have hsign : ∀ sign : ExponentSign, strict (sign.text ++ t) = value (decide (sign = .minus)) := by
    intro sign
    cases h with
    | infinity => exact strict_of_infinity (Signed.infinity sign).isWord.tight.trim_eq
    | literal s m _ hvalue =>
      exact (strict_of_literal (Signed.literal sign s).isWord.tight.trim_eq).trans (hvalue _)
  cases negative with
  | false => exact hsign .unsigned
  | true => exact hsign .minus

theorem isOperand : Arithmetic.IsOperand .factor t := by
  cases h with
  | infinity => exact Arithmetic.stands_infinity.isOperand
  | literal s m hwhole _ => exact Arithmetic.NumberLiteral.isOperand ⟨s, hwhole⟩

section Depth

variable {maxDepth depth : ℕ}

/-- Arithmetic takes the text as a whole: the sign of an exponent is no operator. -/
theorem evaluate_unsigned (hdepth : depth ≤ maxDepth) :
    Arithmetic.evaluate maxDepth depth t = .ok (value false) := by
  cases h with
  | infinity =>
    exact Arithmetic.evaluate_literal Arithmetic.stands_infinity.isOperand (by decide) (by decide)
      hdepth
  | literal s m hwhole hvalue =>
    rw [Arithmetic.evaluate_of_not_isCut (fun _ _ hcut => hwhole hcut.leading) hdepth,
      Spelling.value, hvalue]

/-- The minus sign in front of it takes one level more. -/
theorem evaluate_signed (hdepth : depth + 1 ≤ maxDepth) (negative : Bool) :
    Arithmetic.evaluate maxDepth depth ((if negative then ['-'] else []) ++ t)
      = .ok (value negative) := by
  cases negative with
  | false => exact h.evaluate_unsigned (by omega)
  | true =>
    have hnegation : Arithmetic.evaluate maxDepth depth ('-' :: t)
        = do return (← Arithmetic.evaluate maxDepth (depth + 1) t).neg :=
      Arithmetic.evaluate_negation h.isOperand .none (by omega)
    have hneg : (value false).neg = value true := by cases h <;> rfl
    rw [if_pos rfl, List.singleton_append, hnegation, h.evaluate_unsigned hdepth, ← hneg]
    rfl

end Depth

end Unsigned

/-- A literal of the language is read one level below the expression. -/
theorem tryEvaluate_format {x : Binary64} (hx : x.isNaN = false) (ev : Evaluator)
    (hdepth : 1 ≤ ev.options.maxDepth) :
    ev.tryEvaluate (String.ofList (format x)) = .ok (some (.number x.readBack)) := by
  have hliteral : (Value.number x).IsLiteral := hx
  obtain ⟨l, htext, hvalue⟩ := Value.exists_literal hliteral fun _ => Value.noConfusion
  have hsource := Evaluator.tryEvaluate_source_eq ev hliteral
  rw [← htext, Evaluator.eval_literal ev (Nat.zero_le _) l hdepth, hvalue, htext] at hsource
  exact hsource

/-- **The text of a number is read back by every reader**: both readings of text, the evaluator in
every context as soon as it may go one level down, and arithmetic with a level to spare for the
minus sign.  A negative zero is written like zero. -/
theorem read_format {x : Binary64} (hx : x.isNaN = false) :
    lenient? (format x) = some x.readBack ∧
    Resolved.strictNumber (some (.string (String.ofList (format x)))) = x.readBack ∧
    (∀ ev : Evaluator, 1 ≤ ev.options.maxDepth →
      ev.tryEvaluate (String.ofList (format x)) = .ok (some (.number x.readBack))) ∧
    ∀ maxDepth depth, depth + 1 ≤ maxDepth →
      Arithmetic.evaluate maxDepth depth (format x) = .ok x.readBack := by
  obtain ⟨negative, t, value, hunsigned, htext, hvalue⟩ := exists_unsigned hx
  refine ⟨lenient?_format hx, ?_, tryEvaluate_format hx, fun maxDepth depth hdepth => ?_⟩
  · rw [Resolved.strictNumber, String.toList_ofList, htext, hvalue, hunsigned.strict_signed]
  · rw [htext, hvalue, hunsigned.evaluate_signed hdepth]

/-- The least positive number with its sign: a minus before the digits, and one in the exponent. -/
theorem read_format_of_least :
    let x : Binary64 := .finite true ⟨1, 0, by decide, by decide, by decide⟩
    let ev : Evaluator := { options := ⟨1⟩ }
    x.isNaN = false ∧ format x = "-5e-324".toList ∧ lenient? "-5e-324".toList = some x ∧
      Resolved.strictNumber (some (.string "-5e-324")) = x ∧
      ev.tryEvaluate "-5e-324" = .ok (some (.number x)) ∧
      Arithmetic.evaluate 1 0 "-5e-324".toList = .ok x := by
  intro x ev
  have hformat : format x = "-5e-324".toList := by decide +kernel
  have hback : x.readBack = x := by decide +kernel
  obtain ⟨hlenient, hstrict, heval, harithmetic⟩ := read_format (x := x) rfl
  rw [hformat, hback] at hlenient
  rw [hformat, hback, String.ofList_toList] at hstrict heval
  rw [hformat, hback] at harithmetic
  exact ⟨rfl, hformat, hlenient, hstrict, heval ev le_rfl, harithmetic 1 0 le_rfl⟩

end Number

end FormLogic
