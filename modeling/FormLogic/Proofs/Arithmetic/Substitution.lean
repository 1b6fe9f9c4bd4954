import FormLogic.Proofs.Arithmetic.Precedence
import FormLogic.Proofs.Arithmetic.Validity
import FormLogic.Proofs.Number.ReadBack

/-!
# Variables in arithmetic

The variables of arithmetic are replaced in the text, before anything knows how the text nests.
The text of a number can have a sign of its own, an exponent with a sign, or be a name; it is an
operand all the same (`stands_operandText`), so nothing around it is read differently.  Hence
replacing the variables and evaluating the text is evaluating the tree with its variables read
from the context (`arithmetic_of_prints`).
-/

namespace FormLogic.Arithmetic

open Scan Text

/-! ## 1. Operands -/

/-- **A variable as it is written**: a dotted path of names, but no reserved word. -/
structure Variable where
  name : List Char
  start : ∃ c cs, name = c :: cs ∧ isIdentifierStart c = true
  parts : name.all isTokenPart = true
  free : name ∉ reserved

/-- **A leaf of arithmetic over variables.** -/
inductive Operand where
  | number (l : NumberLiteral)
  | named (v : Variable)

/-- A number as arithmetic takes it from a variable: none counts as zero, and zero has no sign. -/
def settled (n : Binary64) : Binary64 := if n.isNaN || n.isZero then .zero else n

namespace Operand

def text : Operand → List Char
  | number l => l.text
  | named v => v.name

variable (resolve : List Char → Resolved)

/-- The text with the variable replaced. -/
def substituted : Operand → List Char
  | number l => l.text
  | named v => operandText (variableNumber (resolve v.name))

/-- **How a leaf is read**: a variable is looked up. -/
def value : Operand → Binary64
  | number l => l.value
  | named v => settled (variableNumber (resolve v.name))

end Operand

/-! ## 2. Replacing variables -/

/-- What follows does not go on with a token. -/
def EndsToken (rest : List Char) : Prop := ∀ c ∈ rest.head?, isTokenPart c = false

/-- **What follows ends a variable**: it does not go on with it, and does not make it a call. -/
structure Boundary (rest : List Char) : Prop where
  ends : EndsToken rest
  no_call : (trimStart rest).head? ≠ some '('

theorem isWordPart_of_isTokenPart {c : Char} (h : isTokenPart c = true) : isWordPart c = true := by
  rcases Bool.or_eq_true_iff.mp h with h | h <;> simp [isWordPart, h]

theorem isTokenPart_of_isBlank {c : Char} (h : isBlank c = true) : isTokenPart c = false := by
  refine Bool.eq_false_iff.mpr fun hpart => ?_
  rw [isBlank_of_isWordPart (isWordPart_of_isTokenPart hpart)] at h
  exact Bool.noConfusion h

theorem EndsToken.cons {c : Char} (h : isTokenPart c = false) (rest : List Char) :
    EndsToken (c :: rest) := by
  intro d hd
  obtain rfl : c = d := by simpa using hd
  exact h

theorem EndsToken.blank {rest : List Char} (h : EndsToken rest) {b : List Char} (hb : Blank b) :
    EndsToken (b ++ rest) := by
  cases b with
  | nil => exact h
  | cons c b => exact .cons (isTokenPart_of_isBlank (hb c List.mem_cons_self)) (b ++ rest)

namespace Boundary

theorem nil : Boundary [] := ⟨nofun, nofun⟩

theorem cons {c : Char} (hpart : isTokenPart c = false) (hblank : isBlank c = false)
    (hopen : c ≠ '(') (rest : List Char) : Boundary (c :: rest) where
  ends := .cons hpart rest
  no_call := by simpa [trimStart, hblank] using hopen

theorem blank {rest : List Char} (h : Boundary rest) {b : List Char} (hb : Blank b) :
    Boundary (b ++ rest) where
  ends := h.ends.blank hb
  no_call := by
    rw [trimStart, List.dropWhile_append_of_pos hb]
    exact h.no_call

end Boundary

section Substitute

variable {resolve : List Char → Resolved}

theorem substitute_cons {c : Char} (h : isTokenPart c = false) (rest : List Char) :
    substitute resolve (c :: rest) = c :: substitute resolve rest := by
  rw [substitute, if_neg (by simp [h])]

/-- Text without tokens stays as it is. -/
theorem substitute_append {cs : List Char} (h : ∀ c ∈ cs, isTokenPart c = false)
    (rest : List Char) : substitute resolve (cs ++ rest) = cs ++ substitute resolve rest := by
  induction cs with
  | nil => rfl
  | cons c cs ih =>
    rw [List.cons_append, substitute_cons (h c List.mem_cons_self),
      ih fun d hd => h d (List.mem_cons_of_mem _ hd), List.cons_append]

/-- A token is replaced as a whole. -/
theorem substitute_token {c : Char} {cs rest : List Char}
    (hparts : ∀ d ∈ c :: cs, isTokenPart d = true) (hrest : EndsToken rest) :
    substitute resolve (c :: cs ++ rest)
      = tokenText resolve (c :: cs) rest ++ substitute resolve rest := by
  have hcs : ∀ d ∈ cs, isTokenPart d = true := fun d hd => hparts d (List.mem_cons_of_mem _ hd)
  have hstop : rest.takeWhile isTokenPart = [] ∧ rest.dropWhile isTokenPart = rest := by
    cases rest with
    | nil => exact ⟨rfl, rfl⟩
    | cons d rest => simp [hrest d rfl]
  rw [List.cons_append, substitute, if_pos (hparts c List.mem_cons_self)]
  simp only [List.takeWhile_append_of_pos hcs, List.dropWhile_append_of_pos hcs, hstop,
    List.append_nil]

/-- The text stays as it is where no token goes on behind it. -/
def Kept (resolve : List Char → Resolved) (t : List Char) : Prop :=
  ∀ rest, EndsToken rest → substitute resolve (t ++ rest) = t ++ substitute resolve rest

/-- A sign between two texts ends the first one. -/
theorem Kept.sign {t u : List Char} (ht : Kept resolve t) (hu : Kept resolve u) {sign : Char}
    (hsign : isTokenPart sign = false) : Kept resolve (t ++ (sign :: u)) := by
  intro rest hrest
  rw [List.append_assoc, List.cons_append, ht _ (.cons hsign _), substitute_cons hsign,
    hu rest hrest]
  simp

end Substitute

/-! ## 3. The texts of numbers -/

/-- **A text stands for a number**: it can be an operand, and evaluates to the number. -/
structure Stands (t : List Char) (n : Binary64) : Prop where
  isOperand : IsOperand .factor t
  evaluates : ∀ {maxDepth depth : Nat}, depth + t.length ≤ maxDepth →
    evaluate maxDepth depth t = .ok n

namespace Stands

theorem number (l : NumberLiteral) : Stands l.text l.value where
  isOperand := spells_numberLiteral.isOperand l
  evaluates := spells_numberLiteral.evaluate l

/-- A negative number in its parentheses. -/
theorem negative {t : List Char} {n : Binary64} (h : Stands t n) :
    Stands ('(' :: ('-' :: t ++ [')'])) n.neg := by
  have hnegated : IsOperand .factor ('-' :: t) := h.isOperand.negation .none
  have hsum : IsOperand .sum ('-' :: t) := hnegated.mono (by decide)
  have htext : '(' :: ('-' :: t ++ [')']) = bracketed .none .none ('-' :: t) := by
    simp [bracketed]
  rw [htext]
  refine ⟨hsum.bracketed .none .none, fun {maxDepth depth} hdepth => ?_⟩
  have hlength : (bracketed .none .none ('-' :: t)).length = t.length + 3 := by simp [bracketed]
  have hminus : evaluate maxDepth (depth + 1) ('-' :: t)
      = do return (← evaluate maxDepth (depth + 1 + 1) t).neg :=
    evaluate_negation h.isOperand .none (by omega)
  rw [evaluate_bracketed hsum .none .none (by omega), hminus, h.evaluates (by omega)]
  rfl

/-- A name for a number, and one for none. -/
theorem word {t : List Char} (hword : IsWord t) (hends : EndsOperand t)
    (hapart : Shape.Apart ('(' :: ')' :: operators) t) : Stands t (literal t) := by
  have hoperand : IsOperand .factor t :=
    ⟨hword.closed, hword.tight, hends, fun hu => hu.passes_of_apart hapart _⟩
  have hminus : t.head? ≠ some '-' := fun h => hapart '-' (by decide) (List.mem_of_head? h)
  exact ⟨hoperand, fun hdepth =>
    evaluate_literal hoperand (hword.head?_ne (by decide)) hminus (by omega)⟩

end Stands

theorem stands_infinity : Stands Number.infinityName (.infinite false) := by
  have hliteral : literal Number.infinityName = .infinite false := rfl
  rw [← hliteral]
  exact .word (by decide) ⟨Number.infinityName.dropLast, 'y', by decide⟩ (by decide)

theorem stands_nan : Stands (Number.format .nan) .zero := by
  have hliteral : literal (Number.format .nan) = .zero := rfl
  rw [← hliteral]
  exact .word (by decide) ⟨['N', 'a'], 'N', by decide⟩ (by decide)

theorem lt_zero_finite (negative : Bool) (m : Magnitude) :
    (Binary64.finite negative m).lt .zero = (negative && m.significand != 0) := by
  have hlt : (Binary64.finite negative m).lt .zero
      = decide (Binary64.signedUnits negative m < 0) := rfl
  rw [hlt, Bool.eq_iff_iff, decide_eq_true_eq, Bool.and_eq_true, bne_iff_ne, ne_eq,
    ← Magnitude.units_eq_zero_iff, Binary64.signedUnits]
  cases negative with
  | false => simp
  | true =>
    simp only [if_true, true_and]
    omega

theorem operandText_finite (negative : Bool) (m : Magnitude) :
    operandText (.finite negative m) =
      if negative && m.significand != 0 then '(' :: ('-' :: Layout.display.magnitude m ++ [')'])
      else Layout.display.magnitude m := by
  rw [operandText, lt_zero_finite, Number.format]
  split <;> simp_all

theorem settled_finite (negative : Bool) (m : Magnitude) :
    settled (.finite negative m) = if m.significand = 0 then .zero else .finite negative m := by
  have hnan : (Binary64.finite negative m).isNaN = false := rfl
  rw [settled, Binary64.isZero_finite, hnan, Bool.false_or]
  simp

/-- **The text of a number stands for it.** -/
theorem stands_operandText (n : Binary64) : Stands (operandText n) (settled n) := by
  cases n with
  | nan => exact stands_nan
  | infinite negative =>
    cases negative with
    | false => exact stands_infinity
    | true => exact stands_infinity.negative
  | finite negative m =>
    obtain ⟨s, hwhole, htext, hvalue⟩ := Layout.exists_spelling m
    have hmagnitude : Stands (Layout.display.magnitude m) (.finite false m) := by
      rw [← htext, ← hvalue false]
      exact .number ⟨s, hwhole⟩
    rw [operandText_finite, settled_finite]
    by_cases hm : m.significand = 0
    · rw [if_neg (by simp [hm]), if_pos hm]
      exact Magnitude.eq_zero hm ▸ hmagnitude
    · rw [if_neg hm]
      cases negative with
      | false => exact hmagnitude
      | true =>
        rw [if_pos (by simpa using hm)]
        exact hmagnitude.negative

theorem Variable.isWord (v : Variable) : IsWord v.name := by
  obtain ⟨c, cs, hname, -⟩ := v.start
  refine ⟨hname ▸ List.cons_ne_nil c cs, fun d hd => ?_⟩
  exact isWordPart_of_isTokenPart (List.all_eq_true.mp v.parts d hd)

end FormLogic.Arithmetic
