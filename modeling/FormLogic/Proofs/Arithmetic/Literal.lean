import FormLogic.Proofs.Arithmetic.Precedence

/-!
# Number literals alone

Whether the sign of an exponent belongs to its literal is decided by looking back: the letters,
digits and points before the mark have to begin with a digit.  A literal may begin with a point as
well, and of such a literal the sign is taken for an operator (`IsCut`).  Every other literal is
read as a whole, at every depth within the limit, and the number is that of the lenient reading
(`evaluate_spelling`).
-/

namespace FormLogic.Arithmetic

open Numeral Text

/-! ## 1. Literals that are cut -/

/-- The operator that looks like the sign of an exponent. -/
def signOperator? : ExponentSign → Option Operator
  | .unsigned => none
  | .plus => some .add
  | .minus => some .subtract

theorem symbol_of_signOperator? {sign : ExponentSign} {op : Operator}
    (h : signOperator? sign = some op) :
    op.symbol ∈ Level.sum.symbols ∧ sign.text = [op.symbol] := by
  cases sign with
  | unsigned => cases h
  | plus =>
    obtain rfl := Option.some.inj h
    exact ⟨by decide, rfl⟩
  | minus =>
    obtain rfl := Option.some.inj h
    exact ⟨by decide, rfl⟩

/-- **The sign of the exponent is taken for an operator**: the literal begins with a point. -/
structure IsCut (s : Spelling) (e : Exponent) (op : Operator) : Prop where
  leading : s.whole.1 = []
  exponent : s.exponent = some e
  signed : signOperator? e.sign = some op

/-- The literal in front of the exponent. -/
def withoutExponent (s : Spelling) : Spelling := { s with exponent := none }

/-- The digits of an exponent as a literal of their own. -/
def exponentDigits (e : Exponent) : Spelling where
  whole := e.digits
  fraction := none
  exponent := none
  some_digit := by simpa using e.digits_ne

/-- What is neither an operator nor a parenthesis. -/
abbrev Unmarked (t : List Char) : Prop := Shape.Apart ('(' :: ')' :: operators) t

theorem unmarked_append {t u : List Char} (ht : Unmarked t) (hu : Unmarked u) :
    Unmarked (t ++ u) := by
  intro c hc hm
  rcases List.mem_append.mp hm with hm | hm
  · exact ht c hc hm
  · exact hu c hc hm

theorem unmarked_mantissa (s : Spelling) : Unmarked s.mantissa :=
  NumberLiteral.apart_of_digits fun _ hc => s.mem_mantissa hc

theorem unmarked_digits (ds : Digits) : Unmarked ds.1 :=
  NumberLiteral.apart_of_digits fun c hc => .inl (ds.2 c hc)

theorem unmarked_mark {mark : Char} (h : mark = 'e' ∨ mark = 'E') : Unmarked [mark] := by
  rcases h with rfl | rfl <;> decide

theorem passes_of_unmarked {t : List Char} (h : Unmarked t) {l : Level} (hl : l < .factor)
    (before : List Char) : Passes l.cuts 0 before t := by
  have hunseen : Unseen .factor l.cuts 0 [] := .inr ⟨rfl, ⟨l, hl, rfl⟩, Fresh.nil⟩
  exact hunseen.passes_of_apart h before

section Depth

variable {maxDepth depth : Nat}

/-- Text without operators and parentheses is read as a literal. -/
theorem evaluate_of_unmarked {t : List Char} (ht : Tight t) (h : Unmarked t)
    (hdepth : depth ≤ maxDepth) : evaluate maxDepth depth t = .ok (literal t) := by
  have hhead : ∀ c ∈ '(' :: ')' :: operators, t.head? ≠ some c :=
    fun c hc hm => h c hc (List.mem_of_mem_head? hm)
  rw [evaluate_of_uncut ht (fun l hl => (passes_of_unmarked h hl []).cut_eq) hdepth,
    evaluateUncut_literal (hhead '(' (by decide)) (hhead '-' (by decide))]

theorem cut_at_sign {first digits : List Char} {o : Char} (ho : o ∈ Level.sum.symbols)
    (hfirst : Unmarked first) (hdigits : Unmarked digits)
    (hsign : isBinarySign first.reverse = true) :
    cut cutsSum 0 [] (first ++ o :: digits) = (first, [(o, digits)]) := by
  have hpasses : ∀ {t}, Unmarked t → ∀ before, Passes cutsSum 0 before t := fun h before =>
    passes_of_unmarked h (by decide : Level.sum < .factor) before
  obtain ⟨hopen, hclose⟩ := Level.not_paren_of_mem_symbols ho
  have hcut : cutsSum first.reverse o = true := by
    have hsum : (o == '+' || o == '-') = true := by simpa [Level.symbols] using ho
    rw [cutsSum, hsum, hsign, Bool.true_and]
  have hrest : cut cutsSum 0 (o :: first.reverse) digits = (digits, []) :=
    (hpasses hdigits _).cut_eq
  rw [hpasses hfirst [], List.append_nil, cut]
  simp [hopen, hclose, hcut, hrest]

/-! ## 2. What literals evaluate to -/

namespace IsCut

variable {s : Spelling} {e : Exponent} {op : Operator}

theorem text_eq (h : IsCut s e op) :
    s.text = (s.mantissa ++ [e.mark]) ++ op.symbol :: e.digits := by
  simp [Spelling.text, Spelling.exponentText, h.exponent, Exponent.text,
    (symbol_of_signOperator? h.signed).2]

/-- The sign stands behind an operand, and the run of digits and points in front of the mark begins
with the point. -/
theorem isBinarySign_eq (h : IsCut s e op) :
    isBinarySign (s.mantissa ++ [e.mark]).reverse = true := by
  obtain ⟨f, hf⟩ : ∃ f, s.fraction = some f := by
    have hdigit := s.some_digit
    rw [h.leading] at hdigit
    cases hfraction : s.fraction with
    | none => simp [hfraction] at hdigit
    | some f => exact ⟨f, rfl⟩
  have hmantissa : s.mantissa = '.' :: f.1 := by
    simp [Spelling.mantissa, Spelling.fractionText, h.leading, hf]
  have hdigits : ∀ c ∈ '.' :: f.1, isAsciiDigit c = true ∨ c = '.' :=
    fun c hc => s.mem_mantissa (hmantissa ▸ hc)
  rw [hmantissa]
  simpa [isAsciiDigit] using Fresh.nil.isBinarySign_mark e.mark_eq hdigits

theorem cut_eq (h : IsCut s e op) :
    cut cutsSum 0 [] s.text = (s.mantissa ++ [e.mark], [(op.symbol, e.digits.1)]) := by
  rw [h.text_eq]
  exact cut_at_sign (symbol_of_signOperator? h.signed).1
    (unmarked_append (unmarked_mantissa s) (unmarked_mark e.mark_eq)) (unmarked_digits e.digits)
    h.isBinarySign_eq

end IsCut

/-- The literal in front of a cut, with the mark that is left of its exponent. -/
theorem evaluate_mark (s : Spelling) {mark : Char} (hmark : mark = 'e' ∨ mark = 'E')
    (hdepth : depth ≤ maxDepth) :
    evaluate maxDepth depth (s.mantissa ++ [mark]) = .ok (withoutExponent s).value := by
  have hword : IsWord (s.mantissa ++ [mark]) := by
    refine ⟨by simp, List.forall_mem_append.mpr ⟨fun c hc => ?_, ?_⟩⟩
    · rcases s.mem_mantissa hc with h | rfl
      · exact Spelling.isWordPart_of_isAsciiDigit h
      · decide
    · rw [List.forall_mem_singleton]
      rcases hmark with rfl | rfl <;> decide
  have htext : (withoutExponent s).text = s.mantissa := List.append_nil _
  have hread := (withoutExponent s).lenient?_mark hmark
  rw [htext] at hread
  rw [evaluate_of_unmarked hword.tight
    (unmarked_append (unmarked_mantissa s) (unmarked_mark hmark)) hdepth,
    literal_eq hread (Decimal.isNaN_toBinary64 false _)]

theorem evaluate_exponentDigits (e : Exponent) (hdepth : depth ≤ maxDepth) :
    evaluate maxDepth depth e.digits = .ok (exponentDigits e).value := by
  have htext : (exponentDigits e).text = e.digits := by
    simp [exponentDigits, Spelling.text, Spelling.mantissa, Spelling.fractionText,
      Spelling.exponentText]
  have hread := literal_text (exponentDigits e)
  have htight := (exponentDigits e).isWord.tight
  rw [htext] at hread htight
  rw [evaluate_of_unmarked htight (unmarked_digits e.digits) hdepth, hread]

/-- **A literal that is cut at the sign of its exponent** is a sum or a difference, which needs a
level of its own. -/
theorem IsCut.evaluate_eq {s : Spelling} {e : Exponent} {op : Operator} (h : IsCut s e op)
    (hdepth : depth ≤ maxDepth) :
    evaluate maxDepth depth s.text =
      if depth < maxDepth then
        .ok (op.apply (withoutExponent s).value (exponentDigits e).value)
      else
        .error (.depthExceeded maxDepth) := by
  rw [Arithmetic.evaluate_eq, if_neg (by omega), s.isWord.tight.trim_eq, h.cut_eq]
  dsimp only
  rw [List.map_singleton]
  by_cases hlt : depth < maxDepth
  · rw [if_pos hlt, evaluate_mark s e.mark_eq hlt, evaluate_exponentDigits e hlt, ← op.apply_symbol]
    rfl
  · have hfirst : evaluate maxDepth (depth + 1) (s.mantissa ++ [e.mark])
        = .error (.depthExceeded maxDepth) := by
      rw [Arithmetic.evaluate_eq, if_pos (by omega)]
    rw [if_neg hlt, hfirst]
    rfl

/-- A literal that begins with a digit or whose exponent has no sign is read as a whole. -/
theorem evaluate_of_not_isCut {s : Spelling} (h : ∀ e op, ¬ IsCut s e op)
    (hdepth : depth ≤ maxDepth) : evaluate maxDepth depth s.text = .ok s.value := by
  by_cases hwhole : s.whole.1 = []
  · have hexponent : Unmarked s.exponentText := by
      unfold Spelling.exponentText
      cases he : s.exponent with
      | none => exact fun c _ => List.not_mem_nil
      | some e =>
        have hsign : e.sign = .unsigned := by
          cases hs : e.sign with
          | unsigned => rfl
          | plus => exact absurd ⟨hwhole, he, by rw [hs]; rfl⟩ (h e .add)
          | minus => exact absurd ⟨hwhole, he, by rw [hs]; rfl⟩ (h e .subtract)
        have htext : e.text = [e.mark] ++ e.digits := by
          rw [Exponent.text, hsign]
          rfl
        rw [Option.elim, htext]
        exact unmarked_append (unmarked_mark e.mark_eq) (unmarked_digits e.digits)
    rw [evaluate_of_unmarked s.isWord.tight
      (unmarked_append (unmarked_mantissa s) hexponent) hdepth, literal_text]
  · have hparen := s.head?_text_ne (by decide : isAsciiDigit '(' = false) (by decide)
    have hminus := s.head?_text_ne (by decide : isAsciiDigit '-' = false) (by decide)
    have hoperand : IsOperand .factor s.text := NumberLiteral.isOperand ⟨s, hwhole⟩
    rw [evaluate_literal hoperand hparen hminus hdepth, literal_text]

end Depth

/-- **Which number literals are read as a whole.**  A text is a literal if it is scanned as a whole,
and the lenient reading takes every literal to its number.  Arithmetic does so at every depth within
the limit if and only if the literal begins with a digit or its exponent has no sign.  Of any other
one the sign is taken for an operator between the literal in front of the mark and the digits of the
exponent, which lie one level deeper. -/
theorem evaluate_spelling (t : List Char) :
    (IsWhole t ↔ ∃ s : Spelling, s.text = t) ∧
    ∀ s : Spelling, s.text = t →
      Number.lenient? t = some s.value ∧
      ((∀ maxDepth depth, depth ≤ maxDepth → evaluate maxDepth depth t = .ok s.value) ↔
        ∀ e op, ¬ IsCut s e op) ∧
      ∀ e op, IsCut s e op → ∀ maxDepth depth, depth ≤ maxDepth →
        evaluate maxDepth depth t =
          if depth < maxDepth then
            .ok (op.apply (withoutExponent s).value (exponentDigits e).value)
          else
            .error (.depthExceeded maxDepth) := by
  refine ⟨isWhole_iff t, ?_⟩
  rintro s rfl
  refine ⟨s.lenient?_text, ⟨?_, ?_⟩, fun e op h _ _ => h.evaluate_eq⟩
  · intro hall e op hcut
    -- at the limit there is no level left for the operands
    have herror := hcut.evaluate_eq (Nat.le_refl 0)
    rw [hall 0 0 (Nat.le_refl 0), if_neg (Nat.lt_irrefl 0)] at herror
    cases herror
  · exact fun h _ _ => evaluate_of_not_isCut h

/-- The text `.5e-3` is read as `.5e` minus three. -/
theorem not_evaluate_spelling_of_leading_point :
    let s : Spelling := ⟨⟨[], by decide⟩, some ⟨['5'], by decide⟩,
      some ⟨'e', .minus, ⟨['3'], by decide⟩, .inl rfl, by decide⟩, by decide⟩
    s.text = ".5e-3".toList ∧ Number.lenient? s.text = some s.value ∧
      s.value = literal "0.0005".toList ∧
      evaluate 64 0 s.text = .ok (literal "-2.5".toList) ∧
      evaluate 64 0 s.text ≠ .ok s.value := by
  intro s
  have hcut : IsCut s ⟨'e', .minus, ⟨['3'], by decide⟩, .inl rfl, by decide⟩ .subtract :=
    ⟨rfl, rfl, rfl⟩
  have hvalue : evaluate 64 0 s.text = .ok (literal "-2.5".toList) := by
    rw [hcut.evaluate_eq (by decide : 0 ≤ 64)]
    exact congrArg Except.ok (by decide +kernel)
  have hne : literal "-2.5".toList ≠ s.value := by decide +kernel
  refine ⟨rfl, s.lenient?_text, by decide +kernel, hvalue, ?_⟩
  rw [hvalue]
  exact fun h => hne (Except.ok.inj h)

end FormLogic.Arithmetic
