import FormLogic.Expression.Arithmetic
import FormLogic.Proofs.Expression.Literal

/-!
# Where arithmetic is cut

There are no tokens: whether a plus or minus is an operator is read off the characters behind it.
Behind an operand it is one, in front of an operand it is a sign, and inside a number it is part
of the exponent.  Text that holds no operator of a level is passed over by the cutter of that
level (`Passes`), so a chain of operands is cut at its operators and nowhere else (`cut_chain`).
-/

namespace FormLogic.Arithmetic

open Text

/-! ## 1. Text that is passed over -/

/-- **The cutter passes over a text**: it goes on behind the text at the same depth. -/
def Passes (cuts : List Char → Char → Bool) (depth : Int) (before t : List Char) : Prop :=
  ∀ rest, cut cuts depth before (t ++ rest)
    = (t ++ (cut cuts depth (t.reverse ++ before) rest).1,
        (cut cuts depth (t.reverse ++ before) rest).2)

namespace Passes

variable {cuts : List Char → Char → Bool} {depth : Int} {before t : List Char}

theorem nil : Passes cuts depth before [] := fun _ => rfl

theorem append {u : List Char} (ht : Passes cuts depth before t)
    (hu : Passes cuts depth (t.reverse ++ before) u) : Passes cuts depth before (t ++ u) := by
  intro rest
  rw [List.append_assoc, ht (u ++ rest), hu rest]
  simp

theorem char {c : Char} (hopen : c ≠ '(') (hclose : c ≠ ')')
    (hcut : depth ≠ 0 ∨ cuts before c = false) : Passes cuts depth before [c] := by
  intro rest
  have hno : ¬ (depth = 0 ∧ cuts before c = true) := by
    rintro ⟨hdepth, hc⟩
    rcases hcut with h | h
    · exact h hdepth
    · rw [h] at hc
      exact Bool.noConfusion hc
  simp [cut, hopen, hclose, hno]

/-- Text without parentheses is passed over when none of its characters is cut anywhere. -/
theorem of_forall (hopen : '(' ∉ t) (hclose : ')' ∉ t)
    (hcut : depth ≠ 0 ∨ ∀ c ∈ t, ∀ before, cuts before c = false) :
    Passes cuts depth before t := by
  induction t generalizing before with
  | nil => exact nil
  | cons c t ih =>
    obtain ⟨hc, hopen⟩ := not_or.mp (mt List.mem_cons.mpr hopen)
    obtain ⟨hc', hclose⟩ := not_or.mp (mt List.mem_cons.mpr hclose)
    have htail : Passes cuts depth ([c].reverse ++ before) t :=
      ih hopen hclose (hcut.imp_right fun h d hd => h d (List.mem_cons_of_mem _ hd))
    exact append (char (Ne.symm hc) (Ne.symm hc')
      (hcut.imp_right fun h => h c List.mem_cons_self before)) htail

/-- Parentheses are passed over when their inside is, one level deeper. -/
theorem parens (h : Passes cuts (depth + 1) ('(' :: before) t) :
    Passes cuts depth before ('(' :: (t ++ [')'])) := by
  intro rest
  have hinside := h (')' :: rest)
  simp only [List.cons_append, List.append_assoc, List.nil_append, cut, hinside]
  simp

/-- A text that is passed over is not cut. -/
theorem cut_eq (h : Passes cuts depth before t) : cut cuts depth before t = (t, []) := by
  simpa [cut] using h []

end Passes

/-! ## 2. Signs and operators -/

/-- **An operand may begin here**: what lies behind ends in an operator, blank characters not
counting, or there is nothing behind. -/
def Fresh (before : List Char) : Prop :=
  ∀ c ∈ (before.dropWhile isBlank).head?, isOperator c = true

/-- The text ends as an operand does, and not in the mark of an exponent. -/
def EndsOperand (t : List Char) : Prop :=
  ∃ start c, t = start ++ [c] ∧ endsOperand c = true ∧ c ≠ 'e' ∧ c ≠ 'E'

/-- The operators. -/
def operators : List Char := ['+', '-', '*', '/', '%']

theorem mem_operators_iff {c : Char} : c ∈ operators ↔ isOperator c = true := by
  simp [operators, isOperator, or_assoc]

theorem eq_of_isOperator {c : Char} (h : isOperator c = true) :
    c = '+' ∨ c = '-' ∨ c = '*' ∨ c = '/' ∨ c = '%' := by
  simpa [operators] using mem_operators_iff.mpr h

theorem isBlank_of_isOperator {c : Char} (h : isOperator c = true) : isBlank c = false := by
  have hvisible : Visible operators := by decide
  exact hvisible c (mem_operators_iff.mpr h)

theorem isBlank_of_endsOperand {c : Char} (h : endsOperand c = true) : isBlank c = false := by
  simp only [endsOperand, Bool.or_eq_true, beq_iff_eq] at h
  rcases h with (h | rfl) | rfl
  · exact isBlank_of_isWordPart (by simp [isWordPart, h])
  · decide
  · decide

namespace Fresh

variable {before : List Char}

theorem nil : Fresh [] := fun _ hc => nomatch hc

theorem operator {o : Char} (ho : isOperator o = true) (before : List Char) :
    Fresh (o :: before) := by
  intro c hc
  rw [List.dropWhile_cons_of_neg (by simp [isBlank_of_isOperator ho])] at hc
  exact Option.some.inj hc ▸ ho

theorem blank (h : Fresh before) {b : List Char} (hb : Blank b) : Fresh (b.reverse ++ before) := by
  rw [Fresh, List.dropWhile_append_of_pos fun c hc => hb c (List.mem_reverse.mp hc)]
  exact h

/-- **In front of an operand a plus or minus is a sign.** -/
theorem isBinarySign_eq (h : Fresh before) : isBinarySign before = false := by
  unfold isBinarySign
  split
  · rfl
  · next prev more hprev =>
    have hends : endsOperand prev = false := by
      have hop := h prev (by simp [hprev])
      rcases eq_of_isOperator hop with rfl | rfl | rfl | rfl | rfl <;> decide
    rw [hends, Bool.false_and]

/-- No number ends here. -/
theorem takeWhile_eq_nil (h : Fresh before) :
    (before.takeWhile fun c => isAsciiAlphanumeric c || c == '.') = [] := by
  cases before with
  | nil => rfl
  | cons c before =>
    refine List.takeWhile_cons_of_neg ?_
    intro hc
    have hpart : isWordPart c = true := by
      rcases Bool.or_eq_true_iff.mp hc with h | h <;> simp [isWordPart, isIdentifierPart, h]
    have hblank := isBlank_of_isWordPart hpart
    have hop := h c (by simp [hblank])
    rcases eq_of_isOperator hop with rfl | rfl | rfl | rfl | rfl <;> exact absurd hc (by decide)

/-- **Behind the mark of an exponent a plus or minus is an operator unless the number begins with a
digit**: one that begins with a point is not recognized. -/
theorem isBinarySign_mark (h : Fresh before) {mark d : Char} {digits : List Char}
    (hmark : mark = 'e' ∨ mark = 'E')
    (hdigits : ∀ c ∈ d :: digits, isAsciiDigit c = true ∨ c = '.') :
    isBinarySign (mark :: ((d :: digits).reverse ++ before)) = !isAsciiDigit d := by
  have hnumber : ∀ c ∈ (d :: digits).reverse, (isAsciiAlphanumeric c || c == '.') = true := by
    intro c hc
    rcases hdigits c (List.mem_reverse.mp hc) with h | rfl
    · simp [isAsciiAlphanumeric, h]
    · decide
  have hrun : (((d :: digits).reverse ++ before).takeWhile
      fun c => isAsciiAlphanumeric c || c == '.').getLast? = some d := by
    rw [List.takeWhile_append_of_pos hnumber, h.takeWhile_eq_nil]
    simp
  have hends : isBlank mark = false ∧ endsOperand mark = true := by
    rcases hmark with rfl | rfl <;> decide
  have hmark' : (mark == 'e' || mark == 'E') = true := by simpa using hmark
  generalize (d :: digits).reverse ++ before = more at hrun ⊢
  simp [isBinarySign, hends, hmark', hrun]

end Fresh

/-- **Behind an operand a plus or minus is an operator.** -/
theorem EndsOperand.isBinarySign_eq {t b : List Char} (h : EndsOperand t) (hb : Blank b)
    (before : List Char) : isBinarySign ((t ++ b).reverse ++ before) = true := by
  obtain ⟨start, c, rfl, hends, he, hE⟩ := h
  have hdrop : (((start ++ [c]) ++ b).reverse ++ before).dropWhile isBlank
      = c :: (start.reverse ++ before) := by
    rw [List.reverse_append, List.append_assoc,
      List.dropWhile_append_of_pos fun d hd => hb d (List.mem_reverse.mp hd)]
    simp [isBlank_of_endsOperand hends]
  rw [isBinarySign, hdrop]
  simp [hends, he, hE]

/-! ## 3. Levels -/

/-- **The levels of arithmetic**, from the one that binds loosest. -/
inductive Level where
  | sum
  | product
  /-- What no operator cuts. -/
  | factor
deriving DecidableEq, Repr

namespace Level

def rank : Level → Nat
  | sum => 0
  | product => 1
  | factor => 2

instance : LE Level := ⟨fun k l => k.rank ≤ l.rank⟩

instance : LT Level := ⟨fun k l => k.rank < l.rank⟩

instance (k l : Level) : Decidable (k ≤ l) := inferInstanceAs (Decidable (k.rank ≤ l.rank))

instance (k l : Level) : Decidable (k < l) := inferInstanceAs (Decidable (k.rank < l.rank))

/-- The operators of a level. -/
def symbols : Level → List Char
  | sum => ['+', '-']
  | product => ['*', '/', '%']
  | factor => []

/-- Where a text is cut at a level. -/
def cuts : Level → List Char → Char → Bool
  | sum => cutsSum
  | product => cutsProduct
  | factor => fun _ _ => false

/-- The level of the operands. -/
def tighter : Level → Level
  | sum => product
  | product => factor
  | factor => factor

variable {k : Level}

theorem symbols_subset (k : Level) : k.symbols ⊆ operators := by
  cases k <;> decide

theorem isOperator_of_mem_symbols {o : Char} (h : o ∈ k.symbols) : isOperator o = true :=
  mem_operators_iff.mp (k.symbols_subset h)

theorem not_paren_of_mem_symbols {o : Char} (h : o ∈ k.symbols) : o ≠ '(' ∧ o ≠ ')' := by
  constructor
  · rintro rfl
    exact absurd (k.symbols_subset h) (by decide)
  · rintro rfl
    exact absurd (k.symbols_subset h) (by decide)

/-- Other characters are cut nowhere. -/
theorem cuts_eq_false {c : Char} (h : c ∉ k.symbols) (before : List Char) :
    k.cuts before c = false := by
  cases k with
  | sum =>
    have hc : (c == '+' || c == '-') = false := by simpa [symbols] using h
    simp [cuts, cutsSum, hc]
  | product => simpa [cuts, cutsProduct, symbols, and_assoc] using h
  | factor => rfl

/-- Behind an operand every operator of the level is cut. -/
theorem cuts_of_endsOperand {o : Char} (ho : o ∈ k.symbols) {t b : List Char}
    (h : EndsOperand t) (hb : Blank b) (before : List Char) :
    k.cuts ((t ++ b).reverse ++ before) o = true := by
  cases k with
  | sum =>
    have hsign : (o == '+' || o == '-') = true := by simpa [symbols] using ho
    rw [cuts, cutsSum, hsign, h.isBinarySign_eq hb, Bool.true_and]
  | product => simpa [cuts, cutsProduct, symbols, or_assoc] using ho
  | factor => exact absurd ho List.not_mem_nil

/-- A plus or minus that is no operator is not cut. -/
theorem cuts_sign {before : List Char} (h : isBinarySign before = false) {c : Char}
    (hc : c = '+' ∨ c = '-') : k.cuts before c = false := by
  cases k with
  | sum => simp [cuts, cutsSum, h]
  | product => rcases hc with rfl | rfl <;> rfl
  | factor => rfl

end Level

/-! ## 4. Chains -/

/-- Operands with operators between them. -/
def chainText (first : List Char) (rest : List (Char × List Char)) : List Char :=
  first ++ rest.flatMap fun p => p.1 :: p.2

/-- **An operand of a chain**, with the blank characters around it: its own operators belong to
tighter levels, and every operator of the level behind it is cut. -/
structure IsPiece (k : Level) (q : List Char) : Prop where
  passes : ∀ before, Fresh before → Passes k.cuts 0 before q
  ready : ∀ before, ∀ o ∈ k.symbols, k.cuts (q.reverse ++ before) o = true

/-- **A chain is cut at its operators.** -/
theorem cut_chain {k : Level} {first before : List Char} {rest : List (Char × List Char)}
    (hfresh : Fresh before) (hfirst : IsPiece k first)
    (hrest : ∀ p ∈ rest, p.1 ∈ k.symbols ∧ IsPiece k p.2) :
    cut k.cuts 0 before (chainText first rest) = (first, rest) := by
  induction rest generalizing first before with
  | nil =>
    simpa [chainText] using (hfirst.passes before hfresh).cut_eq
  | cons p rest ih =>
    obtain ⟨o, q⟩ := p
    obtain ⟨ho, hq⟩ := hrest (o, q) List.mem_cons_self
    obtain ⟨hopen, hclose⟩ := Level.not_paren_of_mem_symbols ho
    have hcut := hfirst.ready before o ho
    have hnext := ih (Fresh.operator (Level.isOperator_of_mem_symbols ho) (first.reverse ++ before))
      hq fun p hp => hrest p (List.mem_cons_of_mem _ hp)
    have htext : chainText first ((o, q) :: rest) = first ++ (o :: chainText q rest) := rfl
    rw [htext, hfirst.passes before hfresh, cut]
    simp [hopen, hclose, hcut, hnext]

end FormLogic.Arithmetic
