import FormLogic.Proofs.Arithmetic.Grammar
import FormLogic.Proofs.Number.Spelling

/-!
# The value of printed arithmetic

Evaluation cuts a text at the operators of the loosest level it has, so it meets the operands of a
whole chain at once: those of the operators that a tree nests to the left.  Read from left to
right they have the value of the tree (`Prints.exists_chain`), and by induction on the length of
the text every printed tree is evaluated to its value (`evaluate_printed`).
-/

namespace FormLogic.Arithmetic

open Scan Text

variable {Leaf : Type} {spell : Leaf → List Char}

/-! ## 1. Chains -/

/-- A text of a tree with blank characters around it. -/
def Padded (spell : Leaf → List Char) (k : Level) (f : Tree Leaf) (q : List Char) : Prop :=
  ∃ (b b' : Blanks) (t : List Char), q = b ++ (t ++ b') ∧ Prints spell k f t

/-- **Operands of one level with operators between them.** -/
structure Chain (spell : Leaf → List Char) (k : Level) where
  first : Tree Leaf × List Char
  rest : List (Operator × Tree Leaf × List Char)
  first_printed : Padded spell k.tighter first.1 first.2
  rest_printed : ∀ p ∈ rest, p.1.level = k ∧ Padded spell k.tighter p.2.1 p.2.2

namespace Chain

variable {k : Level}

/-- The operators with the texts of their operands. -/
def pieces (c : Chain spell k) : List (Char × List Char) :=
  c.rest.map fun p => (p.1.symbol, p.2.2)

def text (c : Chain spell k) : List Char := chainText c.first.2 c.pieces

/-- The operators apply from left to right. -/
def value (read : Leaf → Binary64) (c : Chain spell k) : Binary64 :=
  c.rest.foldl (fun total p => p.1.apply total (p.2.1.value read)) (c.first.1.value read)

/-- A chain of one operand. -/
def single {f : Tree Leaf} {t : List Char} (h : Prints spell k.tighter f t) (b : Blanks) :
    Chain spell k where
  first := (f, t ++ b)
  rest := []
  first_printed := ⟨.none, b, t, rfl, h⟩
  rest_printed := fun _ hp => nomatch hp

/-- One more operator and its operand. -/
def snoc (c : Chain spell k) (op : Operator) (hop : op.level = k) {f : Tree Leaf} {q : List Char}
    (h : Padded spell k.tighter f q) : Chain spell k where
  first := c.first
  rest := c.rest ++ [(op, f, q)]
  first_printed := c.first_printed
  rest_printed := List.forall_mem_append.mpr
    ⟨c.rest_printed, List.forall_mem_singleton.mpr ⟨hop, h⟩⟩

theorem text_snoc (c : Chain spell k) (op : Operator) (hop : op.level = k) {f : Tree Leaf}
    {q : List Char} (h : Padded spell k.tighter f q) :
    (c.snoc op hop h).text = c.text ++ (op.symbol :: q) := by
  simp [text, pieces, snoc, chainText]

theorem value_snoc (c : Chain spell k) (op : Operator) (hop : op.level = k) {f : Tree Leaf}
    {q : List Char} (h : Padded spell k.tighter f q) (read : Leaf → Binary64) :
    (c.snoc op hop h).value read = op.apply (c.value read) (f.value read) := by
  simp [value, snoc]

end Chain

theorem Level.lt_tighter {k : Level} (h : k ≠ .factor) : k < k.tighter := by
  revert h
  cases k <;> decide

theorem Operator.level_ne (op : Operator) : op.level ≠ .factor := by
  cases op <;> decide

/-- What no operator of the level cuts is a chain of one operand. -/
theorem Prints.exists_single {k : Level} {f : Tree Leaf} {t : List Char}
    (h : Prints spell k.tighter f t) (b : Blanks) :
    ∃ c : Chain spell k, c.text = t ++ b ∧ ∀ read, c.value read = f.value read :=
  ⟨.single h b, by simp [Chain.text, Chain.single, Chain.pieces, chainText], fun _ => rfl⟩

/-- **A printed text is a chain**, also with blank characters behind it: the operands of the
operators that nest to the left, or the whole text. -/
theorem Prints.exists_chain {k : Level} {f : Tree Leaf} {t : List Char}
    (h : Prints spell k f t) (hk : k ≠ .factor) (b : Blanks) :
    ∃ c : Chain spell k, c.text = t ++ b ∧ ∀ read, c.value read = f.value read := by
  induction h generalizing b with
  | leaf k l => exact (Prints.leaf _ l).exists_single b
  | negation k b₁ h => exact (Prints.negation _ b₁ h).exists_single b
  | parentheses k b₁ b₂ h => exact (Prints.parentheses _ b₁ b₂ h).exists_single b
  | @binary k op hle b₁ b₂ left right tl tr hl hr ihl _ =>
    by_cases hlevel : op.level = k
    · -- the chain of the left operand goes on
      subst hlevel
      obtain ⟨c, htext, hvalue⟩ := ihl hk b₁
      have hright : Padded spell op.level.tighter right (b₂ ++ (tr ++ b)) := ⟨b₂, b, tr, rfl, hr⟩
      refine ⟨c.snoc op rfl hright, ?_, ?_⟩
      · rw [c.text_snoc, htext]
        simp
      · intro read
        rw [c.value_snoc, hvalue, Tree.value]
    · have htighter : k.tighter ≤ op.level := by
        revert hle hlevel hk
        cases k <;> cases op <;> decide
      exact (Prints.binary op htighter b₁ b₂ hl hr).exists_single b

/-! ## 2. One level of evaluation -/

/-- What is left of a text that no level cuts. -/
def evaluateUncut (evaluate : List Char → Except EvalError Binary64) (cs : List Char) :
    Except EvalError Binary64 :=
  match group? cs with
  | some inner => evaluate inner
  | none =>
  match cs with
  | '-' :: operand => return (← evaluate operand).neg
  | text => return literal text

/-- **One level of evaluation.** -/
theorem evaluate_eq (maxDepth depth : Nat) (cs : List Char) :
    evaluate maxDepth depth cs =
      if maxDepth < depth then .error (.depthExceeded maxDepth)
      else
        match cut cutsSum 0 [] (trim cs) with
        | (first, p :: ps) =>
          chain (evaluate maxDepth (depth + 1) first)
            ((p :: ps).map fun p => (p.1, evaluate maxDepth (depth + 1) p.2))
        | (_, []) =>
        match cut cutsProduct 0 [] (trim cs) with
        | (first, p :: ps) =>
          chain (evaluate maxDepth (depth + 1) first)
            ((p :: ps).map fun p => (p.1, evaluate maxDepth (depth + 1) p.2))
        | (_, []) => evaluateUncut (evaluate maxDepth (depth + 1)) (trim cs) := by
  let operand (p : Char × List Char) := (p.1, evaluate maxDepth (depth + 1) p.2)
  have hoperands : ∀ ps : List (Char × List Char),
      (ps.attach.map fun p => operand p.1) = ps.map operand := fun _ => List.attach_map_val
  rw [evaluate]
  split
  · rfl
  split
  · next first p ps hs =>
    rw [hs]
    exact congrArg (chain _) (hoperands (p :: ps))
  · next hs =>
    rw [hs]
    dsimp only
    split
    · next first p ps hp =>
      rw [hp]
      exact congrArg (chain _) (hoperands (p :: ps))
    · next hp =>
      rw [hp]
      dsimp only [evaluateUncut]
      split
      · next hg => rw [hg]
      · next hg =>
        rw [hg]
        dsimp only
        split
        · next hn =>
          rw [hn]
          rfl
        · next hn =>
          split
          · next h => exact absurd h (hn _)
          · rfl

section Levels

variable {maxDepth depth : Nat}

/-- Blank characters around a text do not count. -/
theorem evaluate_eq_of_trim_eq {cs cs' : List Char} (h : trim cs = trim cs') :
    evaluate maxDepth depth cs = evaluate maxDepth depth cs' := by
  rw [evaluate_eq, evaluate_eq, h]

theorem evaluate_pad {t : List Char} (h : Tight t) (b b' : Blanks) :
    evaluate maxDepth depth (b ++ (t ++ b')) = evaluate maxDepth depth t :=
  evaluate_eq_of_trim_eq (by rw [h.trim_pad b.2 b'.2, h.trim_eq])

/-- An operand is not cut by a looser level. -/
theorem IsOperand.cut_eq {k l : Level} {t : List Char} (h : IsOperand k t) (hl : l < k) :
    cut l.cuts 0 [] t = (t, []) :=
  (h.passes (.inr ⟨rfl, ⟨l, hl, rfl⟩, Fresh.nil⟩)).cut_eq

theorem evaluate_of_uncut {t : List Char} (ht : Tight t)
    (hcut : ∀ l < Level.factor, cut l.cuts 0 [] t = (t, [])) (hdepth : depth ≤ maxDepth) :
    evaluate maxDepth depth t = evaluateUncut (evaluate maxDepth (depth + 1)) t := by
  have hsum : cut cutsSum 0 [] t = (t, []) := hcut .sum (by decide)
  have hproduct : cut cutsProduct 0 [] t = (t, []) := hcut .product (by decide)
  rw [evaluate_eq, if_neg (by omega), ht.trim_eq, hsum]
  dsimp only
  rw [hproduct]

theorem evaluate_factor {t : List Char} (h : IsOperand .factor t) (hdepth : depth ≤ maxDepth) :
    evaluate maxDepth depth t = evaluateUncut (evaluate maxDepth (depth + 1)) t :=
  evaluate_of_uncut h.tight (fun _ hl => h.cut_eq hl) hdepth

/-- What is neither in parentheses nor negated is a literal. -/
theorem evaluateUncut_literal {t : List Char} (hparen : t.head? ≠ some '(')
    (hminus : t.head? ≠ some '-') (evaluate : List Char → Except EvalError Binary64) :
    evaluateUncut evaluate t = .ok (literal t) := by
  unfold evaluateUncut
  rw [group?_of_head_ne hparen]
  dsimp only
  split
  · exact absurd rfl hminus
  · rfl

theorem evaluate_literal {t : List Char} (h : IsOperand .factor t) (hparen : t.head? ≠ some '(')
    (hminus : t.head? ≠ some '-') (hdepth : depth ≤ maxDepth) :
    evaluate maxDepth depth t = .ok (literal t) := by
  rw [evaluate_factor h hdepth, evaluateUncut_literal hparen hminus]

theorem evaluate_negation {t : List Char} (h : IsOperand .factor t) (b : Blanks)
    (hdepth : depth ≤ maxDepth) :
    evaluate maxDepth depth ('-' :: (b ++ t))
      = do return (← evaluate maxDepth (depth + 1) t).neg := by
  have hinner : evaluate maxDepth (depth + 1) (b ++ t) = evaluate maxDepth (depth + 1) t := by
    simpa using evaluate_pad h.tight b .none
  rw [evaluate_factor (h.negation b) hdepth]
  unfold evaluateUncut
  rw [group?_of_head_ne (by simp), ← hinner]
  rfl

theorem evaluate_bracketed {t : List Char} (h : IsOperand .sum t) (b b' : Blanks)
    (hdepth : depth ≤ maxDepth) :
    evaluate maxDepth depth (bracketed b b' t) = evaluate maxDepth (depth + 1) t := by
  have hgroup : group? (bracketed b b' t) = some (b ++ (t ++ b')) :=
    group?_parens (Shape.closed_pad b.2 h.closed b'.2).balanced
  rw [evaluate_factor (h.bracketed b b') hdepth]
  unfold evaluateUncut
  rw [hgroup]
  exact evaluate_pad h.tight b b'

theorem Padded.isPiece (hspell : ∀ l, IsOperand .factor (spell l)) {k : Level} {f : Tree Leaf}
    {q : List Char} (h : Padded spell k.tighter f q) (hk : k ≠ .factor) : IsPiece k q := by
  obtain ⟨b, b', t, rfl, ht⟩ := h
  exact (ht.isOperand hspell).isPiece (Level.lt_tighter hk) b b'

theorem Chain.cut_eq (hspell : ∀ l, IsOperand .factor (spell l)) {k : Level} (hk : k ≠ .factor)
    (c : Chain spell k) : cut k.cuts 0 [] c.text = (c.first.2, c.pieces) := by
  refine cut_chain Fresh.nil (c.first_printed.isPiece hspell hk) ?_
  intro p hp
  obtain ⟨r, hr, rfl⟩ := List.mem_map.mp hp
  obtain ⟨hlevel, hprinted⟩ := c.rest_printed r hr
  exact ⟨hlevel ▸ r.1.symbol_mem, hprinted.isPiece hspell hk⟩

/-- Operators apply to numbers from left to right. -/
theorem chain_ok {α : Type} (op : α → Operator) (operand : α → Binary64) (first : Binary64)
    (ps : List α) :
    chain (.ok first) (ps.map fun p => ((op p).symbol, .ok (operand p)))
      = .ok (ps.foldl (fun total p => (op p).apply total (operand p)) first) := by
  induction ps generalizing first with
  | nil => rfl
  | cons p ps ih =>
    rw [List.foldl_cons, ← ih, ← (op p).apply_symbol]
    rfl

/-- The loosest level that cuts a text evaluates it. -/
theorem evaluate_eq_chain {k : Level} (hk : k ≠ .factor) {t first : List Char}
    {p : Char × List Char} {ps : List (Char × List Char)} (h : IsOperand k t)
    (hcut : cut k.cuts 0 [] t = (first, p :: ps)) (hdepth : depth ≤ maxDepth) :
    evaluate maxDepth depth t
      = chain (evaluate maxDepth (depth + 1) first)
          ((p :: ps).map fun p => (p.1, evaluate maxDepth (depth + 1) p.2)) := by
  rw [evaluate_eq, if_neg (by omega), h.tight.trim_eq]
  cases k with
  | sum =>
    rw [Level.cuts] at hcut
    rw [hcut]
  | product =>
    have hsum : cut cutsSum 0 [] t = (t, []) := h.cut_eq (by decide : Level.sum < .product)
    rw [Level.cuts] at hcut
    rw [hsum]
    dsimp only
    rw [hcut]
  | factor => exact absurd rfl hk

/-- **A chain is evaluated operand by operand**, and the operands are shorter. -/
theorem Chain.evaluate_eq_ok (hspell : ∀ l, IsOperand .factor (spell l)) {k : Level}
    (hk : k ≠ .factor) (c : Chain spell k) (hrest : c.rest ≠ []) (htext : IsOperand k c.text)
    (hdepth : depth ≤ maxDepth) {read : Leaf → Binary64}
    (hoperands : ∀ f q, Padded spell k.tighter f q → q.length < c.text.length →
      evaluate maxDepth (depth + 1) q = .ok (f.value read)) :
    evaluate maxDepth depth c.text = .ok (c.value read) := by
  have hcut := c.cut_eq hspell hk
  obtain ⟨p, ps, hps⟩ : ∃ p ps, c.pieces = p :: ps :=
    List.exists_cons_of_ne_nil (by simpa [pieces] using hrest)
  rw [hps] at hcut
  obtain ⟨hfirst, hshorter⟩ := length_lt_of_cut hcut
  have hpieces : c.pieces.map (fun p => (p.1, evaluate maxDepth (depth + 1) p.2))
      = c.rest.map fun p => (p.1.symbol, .ok (p.2.1.value read)) := by
    rw [pieces, List.map_map]
    refine List.map_congr_left ?_
    intro r hr
    have hlt := hshorter (r.1.symbol, r.2.2) (hps ▸ List.mem_map_of_mem hr)
    rw [Function.comp, hoperands _ _ (c.rest_printed r hr).2 hlt]
  rw [evaluate_eq_chain hk htext hcut hdepth, ← hps, hoperands _ _ c.first_printed hfirst, hpieces,
    chain_ok, value]

end Levels

/-! ## 3. Printed trees -/

/-- **Leaves are spelled as they are read**: what is written can be an operand, and evaluates to
the number. -/
structure Spells (spell : Leaf → List Char) (read : Leaf → Binary64) : Prop where
  isOperand : ∀ l, IsOperand .factor (spell l)
  evaluate : ∀ l {maxDepth depth : Nat}, depth + (spell l).length ≤ maxDepth →
    evaluate maxDepth depth (spell l) = .ok (read l)

/-- **Printed arithmetic is evaluated to the value of its tree**, as long as the nesting that the
text can have stays within the limit. -/
theorem evaluate_printed {read : Leaf → Binary64} (hspell : Spells spell read) {k : Level}
    {f : Tree Leaf} {t : List Char} (h : Prints spell k f t) {maxDepth depth : Nat}
    (hdepth : depth + t.length ≤ maxDepth) :
    evaluate maxDepth depth t = .ok (f.value read) := by
  -- on the length and not on the derivation: the operands of a chain are no parts of its tree
  induction hn : t.length using Nat.strongRecOn generalizing k f t depth with
  | ind n ih =>
    subst hn
    have shorter : ∀ {l : Level} {g : Tree Leaf} {u : List Char}, Prints spell l g u →
        u.length < t.length → evaluate maxDepth (depth + 1) u = .ok (g.value read) :=
      fun hu hlt => ih _ hlt hu (by omega) rfl
    cases h with
    | leaf _ l => exact hspell.evaluate l hdepth
    | @negation _ b inner u hu =>
      have hinner := shorter hu (by simp only [List.length_cons, List.length_append]; omega)
      rw [evaluate_negation (hu.isOperand hspell.isOperand) b (by omega), hinner]
      rfl
    | @parentheses _ b b' _ u hu =>
      have hinner := shorter hu
        (by simp only [bracketed, List.length_cons, List.length_append]; omega)
      rw [evaluate_bracketed (hu.isOperand hspell.isOperand) b b' (by omega), hinner]
    | @binary _ op hk b b' left right tl tr hl hr =>
      -- the chain of the left operand, and the right one behind it
      obtain ⟨c, hleft, hvalue⟩ := hl.exists_chain op.level_ne b
      have hright : Padded spell op.level.tighter right (b' ++ tr) :=
        ⟨b', .none, tr, by simp, hr⟩
      have htext : (c.snoc op rfl hright).text = tl ++ (b ++ (op.symbol :: (b' ++ tr))) := by
        rw [c.text_snoc, hleft, List.append_assoc]
      have hwhole := (Prints.binary op (Nat.le_refl _) b b' hl hr).isOperand hspell.isOperand
      rw [← htext] at hwhole shorter hdepth ⊢
      rw [Chain.evaluate_eq_ok hspell.isOperand op.level_ne _ (by simp [Chain.snoc]) hwhole
        (by omega), c.value_snoc, hvalue, Tree.value]
      rintro g q ⟨b₁, b₂, u, rfl, hu⟩ hlt
      simp only [List.length_append] at hlt
      rw [evaluate_pad (hu.isOperand hspell.isOperand).tight b₁ b₂]
      exact shorter hu (by omega)

/-! ## 4. Number literals -/

/-- A number literal that begins with a digit. -/
abbrev NumberLiteral := { s : Numeral.Spelling // s.whole.1 ≠ [] }

namespace NumberLiteral

open Numeral

def text (l : NumberLiteral) : List Char := l.1.text

def value (l : NumberLiteral) : Binary64 := l.1.value

theorem endsOperand_of_isAsciiDigit {c : Char} (h : isAsciiDigit c = true) :
    endsOperand c = true := by
  simp [endsOperand, isIdentifierPart, isAsciiAlphanumeric, h]

/-- Digits and points are neither parentheses nor operators. -/
theorem apart_of_digits {t : List Char} (h : ∀ c ∈ t, isAsciiDigit c = true ∨ c = '.') :
    Shape.Apart ('(' :: ')' :: operators) t :=
  apart_of_isTokenPart fun c hc => isTokenPart_of_digit_or_point (h c hc)

theorem endsOperand_text (s : Spelling) : EndsOperand s.text := by
  obtain ⟨start, c, htext, hc⟩ := s.exists_last
  refine ⟨start, c, htext, ?_, ?_, ?_⟩
  · rcases hc with h | rfl
    · exact endsOperand_of_isAsciiDigit h
    · decide
  · rintro rfl
    exact absurd hc (by decide)
  · rintro rfl
    exact absurd hc (by decide)

/-- The digits in front of an exponent, where there are any before the point. -/
theorem exists_mantissa {s : Spelling} (h : s.whole.1 ≠ []) :
    ∃ d digits, s.mantissa = d :: digits ∧ isAsciiDigit d = true ∧
      ∀ c ∈ digits, isAsciiDigit c = true ∨ c = '.' := by
  obtain ⟨d, ds, hwhole⟩ := List.exists_cons_of_ne_nil h
  have hmantissa : s.mantissa = d :: (ds ++ s.fractionText) := by
    rw [Spelling.mantissa, hwhole]
    rfl
  refine ⟨d, _, hmantissa, s.whole.2 d (hwhole ▸ List.mem_cons_self), ?_⟩
  intro c hc
  exact s.mem_mantissa (hmantissa ▸ List.mem_cons_of_mem _ hc)

/-- The sign of an exponent is no operator. -/
theorem passes_exponent {cuts : List Char → Char → Bool} {depth : Int} {before : List Char}
    (hu : Unseen .factor cuts depth before) {s : Spelling} (hs : s.whole.1 ≠ []) (e : Exponent) :
    Passes cuts depth (s.mantissa.reverse ++ before) e.text := by
  obtain ⟨d, digits, hmantissa, hd, hdigits⟩ := exists_mantissa hs
  have hmark : Shape.Apart ('(' :: ')' :: operators) [e.mark] := by
    rcases e.mark_eq with h | h <;> rw [h] <;> decide
  have hsign : Fresh before →
      isBinarySign ([e.mark].reverse ++ (s.mantissa.reverse ++ before)) = false := by
    intro hfresh
    have hdigit := hfresh.isBinarySign_mark e.mark_eq (List.forall_mem_cons.mpr ⟨.inl hd, hdigits⟩)
    rw [hd] at hdigit
    rw [hmantissa]
    exact hdigit
  have hexponent : ∀ before', Passes cuts depth before' e.digits.1 := fun before' =>
    hu.passes_of_apart (apart_of_digits fun c hc => .inl (e.digits.2 c hc)) before'
  refine Passes.append (hu.passes_of_apart hmark _) (Passes.append ?_ (hexponent _))
  cases e.sign with
  | unsigned => exact Passes.nil
  | plus => exact hu.sign hsign (.inl rfl)
  | minus => exact hu.sign hsign (.inr rfl)

theorem isOperand (l : NumberLiteral) : IsOperand .factor l.text where
  closed := l.1.isWord.closed
  tight := l.1.isWord.tight
  ends := endsOperand_text l.1
  passes := by
    intro cuts depth before hu
    have hmantissa : Passes cuts depth before l.1.mantissa :=
      hu.passes_of_apart (apart_of_digits fun _ hc => l.1.mem_mantissa hc) before
    refine hmantissa.append ?_
    unfold Spelling.exponentText
    cases l.1.exponent with
    | none => exact Passes.nil
    | some e => exact passes_exponent hu l.2 e

end NumberLiteral

theorem literal_eq {t : List Char} {n : Binary64} (h : Number.lenient? t = some n)
    (hn : n.isNaN = false) : literal t = n := by
  rw [literal, h, Option.filter_some, hn]
  rfl

theorem literal_text (s : Numeral.Spelling) : literal s.text = s.value :=
  literal_eq s.lenient?_text (Decimal.isNaN_toBinary64 false s.decimal)

theorem spells_numberLiteral : Spells NumberLiteral.text NumberLiteral.value where
  isOperand := NumberLiteral.isOperand
  evaluate := by
    intro l maxDepth depth hdepth
    have hminus : l.text.head? ≠ some '-' := l.1.head?_text_ne (by decide) (by decide)
    have hparen : l.text.head? ≠ some '(' := l.1.head?_text_ne (by decide) (by decide)
    rw [evaluate_literal l.isOperand hparen hminus (by omega)]
    exact congrArg Except.ok (literal_text l.1)

/-- **Arithmetic follows its grammar.**  Every tree over number literals has a text, and every
text of it, with blank characters around it, is evaluated to the value of the tree at every depth
from which the limit is at least as far as the text has bytes. -/
theorem evaluate_of_prints (f : Tree NumberLiteral) :
    (∃ t, Prints NumberLiteral.text .sum f t) ∧
    ∀ t, Prints NumberLiteral.text .sum f t → ∀ (b b' : Blanks) (depth maxDepth : Nat),
      depth + (String.ofList (b ++ (t ++ b'))).utf8ByteSize ≤ maxDepth →
      evaluate maxDepth depth (b ++ (t ++ b')) = .ok (f.value NumberLiteral.value) := by
  refine ⟨f.exists_prints _ _, ?_⟩
  intro t ht b b' depth maxDepth hdepth
  have hlength := length_le_utf8ByteSize (b ++ (t ++ b'))
  simp only [List.length_append] at hlength
  rw [evaluate_pad (ht.isOperand NumberLiteral.isOperand).tight b b']
  exact evaluate_printed spells_numberLiteral ht (by omega)

/-- `10-3\u00a0- 2e-1*-4` is 7.8: differences are taken from left to right, and the signs of the
exponent and of the last factor are no operators. -/
theorem evaluate_printed_difference :
    let ten : NumberLiteral := ⟨⟨⟨['1', '0'], by decide⟩, none, none, by decide⟩, by decide⟩
    let three : NumberLiteral := ⟨⟨⟨['3'], by decide⟩, none, none, by decide⟩, by decide⟩
    let four : NumberLiteral := ⟨⟨⟨['4'], by decide⟩, none, none, by decide⟩, by decide⟩
    let fifth : NumberLiteral := ⟨⟨⟨['2'], by decide⟩, none,
      some ⟨'e', .minus, ⟨['1'], by decide⟩, .inl rfl, by decide⟩, by decide⟩, by decide⟩
    let difference : Tree NumberLiteral :=
      .binary .subtract (.binary .subtract (.leaf ten) (.leaf three))
        (.binary .multiply (.leaf fifth) (.negation (.leaf four)))
    let text := "10-3\u00a0- 2e-1*-4".toList
    0 + (String.ofList text).utf8ByteSize ≤ 64 ∧
    evaluate 64 0 text = .ok (difference.value NumberLiteral.value) ∧
    difference.value NumberLiteral.value = literal ['7', '.', '8'] := by
  intro ten three four fifth difference text
  have hleft : Prints NumberLiteral.text .sum _ _ :=
    .binary .subtract (Nat.le_refl _) .none .none (.leaf .sum ten) (.leaf .product three)
  have hright : Prints NumberLiteral.text .product _ _ :=
    .binary .multiply (Nat.le_refl _) .none .none (.leaf .product fifth)
      (.negation .factor .none (.leaf .factor four))
  have htext : Prints NumberLiteral.text .sum difference text :=
    .binary .subtract (Nat.le_refl _) ⟨['\u00a0'], by decide⟩ ⟨[' '], by decide⟩ hleft hright
  have hdepth : 0 + (String.ofList text).utf8ByteSize ≤ 64 := by decide
  refine ⟨hdepth, ?_, by decide +kernel⟩
  exact (evaluate_of_prints difference).2 text htext .none .none 0 64 hdepth

end FormLogic.Arithmetic
