import FormLogic.Proofs.Arithmetic.Cut
import FormLogic.Proofs.Expression.Grammar

/-!
# The grammar of arithmetic

`Tree` is the abstract syntax of arithmetic over leaves of any kind, and `Tree.value` what it
means.  `Prints` relates a tree to its texts: blank characters anywhere between the tokens, and
parentheses at least where an operator that binds looser would otherwise be read wrong.

Every printed text can be an operand at its level (`Prints.isOperand`): cutters of looser levels
pass over it.  At a level that has operators, a text is a `Chain` of operands of the next level,
applied from left to right.
-/

namespace FormLogic.Arithmetic

open Scan Text

/-! ## 1. Trees and their values -/

inductive Operator where
  | add
  | subtract
  | multiply
  | divide
  | remainder
deriving DecidableEq, Repr

namespace Operator

def symbol : Operator → Char
  | add => '+'
  | subtract => '-'
  | multiply => '*'
  | divide => '/'
  | remainder => '%'

def level : Operator → Level
  | add | subtract => .sum
  | multiply | divide | remainder => .product

/-- The result of an operator, by the rules of floating-point numbers, but for a remainder by
zero, which is zero.  A remainder is that of the quotient cut towards zero. -/
def apply : Operator → Binary64 → Binary64 → Binary64
  | add, a, b => a.add b
  | subtract, a, b => a.sub b
  | multiply, a, b => a.mul b
  | divide, a, b => a.div b
  | remainder, a, b => if b.isZero then .zero else a.rem b

theorem apply_symbol (op : Operator) (a b : Binary64) :
    Arithmetic.apply op.symbol a b = op.apply a b := by
  cases op <;> rfl

theorem symbol_mem (op : Operator) : op.symbol ∈ op.level.symbols := by
  cases op <;> decide

end Operator

/-- **Arithmetic as a tree.** -/
inductive Tree (Leaf : Type) where
  | leaf (l : Leaf)
  | negation (inner : Tree Leaf)
  | binary (op : Operator) (left right : Tree Leaf)

variable {Leaf : Type}

/-- **The meaning of a tree**, when it is told how leaves are read. -/
def Tree.value (read : Leaf → Binary64) : Tree Leaf → Binary64
  | leaf l => read l
  | negation inner => (inner.value read).neg
  | binary op left right => op.apply (left.value read) (right.value read)

/-! ## 2. Printed texts -/

/-- **The texts of a tree at a level.**  Parentheses may stand around anything. -/
inductive Prints (spell : Leaf → List Char) : Level → Tree Leaf → List Char → Prop where
  | leaf (k : Level) (l : Leaf) : Prints spell k (.leaf l) (spell l)
  | negation (k : Level) (b : Blanks) {inner : Tree Leaf} {t : List Char} :
      Prints spell .factor inner t → Prints spell k (.negation inner) ('-' :: (b ++ t))
  /-- The operators of a level apply from left to right. -/
  | binary {k : Level} (op : Operator) (hk : k ≤ op.level) (b b' : Blanks)
      {left right : Tree Leaf} {tl tr : List Char} :
      Prints spell op.level left tl → Prints spell op.level.tighter right tr →
      Prints spell k (.binary op left right) (tl ++ (b ++ (op.symbol :: (b' ++ tr))))
  | parentheses (k : Level) (b b' : Blanks) {f : Tree Leaf} {t : List Char} :
      Prints spell .sum f t → Prints spell k f (bracketed b b' t)

/-- **Every tree has a text** at every level. -/
theorem Tree.exists_prints (spell : Leaf → List Char) (f : Tree Leaf) (k : Level) :
    ∃ t, Prints spell k f t := by
  induction f generalizing k with
  | leaf l => exact ⟨_, .leaf k l⟩
  | negation inner ih =>
    obtain ⟨t, ht⟩ := ih .factor
    exact ⟨_, .negation k .none ht⟩
  | binary op left right ihl ihr =>
    obtain ⟨tl, hl⟩ := ihl op.level
    obtain ⟨tr, hr⟩ := ihr op.level.tighter
    by_cases hk : k ≤ op.level
    · exact ⟨_, .binary op hk .none .none hl hr⟩
    · have hsum : Level.sum ≤ op.level := Nat.zero_le _
      exact ⟨_, .parentheses k .none .none (.binary op hsum .none .none hl hr)⟩

/-! ## 3. What cutters see of a printed text -/

theorem isTokenPart_of_isAsciiDigit {c : Char} (h : isAsciiDigit c = true) :
    isTokenPart c = true := by
  simp [isTokenPart, isIdentifierPart, isAsciiAlphanumeric, h]

theorem isTokenPart_of_digit_or_point {c : Char} (h : isAsciiDigit c = true ∨ c = '.') :
    isTokenPart c = true := by
  rcases h with h | rfl
  · exact isTokenPart_of_isAsciiDigit h
  · decide

/-- The characters of tokens are neither parentheses nor operators. -/
theorem apart_of_isTokenPart {t : List Char} (h : ∀ c ∈ t, isTokenPart c = true) :
    Shape.Apart ('(' :: ')' :: operators) t := by
  intro c hc hm
  have hpart := h c hm
  rcases (by simpa [operators] using hc :
      c = '(' ∨ c = ')' ∨ c = '+' ∨ c = '-' ∨ c = '*' ∨ c = '/' ∨ c = '%') with
    rfl | rfl | rfl | rfl | rfl | rfl | rfl <;> exact absurd hpart (by decide)

/-- A cutter comes along that is inside parentheses, or that belongs to a level looser than `k`
and stands in front of an operand. -/
def Unseen (k : Level) (cuts : List Char → Char → Bool) (depth : Int) (before : List Char) :
    Prop :=
  0 < depth ∨ depth = 0 ∧ (∃ l < k, cuts = l.cuts) ∧ Fresh before

namespace Unseen

variable {k : Level} {cuts : List Char → Char → Bool} {depth : Int} {before : List Char}

theorem mono {l : Level} (h : Unseen k cuts depth before) (hkl : k ≤ l) :
    Unseen l cuts depth before := by
  rcases h with h | ⟨hdepth, ⟨m, hm, hcuts⟩, hfresh⟩
  · exact .inl h
  · exact .inr ⟨hdepth, ⟨m, Nat.lt_of_lt_of_le hm hkl, hcuts⟩, hfresh⟩

/-- The cutter goes on to the front of another operand. -/
theorem onward (h : Unseen k cuts depth before) {before' : List Char} (hfresh : Fresh before') :
    Unseen k cuts depth before' :=
  h.imp_right fun ⟨hdepth, hcuts, _⟩ => ⟨hdepth, hcuts, hfresh⟩

theorem inside (h : Unseen k cuts depth before) (l : Level) (before' : List Char) :
    Unseen l cuts (depth + 1) before' := by
  rcases h with h | ⟨h, -⟩
  · exact .inl (by omega)
  · exact .inl (by omega)

theorem depth_ne_or (h : Unseen k cuts depth before) {c : Char} (hc : ∀ l < k, c ∉ l.symbols)
    (before' : List Char) : depth ≠ 0 ∨ cuts before' c = false := by
  rcases h with h | ⟨-, ⟨l, hl, rfl⟩, -⟩
  · exact .inl (by omega)
  · exact .inr (Level.cuts_eq_false (hc l hl) before')

/-- A sign is passed over. -/
theorem sign (h : Unseen k cuts depth before) {before' : List Char}
    (hsign : Fresh before → isBinarySign before' = false) {c : Char} (hc : c = '+' ∨ c = '-') :
    Passes cuts depth before' [c] := by
  refine Passes.char (by rcases hc with rfl | rfl <;> decide)
    (by rcases hc with rfl | rfl <;> decide) ?_
  rcases h with h | ⟨-, ⟨l, hl, rfl⟩, hfresh⟩
  · exact .inl (by omega)
  · exact .inr (Level.cuts_sign (hsign hfresh) hc)

/-- Text without parentheses and operators is passed over. -/
theorem passes_of_apart (h : Unseen k cuts depth before) {t : List Char}
    (hno : Shape.Apart ('(' :: ')' :: operators) t) (before' : List Char) :
    Passes cuts depth before' t := by
  refine Passes.of_forall (hno '(' (by decide)) (hno ')' (by decide)) ?_
  rcases h with h | ⟨-, ⟨l, hl, rfl⟩, -⟩
  · exact .inl (by omega)
  · refine .inr fun c hc => Level.cuts_eq_false fun hm => ?_
    exact hno c (List.mem_cons_of_mem _ (List.mem_cons_of_mem _ (l.symbols_subset hm))) hc

theorem passes_blank (h : Unseen k cuts depth before) {b : List Char} (hb : Blank b)
    (before' : List Char) : Passes cuts depth before' b := by
  have hvisible : Visible ('(' :: ')' :: operators) := by decide
  exact h.passes_of_apart (fun c hc => hvisible.not_mem hb hc) before'

end Unseen

/-- **Text that can be an operand** where operators of level `k` or tighter ones may stand in
it. -/
structure IsOperand (k : Level) (t : List Char) : Prop where
  closed : Closed t
  tight : Tight t
  ends : EndsOperand t
  passes : ∀ {cuts depth before}, Unseen k cuts depth before → Passes cuts depth before t

namespace IsOperand

variable {k : Level} {t : List Char}

theorem mono {l : Level} (h : IsOperand l t) (hkl : k ≤ l) : IsOperand k t where
  closed := h.closed
  tight := h.tight
  ends := h.ends
  passes hu := h.passes (hu.mono hkl)

theorem negation (h : IsOperand .factor t) (b : Blanks) : IsOperand .factor ('-' :: (b ++ t)) where
  closed := (Closed.of_plain (by decide : Plain ['-'])).append
    ((Shape.closed_of_blank b.2).append h.closed)
  tight := (⟨⟨'-', [], rfl, by decide⟩, ⟨[], '-', rfl, by decide⟩⟩ : Tight ['-']).append h.tight b
  ends := by
    obtain ⟨start, c, rfl, hc⟩ := h.ends
    exact ⟨'-' :: (b ++ start), c, by simp, hc⟩
  passes := by
    intro cuts depth before hu
    have hfresh := (Fresh.operator (by decide : isOperator '-' = true) before).blank b.2
    exact Passes.append (hu.sign Fresh.isBinarySign_eq (.inr rfl))
      ((hu.passes_blank b.2 _).append (h.passes (hu.onward hfresh)))

theorem binary (op : Operator) (hk : k ≤ op.level) {tl tr : List Char} (hl : IsOperand k tl)
    (hr : IsOperand k tr) (b b' : Blanks) :
    IsOperand k (tl ++ (b ++ (op.symbol :: (b' ++ tr)))) where
  closed := by
    have hsymbol : Plain [op.symbol] := by cases op <;> decide
    exact hl.closed.append ((Shape.closed_of_blank b.2).append
      ((Closed.of_plain hsymbol).append ((Shape.closed_of_blank b'.2).append hr.closed)))
  tight := by
    simpa using hl.tight.append hr.tight (b ++ (op.symbol :: b'))
  ends := by
    obtain ⟨start, c, rfl, hc⟩ := hr.ends
    exact ⟨tl ++ (b ++ (op.symbol :: (b' ++ start))), c, by simp, hc⟩
  passes := by
    intro cuts depth before hu
    have hoperator : isOperator op.symbol = true := by cases op <;> decide
    have hno : ∀ l < op.level, op.symbol ∉ l.symbols := by
      intro l
      cases l <;> cases op <;> decide
    have hsymbol : ∀ before', Passes cuts depth before' [op.symbol] := fun before' =>
      Passes.char (by cases op <;> decide) (by cases op <;> decide)
        (hu.depth_ne_or (fun l hl => hno l (Nat.lt_of_lt_of_le hl hk)) before')
    have hfresh : ∀ before', Fresh (b'.1.reverse ++ ([op.symbol].reverse ++ before')) :=
      fun before' => (Fresh.operator hoperator before').blank b'.2
    exact (hl.passes hu).append <| (hu.passes_blank b.2 _).append <|
      Passes.append (hsymbol _) <| (hu.passes_blank b'.2 _).append
        (hr.passes (hu.onward (hfresh _)))

theorem bracketed (h : IsOperand .sum t) (b b' : Blanks) : IsOperand .factor (bracketed b b' t) where
  closed := Closed.enclosed .round (Shape.closed_pad b.2 h.closed b'.2).balanced
  tight := Tight.of_ends (by decide) (by decide) _
  ends := ⟨'(' :: (b ++ (t ++ b')), ')', rfl, by decide⟩
  passes := by
    intro cuts depth before hu
    have hinside := hu.inside .sum ('(' :: before)
    exact Passes.parens <| (hinside.passes_blank b.2 _).append <|
      (h.passes (hu.inside .sum _)).append (hinside.passes_blank b'.2 _)

/-- An operand with blank characters around it is a piece of a chain of a looser level. -/
theorem isPiece {l : Level} (h : IsOperand l t) (hkl : k < l) (b b' : Blanks) :
    IsPiece k (b ++ (t ++ b')) where
  passes := by
    intro before hfresh
    have hu : Unseen l k.cuts 0 before := .inr ⟨rfl, ⟨k, hkl, rfl⟩, hfresh⟩
    exact (hu.passes_blank b.2 _).append <|
      (h.passes (hu.onward (hfresh.blank b.2))).append (hu.passes_blank b'.2 _)
  ready := by
    intro before o ho
    have hcut := Level.cuts_of_endsOperand ho h.ends b'.2 (b.1.reverse ++ before)
    rwa [← List.append_assoc, ← List.reverse_append] at hcut

end IsOperand

theorem Prints.isOperand {spell : Leaf → List Char} (hspell : ∀ l, IsOperand .factor (spell l))
    {k : Level} {f : Tree Leaf} {t : List Char} (h : Prints spell k f t) : IsOperand k t := by
  have hfactor : ∀ k : Level, k ≤ .factor := by
    intro k
    cases k <;> decide
  induction h with
  | leaf k l => exact (hspell l).mono (hfactor k)
  | negation k b _ ih => exact (ih.negation b).mono (hfactor k)
  | @binary _ op hk b b' _ _ _ _ _ _ ihl ihr =>
    have htighter : op.level ≤ op.level.tighter := by cases op <;> decide
    exact (IsOperand.binary op (Nat.le_refl _) ihl (ihr.mono htighter) b b').mono hk
  | parentheses k b b' _ ih => exact (ih.bracketed b b').mono (hfactor k)

end FormLogic.Arithmetic
