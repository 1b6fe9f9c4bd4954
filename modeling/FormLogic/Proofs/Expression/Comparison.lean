import FormLogic.Proofs.Expression.Precedence
import Mathlib.Data.List.Infix

/-!
# Comparisons of arbitrary sides

The operators are searched for one after the other, and they contain one another.  Between two
texts that avoid their characters the operator that was written is the one that is found: the
operators before it do not occur in it.  In a chain it is the other way round.  Every operator that
occurs in the written one cuts the chain at each of its places, so into as many pieces as there are
sides, and every other one cuts it nowhere; so three sides or more are never two, and the chain is
no comparison at all.
-/

namespace FormLogic

open Scan Text

/-! ## 1. Operators in operators -/

namespace Shape

/-- An operator stands in another one once, and the search for it does not stop before. -/
theorem exists_around {op other : Comparison} {o : Char} {os : List Char}
    (hsymbol : other.symbol = o :: os) (h : (o :: os) <:+: op.symbol) :
    ∃ front back, op.symbol = front ++ ((o :: os) ++ back) ∧ o ∉ front ∧
      ¬ (o :: os) <:+: back := by
  cases op <;> cases other <;> cases hsymbol <;> first
    | exact absurd h (by decide)
    | exact ⟨[], _, rfl, by decide, by decide⟩
    | exact ⟨['!'], _, rfl, by decide, by decide⟩

/-- A chain begins with none of the characters of the operators. -/
theorem head?_not_mem_of_joined {op text : List Char} {ts : List (List Char)}
    (h : Joined op ts text) (hts : ∀ t ∈ ts, IsSide t) : ∀ c ∈ text.head?, c ∉ comparing := by
  cases h with
  | one t => exact (hts text List.mem_cons_self).head?_not_mem
  | cons t b b' _ =>
    have ht := hts t List.mem_cons_self
    obtain ⟨c, rest, rfl⟩ := List.exists_cons_of_ne_nil fun hnil : t = [] =>
      ht.not_blank (hnil ▸ Blank.nil)
    exact ht.head?_not_mem

/-! ## 2. Chains -/

section Front

variable {other : Comparison} {o : Char} {os : List Char} (hsymbol : other.symbol = o :: os)

include hsymbol

theorem mem_comparing_of_symbol {c : Char} (hc : c ∈ o :: os) : c ∈ comparing := by
  obtain ⟨o', os', hother, hos⟩ := exists_symbol other
  exact hos (hother.symm.trans hsymbol ▸ hc)

theorem not_mem_blanks_of_symbol (b : Blanks) : o ∉ b.1 :=
  (by decide : Visible comparing).not_mem b.2 (mem_comparing_of_symbol hsymbol List.mem_cons_self)

/-- A side and plain text behind it are in front of the first place where the operator can stand. -/
theorem IsSide.front {t front : List Char} (ht : IsSide t) (hplain : Plain front)
    (hno : o ∉ front) :
    Balance.check (t ++ front) = .ok () ∧ o ∉ topText (t ++ front) := by
  have hunquoted := unquoted_of_plain hplain
  have hside : Avoids [o] t :=
    ht.avoids.mono (by simp [mem_comparing_of_symbol hsymbol List.mem_cons_self])
  have havoids := hside.append_of_unquoted ht.balanced hunquoted
    (Avoids.of_plain hplain (List.forall_mem_singleton.mpr hno))
  exact ⟨balanced_append ht.balanced (Closed.of_plain hplain).balanced hunquoted,
    havoids o List.mem_cons_self⟩

variable {op : Comparison} {t rest : List Char} (ht : IsSide t) (b b' : Blanks)
  (hrest : ∀ c ∈ rest.head?, c ∉ comparing)

include hrest

/-- Blank characters behind an operator belong to the piece behind it. -/
theorem length_split_blanks :
    (split (o :: os) (b' ++ rest)).length = (split (o :: os) rest).length := by
  have hno : ¬ (o :: os) <:+: b'.1 := fun h =>
    not_mem_blanks_of_symbol hsymbol b' (h.subset List.mem_cons_self)
  rw [split_plain_append (plain_of_blank b'.2) hno fun c hc hmem =>
    hrest c hc (mem_comparing_of_symbol hsymbol hmem), List.length_modifyHead]

theorem head?_blanks_not_mem : ∀ c ∈ (b'.1 ++ rest).head?, c ∉ o :: os := fun c hc hmem =>
  not_mem_of_head?_append b' (by decide) hrest c hc (mem_comparing_of_symbol hsymbol hmem)

include ht

/-- An operator that occurs in the written one cuts the side off. -/
theorem length_split_of_occurring (hin : (o :: os) <:+: op.symbol) :
    (split (o :: os) (t ++ (b ++ (op.symbol ++ (b' ++ rest))))).length
      = (split (o :: os) rest).length + 1 := by
  obtain ⟨front, back, hop, hfront, hback⟩ := exists_around hsymbol hin
  have hplain := plain_symbol op
  rw [hop] at hplain
  obtain ⟨hplainFront, hplain⟩ := List.forall_mem_append.mp hplain
  obtain ⟨hplainSymbol, hplainBack⟩ := List.forall_mem_append.mp hplain
  have hbefore : Plain (b.1 ++ front) :=
    List.forall_mem_append.mpr ⟨plain_of_blank b.2, hplainFront⟩
  obtain ⟨hbalanced, hno⟩ := ht.front hsymbol hbefore
    (by simp [not_mem_blanks_of_symbol hsymbol, hfront])
  have htext : t ++ (b.1 ++ (op.symbol ++ (b'.1 ++ rest)))
      = (t ++ (b ++ front)) ++ ((o :: os) ++ (back ++ (b' ++ rest))) := by
    simp [hop]
  rw [htext, split_append hplainSymbol hbalanced hno, List.length_cons,
    split_plain_append hplainBack hback (head?_blanks_not_mem hsymbol b' hrest),
    List.length_modifyHead, length_split_blanks hsymbol b' hrest]

/-- Every other operator leaves the side with what is behind it. -/
theorem length_split_of_absent (hin : ¬ (o :: os) <:+: op.symbol) :
    (split (o :: os) (t ++ (b ++ (op.symbol ++ (b' ++ rest))))).length
      = (split (o :: os) rest).length := by
  obtain ⟨hbalanced, hno⟩ :=
    ht.front hsymbol (plain_of_blank b.2) (not_mem_blanks_of_symbol hsymbol b)
  have htext : t ++ (b.1 ++ (op.symbol ++ (b'.1 ++ rest)))
      = (t ++ b) ++ (op.symbol ++ (b' ++ rest)) := by
    simp
  rw [htext, split_append_middle hbalanced hno (symbol_ne_nil op) (plain_symbol op) hin
    (head?_blanks_not_mem hsymbol b' hrest), List.length_modifyHead,
    length_split_blanks hsymbol b' hrest]

end Front

/-- **The pieces of a chain**: an operator that occurs in the written one cuts it between all of its
sides, and every other operator leaves it whole. -/
theorem length_split_of_joined (op other : Comparison) {ts : List (List Char)} {text : List Char}
    (h : Joined op.symbol ts text) (hts : ∀ t ∈ ts, IsSide t) :
    (split other.symbol text).length = if other.symbol <:+: op.symbol then ts.length else 1 := by
  obtain ⟨o, os, hsymbol, hos⟩ := exists_symbol other
  rw [hsymbol]
  induction h with
  | one t =>
    have ht := hts t List.mem_cons_self
    rw [split_of_not_mem (ht.avoids o (List.mem_append_right _ (hos List.mem_cons_self)))]
    split <;> rfl
  | @cons t b b' ts rest hrest ih =>
    have ht := hts t List.mem_cons_self
    have hsides : ∀ u ∈ ts, IsSide u := fun u hu => hts u (List.mem_cons_of_mem _ hu)
    have hhead := head?_not_mem_of_joined hrest hsides
    by_cases hin : (o :: os) <:+: op.symbol
    · rw [length_split_of_occurring hsymbol ht b b' hhead hin, ih hsides, if_pos hin, if_pos hin,
        List.length_cons]
    · rw [length_split_of_absent hsymbol ht b b' hhead hin, ih hsides, if_neg hin, if_neg hin]

/-- **A chain of three sides or more is no comparison.** -/
theorem comparison?_of_chain (op : Comparison) {ts : List (List Char)} {text : List Char}
    (h : Joined op.symbol ts text) (hlen : 3 ≤ ts.length) (hts : ∀ t ∈ ts, IsSide t) :
    comparison? text = none := by
  unfold comparison?
  rw [List.findSome?_eq_none_iff]
  intro other _
  have hpieces := length_split_of_joined op other h hts
  rw [sides?_of_length_ne, Option.map_none]
  split at hpieces <;> omega

end Shape

/-! ## 3. Evaluation -/

namespace Evaluator

variable (ev : Evaluator)

/-- The blank characters at the ends of two sides stand around the text or around its operator. -/
theorem eval_comparison_trimmed {depth : Nat} (hdepth : depth ≤ ev.options.maxDepth)
    (op : Comparison) {l r : List Char} (hl : Shape.IsSide l) (hr : Shape.IsSide r)
    (b b' : Blanks) :
    ev.eval depth (l ++ (b ++ (op.symbol ++ (b' ++ r)))) = (do
      let left ← ev.operand (depth + 1) (trim l)
      let right ← ev.operand (depth + 1) (trim r)
      return some (.bool (op.apply left right))) := by
  obtain ⟨front, after, hfront, hafter, hleft⟩ := exists_trim l
  obtain ⟨before, back, hbefore, hback, hright⟩ := exists_trim r
  let gap : Blanks := ⟨after ++ b, hafter.append b.2⟩
  let gap' : Blanks := ⟨b' ++ before, b'.2.append hbefore⟩
  have htext : l ++ (b.1 ++ (op.symbol ++ (b'.1 ++ r)))
      = front ++ ((trim l ++ (gap ++ (op.symbol ++ (gap' ++ trim r)))) ++ back) := by
    conv => lhs; rw [hleft, hright]
    simp [gap, gap']
  have htight : Tight (trim l ++ (gap.1 ++ (op.symbol ++ (gap'.1 ++ trim r)))) := by
    simpa using hl.tight_trim.append hr.tight_trim (gap ++ (op.symbol ++ gap'))
  rw [htext, eval_pad ev htight hfront hback,
    eval_comparison ev hdepth op hl.trim hl.tight_trim hr.trim hr.tight_trim gap gap']

/-- **A comparison is read with the operator that was written**, whatever its sides are: balanced
texts of any content that are not blank and have none of the characters of the operators at their
top level.  They are evaluated one level deeper, the left one first, whose error is the result.
Three such texts or more with the same operator between them match no operator at all. -/
theorem eval_comparison_of_sides :
    (∀ (depth : Nat) (op : Comparison) (l r : List Char) (b b' : Blanks),
      depth ≤ ev.options.maxDepth → Shape.IsSide l → Shape.IsSide r →
      ev.eval depth (l ++ (b ++ (op.symbol ++ (b' ++ r)))) = (do
        let left ← ev.operand (depth + 1) (trim l)
        let right ← ev.operand (depth + 1) (trim r)
        return some (.bool (op.apply left right)))) ∧
    (∀ (op : Comparison) (ts : List (List Char)) (text : List Char),
      Joined op.symbol ts text → 3 ≤ ts.length → (∀ t ∈ ts, Shape.IsSide t) →
      Shape.comparison? text = none) := by
  constructor
  · intro depth op l r b b' hdepth hl hr
    exact eval_comparison_trimmed ev hdepth op hl hr b b'
  · intro op ts text h hlen hts
    exact Shape.comparison?_of_chain op h hlen hts

/-- Sides with operators in quotes and brackets, the left one ending in a backslash; and a chain of
`===`, in which `==` is found twice. -/
theorem eval_comparison_of_unusual_sides :
    let left := ['f', '(', 'a', ' ', '<', ' ', '1', ')', ' ', '\\']
    let right := [' ', '"', '>', '=', ')', '"', ':', ' ']
    (Shape.IsSide left ∧ Shape.IsSide right) ∧
    (0 ≤ (default : Evaluator).options.maxDepth ∧
      (default : Evaluator).eval 0 (left ++ (['!', '=', '='] ++ right)) = (do
        let l ← (default : Evaluator).operand 1 (trim left)
        let r ← (default : Evaluator).operand 1 (trim right)
        return some (.bool (Comparison.strictNotEq.apply l r)))) ∧
    (3 ≤ [left, right, left].length ∧
      Shape.comparison? (left ++ (['=', '=', '='] ++ (right ++ (['=', '=', '='] ++ left))))
        = none) := by
  intro left right
  have hleft : Shape.IsSide left := ⟨rfl, by decide, by decide⟩
  have hright : Shape.IsSide right := ⟨rfl, by decide, by decide⟩
  obtain ⟨htwo, hchain⟩ := eval_comparison_of_sides default
  have hvalue := htwo 0 .strictNotEq left right .none .none (Nat.zero_le _) hleft hright
  have hjoined : Joined Comparison.strictEq.symbol [left, right, left]
      (left ++ (['=', '=', '='] ++ (right ++ (['=', '=', '='] ++ left)))) :=
    .cons left .none .none (.cons right .none .none (.one left))
  have hsides : ∀ t ∈ [left, right, left], Shape.IsSide t :=
    List.forall_mem_cons.mpr ⟨hleft, List.forall_mem_cons.mpr
      ⟨hright, List.forall_mem_singleton.mpr hleft⟩⟩
  exact ⟨⟨hleft, hright⟩, ⟨Nat.zero_le _, hvalue⟩, Nat.le_refl 3,
    hchain .strictEq _ _ hjoined (Nat.le_refl 3) hsides⟩

end Evaluator

end FormLogic
