import FormLogic.Proofs.Expression.Limit
import FormLogic.Proofs.Arithmetic.Precedence

/-!
# The limit on nesting in arithmetic

Arithmetic is evaluated on any text, also on one that is none, so nothing but the length of the
text bounds the nesting: every operand is shorter than the text it was cut from, and `n`
characters use at most `n + 1` levels (`evaluate_limited`).  As in expressions, no form catches an
error of a part, so the limit only cuts off.

The operands of one level lie side by side.  A chain without parentheses uses one level for its
sums, one for its products and one for its literals, however long it is (`Run.limited`).
-/

namespace FormLogic.Arithmetic

open Scan Text

/-! ## 1. One level of evaluation -/

section OneLevel

variable {bound : Nat}

/-- **No operator catches an error of its operands.** -/
theorem limited_chain (operand : List Char → Nat → Nat → Except EvalError Binary64)
    {first : Nat → Nat → Except EvalError Binary64} (hfirst : Limited bound first)
    {ps : List (Char × List Char)} (hrest : ∀ p ∈ ps, Limited bound (operand p.2)) :
    Limited bound fun maxDepth depth =>
      chain (first maxDepth depth) (ps.map fun p => (p.1, operand p.2 maxDepth depth)) := by
  induction ps generalizing first with
  | nil => exact hfirst
  | cons p ps ih =>
    obtain ⟨hp, hps⟩ := List.forall_mem_cons.mp hrest
    have htotal : Limited bound fun maxDepth depth =>
        first maxDepth depth >>= fun total =>
          operand p.2 maxDepth depth >>= fun value => .ok (apply p.1 total value) :=
      hfirst.bind fun _ => hp.bind fun _ => Limited.pure bound _
    exact ih htotal hps

/-- What is evaluated one level down uses one more level. -/
theorem limited_succ {cs : List Char} {f : Nat → Nat → Except EvalError Binary64}
    (hf : Limited bound f)
    (heq : ∀ {maxDepth depth : Nat}, depth ≤ maxDepth →
      evaluate maxDepth depth cs = f maxDepth (depth + 1)) :
    Limited (bound + 1) fun maxDepth depth => evaluate maxDepth depth cs := by
  have henter : (fun maxDepth depth => evaluate maxDepth depth cs) = fun maxDepth depth =>
      if maxDepth < depth then .error (.depthExceeded maxDepth) else f maxDepth (depth + 1) := by
    funext maxDepth depth
    by_cases h : maxDepth < depth
    · rw [evaluate_eq, if_pos h, if_pos h]
    · rw [heq (by omega), if_neg h]
  rw [henter]
  exact hf.enter

theorem limited_evaluateUncut (eval : List Char → Nat → Nat → Except EvalError Binary64)
    {cs : List Char} (hshorter : ∀ t, t.length < cs.length → Limited bound (eval t)) :
    Limited bound fun maxDepth depth =>
      evaluateUncut (fun t => eval t maxDepth depth) cs := by
  unfold evaluateUncut
  cases hgroup : group? cs with
  | some inner =>
    have hlength := length_of_group? hgroup
    exact hshorter inner (by omega)
  | none =>
    dsimp only
    split
    · exact (hshorter _ (by simp)).bind fun _ => Limited.pure bound _
    · exact Limited.pure bound _

/-- **One level**: where shorter texts are limited, so is the text. -/
theorem limited_of_shorter {cs : List Char}
    (hshorter : ∀ t, t.length < cs.length →
      Limited bound fun maxDepth depth => evaluate maxDepth depth t) :
    Limited (bound + 1) fun maxDepth depth => evaluate maxDepth depth cs := by
  have htrim := length_trim_le cs
  -- both cuts are at characters of the text, so what lies between them is shorter
  have hchain : ∀ {cuts first p ps}, cut cuts 0 [] (trim cs) = (first, p :: ps) →
      Limited bound fun maxDepth depth => chain (evaluate maxDepth depth first)
        ((p :: ps).map fun p => (p.1, evaluate maxDepth depth p.2)) := by
    intro cuts first p ps hcut
    obtain ⟨hfirst, hrest⟩ := length_lt_of_cut hcut
    exact limited_chain (fun t maxDepth depth => evaluate maxDepth depth t)
      (hshorter first (by omega)) fun q hq => hshorter q.2 (by have := hrest q hq; omega)
  rcases hsum : cut cutsSum 0 [] (trim cs) with ⟨first, _ | ⟨p, ps⟩⟩
  · rcases hproduct : cut cutsProduct 0 [] (trim cs) with ⟨first', _ | ⟨p, ps⟩⟩
    · have huncut : Limited bound fun maxDepth depth =>
          evaluateUncut (evaluate maxDepth depth) (trim cs) :=
        limited_evaluateUncut (fun t maxDepth depth => evaluate maxDepth depth t)
          fun t ht => hshorter t (by omega)
      refine limited_succ huncut ?_
      intro maxDepth depth hdepth
      rw [evaluate_eq, if_neg (by omega), hsum, hproduct]
    · refine limited_succ (hchain hproduct) ?_
      intro maxDepth depth hdepth
      rw [evaluate_eq, if_neg (by omega), hsum, hproduct]
  · refine limited_succ (hchain hsum) ?_
    intro maxDepth depth hdepth
    rw [evaluate_eq, if_neg (by omega), hsum]

end OneLevel

/-- **Arithmetic is limited**: a text of `n` characters uses at most `n + 1` levels. -/
theorem evaluate_limited (cs : List Char) :
    Limited (cs.length + 1) fun maxDepth depth => evaluate maxDepth depth cs := by
  induction hn : cs.length using Nat.strongRecOn generalizing cs with
  | ind n ih =>
    subst hn
    exact limited_of_shorter fun t ht => (ih t.length ht t rfl).mono ht

/-! ## 2. Chains without parentheses -/

/-- An operator and the literal behind it, with blank characters around the operator. -/
structure Link where
  before : Blanks
  operator : Operator
  after : Blanks
  operand : NumberLiteral

def Link.text (l : Link) : List Char :=
  l.before ++ (l.operator.symbol :: (l.after ++ l.operand.text))

/-- **A flat chain**: number literals joined by operators, of any levels and in any order. -/
def flatText (first : NumberLiteral) (links : List Link) : List Char :=
  first.text ++ links.flatMap Link.text

/-- A flat chain of operators of level `k` or tighter ones. -/
def Run (k : Level) (t : List Char) : Prop :=
  ∃ first links, t = flatText first links ∧ ∀ l ∈ links, k ≤ l.operator.level

/-- An operand of level `k` of a flat chain, with blank characters around it. -/
def PaddedRun (k : Level) (q : List Char) : Prop :=
  ∃ (b b' : Blanks) (t : List Char), q = b ++ (t ++ b') ∧ Run k t

namespace Run

variable {k : Level} {t : List Char}

theorem literal (k : Level) (l : NumberLiteral) : Run k l.text :=
  ⟨l, [], by simp [flatText], List.forall_mem_nil _⟩

theorem snoc (h : Run k t) {l : Link} (hl : k ≤ l.operator.level) : Run k (t ++ l.text) := by
  obtain ⟨first, links, rfl, hlinks⟩ := h
  refine ⟨first, links ++ [l], by simp [flatText], ?_⟩
  exact List.forall_mem_append.mpr ⟨hlinks, List.forall_mem_singleton.mpr hl⟩

/-- A flat chain can be an operand in front of its loosest operators. -/
theorem isOperand (h : Run k t) : IsOperand k t := by
  obtain ⟨first, links, rfl, hlinks⟩ := h
  have hliteral : ∀ l : NumberLiteral, IsOperand k l.text := fun l =>
    l.isOperand.mono (by cases k <;> decide)
  have hrun : ∀ lead, IsOperand k lead → IsOperand k (lead ++ links.flatMap Link.text) := by
    induction links with
    | nil =>
      intro lead hlead
      simpa using hlead
    | cons l links ih =>
      intro lead hlead
      obtain ⟨hl, hlinks⟩ := List.forall_mem_cons.mp hlinks
      have hnext := IsOperand.binary l.operator hl hlead (hliteral l.operand) l.before l.after
      simpa [Link.text] using ih hlinks _ hnext
  exact hrun _ (hliteral first)

/-- **A flat chain is a chain of flat chains** of the next level: `lead` is the part behind, up to
which no operator of the level was met. -/
theorem exists_pieces (hk : k ≠ .factor) {lead : List Char} (hlead : Run k.tighter lead)
    {links : List Link} (hlinks : ∀ l ∈ links, k ≤ l.operator.level) :
    ∃ (t : List Char) (b : Blanks) (ps : List (Char × List Char)),
      lead ++ links.flatMap Link.text = chainText (t ++ b) ps ∧ Run k.tighter t ∧
      ∀ p ∈ ps, p.1 ∈ k.symbols ∧ PaddedRun k.tighter p.2 := by
  induction links generalizing lead with
  | nil => exact ⟨lead, .none, [], by simp [chainText], hlead, List.forall_mem_nil _⟩
  | cons l links ih =>
    obtain ⟨hl, hlinks⟩ := List.forall_mem_cons.mp hlinks
    by_cases hlevel : l.operator.level = k
    · obtain ⟨t, b, ps, htext, ht, hps⟩ := ih (.literal _ l.operand) hlinks
      refine ⟨lead, l.before, (l.operator.symbol, l.after ++ (t ++ b)) :: ps, ?_, hlead, ?_⟩
      · calc lead ++ (l :: links).flatMap Link.text
            = lead ++ (l.before ++ (l.operator.symbol ::
                (l.after ++ (l.operand.text ++ links.flatMap Link.text)))) := by
              simp [Link.text]
          _ = lead ++ (l.before ++ (l.operator.symbol :: (l.after ++ chainText (t ++ b) ps))) := by
              rw [htext]
          _ = chainText (lead ++ l.before) ((l.operator.symbol, l.after ++ (t ++ b)) :: ps) := by
              simp [chainText]
      · have hsymbol : l.operator.symbol ∈ k.symbols := hlevel ▸ l.operator.symbol_mem
        exact List.forall_mem_cons.mpr ⟨⟨hsymbol, l.after, b, t, rfl, ht⟩, hps⟩
    · have htighter : k.tighter ≤ l.operator.level := by
        revert hl hlevel hk
        cases k <;> cases l.operator <;> decide
      simpa using ih (hlead.snoc htighter) hlinks

/-- A level of operators uses one level of nesting more than its operands. -/
theorem limited_of_tighter {bound : Nat} (hk : k ≠ .factor)
    (hoperand : ∀ u, Run k.tighter u →
      Limited bound fun maxDepth depth => evaluate maxDepth depth u) (h : Run k t) :
    Limited (bound + 1) fun maxDepth depth => evaluate maxDepth depth t := by
  have hpadded : ∀ q, PaddedRun k.tighter q →
      Limited bound fun maxDepth depth => evaluate maxDepth depth q := by
    rintro q ⟨b, b', u, rfl, hu⟩
    simpa only [evaluate_pad hu.isOperand.tight b b'] using hoperand u hu
  have hpiece : ∀ q, PaddedRun k.tighter q → IsPiece k q := by
    rintro q ⟨b, b', u, rfl, hu⟩
    exact hu.isOperand.isPiece (Level.lt_tighter hk) b b'
  have hwhole := h.isOperand
  obtain ⟨first, links, rfl, hlinks⟩ := h
  obtain ⟨u, b, ps, htext, hu, hps⟩ := exists_pieces hk (.literal _ first) hlinks
  rw [flatText, htext] at hwhole ⊢
  have hu : PaddedRun k.tighter (u ++ b) := ⟨.none, b, u, by simp, hu⟩
  cases ps with
  | nil =>
    have hsingle := (hpadded _ hu).mono (Nat.le_succ bound)
    simpa [chainText] using hsingle
  | cons p ps =>
    have hcut : cut k.cuts 0 [] (chainText (u ++ b) (p :: ps)) = (u ++ b, p :: ps) :=
      cut_chain Fresh.nil (hpiece _ hu) fun q hq => ⟨(hps q hq).1, hpiece _ (hps q hq).2⟩
    have hchain : Limited bound fun maxDepth depth => chain (evaluate maxDepth depth (u ++ b))
        ((p :: ps).map fun p => (p.1, evaluate maxDepth depth p.2)) :=
      limited_chain (fun t maxDepth depth => evaluate maxDepth depth t)
        (hpadded _ hu) fun q hq => hpadded q.2 (hps q hq).2
    exact limited_succ hchain (evaluate_eq_chain hk hwhole hcut)

/-- **Flat chains use three levels**: one for sums, one for products and one for literals. -/
theorem limited (h : Run .sum t) :
    Limited 3 fun maxDepth depth => evaluate maxDepth depth t := by
  have hfactor : ∀ u, Run .factor u →
      Limited 1 fun maxDepth depth => evaluate maxDepth depth u := by
    rintro u ⟨first, links, rfl, hlinks⟩
    have hnone : links = [] := by
      refine List.eq_nil_iff_forall_not_mem.mpr fun l hl => ?_
      have hlevel := hlinks l hl
      revert hlevel
      cases l.operator <;> decide
    have htext : flatText first links = first.text := by simp [flatText, hnone]
    rw [htext]
    refine limited_succ (Limited.pure 0 (Arithmetic.literal first.text)) ?_
    intro maxDepth depth hdepth
    exact evaluate_literal first.isOperand (first.1.head?_text_ne (by decide) (by decide))
      (first.1.head?_text_ne (by decide) (by decide)) hdepth
  have hproduct : ∀ u, Run .product u →
      Limited 2 fun maxDepth depth => evaluate maxDepth depth u := fun _ hu =>
    limited_of_tighter (k := .product) (by decide) hfactor hu
  exact limited_of_tighter (k := .sum) (by decide) hproduct h

end Run

/-! ## 3. Texts -/

/-- **The limit only cuts off, and flat chains are free.**  A text has one number, and every limit
gives that number or its own error, at every depth.  As many levels as the text has bytes always
suffice; what suffices does so when the limit is raised or the depth lowered; and a flat chain of
any length needs two levels below its own. -/
theorem evaluate_cut_off (cs : List Char) :
    ∃ number : Binary64,
      (∀ maxDepth depth, evaluate maxDepth depth cs = .ok number ∨
        evaluate maxDepth depth cs = .error (.depthExceeded maxDepth)) ∧
      (∀ maxDepth depth, depth + (String.ofList cs).utf8ByteSize ≤ maxDepth →
        evaluate maxDepth depth cs = .ok number) ∧
      (∀ maxDepth depth maxDepth' depth', maxDepth ≤ maxDepth' → depth' ≤ depth →
        evaluate maxDepth depth cs = .ok number → evaluate maxDepth' depth' cs = .ok number) ∧
      (∀ first links, cs = flatText first links → ∀ maxDepth depth, depth + 2 ≤ maxDepth →
        evaluate maxDepth depth cs = .ok number) := by
  obtain ⟨levels, number, hle, hs⟩ := evaluate_limited cs
  have hvalue : ∀ maxDepth depth, evaluate maxDepth depth cs =
      if depth ≤ maxDepth ∧ depth + levels ≤ maxDepth + 1 then .ok number
      else .error (.depthExceeded maxDepth) := by
    intro maxDepth depth
    by_cases h : depth ≤ maxDepth
    · simp only [h, true_and]
      exact hs maxDepth depth (by omega)
    · rw [evaluate_eq, if_pos (by omega), if_neg (fun h' => h h'.1)]
  have heither : ∀ maxDepth depth, evaluate maxDepth depth cs = .ok number ∨
      evaluate maxDepth depth cs = .error (.depthExceeded maxDepth) := by
    intro maxDepth depth
    rw [hvalue]
    split
    · exact .inl rfl
    · exact .inr rfl
  refine ⟨number, heither, ?_, ?_, ?_⟩
  · -- the levels are counted in characters, the limit in bytes
    intro maxDepth depth hdepth
    have hbytes := length_le_utf8ByteSize cs
    rw [hvalue, if_pos (by omega)]
  · intro maxDepth depth maxDepth' depth' hmax hdepth hok
    rw [hvalue] at hok ⊢
    rw [if_pos]
    split at hok
    · omega
    · simp at hok
  · rintro first links hflat maxDepth depth hdepth
    have hrun : Run .sum cs := ⟨first, links, hflat, fun l _ => Nat.zero_le l.operator.level.rank⟩
    obtain ⟨used, result, hused, hr⟩ := hrun.limited
    have hresult : evaluate maxDepth depth cs = .ok result :=
      (hr maxDepth depth (by omega)).trans (if_pos (by omega))
    rcases heither maxDepth depth with hok | herror
    · exact hok
    · rw [hresult] at herror
      exact absurd herror (by simp)

/-- `12*3- 4%5` is 32 two levels above the limit. -/
theorem evaluate_cut_off_of_mixed_levels :
    let twelve : NumberLiteral := ⟨⟨⟨['1', '2'], by decide⟩, none, none, by decide⟩, by decide⟩
    let three : NumberLiteral := ⟨⟨⟨['3'], by decide⟩, none, none, by decide⟩, by decide⟩
    let four : NumberLiteral := ⟨⟨⟨['4'], by decide⟩, none, none, by decide⟩, by decide⟩
    let five : NumberLiteral := ⟨⟨⟨['5'], by decide⟩, none, none, by decide⟩, by decide⟩
    let links : List Link := [⟨.none, .multiply, .none, three⟩,
      ⟨.none, .subtract, ⟨[' '], by decide⟩, four⟩, ⟨.none, .remainder, .none, five⟩]
    let text := "12*3- 4%5".toList
    text = flatText twelve links ∧ 5 + 2 ≤ 7 ∧
    evaluate 7 5 text = .ok (literal ['3', '2']) := by
  intro twelve three four five links text
  obtain ⟨number, -, hbytes, -, hflat⟩ := evaluate_cut_off text
  have hproduct : Prints NumberLiteral.text .sum _ _ :=
    .binary .multiply (by decide) .none .none (.leaf .product twelve) (.leaf .factor three)
  have hremainder : Prints NumberLiteral.text .product _ _ :=
    .binary .remainder (by decide) .none .none (.leaf .product four) (.leaf .factor five)
  have hprinted : Prints NumberLiteral.text .sum _ text :=
    .binary .subtract (by decide) .none ⟨[' '], by decide⟩ hproduct hremainder
  have hvalue : evaluate 14 5 text = .ok (literal ['3', '2']) := by
    rw [evaluate_printed spells_numberLiteral hprinted (by decide)]
    exact congrArg Except.ok (by decide +kernel)
  refine ⟨rfl, by decide, ?_⟩
  rw [hflat twelve links rfl 7 5 (by decide), ← hbytes 14 5 (by decide), hvalue]

end FormLogic.Arithmetic
