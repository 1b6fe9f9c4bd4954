import FormLogic.Expression.Mode
import FormLogic.Proofs.Expression.Connective
import FormLogic.Proofs.Text.Trim

/-!
# The limit on nesting only cuts off

A text has one value, and it uses some number of levels of nesting; the limit decides whether
those levels are there, and nothing else.  `Settles` says this of a computation under a limit,
and is kept by everything an evaluation is built from: sequencing, lists of outcomes, and going
one level down.  No form catches an error of a part or turns it into a value, which is what
would break it.

A text of `n` characters uses at most `n + 2` levels, because every part is shorter than its
text and the deepest of them may be read as a literal one level further down.
-/

namespace FormLogic

/-! ## 1. Computations that a limit can only cut off -/

section Limited

variable {α β : Type}

/-- **A computation that uses a number of levels.**  With so many levels between its depth and
the limit it gives the value, with fewer the error of the limit.  It may start one level below
the deepest, as the operand of a text at the limit does: what is checked is the depth of a text
that is entered. -/
def Settles (levels : Nat) (value : α) (f : Nat → Nat → Except EvalError α) : Prop :=
  ∀ maxDepth depth, depth ≤ maxDepth + 1 →
    f maxDepth depth =
      if depth + levels ≤ maxDepth + 1 then .ok value else .error (.depthExceeded maxDepth)

/-- A computation that uses some number of levels, at most `bound`. -/
def Limited (bound : Nat) (f : Nat → Nat → Except EvalError α) : Prop :=
  ∃ levels value, levels ≤ bound ∧ Settles levels value f

theorem Limited.mono {b c : Nat} {f : Nat → Nat → Except EvalError α} (h : Limited b f)
    (hbc : b ≤ c) : Limited c f := by
  obtain ⟨levels, value, hle, hs⟩ := h
  exact ⟨levels, value, Nat.le_trans hle hbc, hs⟩

theorem Limited.pure (bound : Nat) (value : α) : Limited bound fun _ _ => .ok value :=
  ⟨0, value, Nat.zero_le _, fun _ _ h => by rw [if_pos (by omega)]⟩

/-- **Sequencing.**  Two computations one after the other use the levels of the one that uses
more. -/
theorem Limited.bind {bound : Nat} {f : Nat → Nat → Except EvalError α}
    {g : α → Nat → Nat → Except EvalError β} (hf : Limited bound f)
    (hg : ∀ a, Limited bound (g a)) :
    Limited bound fun maxDepth depth => f maxDepth depth >>= fun a => g a maxDepth depth := by
  obtain ⟨levels, value, hle, hs⟩ := hf
  obtain ⟨more, result, hmore, ht⟩ := hg value
  refine ⟨max levels more, result, by omega, fun maxDepth depth hd => ?_⟩
  show (f maxDepth depth).bind _ = _
  rw [hs maxDepth depth hd]
  by_cases h : depth + levels ≤ maxDepth + 1
  · simp only [h, if_true, Except.bind]
    rw [ht maxDepth depth hd]
    by_cases h' : depth + more ≤ maxDepth + 1
    · rw [if_pos h', if_pos (by omega)]
    · rw [if_neg h', if_neg (by omega)]
  · rw [if_neg h, if_neg (by omega)]
    rfl

/-- **Entering a text** checks its depth, and everything below it lies one level deeper. -/
theorem Limited.enter {bound : Nat} {f : Nat → Nat → Except EvalError α} (hf : Limited bound f) :
    Limited (bound + 1) fun maxDepth depth =>
      if maxDepth < depth then .error (.depthExceeded maxDepth) else f maxDepth (depth + 1) := by
  obtain ⟨levels, value, hle, hs⟩ := hf
  refine ⟨levels + 1, value, by omega, fun maxDepth depth hd => ?_⟩
  by_cases h : maxDepth < depth
  · simp only [h, if_true]
    rw [if_neg (by omega)]
  · simp only [h, if_false]
    rw [hs maxDepth (depth + 1) (by omega), Nat.add_assoc, Nat.add_comm 1]

/-! ### Lists of outcomes -/

theorem Limited.collect {bound : Nat} {f : List Char → Nat → Nat → Evaluation} :
    ∀ texts : List (List Char), (∀ t ∈ texts, Limited bound (f t)) →
      Limited bound fun maxDepth depth =>
        Evaluation.collect (texts.map fun t => f t maxDepth depth)
  | [], _ => Limited.pure bound []
  | t :: texts, h => by
    have hrest := Limited.collect texts fun u hu => h u (List.mem_cons_of_mem _ hu)
    exact (h t List.mem_cons_self).bind fun v => hrest.bind fun vs => Limited.pure bound (v :: vs)

theorem Limited.outcome {bound : Nat} {f : List Char → Nat → Nat → Evaluation} (k : Connective) :
    ∀ texts : List (List Char), (∀ t ∈ texts, Limited bound (f t)) →
      Limited bound fun maxDepth depth => k.outcome (texts.map fun t => f t maxDepth depth)
  | [], _ => by
    simp only [List.map_nil, Connective.outcome_nil]
    exact Limited.pure bound _
  | t :: texts, h => by
    have hrest := Limited.outcome k texts fun u hu => h u (List.mem_cons_of_mem _ hu)
    simp only [List.map_cons, Connective.outcome_cons]
    refine (h t List.mem_cons_self).bind fun v => ?_
    by_cases hv : v.toBoolean = k.decisive
    · simp only [hv, if_true]
      exact Limited.pure bound _
    · simp only [hv, if_false]
      exact hrest

end Limited

/-! ## 2. One level of evaluation -/

section OneLevel

variable {bound : Nat} (eval operand atom : List Char → Nat → Nat → Evaluation)

theorem Atom.limited (a : Atom) (named : Resolved)
    (hatom : ∀ body, a = .list body → ∀ i ∈ Scan.items body, Limited bound (atom i)) :
    Limited bound fun maxDepth depth =>
      a.evaluate (fun i => atom i maxDepth depth) named := by
  cases a with
  | list body =>
    exact (Limited.collect _ (hatom body rfl)).bind fun _ => Limited.pure bound _
  | _ => exact Limited.pure bound _

theorem Call.limited (call : Call) (user : User) {otherwise : Nat → Nat → Evaluation}
    (heval : ∀ a ∈ call.arguments, Limited bound (eval a)) (hother : Limited bound otherwise) :
    Limited bound fun maxDepth depth =>
      call.evaluate (fun a => eval a maxDepth depth) user (otherwise maxDepth depth) := by
  refine (Limited.collect _ heval).bind fun args => ?_
  cases Helper.ofName? (String.ofList call.name) with
  | some helper => exact Limited.pure bound _
  | none => exact hother

/-- **No form catches an error of its parts**: where the parts are limited, so is the form. -/
theorem Shape.limited (shape : Shape) (text : List Char)
    (heval : ∀ p ∈ shape.parts, Limited bound (eval p))
    (hoperand : ∀ p ∈ shape.parts, Limited bound (operand p))
    (hatom : ∀ p ∈ shape.parts, Limited bound (atom p))
    (hitems : ∀ p ∈ shape.parts, ∀ i ∈ Scan.items p, Limited bound (atom i))
    (htext : Limited bound (operand text)) :
    Limited bound fun maxDepth depth =>
      shape.evaluate (fun p => eval p maxDepth depth) (fun p => operand p maxDepth depth)
        (fun p => atom p maxDepth depth) text := by
  cases shape with
  | ternary parts =>
    refine (heval _ (.head _)).bind fun condition => ?_
    by_cases h : condition.toBoolean
    · simp only [h, if_true]
      exact heval _ (.tail _ (.head _))
    · simp only [h]
      exact heval _ (.tail _ (.tail _ (.head _)))
  | fallback primary other =>
    refine (heval _ (.head _)).bind fun value => ?_
    by_cases h : value.isNullish
    · simp only [h, if_true]
      exact heval _ (.tail _ (.head _))
    · simp only [h]
      exact Limited.pure bound _
  | disjunction branches => exact Limited.outcome .disjunction branches heval
  | conjunction branches => exact Limited.outcome .conjunction branches heval
  | negation inner => exact (heval _ (.head _)).bind fun _ => Limited.pure bound _
  | group inner => exact heval _ (.head _)
  | comparison op left right =>
    exact (hoperand _ (.head _)).bind fun _ =>
      (hoperand _ (.tail _ (.head _))).bind fun _ => Limited.pure bound _
  | membership value items =>
    exact (heval _ (.head _)).bind fun _ =>
      (Limited.collect _ (hitems _ (.tail _ (.head _)))).bind fun _ => Limited.pure bound _
  | containment collection needle =>
    refine (hatom _ (.head _)).bind fun v => (heval _ (.tail _ (.head _))).bind fun _ => ?_
    split <;> exact Limited.pure bound _
  | operand => exact htext

end OneLevel

/-! ## 3. All levels -/

namespace Evaluator

/-- The evaluator of a context under a limit. -/
def within (context : Context) (maxDepth : Nat) : Evaluator := ⟨context, ⟨maxDepth⟩⟩

/-- **Evaluation is limited**: a text of `n` characters uses at most `n + 2` levels as an
expression, and `n + 1` as an operand, a literal or a variable. -/
theorem limited (context : Context) (cs : List Char) :
    Limited (cs.length + 2) (fun maxDepth depth => (within context maxDepth).eval depth cs) ∧
    Limited (cs.length + 1) (fun maxDepth depth => (within context maxDepth).operand depth cs) ∧
    Limited (cs.length + 1) (fun maxDepth depth => (within context maxDepth).atom depth cs) := by
  refine induction_on_length
    (E := fun cs => Limited (cs.length + 2) fun m depth => (within context m).eval depth cs)
    (O := fun cs => Limited (cs.length + 1) fun m depth => (within context m).operand depth cs)
    (A := fun cs => Limited (cs.length + 1) fun m depth => (within context m).atom depth cs)
    ?atom ?operand ?eval cs
  case atom =>
    intro cs ih
    simp only [atom_eq]
    refine Limited.enter (Atom.limited (fun i m depth => (within context m).atom depth i)
      (Atom.ofText (Text.trim cs)) (context.resolve? (Text.trim cs))
      fun body hb i hi => (ih i ?_).mono ?_)
    all_goals
      have hlt := Atom.length_lt_of_list hb
      have hle := Scan.length_le_of_mem_items hi
      have htrim := Text.length_trim_le cs
      omega
  case operand =>
    intro cs ih hatom
    simp only [operand_eq]
    cases hc : Call.ofText? cs with
    | none => exact hatom
    | some call =>
      refine Call.limited (fun a m depth => (within context m).eval depth a) call context.user
        ?_ hatom
      intro a ha
      have hlt := Call.length_lt_of_ofText? hc ha
      exact (ih a hlt).mono (by omega)
  case eval =>
    intro cs ih htrim
    simp only [eval_eq]
    have hlt : ∀ p ∈ (Shape.ofText (Text.trim cs)).parts, p.length < cs.length :=
      fun p hp => Shape.length_lt_of_part rfl hp
    refine Limited.enter (Shape.limited (fun p m depth => (within context m).eval depth p)
      (fun p m depth => (within context m).operand depth p)
      (fun p m depth => (within context m).atom depth p) _ _ ?_ ?_ ?_ ?_ (htrim.mono ?_))
    · intro p hp
      exact (ih p (hlt p hp)).1.mono (by have := hlt p hp; omega)
    · intro p hp
      exact (ih p (hlt p hp)).2.1.mono (by have := hlt p hp; omega)
    · intro p hp
      exact (ih p (hlt p hp)).2.2.mono (by have := hlt p hp; omega)
    · intro p hp i hi
      have hle := Scan.length_le_of_mem_items hi
      have := hlt p hp
      exact (ih i (by omega)).2.2.mono (by omega)
    · have := Text.length_trim_le cs
      omega

/-! ## 4. Expressions -/

/-- **The limit only cuts off.**  An expression that is not balanced is malformed under every
limit.  Every other expression has one result, and each limit gives that result or its own
error; a limit that suffices suffices when it is raised, and one more than the bytes of the
expression always suffices. -/
theorem tryEvaluate_cut_off (context : Context) (expression : String) :
    let cs := Text.stripTemplate expression.toList
    let outcome (limit : Nat) := (within context limit).tryEvaluate expression
    (∀ fault, cs ≠ [] → Scan.Balance.check cs = .error fault →
      ∀ m, outcome m = .error (.malformed (String.ofList cs) fault)) ∧
    (cs = [] ∨ Scan.Balance.check cs = .ok () →
      ∃ result : Resolved,
        (∀ m, outcome m = .ok result ∨ outcome m = .error (.depthExceeded m)) ∧
        (∀ m n, m ≤ n → outcome m = .ok result → outcome n = .ok result) ∧
        (∀ m, (String.ofList cs).utf8ByteSize + 1 ≤ m → outcome m = .ok result)) := by
  intro cs outcome
  constructor
  · intro fault hne hf m
    simp only [outcome, tryEvaluate]
    rw [if_neg (by simpa using hne), hf]
  · intro hcs
    by_cases hne : cs = []
    · have hnone : ∀ m, outcome m = .ok none := by
        intro m
        simp only [outcome, tryEvaluate]
        rw [if_pos (by simpa using hne)]
      exact ⟨none, fun m => .inl (hnone m), fun _ n _ _ => hnone n, fun m _ => hnone m⟩
    · have hbalanced : Scan.Balance.check cs = .ok () := hcs.resolve_left hne
      obtain ⟨levels, result, hle, hs⟩ := (limited context cs).1
      have hvalue : ∀ m, outcome m =
          if levels ≤ m + 1 then .ok result else .error (.depthExceeded m) := by
        intro m
        simp only [outcome, tryEvaluate]
        rw [if_neg (by simpa using hne), hbalanced]
        simpa using hs m 0 (Nat.zero_le _)
      refine ⟨result, ?_, ?_, ?_⟩
      · intro m
        rw [hvalue]
        split
        · exact .inl rfl
        · exact .inr rfl
      · intro m n hmn hm
        rw [hvalue] at hm ⊢
        rw [if_pos]
        split at hm
        · omega
        · simp at hm
      · -- the levels are counted in characters, the limit in bytes
        intro m hm
        have hbytes := Text.length_le_utf8ByteSize cs
        rw [hvalue, if_pos (by omega)]

end Evaluator

end FormLogic
