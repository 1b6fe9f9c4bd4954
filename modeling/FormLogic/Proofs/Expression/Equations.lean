import FormLogic.Expression.Evaluator
import FormLogic.Proofs.Text.Trim

/-!
# One level of evaluation

`Shape.evaluate`, `Call.evaluate` and `Atom.evaluate` say what a form makes of its parts when it
is told how parts are evaluated.  The three equations `eval_eq`, `operand_eq` and `atom_eq` tie
the evaluator to them, and nothing after this module unfolds the evaluator again: a property of
evaluation is a property of one level, carried over all levels by an induction on length.
-/

namespace FormLogic

/-! ## 1. One level, with the evaluators of the parts left open -/

/-- **What a form makes of its parts.** -/
def Shape.evaluate (eval operand atom : List Char → Evaluation) (text : List Char) :
    Shape → Evaluation
  | .ternary parts => do
    let condition ← eval parts.condition
    if condition.toBoolean then eval parts.whenTrue else eval parts.whenFalse
  | .fallback primary other => do
    let value ← eval primary
    if value.isNullish then eval other else return value
  | .disjunction branches => Evaluation.disjunction (branches.map eval)
  | .conjunction branches => Evaluation.conjunction (branches.map eval)
  | .negation inner => do return some (.bool !(← eval inner).toBoolean)
  | .group inner => eval inner
  | .comparison op left right => do
    let left ← operand left
    let right ← operand right
    return some (.bool (op.apply left right))
  | .membership value items => do
    let value ← eval value
    let items ← Evaluation.collect ((Scan.items items).map atom)
    return some (.bool (items.any fun i => value.looselyEquals (some i.orNull)))
  | .containment collection needle => do
    let collection ← atom collection
    let needle ← eval needle
    match collection with
    | some (.list items) =>
      return some (.bool (items.any fun i => Resolved.looselyEquals (some i) needle))
    | _ => return some (.bool false)
  | .operand => operand text

/-- What a call makes of its arguments; `otherwise` is the reading of a text whose name no
helper has. -/
def Call.evaluate (eval : List Char → Evaluation) (user : User) (otherwise : Evaluation)
    (call : Call) : Evaluation := do
  let args ← Evaluation.collect (call.arguments.map eval)
  match Helper.ofName? (String.ofList call.name) with
  | some helper => return helper.apply args user
  | none => otherwise

/-- What a literal or a variable stands for. -/
def Atom.evaluate (atom : List Char → Evaluation) (named : Resolved) : Atom → Evaluation
  | .string content => .ok (some (.string (String.ofList content)))
  | .number n => .ok (some (.number n))
  | .bool b => .ok (some (.bool b))
  | .null => .ok (some .null)
  | .list body => do
    let items ← Evaluation.collect ((Scan.items body).map atom)
    return some (.list (items.map Resolved.orNull))
  | .path => .ok named

/-! ## 2. A level reads its parts only -/

theorem Shape.evaluate_congr {eval eval' operand operand' atom atom' : List Char → Evaluation}
    (shape : Shape) (text : List Char) (heval : ∀ p ∈ shape.parts, eval p = eval' p)
    (hoperand : ∀ p ∈ shape.parts, operand p = operand' p)
    (hatom : ∀ p ∈ shape.parts, atom p = atom' p)
    (hitems : ∀ p ∈ shape.parts, ∀ i ∈ Scan.items p, atom i = atom' i)
    (htext : operand text = operand' text) :
    shape.evaluate eval operand atom text = shape.evaluate eval' operand' atom' text := by
  cases shape with
  | ternary parts =>
    simp only [evaluate, heval _ (.head _), heval _ (.tail _ (.head _)),
      heval _ (.tail _ (.tail _ (.head _)))]
  | fallback primary other =>
    simp only [evaluate, heval _ (.head _), heval _ (.tail _ (.head _))]
  | disjunction branches => exact congrArg Evaluation.disjunction (List.map_congr_left heval)
  | conjunction branches => exact congrArg Evaluation.conjunction (List.map_congr_left heval)
  | negation inner => simp only [evaluate, heval _ (.head _)]
  | group inner => simp only [evaluate, heval _ (.head _)]
  | comparison op left right =>
    simp only [evaluate, hoperand _ (.head _), hoperand _ (.tail _ (.head _))]
  | membership value items =>
    simp only [evaluate, heval _ (.head _),
      List.map_congr_left (hitems items (.tail _ (.head _)))]
  | containment collection needle =>
    simp only [evaluate, hatom _ (.head _), heval _ (.tail _ (.head _))]
  | operand => exact htext

theorem Atom.evaluate_congr {atom atom' : List Char → Evaluation} (a : Atom) (named : Resolved)
    (hatom : ∀ body, a = .list body → ∀ i ∈ Scan.items body, atom i = atom' i) :
    a.evaluate atom named = a.evaluate atom' named := by
  cases a with
  | list body => simp only [evaluate, List.map_congr_left (hatom body rfl)]
  | _ => rfl

/-! ## 3. The equations of the evaluator -/

namespace Evaluator

variable (ev : Evaluator)

theorem eval_eq (depth : Nat) (cs : List Char) :
    ev.eval depth cs =
      if ev.options.maxDepth < depth then .error (.depthExceeded ev.options.maxDepth)
      else (Shape.ofText (Text.trim cs)).evaluate (ev.eval (depth + 1)) (ev.operand (depth + 1))
        (ev.atom (depth + 1)) (Text.trim cs) := by
  rw [eval]
  split
  · rfl
  · split <;> rename_i h <;> rewrite [h]
    -- the parts of these three come with proofs that they are parts
    case h_3 | h_4 | h_8 => simp [Shape.evaluate]
    all_goals rfl

theorem operand_eq (depth : Nat) (cs : List Char) :
    ev.operand depth cs =
      match Call.ofText? cs with
      | none => ev.atom depth cs
      | some call => call.evaluate (ev.eval depth) ev.context.user (ev.atom depth cs) := by
  rw [operand]
  split
  · next h => rw [h]
  · next call h =>
    rewrite [h]
    have hargs : call.arguments.attach.map (fun a => ev.eval depth a.val)
        = call.arguments.map (ev.eval depth) := List.attach_map_val
    exact congrArg (fun outcomes => Evaluation.collect outcomes >>= _) hargs

theorem atom_eq (depth : Nat) (cs : List Char) :
    ev.atom depth cs =
      if ev.options.maxDepth < depth then .error (.depthExceeded ev.options.maxDepth)
      else (Atom.ofText (Text.trim cs)).evaluate (ev.atom (depth + 1))
        (ev.context.resolve? (Text.trim cs)) := by
  rw [atom]
  split
  · rfl
  · split <;> rename_i h <;> simp [h, Atom.evaluate]

/-- Nothing is evaluated below the limit. -/
theorem eval_of_maxDepth_lt {depth : Nat} (h : ev.options.maxDepth < depth) (cs : List Char) :
    ev.eval depth cs = .error (.depthExceeded ev.options.maxDepth) := by
  rw [eval_eq, if_pos h]

/-- Nor is anything that begins with such a text. -/
theorem eval_bind_of_maxDepth_lt {depth : Nat} (h : ev.options.maxDepth < depth) (cs : List Char)
    (next : Resolved → Evaluation) :
    ev.eval depth cs >>= next = .error (.depthExceeded ev.options.maxDepth) := by
  rw [eval_of_maxDepth_lt ev h]
  rfl

/-- Blank characters around a text do not count. -/
theorem eval_eq_of_trim_eq {cs cs' : List Char} (h : Text.trim cs = Text.trim cs') (depth : Nat) :
    ev.eval depth cs = ev.eval depth cs' := by
  rw [eval_eq, eval_eq, h]

theorem eval_pad {cs before after : List Char} (h : Text.Tight cs) (hb : Text.Blank before)
    (ha : Text.Blank after) (depth : Nat) :
    ev.eval depth (before ++ (cs ++ after)) = ev.eval depth cs :=
  ev.eval_eq_of_trim_eq (by rw [h.trim_pad hb ha, h.trim_eq]) depth

/-! ## 4. Induction over all levels -/

/-- **From one level to all levels.**  A property of atoms follows from that of shorter atoms, one
of operands from that of shorter texts and of the same text as an atom, and one of texts from
that of shorter texts and of the trimmed text as an operand. -/
theorem induction_on_length {E O A : List Char → Prop}
    (atom : ∀ cs, (∀ p : List Char, p.length < cs.length → A p) → A cs)
    (operand : ∀ cs, (∀ p : List Char, p.length < cs.length → E p) → A cs → O cs)
    (eval : ∀ cs, (∀ p : List Char, p.length < cs.length → E p ∧ O p ∧ A p) →
      O (Text.trim cs) → E cs)
    (cs : List Char) : E cs ∧ O cs ∧ A cs := by
  have hA : ∀ cs, A cs := by
    intro cs
    induction hn : cs.length using Nat.strongRecOn generalizing cs with
    | ind n ih => exact atom cs fun p hp => ih p.length (hn ▸ hp) p rfl
  have hEO : ∀ cs, E cs ∧ O cs := by
    intro cs
    induction hn : cs.length using Nat.strongRecOn generalizing cs with
    | ind n ih =>
      have shorter : ∀ p : List Char, p.length < n → E p ∧ O p := fun p hp => ih p.length hp p rfl
      -- trimming may keep the length, so operands of this length come before its texts
      have hO : ∀ p : List Char, p.length ≤ n → O p := fun p hp =>
        operand p (fun q hq => (shorter q (by omega)).1) (hA p)
      refine ⟨eval cs (fun p hp => ?_) (hO _ ?_), hO cs (by omega)⟩
      · exact ⟨(shorter p (by omega)).1, (shorter p (by omega)).2, hA p⟩
      · have := Text.length_trim_le cs
        omega
  exact ⟨(hEO cs).1, (hEO cs).2, hA cs⟩

end Evaluator

end FormLogic
