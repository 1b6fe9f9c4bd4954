import FormLogic.Context.Path
import FormLogic.Expression.Call
import FormLogic.Expression.Error
import FormLogic.Expression.Helper
import FormLogic.Expression.Shape

/-!
# Evaluation

`Evaluator.eval` looks at the shape of a text and evaluates the texts of its parts; `operand`
tries a text as a call of a known helper; `atom` reads it as a literal or a variable.  The
recursion ends because parts are shorter than their text.  The limit on nesting is an ordinary
error: it can cut an evaluation off, and it never changes a result.
-/

namespace FormLogic

/-- What can be tuned about evaluation. -/
structure Options where
  /-- The deepest nesting that is evaluated. -/
  maxDepth : Nat := 64
deriving DecidableEq, Repr, Inhabited

/-- **An evaluator**: the data it evaluates against, and its options. -/
structure Evaluator where
  context : Context := {}
  options : Options := {}
deriving Repr, Inhabited

/-- The outcome of an evaluation. -/
abbrev Evaluation := Except EvalError Resolved

namespace Evaluation

/-- True at the first true outcome, and an error met before it is the result. -/
def disjunction : List Evaluation → Evaluation
  | [] => .ok (some (.bool false))
  | e :: rest => do
    if (← e).toBoolean then return some (.bool true) else disjunction rest

/-- False at the first outcome that is not true; an error met before it is the result. -/
def conjunction : List Evaluation → Evaluation
  | [] => .ok (some (.bool true))
  | e :: rest => do
    if (← e).toBoolean then conjunction rest else return some (.bool false)

/-- All outcomes, or the first error. -/
def collect : List Evaluation → Except EvalError (List Resolved)
  | [] => .ok []
  | e :: rest => do return (← e) :: (← collect rest)

end Evaluation

/-! ## 1. Literals -/

/-- What a text is that is neither an operator's nor a call. -/
inductive Atom where
  | string (content : List Char)
  | number (n : Binary64)
  | bool (b : Bool)
  | null
  | list (body : List Char)
  | path
deriving DecidableEq, Repr

namespace Atom

/-- The content of a text that begins and ends with the same quote. -/
def quoted? : List Char → Option (List Char)
  | '"' :: rest => Text.dropLast? '"' rest
  | '\'' :: rest => Text.dropLast? '\'' rest
  | _ => none

/-- The number of a text that is written just as the number would be. -/
def number? (cs : List Char) : Option Binary64 :=
  (Number.lenient? cs).filter fun n => Number.format n == cs

/-- The inside of a text in square brackets. -/
def bracketed? : List Char → Option (List Char)
  | '[' :: rest => Text.dropLast? ']' rest
  | _ => none

/-- **Reads a trimmed text as a literal**, or as a variable when it is none. -/
def ofText (cs : List Char) : Atom :=
  match quoted? cs with
  | some content => string content
  | none =>
  match number? cs with
  | some n => number n
  | none =>
  if cs = ['t', 'r', 'u', 'e'] then bool true
  else if cs = ['f', 'a', 'l', 's', 'e'] then bool false
  else if cs = ['n', 'u', 'l', 'l'] then null
  else match bracketed? cs with
    | some body => list body
    | none => path

theorem length_lt_of_list {cs body : List Char} (h : ofText cs = list body) :
    body.length < cs.length := by
  unfold ofText at h
  split at h
  · simp at h
  split at h
  · simp at h
  split at h
  · simp at h
  split at h
  · simp at h
  split at h
  · simp at h
  split at h
  · next hb =>
    obtain rfl := by simpa using h
    unfold bracketed? at hb
    split at hb
    · have := Text.length_of_dropLast? hb
      simp only [List.length_cons]
      omega
    · simp at hb
  · simp at h

end Atom

/-! ## 2. The evaluator -/

namespace Evaluator

variable (ev : Evaluator)

mutual

/-- **Evaluates a text** at a depth of nesting.  Its parts lie one level deeper. -/
def eval (depth : Nat) (cs : List Char) : Evaluation :=
  if ev.options.maxDepth < depth then
    .error (.depthExceeded ev.options.maxDepth)
  else
    match h : Shape.ofText (Text.trim cs) with
    | .ternary parts => do
      let condition ← eval (depth + 1) parts.condition
      if condition.toBoolean then eval (depth + 1) parts.whenTrue
      else eval (depth + 1) parts.whenFalse
    | .fallback primary other => do
      let value ← eval (depth + 1) primary
      if value.isNullish then eval (depth + 1) other else return value
    | .disjunction branches =>
      Evaluation.disjunction (branches.attach.map fun ⟨b, _⟩ => eval (depth + 1) b)
    | .conjunction branches =>
      Evaluation.conjunction (branches.attach.map fun ⟨b, _⟩ => eval (depth + 1) b)
    | .negation inner => do
      return some (.bool !(← eval (depth + 1) inner).toBoolean)
    | .group inner => eval (depth + 1) inner
    | .comparison op left right => do
      let left ← operand (depth + 1) left
      let right ← operand (depth + 1) right
      return some (.bool (op.apply left right))
    | .membership value items => do
      let value ← eval (depth + 1) value
      let items ← Evaluation.collect <|
        (Scan.items items).attach.map fun ⟨i, _⟩ => atom (depth + 1) i
      return some (.bool (items.any fun i => value.looselyEquals (some i.orNull)))
    | .containment collection needle => do
      let collection ← atom (depth + 1) collection
      let needle ← eval (depth + 1) needle
      match collection with
      | some (.list items) =>
        return some (.bool (items.any fun i => Resolved.looselyEquals (some i) needle))
      | _ => return some (.bool false)
    | .operand => operand (depth + 1) (Text.trim cs)
termination_by 3 * cs.length + 2
decreasing_by
  all_goals have part := @Shape.length_lt_of_part cs
  all_goals first
    | (have hlt := part h (.head _); omega)
    | (have hlt := part h (.tail _ (.head _)); omega)
    | (have hlt := part h (.tail _ (.tail _ (.head _))); omega)
    | (have hlt := part h (by assumption); omega)
    | (have _hlt := Text.length_trim_le cs; omega)

/-- Evaluates a text as a call of a known helper.  The arguments are evaluated before the name
is looked up; a text that is no such call is a literal or a variable. -/
def operand (depth : Nat) (cs : List Char) : Evaluation :=
  match _h : Call.ofText? cs with
  | none => atom depth cs
  | some call => do
    let args ← Evaluation.collect (call.arguments.attach.map fun ⟨a, _⟩ => eval depth a)
    match Helper.ofName? (String.ofList call.name) with
    | some helper => return helper.apply args ev.context.user
    | none => atom depth cs
termination_by 3 * cs.length + 1
decreasing_by
  all_goals first
    | omega
    | (have hlt := Call.length_lt_of_ofText? _h (by assumption); omega)

/-- **Reads a text as a literal or a variable.**  The items of a list are read in the same
way, an undefined one as `null`. -/
def atom (depth : Nat) (cs : List Char) : Evaluation :=
  if ev.options.maxDepth < depth then
    .error (.depthExceeded ev.options.maxDepth)
  else
    match _h : Atom.ofText (Text.trim cs) with
    | .string content => .ok (some (.string (String.ofList content)))
    | .number n => .ok (some (.number n))
    | .bool b => .ok (some (.bool b))
    | .null => .ok (some .null)
    | .list body => do
      let items ← Evaluation.collect ((Scan.items body).attach.map fun ⟨i, _⟩ => atom (depth + 1) i)
      return some (.list (items.map Resolved.orNull))
    | .path => .ok (ev.context.resolve? (Text.trim cs))
termination_by 3 * cs.length
decreasing_by
  have := Scan.length_le_of_mem_items (by assumption)
  have := Atom.length_lt_of_list _h
  have := Text.length_trim_le cs
  omega

end

end Evaluator

end FormLogic
