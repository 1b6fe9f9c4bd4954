import FormLogic.Expression.Arithmetic
import FormLogic.Expression.GridCall

/-!
# The ways a form uses an expression

A form asks whether a field is visible, whether a value is valid, or what a calculated field
holds; other callers want a value or a truth.  Only `tryEvaluate` reports errors.  Visibility
and validation fail open: a broken expression never hides a field and never blocks a
submission.
-/

namespace FormLogic

/-- **The verdict of a validation expression.** -/
inductive Validation where
  | valid
  | invalid
  /-- Not valid, with a text to show beside the field. -/
  | message (text : String)
deriving DecidableEq, Repr

namespace Validation

def isValid : Validation → Bool
  | valid => true
  | _ => false

def message? : Validation → Option String
  | message text => some text
  | _ => none

def ofBool (b : Bool) : Validation := if b then valid else invalid

end Validation

namespace Evaluator

/-- **Evaluates an expression and reports errors.**  Blank text is undefined. -/
def tryEvaluate (ev : Evaluator) (expression : String) : Evaluation :=
  let cs := Text.stripTemplate expression.toList
  if cs.isEmpty then
    .ok none
  else
    match Scan.Balance.check cs with
    | .error fault => .error (.malformed (String.ofList cs) fault)
    | .ok () => ev.eval 0 cs

/-- The value of an expression: lists, maps, undefined and failures all become `null`. -/
def evaluate (ev : Evaluator) (expression : String) : Value :=
  match ev.tryEvaluate expression with
  | .ok r => r.orNull.narrow
  | .error _ => .null

/-- The truth of an expression; a failure is false. -/
def evaluateBoolean (ev : Evaluator) (expression : String) : Bool :=
  match ev.tryEvaluate expression with
  | .ok r => r.toBoolean
  | .error _ => false

/-- Whether a field is visible.  No expression and a failing expression keep it visible. -/
def visibility (ev : Evaluator) (expression : String) : Bool :=
  let cs := Text.stripStatement expression.toList
  if cs.isEmpty then
    true
  else
    match ev.tryEvaluate (String.ofList cs) with
    | .ok r => r.toBoolean
    | .error _ => true

/-- Whether the value of a field is valid.  A result that is text, and not empty, is the message
to show; every other result is read as a truth.  A failing expression accepts the value. -/
def validation (ev : Evaluator) (expression : String) : Validation :=
  let cs := Text.stripStatement expression.toList
  if cs.isEmpty then
    .valid
  else
    match ev.tryEvaluate (String.ofList cs) with
    | .ok (some (.string text)) => if text.isEmpty then .ofBool false else .message text
    | .ok r => .ofBool r.toBoolean
    | .error _ => .valid

/-- The value of a grid expression, when the text is one. -/
def gridFunction? (ev : Evaluator) (expression : String) : Option Binary64 :=
  GridCall.evaluate? expression.toList ev.context.grids

/-- **What a calculated field holds.**  Grid expressions are tried first, then arithmetic, then
the whole grammar; `null`, undefined and failures count as zero.  Only blank text has no
result. -/
def calculation (ev : Evaluator) (expression : String) : Resolved :=
  if expression.toList.all Text.isBlank then
    none
  else
    let cs := Text.stripTemplate (Text.stripStatement expression.toList)
    match GridCall.evaluate? cs ev.context.grids with
    | some total => some (.number total)
    | none =>
      if Arithmetic.isArithmetic cs then
        some (.number (ev.arithmetic (String.ofList cs)))
      else
        match ev.tryEvaluate (String.ofList cs) with
        | .ok r => if r.isNullish then some (.number .zero) else r
        | .error _ => some (.number .zero)

end Evaluator

end FormLogic
