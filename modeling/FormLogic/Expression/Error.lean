import FormLogic.Scan.Balance

/-!
# Evaluation errors

Evaluating a text can fail in two ways only: its brackets or string literals do not pair up,
or it nests deeper than the limit allows.
-/

namespace FormLogic

/-- **Why an expression has no value.** -/
inductive EvalError where
  | malformed (expression : String) (fault : Scan.Fault)
  | depthExceeded (limit : Nat)
deriving DecidableEq, Repr

/-- The text of an error. -/
def EvalError.message : EvalError → String
  | .malformed e fault => "Malformed expression '" ++ e ++ "': " ++ fault.message
  | .depthExceeded limit => "Expression nesting exceeds max depth of " ++ toString limit

end FormLogic
