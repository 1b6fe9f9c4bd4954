import FormLogic.Value.Equality

/-!
# Comparisons

The eight comparison operators, the order in which a text is searched for them, and what each
one says about two outcomes.
-/

namespace FormLogic

/-- A comparison operator. -/
inductive Comparison where
  | strictEq
  | strictNotEq
  | eq
  | notEq
  | ge
  | le
  | gt
  | lt
deriving DecidableEq, Repr

namespace Comparison

/-- The operators in the order in which a text is searched for them.  An operator comes before
every operator that it begins with. -/
def all : List Comparison := [strictEq, strictNotEq, eq, notEq, ge, le, gt, lt]

def symbol : Comparison → List Char
  | strictEq => ['=', '=', '=']
  | strictNotEq => ['!', '=', '=']
  | eq => ['=', '=']
  | notEq => ['!', '=']
  | ge => ['>', '=']
  | le => ['<', '=']
  | gt => ['>']
  | lt => ['<']

/-- **The verdict on two outcomes.**  Equality is strict or loose; the order is that of the
lenient numeric readings. -/
def apply (op : Comparison) (a b : Resolved) : Bool :=
  match op with
  | strictEq => a.strictlyEquals b
  | strictNotEq => !a.strictlyEquals b
  | eq => a.looselyEquals b
  | notEq => !a.looselyEquals b
  | ge => b.toNumber.le a.toNumber
  | le => a.toNumber.le b.toNumber
  | gt => b.toNumber.lt a.toNumber
  | lt => a.toNumber.lt b.toNumber

end Comparison

end FormLogic
