import FormLogic.Text.Case
import FormLogic.Value.Coercion

/-!
# Equality of values

`same` compares kind and content.  `looselyEquals` also takes values for equal whose texts
differ only in case, or whose strict numeric readings are equal; undefined and `null` equal
each other and nothing else.
-/

namespace FormLogic

mutual

/-- Same kind and same content; `nan` differs from itself. -/
def Value.same : Value → Value → Bool
  | .null, .null => true
  | .bool a, .bool b => a == b
  | .number a, .number b => a.eq b
  | .string a, .string b => a == b
  | .list a, .list b => Value.sameItems a b
  | .map a, .map b => Value.sameEntries a b
  | _, _ => false

def Value.sameItems : List Value → List Value → Bool
  | [], [] => true
  | a :: as, b :: bs => a.same b && Value.sameItems as bs
  | _, _ => false

def Value.sameEntries : List (String × Value) → List (String × Value) → Bool
  | [], [] => true
  | (j, a) :: as, (k, b) :: bs => j == k && a.same b && Value.sameEntries as bs
  | _, _ => false

end

namespace Resolved

/-- Strict equality: undefined equals only undefined. -/
def strictlyEquals : Resolved → Resolved → Bool
  | none, none => true
  | some a, some b => a.same b
  | _, _ => false

/-- **Loose equality.** -/
def looselyEquals (a b : Resolved) : Bool :=
  strictlyEquals a b ||
    if a.isNullish || b.isNullish then
      a.isNullish && b.isNullish
    else
      Text.lower a.display == Text.lower b.display
        || (strictNumber a).eq (strictNumber b)

end Resolved

end FormLogic
