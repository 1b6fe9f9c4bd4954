import FormLogic.Proofs.Expression.Equations

/-!
# The two connectives

`&&` and `||` differ in their symbol and in the truth of an operand that leaves the operands
after it unevaluated (`Connective.decisive`), and in nothing else.  `outcome_cons` says what one
operand does to the outcome; what is proved from it holds of both connectives.
-/

namespace FormLogic

/-- `&&` or `||`. -/
inductive Connective where
  | conjunction
  | disjunction
deriving DecidableEq, Repr

namespace Connective

def symbol : Connective → List Char
  | conjunction => ['&', '&']
  | disjunction => ['|', '|']

/-- The form of a text that the connective cuts. -/
def shape : Connective → List (List Char) → Shape
  | conjunction => .conjunction
  | disjunction => .disjunction

/-- What the outcomes of the operands come to. -/
def outcome : Connective → List Evaluation → Evaluation
  | conjunction => Evaluation.conjunction
  | disjunction => Evaluation.disjunction

/-- The truth of operands under the connective. -/
def holds (k : Connective) (vs : List Resolved) : Bool :=
  match k with
  | conjunction => vs.all Resolved.toBoolean
  | disjunction => vs.any Resolved.toBoolean

/-- The truth of an operand that decides, whatever the operands after it are. -/
def decisive : Connective → Bool
  | conjunction => false
  | disjunction => true

variable (k : Connective)

theorem evaluate_shape (eval operand atom : List Char → Evaluation) (text : List Char)
    (texts : List (List Char)) :
    (k.shape texts).evaluate eval operand atom text = k.outcome (texts.map eval) := by
  cases k <;> rfl

theorem outcome_nil : k.outcome [] = .ok (some (.bool !k.decisive)) := by
  cases k <;> rfl

/-- **The first operand decides or leaves it to the others.** -/
theorem outcome_cons (x : Evaluation) (xs : List Evaluation) :
    k.outcome (x :: xs) = (do
      if (← x).toBoolean = k.decisive then return some (.bool k.decisive)
      else k.outcome xs) := by
  cases x with
  | error e => cases k <;> rfl
  | ok v =>
    cases k <;> cases hv : v.toBoolean <;>
      simp [outcome, decisive, Evaluation.conjunction, Evaluation.disjunction, bind, Except.bind,
        hv]

theorem outcome_pair (x y : Evaluation) :
    k.outcome [x, y] = (do
      if (← x).toBoolean = k.decisive then return some (.bool k.decisive)
      else return some (.bool (← y).toBoolean)) := by
  have hlast : k.outcome [y] = (do return some (.bool (← y).toBoolean)) := by
    rw [outcome_cons, outcome_nil]
    cases y with
    | error e => rfl
    | ok w =>
      cases k <;> cases hw : w.toBoolean <;>
        simp [decisive, bind, Except.bind, pure, Except.pure, hw]
  rw [outcome_cons, hlast]

theorem holds_nil : k.holds [] = !k.decisive := by
  cases k <;> rfl

theorem holds_cons (v : Resolved) (vs : List Resolved) :
    k.holds (v :: vs) = if v.toBoolean = k.decisive then k.decisive else k.holds vs := by
  cases k <;> cases hv : v.toBoolean <;> simp [holds, decisive, hv]

/-- Operands that have values come to the truth of these. -/
theorem outcome_ok (vs : List Resolved) :
    k.outcome (vs.map .ok) = .ok (some (.bool (k.holds vs))) := by
  induction vs with
  | nil => rw [List.map_nil, outcome_nil, holds_nil]
  | cons v vs ih =>
    rw [List.map_cons, outcome_cons, holds_cons, ih]
    by_cases h : v.toBoolean = k.decisive
    · simp [bind, Except.bind, pure, Except.pure, h]
    · simp [bind, Except.bind, h]

end Connective

end FormLogic
