import FormLogic.Proofs.Value.Document
import FormLogic.Value.Equality

/-!
# Equality in both directions

Values are compared from the outside in, kind before content, so it does not matter which of two
values comes first.  The membership forms rely on it: some hold the sought value against the items
and some the items against the sought value.

Strictly, a value that has a `nan` in it differs from itself (`Value.same_self_iff`).  Loosely it
does not: its text is what it is.
-/

namespace FormLogic

/-! ## 1. Kind and content -/

theorem Binary64.eq_self_iff (a : Binary64) : a.eq a = true ↔ a ≠ .nan := by
  cases a <;> simp [Binary64.eq, Binary64.rank?]

theorem Binary64.eq_comm (a b : Binary64) : a.eq b = b.eq a := by
  unfold Binary64.eq
  cases a.rank? with
  | none => cases b.rank? <;> rfl
  | some x =>
    cases b.rank? with
    | none => rfl
    | some y => exact Bool.beq_comm

namespace Value

mutual

/-- **Kind and content are compared in either order.** -/
theorem same_comm : ∀ a b : Value, a.same b = b.same a
  | .null, b => by cases b <;> rfl
  | .bool a, b => by
    cases b with
    | bool b => exact Bool.beq_comm
    | _ => rfl
  | .number a, b => by
    cases b with
    | number b => exact Binary64.eq_comm a b
    | _ => rfl
  | .string a, b => by
    cases b with
    | string b => exact Bool.beq_comm
    | _ => rfl
  | .list as, b => by
    cases b with
    | list bs => exact sameItems_comm as bs
    | _ => rfl
  | .map as, b => by
    cases b with
    | map bs => exact sameEntries_comm as bs
    | _ => rfl

theorem sameItems_comm : ∀ as bs : List Value, sameItems as bs = sameItems bs as
  | [], bs => by cases bs <;> rfl
  | a :: as, [] => rfl
  | a :: as, b :: bs => by
    rw [sameItems, sameItems, same_comm a b, sameItems_comm as bs]

theorem sameEntries_comm : ∀ as bs : List (String × Value), sameEntries as bs = sameEntries bs as
  | [], bs => by cases bs <;> rfl
  | (j, a) :: as, [] => rfl
  | (j, a) :: as, (k, b) :: bs => by
    have hkeys : (j == k) = (k == j) := Bool.beq_comm
    rw [sameEntries, sameEntries, hkeys, same_comm a b, sameEntries_comm as bs]

end

mutual

/-- **A value is the same as itself unless there is a `nan` in it**, at any depth. -/
theorem same_self_iff : ∀ v : Value, v.same v = true ↔ .nan ∉ v.numbers
  | .null => by simp [same, numbers]
  | .bool b => by simp [same, numbers]
  | .number x => by
    rw [same, numbers, Binary64.eq_self_iff, List.mem_singleton, ne_comm]
  | .string s => by simp [same, numbers]
  | .list items => sameItems_self_iff items
  | .map es => sameEntries_self_iff es

theorem sameItems_self_iff : ∀ vs : List Value,
    sameItems vs vs = true ↔ .nan ∉ listNumbers vs
  | [] => by simp [sameItems, listNumbers]
  | v :: vs => by
    rw [sameItems, Bool.and_eq_true, same_self_iff v, sameItems_self_iff vs, listNumbers,
      List.mem_append, not_or]

theorem sameEntries_self_iff : ∀ es : List (String × Value),
    sameEntries es es = true ↔ .nan ∉ entriesNumbers es
  | [] => by simp [sameEntries, entriesNumbers]
  | (k, v) :: es => by
    rw [sameEntries, beq_self_eq_true, Bool.true_and, Bool.and_eq_true, same_self_iff v,
      sameEntries_self_iff es, entriesNumbers, List.mem_append, not_or]

end

end Value

/-! ## 2. Strict and loose equality -/

namespace Resolved

theorem strictlyEquals_comm (a b : Resolved) : strictlyEquals a b = strictlyEquals b a := by
  cases a with
  | none => cases b <;> rfl
  | some a =>
    cases b with
    | none => rfl
    | some b => exact Value.same_comm a b

/-- **Loose equality is symmetric.** -/
theorem looselyEquals_comm (a b : Resolved) : looselyEquals a b = looselyEquals b a := by
  have htexts : (Text.lower a.display == Text.lower b.display)
      = (Text.lower b.display == Text.lower a.display) := Bool.beq_comm
  rw [looselyEquals, looselyEquals, strictlyEquals_comm, Bool.or_comm a.isNullish,
    Bool.and_comm a.isNullish, htexts, Binary64.eq_comm]

theorem isNullish_iff {a : Resolved} : a.isNullish = true ↔ a = none ∨ a = some .null := by
  rcases a with _ | v
  · simp [isNullish]
  · cases v <;> simp [isNullish]

/-- Undefined is strictly equal to nothing else, and neither is `null`. -/
theorem isNullish_of_strictlyEquals {a b : Resolved} (ha : a.isNullish = true)
    (h : strictlyEquals a b = true) : b.isNullish = true := by
  rcases isNullish_iff.mp ha with rfl | rfl
  · cases b with
    | none => rfl
    | some b => cases h
  · cases b with
    | none => rfl
    | some b => cases b <;> first | rfl | cases h

/-- **Undefined and `null` are loosely equal to each other and to nothing else.** -/
theorem looselyEquals_of_isNullish {a : Resolved} (ha : a.isNullish = true) (b : Resolved) :
    looselyEquals a b = b.isNullish := by
  rw [looselyEquals, ha, Bool.true_or, if_pos rfl, Bool.true_and]
  cases hstrict : strictlyEquals a b with
  | false => rfl
  | true => rw [isNullish_of_strictlyEquals ha hstrict]; rfl

/-- **Loose equality is reflexive**: what is not undefined or `null` has the text that it has. -/
theorem looselyEquals_self (a : Resolved) : looselyEquals a a = true := by
  cases ha : a.isNullish with
  | true => rw [looselyEquals_of_isNullish ha, ha]
  | false => simp [looselyEquals, ha]

/-- **Loose equality is reflexive and symmetric**, whatever is in the values, and undefined and
`null` make up a class of their own.  Strict equality is not reflexive: a `nan` in a value breaks
it. -/
theorem looselyEquals_reflexive_symmetric :
    (∀ a : Resolved, looselyEquals a a = true) ∧
    (∀ a b : Resolved, looselyEquals a b = looselyEquals b a) ∧
    (∀ b : Resolved,
      (looselyEquals none b = true ↔ b = none ∨ b = some .null) ∧
      (looselyEquals (some .null) b = true ↔ b = none ∨ b = some .null)) ∧
    (∀ v : Value, strictlyEquals (some v) (some v) = true ↔ .nan ∉ v.numbers) := by
  refine ⟨looselyEquals_self, looselyEquals_comm, fun b => ?_, Value.same_self_iff⟩
  rw [looselyEquals_of_isNullish rfl, looselyEquals_of_isNullish rfl, isNullish_iff]
  exact ⟨Iff.rfl, Iff.rfl⟩

end Resolved

end FormLogic
