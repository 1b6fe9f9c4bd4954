import FormLogic.Value

/-!
# Reading values as something else

Truth, numbers and emptiness of a value.  There are two numeric readings: `toNumber` for
ordering, which never fails and is lenient about text, and `strictNumber` for equality, which
is `nan` where the value is no number.
-/

namespace FormLogic.Resolved

/-- **Truth.**  Undefined, `null` and zero are false.  A number is true when it is not equal to
zero, so `nan` is true; text is true unless it is empty or spells `false`; lists and maps are
true. -/
def toBoolean : Resolved → Bool
  | none | some .null => false
  | some (.bool b) => b
  | some (.string s) =>
    !s.isEmpty && s.toList.map Char.toLower != ['f', 'a', 'l', 's', 'e']
  | some (.number n) => !n.isZero
  | some (.list _) | some (.map _) => true

/-- Undefined or `null`. -/
def isNullish : Resolved → Bool
  | none | some .null => true
  | _ => false

/-- The number used for ordering: numbers as they are, text by its lenient reading, and zero
for everything else. -/
def toNumber : Resolved → Binary64
  | some (.number n) => n
  | some (.string s) => (Number.lenient? s.toList).getD .zero
  | _ => .zero

/-- The number used for equality, `nan` where there is none.  A list is read by its text. -/
def strictNumber : Resolved → Binary64
  | none => .nan
  | some .null => .zero
  | some (.bool b) => if b then .one else .zero
  | some (.number n) => n
  | some (.string s) => Number.strict s.toList
  | some (.list items) => Number.strict (Value.list items).display.toList
  | some (.map _) => .nan

/-- Nothing in it: undefined, `null`, blank text, a list or map without entries. -/
def isEmpty : Resolved → Bool
  | none | some .null => true
  | some (.string s) => s.toList.all Text.isBlank
  | some (.list items) => items.isEmpty
  | some (.map entries) => entries.isEmpty
  | some _ => false

end FormLogic.Resolved
