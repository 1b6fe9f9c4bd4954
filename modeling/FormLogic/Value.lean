import FormLogic.Dict
import FormLogic.Number.Layout
import FormLogic.Number.Numeral

/-!
# Values

What expressions compute with.  A name that stands for nothing at all is kept apart from an
explicit `null`: results of evaluation are `Resolved`, an optional value, and `none` is
"undefined".

This module also holds the text of a value (`display`) and the look-up of one path segment.
-/

namespace FormLogic

/-- **A value** of the expression language. -/
inductive Value where
  | null
  | bool (b : Bool)
  | number (n : Binary64)
  | string (s : String)
  | list (items : List Value)
  | map (entries : List (String × Value))
deriving Repr, Inhabited

/-- The outcome of resolving a name or evaluating an expression: a value, or undefined. -/
abbrev Resolved := Option Value

namespace Value

def isNull : Value → Bool
  | .null => true
  | _ => false

/-- Lists and maps become `null`; other values stay. -/
def narrow : Value → Value
  | .list _ | .map _ => .null
  | scalar => scalar

/-- The position that a path segment denotes in a list: ASCII digits with an optional plus
sign, below `2^64`. -/
def index? (segment : String) : Option Nat :=
  let digits := match segment.toList with
    | '+' :: digits => digits
    | digits => digits
  (Text.decimalValue? digits).filter (· < UInt64.size)

/-- One segment of a path: the entry of a map, or the item of a list at a position. -/
def get? (v : Value) (segment : String) : Option Value :=
  match v with
  | .map entries => Dict.get? entries segment
  | .list items => (index? segment).bind (items[·]?)
  | _ => none

/-! ## The text of a value -/

mutual

/-- **The text of a value.**  The items of a list are joined by commas, a `null` among them
leaving its place empty, and every map has the same text. -/
def display : Value → String
  | .null => "null"
  | .bool true => "true"
  | .bool false => "false"
  | .number n => String.ofList (Number.format n)
  | .string s => s
  | .list items => String.intercalate "," (displayItems items)
  | .map _ => "[object Object]"

/-- The texts of the items of a list. -/
def displayItems : List Value → List String
  | [] => []
  | .null :: rest => "" :: displayItems rest
  | item :: rest => item.display :: displayItems rest

end

end Value

namespace Resolved

/-- The text of an outcome. -/
def display : Resolved → String
  | none => "undefined"
  | some v => v.display

/-- Undefined read as `null`. -/
def orNull (r : Resolved) : Value := r.getD .null

end Resolved

end FormLogic
