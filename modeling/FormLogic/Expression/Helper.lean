import FormLogic.Context.User
import FormLogic.Pattern
import FormLogic.Text.Substring
import FormLogic.Value.Equality

/-!
# Helpers

The functions that expressions can call.  Every helper is total: missing arguments read as
undefined, and arguments of the wrong kind give a neutral result.
-/

namespace FormLogic

/-- **The name of a helper.** -/
inductive Helper where
  | hasRole | hasGroup | hasAnyRole | hasAnyGroup | hasAllRoles | hasAllGroups
  | isEmpty | isNotEmpty
  | startsWith | endsWith | includes | matchesPattern
  | len | lower | upper | trim | concat | replace | substring | at
  | between | min | max | abs | round | ceil | floor
  | coalesce | defaultIfBlank
deriving DecidableEq, Repr

namespace Helper

def all : List Helper := [
  hasRole, hasGroup, hasAnyRole, hasAnyGroup, hasAllRoles, hasAllGroups,
  isEmpty, isNotEmpty,
  startsWith, endsWith, includes, matchesPattern,
  len, lower, upper, trim, concat, replace, substring, .at,
  between, min, max, abs, round, ceil, floor,
  coalesce, defaultIfBlank]

/-- The name as expressions write it. -/
def name : Helper → String
  | hasRole => "hasRole"
  | hasGroup => "hasGroup"
  | hasAnyRole => "hasAnyRole"
  | hasAnyGroup => "hasAnyGroup"
  | hasAllRoles => "hasAllRoles"
  | hasAllGroups => "hasAllGroups"
  | isEmpty => "isEmpty"
  | isNotEmpty => "isNotEmpty"
  | startsWith => "startsWith"
  | endsWith => "endsWith"
  | includes => "includes"
  | matchesPattern => "matches"
  | len => "len"
  | lower => "lower"
  | upper => "upper"
  | trim => "trim"
  | concat => "concat"
  | replace => "replace"
  | substring => "substring"
  | .at => "at"
  | between => "between"
  | min => "min"
  | max => "max"
  | abs => "abs"
  | round => "round"
  | ceil => "ceil"
  | floor => "floor"
  | coalesce => "coalesce"
  | defaultIfBlank => "defaultIfBlank"

/-- The helper of a name. -/
def ofName? (name : String) : Option Helper := all.find? (·.name == name)

/-! ## 1. Reading arguments -/

/-- The argument at a position, undefined when there is none. -/
def arg (args : List Resolved) (i : Nat) : Resolved := args[i]?.join

/-- The text of an argument, empty for undefined and `null`. -/
def text (args : List Resolved) (i : Nat) : String :=
  let a := arg args i
  if a.isNullish then "" else a.display

/-- The lenient number of an argument. -/
def number (args : List Resolved) (i : Nat) : Binary64 := (arg args i).toNumber

/-- The names given to a role or group helper: the items of a single list argument, or else
all the arguments. -/
def names : List Resolved → List String
  | [some (.list items)] => items.map Value.display
  | args => args.map Resolved.display

/-! ## 2. Positions -/

/-- A bound taken into `0..length`; `nan` counts as zero. -/
def clamp (length : Nat) (x : Binary64) : Nat :=
  if x.isNaN || x.lt .zero then 0
  else if (Binary64.ofNat length).lt x then length
  else x.truncate.toNat

/-- The characters of a text from one bound to another, which may come in either order; to the
end of the text when the second is not given. -/
def cut (s : String) (start : Binary64) (stop? : Option Binary64) : String :=
  let cs := s.toList
  let stop := match stop? with
    | some stop => clamp cs.length stop
    | none => cs.length
  String.ofList (Text.between cs (clamp cs.length start) stop)

/-- The position that an index denotes among `length` things: a negative index counts from the
end, and `nan` is the first position. -/
def position? (length : Nat) (index : Binary64) : Option Nat :=
  if index.isNaN then
    if 0 < length then some 0 else none
  else
    let i := if index.lt .zero then (Binary64.ofNat length).add index else index
    if Binary64.zero.le i && i.lt (Binary64.ofNat length) then some i.truncate.toNat else none

/-- The item of a list, or the character of a text, at an index; `null` when there is none. -/
def item (collection : Resolved) (index : Binary64) : Value :=
  match collection with
  | some (.list items) => ((position? items.length index).bind (items[·]?)).getD .null
  | some (.string s) =>
    let cs := s.toList
    match (position? cs.length index).bind (cs[·]?) with
    | some c => .string c.toString
    | none => .null
  | _ => .null

/-! ## 3. Rounding -/

/-- Ten to a whole power that is not negative. -/
def powerOfTen (exponent : Binary64) : Binary64 :=
  match exponent with
  | .infinite _ => .infinite false
  | _ => Decimal.toBinary64 false ⟨1, exponent.truncate⟩

/-- The value rounded to a number of decimal places, a half going up. -/
def roundTo (value places : Binary64) : Binary64 :=
  let factor := powerOfTen (Binary64.max places.floor .zero)
  (((value.mul factor).add .half).floor).div factor

/-! ## 4. The helpers -/

/-- **The result of a helper.**  Only `defaultIfBlank` can pass an undefined argument on. -/
def apply (h : Helper) (args : List Resolved) (user : User) : Resolved :=
  match h with
  | hasRole => some (.bool (user.hasRole (text args 0)))
  | hasGroup => some (.bool (user.hasGroup (text args 0)))
  | hasAnyRole => some (.bool ((names args).any user.hasRole))
  | hasAnyGroup => some (.bool ((names args).any user.hasGroup))
  | hasAllRoles => some (.bool ((names args).all user.hasRole))
  | hasAllGroups => some (.bool ((names args).all user.hasGroup))
  | isEmpty => some (.bool (arg args 0).isEmpty)
  | isNotEmpty => some (.bool !(arg args 0).isEmpty)
  | startsWith => some (.bool ((text args 1).toList.isPrefixOf (text args 0).toList))
  | endsWith => some (.bool ((text args 1).toList.isSuffixOf (text args 0).toList))
  | includes =>
    match arg args 0 with
    | some (.list items) =>
      some (.bool (items.any fun item => Resolved.looselyEquals (some item) (arg args 1)))
    | _ => some (.bool (Text.contains (text args 1).toList (text args 0).toList))
  | matchesPattern => some (.bool (Pattern.test (text args 1) (text args 2) (text args 0)))
  | len =>
    let length := match arg args 0 with
      | some (.string s) => s.length
      | some (.list items) => items.length
      | some (.map entries) => entries.length
      | _ => 0
    some (.number (.ofNat length))
  | lower => some (.string (Text.lower (text args 0)))
  | upper => some (.string (Text.upper (text args 0)))
  | trim => some (.string (String.ofList (Text.trim (text args 0).toList)))
  | concat => some (.string (String.join ((List.range args.length).map (text args))))
  | replace =>
    some (.string (String.ofList
      (Text.replaceFirst (text args 1).toList (text args 2).toList (text args 0).toList)))
  | substring =>
    let stop? := (arg args 2).map fun stop => (Resolved.toNumber (some stop)).floor
    some (.string (cut (text args 0) (number args 1).floor stop?))
  | .at => some (item (arg args 0) (number args 1).floor)
  | between =>
    let x := number args 0
    some (.bool ((number args 1).le x && x.le (number args 2)))
  | min =>
    some (.number (((List.range args.length).map (number args)).foldl .min (.infinite false)))
  | max =>
    some (.number (((List.range args.length).map (number args)).foldl .max (.infinite true)))
  | abs => some (.number (number args 0).abs)
  | round => some (.number (roundTo (number args 0) (number args 1)))
  | ceil => some (.number (number args 0).ceil)
  | floor => some (.number (number args 0).floor)
  | coalesce => some ((args.reduceOption.find? (!·.isNull)).getD .null)
  | defaultIfBlank =>
    match arg args 0 with
    | some (.string s) =>
      if s.toList.all Text.isBlank then some ((arg args 1).getD .null) else arg args 0
    | _ => arg args 0

end Helper

end FormLogic
