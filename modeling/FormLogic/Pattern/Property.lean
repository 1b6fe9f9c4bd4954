import FormLogic.Pattern.Property.Category
import FormLogic.Pattern.Property.Script
import FormLogic.Pattern.Property.Trait

/-!
# Properties by name

A pattern names a set of characters by a trait, a general category or a script.  Names are
compared without regard to case, blanks, hyphens and underscores, and a leading `is` is
optional.
-/

namespace FormLogic.Pattern.Property

open Text (CharSet)

/-- **The form in which names are compared.**  The name `isc` is the one name that keeps its
`is`, because `c` alone is a category. -/
def canonical (name : List Char) : List Char :=
  let keep (cs : List Char) : List Char :=
    (cs.filter fun c => c.toNat < 128 && c != ' ' && c != '_' && c != '-').map Char.toLower
  match name with
  | i :: s :: rest =>
    if i.toLower = 'i' ∧ s.toLower = 's' then
      if keep rest = ['c'] then ['i', 's', 'c'] else keep rest
    else keep name
  | _ => keep name

/-- The entry under a name in a table of names and sets. -/
def lookup? {α : Type} (table : List (List String × α)) (name : List Char) : Option α :=
  (table.find? fun (names, _) => names.any (·.toList == name)).map (·.2)

/-- A general category. -/
def category? (name : List Char) : Option CharClass :=
  if name = "cn".toList ∨ name = "unassigned".toList then
    some (.complement (.ranges Category.assigned))
  else if name = "c".toList ∨ name = "other".toList then
    some (.complement (.ranges Category.visible))
  else (lookup? Category.named name).map .ranges

/-- A script. -/
def script? (name : List Char) : Option CharClass := (lookup? Script.named name).map .ranges

/-- The names that are a category although they abbreviate another property too. -/
def ambiguous : List (List Char) := ["cf".toList, "sc".toList, "lc".toList]

/-- The set that a single name stands for: a trait, else a category, else a script. -/
def named? (name : List Char) : Option CharClass :=
  let name := canonical name
  let trait := if name ∈ ambiguous then none else lookup? Trait.named name
  trait <|> category? name <|> script? name

/-- The set of the characters for which a property has a value. -/
def valued? (property value : List Char) : Option CharClass :=
  let property := canonical property
  if property = "gc".toList ∨ property = "generalcategory".toList then category? (canonical value)
  else if property = "sc".toList ∨ property = "script".toList then script? (canonical value)
  else none

/-- Cuts a text at the first occurrence of a mark. -/
def cutAt? (mark : List Char) : List Char → Option (List Char × List Char)
  | [] => none
  | c :: cs =>
    if mark.isPrefixOf (c :: cs) then some ([], (c :: cs).drop mark.length)
    else (cutAt? mark cs).map fun (before, after) => (c :: before, after)

/-- What the text between the braces of a property describes: a name, or a property and its
value with `=`, `:` or `!=` between them.  The Boolean says that the complement is meant. -/
def described? (text : List Char) : Option (CharClass × Bool) :=
  match cutAt? ['!', '='] text with
  | some (property, value) => (valued? property value).map (·, true)
  | none =>
    match cutAt? [':'] text <|> cutAt? ['='] text with
    | some (property, value) => (valued? property value).map (·, false)
    | none => (named? text).map (·, false)

end FormLogic.Pattern.Property
