import FormLogic.Text.Blank

/-!
# Decorations of an expression

A form may wrap an expression as a template, `${ ... }`, or write it as a statement,
`return ...;`.  Both are taken off before evaluation.
-/

namespace FormLogic.Text

/-- The trimmed text without a surrounding `${` and `}`. -/
def stripTemplate (cs : List Char) : List Char :=
  let cs := trim cs
  match (dropPrefix? ['$', '\x7b'] cs).bind (dropLast? '\x7d') with
  | some inside => trim inside
  | none => cs

/-- The trimmed text without a leading `return ` and without a final semicolon. -/
def stripStatement (cs : List Char) : List Char :=
  let cs := trim cs
  let cs := match dropPrefix? ['r', 'e', 't', 'u', 'r', 'n', ' '] cs with
    | some rest => trim rest
    | none => cs
  match dropLast? ';' cs with
  | some rest => trim rest
  | none => cs

end FormLogic.Text
