import FormLogic.Context
import FormLogic.Text.Digit

/-!
# Grid expressions

`grids.NAME.sum('COLUMN')` and its like ask for an aggregate of a column, `grids.NAME.count()`
and `grids.NAME.rows.length` for the number of rows.
-/

namespace FormLogic

/-- A question to a grid. -/
inductive GridCall where
  | aggregate (grid : List Char) (aggregate : Aggregate) (column : List Char)
  | count (grid : List Char)
deriving DecidableEq, Repr

namespace GridCall

/-- The identifier at the front of a text, and what follows it. -/
def identifier? (cs : List Char) : Option (List Char × List Char) :=
  let name := cs.takeWhile Text.isIdentifierPart
  if Text.isIdentifier name then some (name, cs.dropWhile Text.isIdentifierPart) else none

/-- A column name between quotes of either kind, in parentheses. -/
def column? (cs : List Char) : Option (List Char) :=
  match cs with
  | '(' :: c :: rest =>
    if c == '"' || c == '\'' then
      match identifier? rest with
      | some (column, [d, ')']) => if d == '"' || d == '\'' then some column else none
      | _ => none
    else none
  | _ => none

/-- **Reads a grid expression**; blank characters around it do not count. -/
def ofText? (cs : List Char) : Option GridCall := do
  let rest ← Text.dropPrefix? ['g', 'r', 'i', 'd', 's', '.'] (Text.trim cs)
  let (grid, rest) ← identifier? rest
  let rest ← Text.dropPrefix? ['.'] rest
  if rest = ['c', 'o', 'u', 'n', 't', '(', ')'] then return count grid
  if rest = ['r', 'o', 'w', 's', '.', 'l', 'e', 'n', 'g', 't', 'h'] then return count grid
  let (name, rest) ← identifier? rest
  let a ← Aggregate.ofName? (String.ofList name)
  let column ← column? rest
  return aggregate grid a column

/-- The answer to a grid expression; zero when there is no such grid. -/
def answer (call : GridCall) (grids : Dict Grid) : Binary64 :=
  match call with
  | aggregate grid a column =>
    match Dict.get? grids (String.ofList grid) with
    | some g => a.apply g (String.ofList column)
    | none => .zero
  | count grid =>
    match Dict.get? grids (String.ofList grid) with
    | some g => .ofNat g.rows.length
    | none => .zero

/-- The value of a text as a grid expression, when it is one. -/
def evaluate? (cs : List Char) (grids : Dict Grid) : Option Binary64 :=
  (ofText? cs).map (·.answer grids)

end GridCall

end FormLogic
