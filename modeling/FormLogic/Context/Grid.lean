import FormLogic.Value.Coercion

/-!
# Grids and their aggregates

A grid is a list of rows, each a map from column names to cells.  Aggregates run over the
cells of a column that have a strict numeric reading; an aggregate of no numbers is zero.
-/

namespace FormLogic

/-- One row of a grid: the cells by column name. -/
abbrev Row := Dict Value

/-- **A grid**: its rows, and the rows a user has selected where the form reports them. -/
structure Grid where
  rows : List Row := []
  selectedRows? : Option (List Row) := none
  selectedRow? : Option Row := none
deriving Repr, Inhabited

namespace Grid

/-- The numbers in a column, from top to bottom. -/
def numbers (g : Grid) (column : String) : List Binary64 :=
  (g.rows.map fun row => Resolved.strictNumber (Dict.get? row column)).filter (!·.isNaN)

def sum (g : Grid) (column : String) : Binary64 :=
  (g.numbers column).foldl Binary64.add .zero

/-- The grid as expressions see it; a selection appears only where there is one. -/
def toValue (g : Grid) : Value :=
  let rows (rows : List Row) : Value := .list (rows.map .map)
  .map <| Dict.ofList <|
    [("rows", rows g.rows)]
      ++ (g.selectedRows?.map fun selected => ("selectedRows", rows selected)).toList
      ++ (g.selectedRow?.map fun selected => ("selectedRow", .map selected)).toList

end Grid

/-- What can be computed from a column. -/
inductive Aggregate where
  | sum
  | avg
  | min
  | max
deriving DecidableEq, Repr

namespace Aggregate

/-- The aggregate of a name. -/
def ofName? : String → Option Aggregate
  | "sum" => some .sum
  | "avg" => some .avg
  | "min" => some .min
  | "max" => some .max
  | _ => none

/-- The least or greatest of some numbers, as `pick` chooses of two; zero of none. -/
def extremum (pick : Binary64 → Binary64 → Binary64) : List Binary64 → Binary64
  | [] => .zero
  | x :: xs => xs.foldl pick x

/-- The sum of some numbers divided by their count; zero of none.  The sum starts from negative
zero, so that it is negative zero when all the numbers are. -/
def mean (xs : List Binary64) : Binary64 :=
  if xs.isEmpty then .zero
  else (xs.foldl Binary64.add Binary64.zero.neg).div (.ofNat xs.length)

/-- **The aggregate of a column.** -/
def apply (a : Aggregate) (g : Grid) (column : String) : Binary64 :=
  let xs := g.numbers column
  match a with
  | .sum => g.sum column
  | .avg => mean xs
  | .min => extremum .min xs
  | .max => extremum .max xs

end Aggregate

end FormLogic
