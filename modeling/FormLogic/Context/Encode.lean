import FormLogic.Context
import FormLogic.Document

/-!
# Writing contexts as documents

The document of a context has all its entries; task and value, and the selections of a grid,
only where they are set.
-/

namespace FormLogic

/-- The document of a text. -/
def Document.ofTexts (texts : List String) : Document := .list (texts.map .string)

/-- The document of a map of values. -/
def Document.ofValues (d : Dict Value) : Document := (Value.map d).toDocument

def User.toDocument (u : User) : Document :=
  .entries [
    ("id", .string u.id),
    ("username", .string u.username),
    ("roles", .ofTexts u.roles),
    ("groups", .ofTexts u.groups)]

def Task.toDocument (t : Task) : Document :=
  .entries [
    ("id", .string t.id),
    ("name", .string t.name),
    ("taskDefinitionKey", .string t.definitionKey)]

def Grid.toDocument (g : Grid) : Document :=
  .entries <|
    [("rows", .list (g.rows.map .ofValues))]
      ++ (g.selectedRows?.map fun rows => ("selectedRows", .list (rows.map .ofValues))).toList
      ++ (g.selectedRow?.map fun row => ("selectedRow", .ofValues row)).toList

/-- **The document of a context.** -/
def Context.toDocument (c : Context) : Document :=
  .entries <|
    [("form", .ofValues c.form),
     ("process", .ofValues c.process),
     ("user", c.user.toDocument),
     ("grids", .entries (c.grids.map fun (name, grid) => (name, grid.toDocument)))]
      ++ (c.task?.map fun task => ("task", task.toDocument)).toList
      ++ (c.value?.map fun value => ("value", value.toDocument)).toList

end FormLogic
