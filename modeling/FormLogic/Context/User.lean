import FormLogic.Value

/-!
# The user and the task

Who fills in the form, and the workflow task it belongs to.  Expressions see both as maps.
-/

namespace FormLogic

/-- The authenticated user. -/
structure User where
  id : String := ""
  username : String := ""
  roles : List String := []
  groups : List String := []
deriving DecidableEq, Repr, Inhabited

namespace User

def hasRole (u : User) (role : String) : Bool := u.roles.any (· == role)

def hasGroup (u : User) (group : String) : Bool := u.groups.any (· == group)

/-- The user as expressions see it. -/
def toValue (u : User) : Value :=
  .map <| Dict.ofList [
    ("id", .string u.id),
    ("username", .string u.username),
    ("roles", .list (u.roles.map .string)),
    ("groups", .list (u.groups.map .string))]

end User

/-- The workflow task a form belongs to. -/
structure Task where
  id : String := ""
  name : String := ""
  definitionKey : String := ""
deriving DecidableEq, Repr, Inhabited

/-- The task as expressions see it. -/
def Task.toValue (t : Task) : Value :=
  .map <| Dict.ofList [
    ("id", .string t.id),
    ("name", .string t.name),
    ("taskDefinitionKey", .string t.definitionKey)]

end FormLogic
