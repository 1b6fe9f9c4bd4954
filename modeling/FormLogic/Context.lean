import FormLogic.Context.Grid
import FormLogic.Context.User

/-!
# Evaluation contexts

A context is the data that expressions see: form fields, process variables, the user, and
optionally grids, a task and the value under validation.  The only way to change it is a patch
that replaces whole entries, so the last patch that carries an entry decides it.
-/

namespace FormLogic

/-- **The data that expressions see.** -/
structure Context where
  form : Dict Value := []
  process : Dict Value := []
  user : User := {}
  grids : Dict Grid := []
  task? : Option Task := none
  value? : Option Value := none
deriving Repr, Inhabited

/-- A change of form, process or user; an absent entry stays as it is. -/
structure Patch where
  form? : Option (Dict Value) := none
  process? : Option (Dict Value) := none
  user? : Option User := none
deriving Repr, Inhabited

/-- A change of any entry of a context. -/
structure ExtendedPatch extends Patch where
  grids? : Option (Dict Grid) := none
  task? : Option Task := none
  value? : Option Value := none
deriving Repr, Inhabited

/-- The patch as one that leaves grids, task and value alone. -/
def Patch.extend (p : Patch) : ExtendedPatch := { toPatch := p }

namespace Context

/-- No data and an anonymous user. -/
def empty : Context := {}

/-- The context with the entries of a patch in place of its own. -/
def apply (c : Context) (p : Patch) : Context :=
  { c with
    form := p.form?.getD c.form
    process := p.process?.getD c.process
    user := p.user?.getD c.user }

/-- The context with the entries of an extended patch in place of its own. -/
def applyExtended (c : Context) (p : ExtendedPatch) : Context :=
  { c.apply p.toPatch with
    grids := p.grids?.getD c.grids
    task? := p.task? <|> c.task?
    value? := p.value? <|> c.value? }

end Context

end FormLogic
