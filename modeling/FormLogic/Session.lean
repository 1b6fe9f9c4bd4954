import FormLogic.Expression.Mode

/-!
# Sessions

A session is an evaluator that answers questions and takes patches, one step after another.
Questions never change the context; a patch replaces the entries that it carries.
-/

namespace FormLogic

/-- The ways to evaluate an expression. -/
inductive Query where
  | result
  | value
  | boolean
  | visibility
  | validation
  | calculation
  | arithmetic
  | grid
deriving DecidableEq, Repr

/-- **One step of a session.** -/
inductive Step where
  | query (q : Query) (expression : String)
  /-- The value of a dotted path. -/
  | resolve (path : String)
  /-- An entry of the context. -/
  | root (key : String)
  | context
  | options
  | update (p : Patch)
  | updateExtended (p : ExtendedPatch)

/-- **The answer to a step.** -/
inductive Answer where
  | evaluation (e : Evaluation)
  | resolved (r : Resolved)
  | boolean (b : Bool)
  | validation (v : Validation)
  | number (x : Binary64)
  | number? (x : Option Binary64)
  | context (c : Context)
  | options (o : Options)

namespace Evaluator

/-- The default options and a context made of a patch of nothing. -/
def ofPatch (p : Patch) : Evaluator := { context := Context.empty.apply p }

/-- The default options and a context made of an extended patch of nothing. -/
def ofExtendedPatch (p : ExtendedPatch) : Evaluator :=
  { context := Context.empty.applyExtended p }

def update (ev : Evaluator) (p : Patch) : Evaluator := { ev with context := ev.context.apply p }

def updateExtended (ev : Evaluator) (p : ExtendedPatch) : Evaluator :=
  { ev with context := ev.context.applyExtended p }

/-- The answer to a question about an expression. -/
def ask (ev : Evaluator) (q : Query) (expression : String) : Answer :=
  match q with
  | .result => .evaluation (ev.tryEvaluate expression)
  | .value => .resolved (some (ev.evaluate expression))
  | .boolean => .boolean (ev.evaluateBoolean expression)
  | .visibility => .boolean (ev.visibility expression)
  | .validation => .validation (ev.validation expression)
  | .calculation => .resolved (ev.calculation expression)
  | .arithmetic => .number (ev.arithmetic expression)
  | .grid => .number? (ev.gridFunction? expression)

/-- **Takes one step**: the evaluator afterwards and the answer. -/
def step (ev : Evaluator) : Step → Evaluator × Answer
  | .query q expression => (ev, ev.ask q expression)
  | .resolve path => (ev, .resolved (ev.context.resolve? path.toList))
  | .root key => (ev, .resolved (ev.context.root? key))
  | .context => (ev, .context ev.context)
  | .options => (ev, .options ev.options)
  | .update p =>
    let ev := ev.update p
    (ev, .context ev.context)
  | .updateExtended p =>
    let ev := ev.updateExtended p
    (ev, .context ev.context)

/-- Takes steps in order: the evaluator afterwards and all answers. -/
def run (ev : Evaluator) : List Step → Evaluator × List Answer
  | [] => (ev, [])
  | s :: rest =>
    let (ev, answer) := ev.step s
    let (ev, answers) := ev.run rest
    (ev, answer :: answers)

end Evaluator

end FormLogic
