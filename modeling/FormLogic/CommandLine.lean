import FormLogic.Context.Snapshot
import FormLogic.Json.Writer
import FormLogic.Session

/-!
# The command line

`eval`, `boolean`, `visibility`, `validation`, `calculation` and `arithmetic` take one
expression and print the result as JSON.  Two options may stand before and after the command:
`-c` or `--context` names a snapshot file, and `--max-depth` sets the limit on nesting.  After
`--` every argument is the expression, whatever it begins with.
-/

namespace FormLogic.CommandLine

/-- What to do with the expression. -/
inductive Command where
  | eval
  | boolean
  | visibility
  | validation
  | calculation
  | arithmetic
deriving DecidableEq, Repr

def Command.ofName? : String → Option Command
  | "eval" => some .eval
  | "boolean" => some .boolean
  | "visibility" => some .visibility
  | "validation" => some .validation
  | "calculation" => some .calculation
  | "arithmetic" => some .arithmetic
  | _ => none

/-! ## 1. Arguments -/

/-- The options given on one side of the command. -/
structure Settings where
  context? : Option String := none
  maxDepth? : Option Nat := none
deriving DecidableEq, Repr

/-- An option that takes a value. -/
inductive Setting where
  | context
  | maxDepth
deriving DecidableEq, Repr

namespace Setting

/-- The option of a long name. -/
def ofLongName? (name : List Char) : Option Setting :=
  if name = ['c', 'o', 'n', 't', 'e', 'x', 't'] then some .context
  else if name = ['m', 'a', 'x', '-', 'd', 'e', 'p', 't', 'h'] then some .maxDepth
  else none

/-- A natural number below `2^64`, with an optional plus sign. -/
def natural? (cs : List Char) : Option Nat :=
  let digits := match cs with
    | '+' :: digits => digits
    | digits => digits
  (Text.decimalValue? digits).filter (· < UInt64.size)

/-- Sets an option; it cannot be set twice, and its value has to fit it. -/
def set? (o : Setting) (value : List Char) (s : Settings) : Option Settings :=
  match o with
  | .context =>
    if s.context?.isSome || value.isEmpty then none
    else some { s with context? := some (String.ofList value) }
  | .maxDepth =>
    if s.maxDepth?.isSome then none
    else (natural? value).map fun n => { s with maxDepth? := some n }

end Setting

/-- **What an argument is.** -/
inductive Argument where
  /-- Two hyphens: only plain arguments follow. -/
  | separator
  /-- An option, with its value if that is attached to it. -/
  | setting (o : Setting) (value? : Option (List Char))
  /-- An option that does not exist. -/
  | unknown
  | plain (text : List Char)
deriving DecidableEq, Repr

namespace Argument

/-- The name of a long option and the value after an equals sign. -/
def ofLong (cs : List Char) : Argument :=
  match Setting.ofLongName? (cs.takeWhile (· != '=')) with
  | some o =>
    match cs.dropWhile (· != '=') with
    | _ :: value => .setting o (some value)
    | [] => .setting o none
  | none => .unknown

/-- Classifies an argument.  A hyphen alone is plain. -/
def ofText (s : String) : Argument :=
  match s.toList with
  | ['-', '-'] => .separator
  | '-' :: '-' :: name => ofLong name
  | ['-'] => .plain ['-']
  | ['-', 'c'] => .setting .context none
  | '-' :: 'c' :: '=' :: value => .setting .context (some value)
  | '-' :: 'c' :: value => .setting .context (some value)
  | '-' :: _ => .unknown
  | cs => .plain cs

end Argument

/-- **A command line that was understood.** -/
structure Invocation where
  command : Command
  expression : String
  settings : Settings
deriving DecidableEq, Repr

namespace Invocation

/-- Reads the arguments after the command: options and the expression. -/
def readTail? (command : Command) (outer inner : Settings) (expression? : Option (List Char)) :
    List Argument → Option Invocation
  | [] => expression?.map fun e => {
      command
      expression := String.ofList e
      settings := {
        context? := inner.context? <|> outer.context?
        maxDepth? := inner.maxDepth? <|> outer.maxDepth? } }
  | .setting o (some value) :: rest => do
    readTail? command outer (← o.set? value inner) expression? rest
  | .setting o none :: .plain value :: rest => do
    readTail? command outer (← o.set? value inner) expression? rest
  | .plain e :: rest =>
    if expression?.isSome then none else readTail? command outer inner (some e) rest
  | .separator :: rest => readTail? command outer inner expression? rest
  | _ => none

/-- Reads the arguments before the command. -/
def readHead? (outer : Settings) : List Argument → Option Invocation
  | .setting o (some value) :: rest => do readHead? (← o.set? value outer) rest
  | .setting o none :: .plain value :: rest => do readHead? (← o.set? value outer) rest
  | .plain name :: rest => do
    readTail? (← Command.ofName? (String.ofList name)) outer {} none rest
  | _ => none

/-- Classifies arguments; all that follow a separator are plain. -/
def classify : List String → List Argument
  | [] => []
  | s :: rest =>
    match Argument.ofText s with
    | .separator => .separator :: rest.map fun s => Argument.plain s.toList
    | argument => argument :: classify rest

/-- **Reads a command line**; no value for one that is not understood. -/
def ofArguments? (args : List String) : Option Invocation :=
  readHead? {} (classify args)

end Invocation

/-! ## 2. Running -/

/-- What the program leaves behind: its exit code and its output. -/
structure Outcome where
  exit : Nat
  output : String
deriving DecidableEq, Repr

/-- The document that a command prints. -/
def result (command : Command) (ev : Evaluator) (expression : String) : Document :=
  match command with
  | .eval => (ev.evaluate expression).toOutput
  | .boolean => .bool (ev.evaluateBoolean expression)
  | .visibility => .bool (ev.visibility expression)
  | .validation =>
    match ev.validation expression with
    | .valid => .bool true
    | .invalid => .bool false
    | .message text => .string text
  | .calculation => (ev.calculation expression).orNull.toOutput
  | .arithmetic => (ev.arithmetic expression).toOutput

/-- The outcome of an invocation with the context that was loaded for it. -/
def Invocation.run (i : Invocation) (context : Except SnapshotError Context) : Outcome :=
  match context with
  | .error _ => ⟨1, ""⟩
  | .ok context =>
    let ev : Evaluator := { context, options := { maxDepth := i.settings.maxDepth?.getD 64 } }
    ⟨0, String.ofList (Json.write (result i.command ev i.expression)) ++ "\n"⟩

/-- The outcome of a command line that is not understood. -/
def usage : Outcome := ⟨2, ""⟩

end FormLogic.CommandLine
