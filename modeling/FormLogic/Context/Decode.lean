import FormLogic.Context
import FormLogic.Document
import FormLogic.Expression.Evaluator

/-!
# Reading contexts from documents

A record of a document is read by the names of its fields.  Fields of other names are ignored, a
missing field takes its default, and a field that occurs twice is an error.  A record can also
be written as the list of its fields in order, the last ones left out; only contexts and
patches that carry grids, task and value cannot.

Form, process and user of such a context, and its unknown fields, have to be readable
throughout; inside grids and the task, what is ignored need not be.
-/

namespace FormLogic

/-! ## 1. Records -/

/-- The fields of a record that its type knows. -/
abbrev Record := List (String × Document)

namespace Record

/-- The fields with known names of a map; no value when one occurs twice. -/
def ofEntries? (names : List String) (es : List (String × Document)) : Option Record :=
  let known := es.filter fun (key, _) => names.contains key
  if (known.map Prod.fst).Nodup then some known else none

/-- The fields of a record, given by name or in order. -/
def ofDocument? (names : List String) : Document → Option Record
  | .entries es => ofEntries? names es
  | .list items => if items.length ≤ names.length then some (names.zip items) else none
  | _ => none

/-- The field of a name. -/
def field? (r : Record) (name : String) : Option Document := r.lookup name

/-- A field read by `read?`, or its default when it is missing. -/
def get {α : Type} (r : Record) (name : String) (read? : Document → Option α) (default : α) :
    Option α :=
  match r.field? name with
  | some d => read? d
  | none => some default

/-- A field that may be absent; `null` means absent too. -/
def getOptional {α : Type} (r : Record) (name : String) (read? : Document → Option α) :
    Option (Option α) :=
  match r.field? name with
  | some .null | none => some none
  | some d => (read? d).map some

end Record

namespace Document

/-- A text, which is never made of a number. -/
def text? : Document → Option String
  | .string s => some s
  | _ => none

/-- The items of a list, each read by `read?`. -/
def list? {α : Type} (read? : Document → Option α) : Document → Option (List α)
  | .list items => items.mapM read?
  | _ => none

/-- The entries of a map, each read by `read?`; the last entry of a key counts. -/
def dict? {α : Type} (read? : Document → Option α) : Document → Option (Dict α)
  | .entries es => do
    return Dict.ofList (← es.mapM fun (key, d) => do return (key, ← read? d))
  | _ => none

/-- A map of values. -/
def values? (d : Document) : Option (Dict Value) := d.dict? Value.ofDocument?

/-- Whether every part of the document has a value. -/
def isReadable (d : Document) : Bool := (Value.ofDocument? d).isSome

end Document

/-! ## 2. The parts of a context -/

def User.ofDocument? (d : Document) : Option User := do
  let r ← Record.ofDocument? ["id", "username", "roles", "groups"] d
  return {
    id := ← r.get "id" Document.text? ""
    username := ← r.get "username" Document.text? ""
    roles := ← r.get "roles" (Document.list? Document.text?) []
    groups := ← r.get "groups" (Document.list? Document.text?) [] }

def Task.ofDocument? (d : Document) : Option Task := do
  let r ← Record.ofDocument? ["id", "name", "taskDefinitionKey"] d
  return {
    id := ← r.get "id" Document.text? ""
    name := ← r.get "name" Document.text? ""
    definitionKey := ← r.get "taskDefinitionKey" Document.text? "" }

def Grid.ofDocument? (d : Document) : Option Grid := do
  let r ← Record.ofDocument? ["rows", "selectedRows", "selectedRow"] d
  return {
    rows := ← r.get "rows" (Document.list? Document.values?) []
    selectedRows? := ← r.getOptional "selectedRows" (Document.list? Document.values?)
    selectedRow? := ← r.getOptional "selectedRow" Document.values? }

def Options.ofDocument? (d : Document) : Option Options := do
  let r ← Record.ofDocument? ["max_depth"] d
  let depth? : Document → Option Nat := fun
    | .integer i => if 0 ≤ i ∧ i < UInt64.size then some i.toNat else none
    | _ => none
  return { maxDepth := ← r.get "max_depth" depth? 64 }

/-! ## 3. Contexts and patches -/

/-- The names of the entries of a plain context. -/
def Context.baseNames : List String := ["form", "process", "user"]

/-- The names of the entries that only an extended context has. -/
def Context.extendedNames : List String := ["grids", "task", "value"]

/-- The fields of an extended record: everything that is not an entry of its own has to be
readable, whether its name is known or not. -/
def Record.ofExtendedDocument? : Document → Option Record
  | .entries es =>
    if es.all fun (key, d) => Context.extendedNames.contains key || d.isReadable then
      Record.ofEntries? (Context.baseNames ++ Context.extendedNames) es
    else
      none
  | _ => none

/-- Reads a context of form, process and user. -/
def Context.ofBaseRecord? (r : Record) : Option Context := do
  return {
    form := ← r.get "form" Document.values? []
    process := ← r.get "process" Document.values? []
    user := ← r.get "user" User.ofDocument? {} }

/-- A context of form, process and user. -/
def Context.ofBaseDocument? (d : Document) : Option Context := do
  ofBaseRecord? (← Record.ofDocument? baseNames d)

/-- **A context of all entries.** -/
def Context.ofDocument? (d : Document) : Option Context := do
  let r ← Record.ofExtendedDocument? d
  return { ← ofBaseRecord? r with
    grids := ← r.get "grids" (Document.dict? Grid.ofDocument?) []
    task? := ← r.getOptional "task" Task.ofDocument?
    value? := ← r.getOptional "value" Value.ofDocument? }

/-- Reads a patch of form, process and user. -/
def Patch.ofRecord? (r : Record) : Option Patch := do
  return {
    form? := ← r.getOptional "form" Document.values?
    process? := ← r.getOptional "process" Document.values?
    user? := ← r.getOptional "user" User.ofDocument? }

/-- A patch of form, process and user. -/
def Patch.ofDocument? (d : Document) : Option Patch := do
  ofRecord? (← Record.ofDocument? Context.baseNames d)

/-- **A patch of any entries.** -/
def ExtendedPatch.ofDocument? (d : Document) : Option ExtendedPatch := do
  let r ← Record.ofExtendedDocument? d
  return {
    toPatch := ← Patch.ofRecord? r
    grids? := ← r.getOptional "grids" (Document.dict? Grid.ofDocument?)
    task? := ← r.getOptional "task" Task.ofDocument?
    value? := ← r.getOptional "value" Value.ofDocument? }

end FormLogic
