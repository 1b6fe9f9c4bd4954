import FormLogic.Context.Decode
import FormLogic.Yaml.Content

/-!
# Reading a context from YAML text

Whether a plain scalar is a text or a number depends on what is expected where it stands.  In
the grids and the task of a context, which are read by their form, any scalar is a text where a
text is expected, and a scalar that is not written is an empty collection where a collection is
expected.  Everything else of a context is read for what it is.
-/

namespace FormLogic.Yaml

/-! ## 1. Forms -/

/-- **What is expected of a node**: a reader of the nodes of a tree, given how deep collections
may nest. -/
abbrev Form := Tree → Nat → Node → Following Document

/-- Whether a node is a plain scalar without text. -/
def Node.isAbsent : Node → Bool
  | .scalar _ cs plain => plain && cs.isEmpty
  | _ => false

/-- Whether nothing is meant by a node where something optional is expected.  A null tag asks
for one of the words for null. -/
def Node.meansNothing? : Node → Option Bool
  | .scalar none cs true => some (cs.isEmpty || Plain.isNull cs)
  | .scalar (some tag) cs true =>
    if isCore tag "null" then if Plain.isNull cs then some true else none else some false
  | _ => some false

/-- The text of a scalar, whatever its tag. -/
def Tree.text (t : Tree) (n : Node) : Following String := do
  match ← t.resolve n with
  | .scalar _ cs _ => return String.ofList cs
  | _ => failure

namespace Form

/-- Something that is passed over: not even its aliases are followed. -/
def ignored : Form := fun _ _ _ => return .null

/-- A value, read for what it is. -/
def value : Form := fun t depth n => do (← t.content depth n).document?

def text : Form := fun t _ n => do return .string (← t.text n)

/-- A list of one form. -/
def list (item : Form) : Form := fun t depth n => do
  match ← t.resolve n, depth with
  | .list _ items, depth + 1 => return .list (← items.mapM (item t depth))
  | n, _ => if n.isAbsent then return .list [] else failure

/-- A map from texts whose entries have one form. -/
def dict (entry : Form) : Form := fun t depth n => do
  match ← t.resolve n, depth with
  | .map _ entries, depth + 1 =>
    return .entries (← entries.mapM fun (key, n) => do return (← t.text key, ← entry t depth n))
  | n, _ => if n.isAbsent then return .entries [] else failure

/-- A record, as a map from names or as the list of its fields in order. -/
def record (fields : List (String × Form)) : Form := fun t depth n => do
  match ← t.resolve n, depth with
  | .map _ entries, depth + 1 =>
    return .entries (← entries.mapM fun (key, n) => do
      let name ← t.text key
      return (name, ← (fields.lookup name).getD ignored t depth n))
  | .list _ items, depth + 1 =>
    let forms := fields.map (·.2) ++ List.replicate (items.length - fields.length) ignored
    return .list (← (forms.zip items).mapM fun (form, n) => form t depth n)
  | n, _ => if n.isAbsent then return .entries [] else failure

/-- Something that null may stand for. -/
def optional (form : Form) : Form := fun t depth n => do
  let n ← t.resolve n
  if ← n.meansNothing? then return .null else form t depth n

/-! ## 2. The parts of a context -/

/-- A row of a grid. -/
def row : Form := dict value

def grid : Form :=
  record [("rows", list row), ("selectedRows", optional (list row)),
    ("selectedRow", optional row)]

def task : Form := record [("id", text), ("name", text), ("taskDefinitionKey", text)]

/-- The user, a record whose unknown fields have to be something that can be read too. -/
def user : Form := fun t depth n => do
  (← t.content depth n).recordDocument? ["id", "username", "roles", "groups"]

/-- What has no meaning in a context but has to be something that can be read. -/
def unknown : Form := fun t depth n => do
  let _ ← t.content depth n
  return .null

/-- **The entries of a context.** -/
def contextEntry (name : String) : Form :=
  let known : List (String × Form) :=
    [("form", value), ("process", value), ("user", user),
      ("grids", dict grid), ("task", optional task), ("value", optional value)]
  (known.lookup name).getD unknown

/-- A context, which is a map from names. -/
def context : Form := fun t depth n => do
  match ← t.resolve n, depth with
  | .map _ entries, depth + 1 =>
    return .entries (← entries.mapM fun (key, n) => do
      let name ← t.text key
      return (name, ← contextEntry name t depth n))
  | n, _ => if n.isAbsent then return .entries [] else failure

end Form

/-! ## 3. Texts -/

/-- How deep collections may nest. -/
def maxDepth : Nat := 128

/-- **The document of a context in YAML.**  A text without a document is an empty context. -/
def read? (text : List Char) : Option Document := do
  match ← Tree.read? text with
  | none => return .entries []
  | some t => return (← (Form.context t maxDepth t.root).run t.aliasBudget).1

end FormLogic.Yaml
