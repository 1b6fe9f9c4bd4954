import FormLogic.Document
import FormLogic.Number.Numeral
import FormLogic.Yaml.Node

/-!
# What nodes stand for

A plain scalar without a tag is null, a Boolean, a number or a text, by the way it is written;
a quoted scalar or a block is a text.  A core tag asks for one of these, and a tag of one's own
stands for nothing that can be read.

Aliases are replaced by the nodes they name.  Collections nest at most 128 deep, and a document
may follow aliases at most a hundred times for each of its marks.
-/

namespace FormLogic.Yaml

open Text (isAsciiDigit decimalValue? hexDigit? dropPrefix?)

/-! ## 1. Plain scalars -/

/-- **The content of a node.**  The keys of a map may be anything. -/
inductive Content where
  | null
  | bool (b : Bool)
  | integer (i : Int)
  | double (x : Binary64)
  | text (s : String)
  | list (items : List Content)
  | map (entries : List (Content × Content))
deriving Inhabited, Repr

namespace Plain

/-- The words for null, apart from no word at all. -/
def isNull (cs : List Char) : Bool :=
  ["null", "Null", "NULL", "~"].any (·.toList == cs)

def bool? (cs : List Char) : Option Bool :=
  if ["true", "True", "TRUE"].any (·.toList == cs) then some true
  else if ["false", "False", "FALSE"].any (·.toList == cs) then some false
  else none

/-- The number written in digits of a base, at least one of them. -/
def digits? (base : Nat) : List Char → Option Nat
  | [] => none
  | cs => cs.foldl (fun n c => do
      let n ← n
      let d ← hexDigit? c
      if d < base then some (base * n + d) else none) (some 0)

/-- Whether a text is all digits, after a sign, and begins with a zero that counts nothing; such
a text is not a number. -/
def hasIdleZero (cs : List Char) : Bool :=
  let body := match cs with
    | '-' :: body | '+' :: body => body
    | body => body
  match body with
  | '0' :: d :: others => (d :: others).all isAsciiDigit
  | _ => false

/-- A number in one of the bases that are marked by a letter, or a decimal number. -/
def unsigned? (cs : List Char) : Option Nat :=
  match cs with
  | '0' :: 'x' :: digits => digits? 16 digits
  | '0' :: 'o' :: digits => digits? 8 digits
  | '0' :: 'b' :: digits => digits? 2 digits
  | digits => if hasIdleZero digits then none else decimalValue? digits

/-- **A whole number** with an optional sign. -/
def integer? (cs : List Char) : Option Int :=
  match cs with
  | '+' :: cs => (unsigned? cs).map Int.ofNat
  | '-' :: cs => (unsigned? cs).map fun n => -(n : Int)
  | cs => (unsigned? cs).map Int.ofNat

/-- How far a whole number is from what can be read. -/
inductive IntegerSize where
  /-- Within 64 bits, with or without a sign. -/
  | read
  /-- Within 128 bits: known to be an integer, and refused. -/
  | refused
  /-- Beyond, and taken for a floating-point number. -/
  | beyond
deriving DecidableEq, Repr

def IntegerSize.of (i : Int) : IntegerSize :=
  let fits (below above : Nat) : Bool :=
    -(1 <<< below : Nat) ≤ i && i < (1 <<< above : Nat)
  if fits 63 64 then read else if fits 127 128 then refused else beyond

/-- **A floating-point number**: a decimal literal of finite value, or a name that begins with a
point. -/
def double? (cs : List Char) : Option Binary64 :=
  let named (words : List String) (text : List Char) : Bool := words.any (·.toList == text)
  let body := match cs with
    | '+' :: body => body
    | body => body
  if cs.head? = some '+' ∧ (body.head? = some '+' ∨ body.head? = some '-') then none
  else if named [".inf", ".Inf", ".INF"] body then some (.infinite false)
  else if named ["-.inf", "-.Inf", "-.INF"] cs then some (.infinite true)
  else if named [".nan", ".NaN", ".NAN"] cs then some .nan
  else
    let x := Number.wholeDecimal body
    if x.isFinite then some x else none

/-- What an untagged plain scalar stands for; integers that are refused stand for nothing. -/
def content? (cs : List Char) : Option Content :=
  if cs.isEmpty || isNull cs then some .null
  else match bool? cs with
  | some b => some (.bool b)
  | none =>
    let asDouble : Content :=
      match if hasIdleZero cs then none else double? cs with
      | some x => .double x
      | none => .text (String.ofList cs)
    match integer? cs with
    | some i =>
      match IntegerSize.of i with
      | .read => some (.integer i)
      | .refused => none
      | .beyond => some asDouble
    | none => some asDouble

end Plain

/-! ## 2. Tags -/

/-- Whether a tag is the core tag of a name. -/
def isCore (tag : List Char) (name : String) : Bool := tag == coreTag ++ name.toList

/-- Whether a tag is one of the document's own, which begins with `!`. -/
def isOwnTag (tag? : Option (List Char)) : Bool := tag?.any (·.head? == some '!')

/-- What a scalar stands for. -/
def scalarContent? (tag? : Option (List Char)) (cs : List Char) (plain : Bool) : Option Content :=
  let text : Content := .text (String.ofList cs)
  match tag? with
  | none => if plain then Plain.content? cs else some text
  | some tag =>
    if isOwnTag tag? then none
    else if isCore tag "bool" then (Plain.bool? cs).map .bool
    else if isCore tag "int" then do
      let i ← Plain.integer? cs
      if Plain.IntegerSize.of i = .read then some (.integer i) else none
    else if isCore tag "float" then (Plain.double? cs).map .double
    else if isCore tag "null" then if Plain.isNull cs then some .null else none
    else some text

/-! ## 3. Nodes -/

/-- A reader of nodes, which counts how many aliases may still be followed. -/
abbrev Following := StateT Nat Option

namespace Tree

/-- The node that an alias names; it is no alias itself.  Any other node is its own. -/
def resolve (t : Tree) : Node → Following Node
  | .alias number => do
    let left ← get
    if left = 0 then failure
    else
      set (left - 1)
      t.anchored.lookup number
  | n => pure n

/-- **What a node stands for** when collections may nest `depth` deep. -/
def content (t : Tree) : Nat → Node → Following Content
  | depth, n => do
    match ← t.resolve n, depth with
    | .scalar tag cs plain, _ => scalarContent? tag cs plain
    | .list tag items, depth + 1 =>
      if isOwnTag tag then failure
      else return .list (← items.mapM (content t depth))
    | .map tag entries, depth + 1 =>
      if isOwnTag tag then failure
      else return .map (← entries.mapM fun (key, value) => do
        return (← content t depth key, ← content t depth value))
    | _, _ => failure

/-- How many aliases may be followed. -/
def aliasBudget (t : Tree) : Nat := 100 * t.root.weight

end Tree

/-! ## 4. Documents -/

namespace Content

mutual

/-- The document of a content whose maps have texts for keys. -/
def document? : Content → Option Document
  | .null => some .null
  | .bool b => some (.bool b)
  | .integer i => some (.integer i)
  | .double x => some (.double x)
  | .text s => some (.string s)
  | .list items => do return .list (← documents? items)
  | .map entries => do return .entries (← entryDocuments? entries)

def documents? : List Content → Option (List Document)
  | [] => some []
  | c :: cs => do return (← document? c) :: (← documents? cs)

def entryDocuments? : List (Content × Content) → Option (List (String × Document))
  | [] => some []
  | (.text key, c) :: cs => do return (key, ← document? c) :: (← entryDocuments? cs)
  | _ => none

end

/-- The document of a content that is read as a record of the named fields.  A key may also be
the number of a field, counted from zero.  What stands under other keys does not matter. -/
def recordDocument? (names : List String) : Content → Option Document
  | .map entries => do
    let es ← entries.mapM fun (key, value) => do
      let name ← match key with
        | .text s => some s
        | .integer i => if 0 ≤ i then some (names.getD i.toNat s!"{i}") else none
        | _ => none
      if names.contains name then return (name, ← value.document?) else return (name, .null)
    return .entries es
  | c => c.document?

end Content

end FormLogic.Yaml
