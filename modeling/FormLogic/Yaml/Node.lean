import FormLogic.Yaml.Token

/-!
# Nodes of a YAML text

The tokens of a text are read as at most one document, whose root is a node.  An alias stands
for the number of the anchor that it names.  The numbers are the count of different names so
far, and where a number was given twice the later node has it.
-/

namespace FormLogic.Yaml

/-! ## 1. Nodes -/

/-- **A node.** -/
inductive Node where
  | alias (number : Nat)
  | scalar (tag? : Option (List Char)) (text : List Char) (plain : Bool)
  | list (tag? : Option (List Char)) (items : List Node)
  | map (tag? : Option (List Char)) (entries : List (Node × Node))
deriving Inhabited, Repr

namespace Node

/-- A scalar that is not written at all. -/
def absent : Node := .scalar none [] true

mutual

/-- The number of marks of a node: one for a scalar or an alias, two for a collection. -/
def weight : Node → Nat
  | .alias _ | .scalar .. => 1
  | .list _ items => 2 + weightList items
  | .map _ entries => 2 + weightEntries entries

def weightList : List Node → Nat
  | [] => 0
  | n :: ns => n.weight + weightList ns

def weightEntries : List (Node × Node) → Nat
  | [] => 0
  | (k, v) :: es => k.weight + v.weight + weightEntries es

end

end Node

/-- **A document**: its root, and the nodes with an anchor by number. -/
structure Tree where
  root : Node
  anchored : List (Nat × Node)

/-! ## 2. The state of reading -/

/-- The meaning of the handle `!!` unless a directive says otherwise. -/
def coreTag : List Char := "tag:yaml.org,2002:".toList

/-- **What is left to read, and what was met**: the meanings of tag handles, the names of
anchors with their latest numbers, the count of different names, and the nodes with an anchor,
each with the number of tokens that were left when it began. -/
structure Progress where
  tokens : List Token
  handles : List (List Char × List Char) := []
  names : List (List Char × Nat) := []
  nodes : List (Nat × Nat × Node) := []

/-- A reader of tokens, which may refuse them. -/
abbrev Reading := StateT Progress Option

namespace Reading

/-- The next token. -/
def next? : Reading (Option Token) := do return (← get).tokens.head?

/-- Goes past the next token. -/
def drop : Reading Unit := modify fun p => { p with tokens := p.tokens.tail }

/-- Goes past the next token if it is a certain one. -/
def accept (t : Token) : Reading Bool := do
  if (← next?) = some t then
    drop
    return true
  else return false

def expect (t : Token) : Reading Unit := do
  if !(← accept t) then failure

/-- Gives an anchor its number. -/
def nameAnchor (name : List Char) : Reading Nat := do
  let p ← get
  let number := p.names.length
  set { p with names := (name, number) :: p.names.filter (·.1 != name) }
  return number

/-- What a tag stands for. -/
def resolveTag (t : TagName) : Reading (List Char) := do
  if t.handle.isEmpty then return t.suffix
  else
    let p ← get
    let defaults := [(['!'], ['!']), (['!', '!'], coreTag)]
    match (p.handles ++ defaults).lookup t.handle with
    | some lead => return lead ++ t.suffix
    | none => failure

/-! ## 3. Properties of a node -/

def anchor? : Reading (Option (List Char)) := do
  match ← next? with
  | some (.anchor name) =>
    drop
    return some name
  | _ => return none

def tag? : Reading (Option TagName) := do
  match ← next? with
  | some (.tag name) =>
    drop
    return some name
  | _ => return none

/-- An anchor and a tag in either order. -/
def properties : Reading (Option (List Char) × Option (List Char)) := do
  let first ← anchor?
  let tag ← tag?
  let anchor ← if first.isSome then pure first else anchor?
  let tag ← match tag with
    | some tag => (resolveTag tag).map some
    | none => pure none
  return (anchor, tag)

/-! ## 4. Nodes and collections -/

/-- Where a node stands. -/
inductive Site where
  /-- In a flow collection. -/
  | flow
  /-- In a block collection or at the root. -/
  | block
  /-- After a key or a colon of a block mapping, where a list need not be indented. -/
  | mapping
deriving DecidableEq, Repr

mutual

/-- **Reads a node.**  Something has to be written, be it only an anchor or a tag. -/
def node : Nat → Site → Reading Node
  | 0, _ => failure
  | fuel + 1, site => do
    match ← next? with
    | some (.alias name) =>
      drop
      match (← get).names.lookup name with
      | some number => return .alias number
      | none => failure
    | _ =>
      let left := (← get).tokens.length
      let (anchor, tag) ← properties
      match anchor with
      | none => content fuel site (anchor.isSome || tag.isSome) tag
      | some name =>
        let number ← nameAnchor name
        let n ← content fuel site true tag
        modify fun p => { p with nodes := (number, left, n) :: p.nodes }
        return n

/-- Reads a node after its anchor and tag.  A single `!` is no tag of a scalar. -/
def content : Nat → Site → Bool → Option (List Char) → Reading Node
  | 0, _, _, _ => failure
  | fuel + 1, site, marked, tag => do
    match ← next? with
    | some .blockEntry =>
      if site = .mapping then return .list tag (← unindentedItems fuel)
      else if marked then return .scalar tag [] true else failure
    | some (.scalar text plain) =>
      drop
      return .scalar (if tag = some ['!'] then none else tag) text plain
    | some .flowSequenceStart =>
      drop
      return .list tag (← flowItems fuel true)
    | some .flowMappingStart =>
      drop
      return .map tag (← flowEntries fuel true)
    | some .blockSequenceStart =>
      if site = .flow then
        if marked then return .scalar tag [] true else failure
      else
        drop
        return .list tag (← blockItems fuel)
    | some .blockMappingStart =>
      if site = .flow then
        if marked then return .scalar tag [] true else failure
      else
        drop
        return .map tag (← blockEntries fuel)
    | _ => if marked then return .scalar tag [] true else failure

/-- A node, or an absent one when the next token is one of those that may follow. -/
def nodeUnless : Nat → Site → List Token → Reading Node
  | 0, _, _ => failure
  | fuel + 1, site, followers => do
    match ← next? with
    | some t => if t ∈ followers then return .absent else node fuel site
    | none => node fuel site

/-- The items of a block sequence, each after a hyphen. -/
def blockItems : Nat → Reading (List Node)
  | 0 => failure
  | fuel + 1 => do
    if ← accept .blockEntry then
      let item ← nodeUnless fuel .block [.blockEntry, .blockEnd]
      return item :: (← blockItems fuel)
    else
      expect .blockEnd
      return []

/-- The items of a block sequence that is not indented. -/
def unindentedItems : Nat → Reading (List Node)
  | 0 => failure
  | fuel + 1 => do
    if ← accept .blockEntry then
      let item ← nodeUnless fuel .block [.blockEntry, .key, .value, .blockEnd]
      return item :: (← unindentedItems fuel)
    else return []

/-- The entries of a block mapping. -/
def blockEntries : Nat → Reading (List (Node × Node))
  | 0 => failure
  | fuel + 1 => do
    if ← accept .key then
      let key ← nodeUnless fuel .mapping [.key, .value, .blockEnd]
      let value ←
        if ← accept .value then nodeUnless fuel .mapping [.key, .value, .blockEnd]
        else pure .absent
      return (key, value) :: (← blockEntries fuel)
    else
      expect .blockEnd
      return []

/-- The items of a flow sequence after its bracket or after an item.  An item with a key is a
map of one entry. -/
def flowItems : Nat → Bool → Reading (List Node)
  | 0, _ => failure
  | fuel + 1, first => do
    if ← accept .flowSequenceEnd then return []
    else
      if !first then expect .flowEntry
      if ← accept .flowSequenceEnd then return []
      else if ← accept .key then
        let entry ← pairInSequence fuel
        return .map none [entry] :: (← flowItems fuel false)
      else
        let item ← node fuel .flow
        return item :: (← flowItems fuel false)

/-- An entry in a flow sequence after its indicator.  Where no key is written, the token that
follows is passed over. -/
def pairInSequence : Nat → Reading (Node × Node)
  | 0 => failure
  | fuel + 1 => do
    let key ←
      match ← next? with
      | some .value | some .flowEntry | some .flowSequenceEnd => do
        drop
        pure Node.absent
      | _ => node fuel .flow
    let value ←
      if ← accept .value then nodeUnless fuel .flow [.flowEntry, .flowSequenceEnd]
      else pure .absent
    return (key, value)

/-- The entries of a flow mapping after its brace or after an entry.  A key without an
indicator has no value. -/
def flowEntries : Nat → Bool → Reading (List (Node × Node))
  | 0, _ => failure
  | fuel + 1, first => do
    if ← accept .flowMappingEnd then return []
    else
      if !first then expect .flowEntry
      if ← accept .flowMappingEnd then return []
      else if ← accept .key then
        let key ← nodeUnless fuel .flow [.value, .flowEntry, .flowMappingEnd]
        let value ←
          if ← accept .value then nodeUnless fuel .flow [.flowEntry, .flowMappingEnd]
          else pure .absent
        return (key, value) :: (← flowEntries fuel false)
      else
        let key ← node fuel .flow
        return (key, .absent) :: (← flowEntries fuel false)

end

/-! ## 5. Documents -/

/-- The directives in front of a document: at most one version, 1.1 or 1.2, and at most one
meaning for every handle.  The Boolean says whether there were any. -/
def directives (versioned : Bool) : List Token → Progress → Option (Bool × Progress)
  | .directive (.version major minor) :: rest, p =>
    if versioned || major != 1 || (minor != 1 && minor != 2) then none
    else (directives true rest p).map fun (_, p) => (true, p)
  | .directive (.handle name lead) :: rest, p =>
    if (p.handles.lookup name).isSome then none
    else
      (directives versioned rest { p with handles := (name, lead) :: p.handles }).map
        fun (_, p) => (true, p)
  | rest, p => some (false, { p with tokens := rest })

/-- The root of a document that begins with a marker. -/
def markedRoot (fuel : Nat) : Reading Node := do
  match ← next? with
  | none | some (.directive _) | some .documentStart | some .documentEnd => return .absent
  | _ => node fuel .block

/-- The only document of a text; without one there is no root. -/
def document (fuel : Nat) : Reading (Option Node) := do
  if (← get).tokens.isEmpty then return none
  else
    let (any, p) ← directives false (← get).tokens (← get)
    set p
    let root ←
      if ← accept .documentStart then markedRoot fuel
      else if any then failure
      else node fuel .block
    -- ends of the document may follow, but no further document
    modify fun p => { p with tokens := p.tokens.dropWhile (· == .documentEnd) }
    if (← get).tokens.isEmpty then return some root else failure

end Reading

/-- The nodes with an anchor by number, the one that began last first. -/
def Progress.anchored (p : Progress) : List (Nat × Node) :=
  (p.nodes.mergeSort fun a b => a.2.1 ≤ b.2.1).map fun (number, _, n) => (number, n)

/-- **Reads the tree of a text** with at most one document; the inner `none` is a text without
a document. -/
def Tree.read? (text : List Char) : Option (Option Tree) := do
  let tokens ← tokens? text
  let (root?, p) ← (Reading.document (4 * tokens.length + 4)).run { tokens := tokens }
  return root?.map fun root => ⟨root, p.anchored⟩

end FormLogic.Yaml
