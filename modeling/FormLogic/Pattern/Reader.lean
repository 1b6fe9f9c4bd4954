import FormLogic.Pattern.Bracket

/-!
# Reading a pattern

A pattern is read from left to right with the open groups on a stack.  A group, or the whole
pattern, is a list of branches between `|`; a branch is a list of items, and a repetition
takes the last item of the branch.

A pattern may not be nested more than 250 deep, nor ask for an automaton beyond a fixed size.
-/

namespace FormLogic.Pattern

open Text (dropPrefix?)

/-! ## 1. Items and groups -/

/-- **An item of a branch.**  `height` counts the groups, repetitions, lists of branches and
lists of items that are nested in it. -/
structure Item where
  regex : Regex
  height : Nat := 0
  /-- Whether a repetition may follow: not after modes that were set from here on. -/
  repeatable : Bool := true
deriving Repr

/-- The group being read: the branches and the items before this place, last one first. -/
structure Level where
  branches : List Item := []
  items : List Item := []
deriving Repr

namespace Level

/-- Items one after another.  A single item is the branch itself. -/
def branch (l : Level) : Item :=
  match l.items with
  | [] => ⟨.empty, 0, true⟩
  | [item] => item
  | last :: before =>
    let joined := before.foldl (fun r item => .seq item.regex r) last.regex
    ⟨joined, (l.items.map Item.height).foldl max 0 + 1, true⟩

/-- The group as one item: its branches side by side. -/
def whole (l : Level) : Item :=
  match l.branches with
  | [] => l.branch
  | before =>
    let branches := l.branch :: before
    let joined := before.foldl (fun r item => .alt item.regex r) l.branch.regex
    ⟨joined, (branches.map Item.height).foldl max 0 + 1, true⟩

def add (l : Level) (item : Item) : Level := { l with items := item :: l.items }

/-- Begins the next branch. -/
def next (l : Level) : Level := ⟨l.branch :: l.branches, []⟩

/-- Repeats the last item. -/
def repeatLast? (l : Level) (least : Nat) (most : Option Nat) : Option Level :=
  match l.items with
  | [] => none
  | item :: items =>
    if item.repeatable then
      some { l with items := ⟨.times item.regex least most, item.height + 1, true⟩ :: items }
    else none

end Level

/-- **The state between two steps**: the modes in force, the names of groups so far, the group
being read, and the open groups around it with the modes to return to. -/
structure Progress where
  modes : Modes := {}
  names : List (List Char) := []
  level : Level := {}
  around : List (Level × Modes) := []
deriving Repr

/-! ## 2. Opening a group -/

/-- A character of a group's name. -/
def isNameChar (first : Bool) (c : Char) : Bool :=
  c == '_' || Trait.alphabetic.has c
    || (!first && (c == '.' || c == '[' || c == ']' || Category.number.contains c))

/-- A group's name up to its closing angle bracket. -/
def readName (cs : List Char) : Option (List Char × List Char) :=
  match cs.span (· != '>') with
  | (first :: others, _ :: rest) =>
    if isNameChar true first && others.all (isNameChar false) then some (first :: others, rest)
    else none
  | _ => none

/-- Whether what follows an opening parenthesis would look ahead or behind. -/
def looksAround (cs : List Char) : Bool :=
  [['?', '='], ['?', '!'], ['?', '<', '='], ['?', '<', '!']].any (·.isPrefixOf cs)

namespace Progress

/-- Goes into a group. -/
def enter (p : Progress) (modes : Modes) : Progress :=
  { p with modes := modes, level := {}, around := (p.level, p.modes) :: p.around }

/-- Goes into a group with a name that no group had before. -/
def enterNamed? (p : Progress) (cs : List Char) : Option (Progress × List Char) := do
  let (name, rest) ← readName cs
  if p.names.contains name then none
  else some (({ p with names := name :: p.names }).enter p.modes, rest)

/-- What follows an opening parenthesis: a group, a group with a name, or modes. -/
def openGroup? (p : Progress) (cs : List Char) : Option (Progress × List Char) :=
  let cs := p.modes.skip cs
  if looksAround cs then none
  else match dropPrefix? ['?', 'P', '<'] cs <|> dropPrefix? ['?', '<'] cs with
  | some rest => p.enterNamed? rest
  | none =>
    match cs with
    | '?' :: rest => do
      let (modes, listEnd, rest) ← p.modes.readList [] true rest
      match listEnd with
      | .fromHere =>
        return ({ p with modes := modes, level := p.level.add ⟨.empty, 0, false⟩ }, rest)
      | .inGroup => return (p.enter modes, rest)
    | _ => some (p.enter p.modes, cs)

/-- Goes out of a group, back to the modes before it. -/
def closeGroup? (p : Progress) : Option Progress :=
  match p.around with
  | [] => none
  | (level, modes) :: around =>
    let group := p.level.whole
    some { p with
      modes := modes
      level := level.add { group with height := group.height + 1, repeatable := true }
      around := around }

/-! ## 3. Repetitions -/

/-- Repeats the last item.  A question mark after the operator asks for the shortest repetition
and makes no difference to whether a text matches. -/
def repeatLast? (p : Progress) (least : Nat) (most : Option Nat) (cs : List Char) :
    Option (Progress × List Char) := do
  let level ← p.level.repeatLast? least most
  let rest := match cs with
    | '?' :: rest => rest
    | rest => rest
  return ({ p with level := level }, rest)

/-- The bounds of a repetition after its opening brace: `n`, `n,` or `n,m`. -/
def readBounds (m : Modes) (cs : List Char) : Option (Nat × Option Nat × List Char) := do
  let (least, rest) ← readCount m (m.skip cs)
  match rest with
  | '\x7d' :: rest => return (least, some least, m.skip rest)
  | ',' :: rest =>
    match m.skip rest with
    | '\x7d' :: rest => return (least, none, m.skip rest)
    | rest =>
      let (most, rest) ← readCount m rest
      match rest with
      | '\x7d' :: rest => if least ≤ most then return (least, some most, m.skip rest) else none
      | _ => none
  | _ => none

/-! ## 4. One step -/

/-- A piece as an item under the modes. -/
def itemOf? (m : Modes) : Piece → Option Item
  | .char c byte =>
    if m.unicode then some ⟨.one (m.foldCase (.char c)), 0, true⟩
    else if c.toNat < 128 then some ⟨.one (m.foldCase (.char c)), 0, true⟩
    else if byte then none
    else some ⟨.one (.char c), 0, true⟩
  | .look condition => some ⟨.look condition, 0, true⟩
  | .set chars => some ⟨.one chars, 0, true⟩

/-- All characters that `.` holds of.  Under ASCII modes it would hold of parts of characters. -/
def dot? (m : Modes) : Option CharClass :=
  if !m.unicode then none
  else if m.dotAll then some .all
  else if m.crlf then some (.complement (.ofText "A D"))
  else some (.complement (.ofText "A"))

/-- Reads what begins with the first character. -/
def step? (p : Progress) : List Char → Option (Progress × List Char)
  | [] => none
  | c :: cs =>
    let add (item : Item) : Progress := { p with level := p.level.add item }
    match c with
    | '(' => p.openGroup? cs
    | ')' => p.closeGroup?.map (·, cs)
    | '|' => some ({ p with level := p.level.next }, cs)
    | '[' => do
      let (chars, rest) ← readClass p.modes cs
      return (add ⟨.one chars, 1, true⟩, rest)
    | '?' => p.repeatLast? 0 (some 1) cs
    | '*' => p.repeatLast? 0 none cs
    | '+' => p.repeatLast? 1 none cs
    | '\x7b' => do
      let (least, most, rest) ← readBounds p.modes cs
      p.repeatLast? least most rest
    | '.' => (dot? p.modes).map fun chars => (add ⟨.one chars, 0, true⟩, cs)
    | '^' =>
      let condition := if p.modes.multiLine then .lineStart p.modes.crlf else .textStart
      some (add ⟨.look condition, 0, true⟩, cs)
    | '$' =>
      let condition := if p.modes.multiLine then .lineEnd p.modes.crlf else .textEnd
      some (add ⟨.look condition, 0, true⟩, cs)
    | c => do
      let (piece, rest) ← readPiece p.modes (c :: cs)
      return (add (← itemOf? p.modes piece), rest)

/-- Reads the rest of the pattern.  Every step takes a character, so `fuel` need only exceed
the length of the text. -/
def run? : Nat → Progress → List Char → Option Item
  | 0, _, _ => none
  | fuel + 1, p, cs =>
    match p.modes.skip cs with
    | [] => if p.around.isEmpty then some p.level.whole else none
    | cs => do
      let (p, rest) ← p.step? cs
      run? fuel p rest

end Progress

/-- The deepest nesting that is read. -/
def maxHeight : Nat := 250

/-- **Reads a pattern** in the given modes. -/
def Regex.read? (pattern : List Char) : Option Regex := do
  let item ← Progress.run? (pattern.length + 1) {} pattern
  if item.height ≤ maxHeight && item.regex.weight ≤ Regex.maxWeight then some item.regex
  else none

end FormLogic.Pattern
