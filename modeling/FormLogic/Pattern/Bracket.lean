import FormLogic.Pattern.Escape

/-!
# Bracket classes

`[…]` describes a set by its members: characters, ranges, sets with a name, and classes in
brackets of their own.  `&&`, `--` and `~~` combine what stands before them with what follows
up to the next of them, from left to right.
-/

namespace FormLogic.Pattern

/-- The ASCII sets that are named between colons. -/
def posixSets : List (String × CharClass) :=
  [("alnum", .ofText "30-39 41-5A 61-7A"), ("alpha", .ofText "41-5A 61-7A"),
   ("ascii", .ofText "0-7F"), ("blank", .ofText "9 20"), ("cntrl", .ofText "0-1F 7F"),
   ("digit", .ofText "30-39"), ("graph", .ofText "21-7E"), ("lower", .ofText "61-7A"),
   ("print", .ofText "20-7E"), ("punct", .ofText "21-2F 3A-40 5B-60 7B-7E"),
   ("space", .ofText "9-D 20"), ("upper", .ofText "41-5A"),
   ("word", .ofText "30-39 41-5A 5F 61-7A"), ("xdigit", .ofText "30-39 41-46 61-66")]

/-- A set named between colons, after its opening bracket: `:alpha:]` or `:^alpha:]`. -/
def readPosix? (cs : List Char) : Option (CharClass × Bool × List Char) := do
  let inside ← match cs with
    | ':' :: rest => some rest
    | _ => none
  let (negated, inside) := match inside with
    | '^' :: rest => (true, rest)
    | _ => (false, inside)
  match inside.span (· != ':') with
  | (name, ':' :: ']' :: rest) =>
    let (_, set) ← posixSets.find? (·.1.toList == name)
    return (set, negated, rest)
  | _ => none

/-- **An operator between sets.** -/
inductive SetOperator where
  | intersection
  | difference
  | symmetricDifference
deriving DecidableEq, Repr

/-- An operator written twice at the front of the text. -/
def SetOperator.read? : List Char → Option (SetOperator × List Char)
  | '&' :: '&' :: rest => some (intersection, rest)
  | '-' :: '-' :: rest => some (difference, rest)
  | '~' :: '~' :: rest => some (symmetricDifference, rest)
  | _ => none

def SetOperator.apply : SetOperator → CharClass → CharClass → CharClass
  | intersection => .inter
  | difference => .diff
  | symmetricDifference => .symmDiff

/-- What stands before the members being read: nothing, or a set and an operator. -/
abbrev Pending := Option (CharClass × SetOperator)

/-- The set before the operator combined with the members after it, both up to case when the
modes ask for it. -/
def Pending.combine (m : Modes) (pending : Pending) (members : CharClass) : CharClass :=
  match pending with
  | none => members
  | some (left, operator) => operator.apply (m.foldCase left) (m.foldCase members)

/-- A character as a member of a class.  ASCII modes admit ASCII characters alone. -/
def memberChar? (m : Modes) (c : Char) : Option Char :=
  if m.unicode || c.toNat < 128 then some c else none

/-- A single member of a class, or a range of characters.  A hyphen before `]` or before
another hyphen makes no range. -/
def readMember (m : Modes) (cs : List Char) : Option (CharClass × List Char) := do
  let (first, rest) ← readPiece m cs
  let rest := m.skip rest
  let single : Option (CharClass × List Char) :=
    match first with
    | .char c _ => (memberChar? m c).map fun c => (.char c, rest)
    | .set chars => some (chars, rest)
    | .look _ => none
  match rest with
  | '-' :: after =>
    match m.skip after with
    | [] => none
    | ']' :: _ | '-' :: _ => single
    | after => do
      let (last, rest) ← readPiece m after
      match first, last with
      | .char lo _, .char hi _ => do
        let lo ← memberChar? m lo
        let hi ← memberChar? m hi
        if lo ≤ hi then some (.between lo hi, rest) else none
      | _, _ => none
  | _ => single

/-- The pattern after hyphens, and whether there were any. -/
def dropHyphens (m : Modes) (cs : List Char) : Bool × List Char :=
  match cs with
  | [] => (false, [])
  | c :: rest => if c = '-' then (true, (dropHyphens m (m.skip rest)).2) else (false, c :: rest)
termination_by cs.length
decreasing_by
  have := m.length_skip_le rest
  simp only [List.length_cons]
  omega

/-- The start of a class after its bracket: whether it is negated, and the first members, since
hyphens, or else one closing bracket, stand for themselves there. -/
def readOpening (m : Modes) (cs : List Char) : Bool × CharClass × List Char :=
  let (negated, cs) := match m.skip cs with
    | '^' :: rest => (true, m.skip rest)
    | rest => (false, rest)
  match dropHyphens m cs with
  | (true, rest) => (negated, .char '-', rest)
  | (false, ']' :: rest) => (negated, .char ']', rest)
  | (false, rest) => (negated, .none, rest)

/-- Reads members up to the closing bracket.  Every step takes a character, so `fuel` need only
exceed the length of the text. -/
def readMembers (m : Modes) :
    Nat → Pending → CharClass → List Char → Option (CharClass × List Char)
  | 0, _, _, _ => none
  | fuel + 1, pending, members, cs =>
    match m.skip cs with
    | [] => none
    | ']' :: rest => some (pending.combine m members, rest)
    | '[' :: rest =>
      match readPosix? rest with
      | some (set, negated, rest) => do
        let set ← m.negate? negated (m.foldCase set)
        readMembers m fuel pending (.union members set) rest
      | none => do
        let (negated, first, rest) := readOpening m rest
        let (set, rest) ← readMembers m fuel none first rest
        let set ← m.negate? negated (m.foldCase set)
        readMembers m fuel pending (.union members set) rest
    | cs =>
      match SetOperator.read? cs with
      | some (operator, rest) =>
        readMembers m fuel (some (pending.combine m members, operator)) .none rest
      | none => do
        let (set, rest) ← readMember m cs
        readMembers m fuel pending (.union members set) rest

/-- **Reads a class** after its opening bracket. -/
def readClass (m : Modes) (cs : List Char) : Option (CharClass × List Char) := do
  let (negated, first, rest) := readOpening m cs
  let (set, rest) ← readMembers m (rest.length + 1) none first rest
  return (← m.negate? negated (m.foldCase set), rest)

end FormLogic.Pattern
