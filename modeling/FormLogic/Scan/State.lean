/-!
# The scanner

The structure of an expression is read off its text: an operator counts only where no bracket
and no string literal is open.  `State` says what is open at a place of the text, `State.step`
moves past one character, and `marks` tells for every character whether the text is at the
top level just after it.

A quote character opens or closes a literal unless a backslash stands right before it.  Both
kinds of bracket are counted together; whether they pair up is `Balance`'s business.
-/

namespace FormLogic.Scan

/-- **What is open at a place of the text**: the number of brackets opened and not yet closed,
negative after a stray closing bracket, and the quote of an open string literal. -/
structure State where
  depth : Int
  quote : Option Char
deriving DecidableEq, Repr

/-- The state before the first character. -/
def State.start : State := ⟨0, none⟩

def isQuote (c : Char) : Bool := c == '"' || c == '\''

/-- The open quote after a quote character that no backslash precedes: the first one opens a
literal, the same one closes it, and the other one inside it is ordinary. -/
def toggle (openQuote : Option Char) (c : Char) : Option Char :=
  match openQuote with
  | none => some c
  | some q => if q = c then none else some q

namespace State

/-- Nothing is open. -/
def atTop (s : State) : Bool := s.depth == 0 && s.quote.isNone

/-- Moves past the character `c`.  `escaped` says that a backslash stands right before it. -/
def step (s : State) (escaped : Bool) (c : Char) : State :=
  let quote := if isQuote c && !escaped then toggle s.quote c else s.quote
  if quote.isSome then
    { s with quote }
  else if c == '(' || c == '[' then
    ⟨s.depth + 1, none⟩
  else if c == ')' || c == ']' then
    ⟨s.depth - 1, none⟩
  else
    ⟨s.depth, none⟩

/-- The state after a whole text. -/
def run (s : State) (escaped : Bool) : List Char → State
  | [] => s
  | c :: cs => run (s.step escaped c) (c == '\\') cs

end State

/-- For every character, whether the text is at the top level just after it. -/
def marksFrom (s : State) (escaped : Bool) : List Char → List (Char × Bool)
  | [] => []
  | c :: cs =>
    let next := s.step escaped c
    (c, next.atTop) :: marksFrom next (c == '\\') cs

/-- The characters of a text with their marks. -/
def marks (cs : List Char) : List (Char × Bool) := marksFrom .start false cs

@[simp] theorem map_fst_marksFrom (s : State) (escaped : Bool) (cs : List Char) :
    (marksFrom s escaped cs).map Prod.fst = cs := by
  induction cs generalizing s escaped with
  | nil => rfl
  | cons c cs ih => simp [marksFrom, ih]

@[simp] theorem map_fst_marks (cs : List Char) : (marks cs).map Prod.fst = cs :=
  map_fst_marksFrom ..

end FormLogic.Scan
