import FormLogic.Scan.State

/-!
# Balanced text

Before a text is evaluated its brackets and string literals have to pair up.  `Balance.check`
walks the text with the stack of open brackets; the `Fault` it reports is the first closing
bracket that does not fit, else a string literal left open, else the innermost bracket left
open.
-/

namespace FormLogic.Scan

/-- **Why a text is not balanced.** -/
inductive Fault where
  /-- A closing bracket that nothing, or a bracket of the other kind, waits for, and the number
  of bytes of UTF-8 text before it. -/
  | unexpected (bracket : Char) (offset : Nat)
  | unterminated (quote : Char)
  | unclosed (bracket : Char)
deriving DecidableEq, Repr

/-- The text of a fault. -/
def Fault.message : Fault → String
  | .unexpected c i => "unexpected '" ++ c.toString ++ "' at offset " ++ toString i
  | .unterminated q => "unterminated " ++ q.toString ++ " string literal"
  | .unclosed c => "unclosed '" ++ c.toString ++ "'"

namespace Balance

/-- The brackets open at a place of the text, innermost first, and the quote of an open
string literal. -/
structure State where
  stack : List Char
  quote : Option Char
deriving DecidableEq, Repr

def State.start : State := ⟨[], none⟩

/-- The bracket that a closing bracket waits for. -/
def opening (c : Char) : Char := if c = ')' then '(' else '['

/-- Moves past one character; `none` at a closing bracket that does not fit. -/
def State.step? (s : State) (escaped : Bool) (c : Char) : Option State :=
  if isQuote c && !escaped then
    some { s with quote := toggle s.quote c }
  else if s.quote.isSome then
    some s
  else if c == '(' || c == '[' then
    some { s with stack := c :: s.stack }
  else if c == ')' || c == ']' then
    match s.stack with
    | top :: stack => if top = opening c then some { s with stack } else none
    | [] => none
  else
    some s

/-- What is left open at the end of a text. -/
def State.pending (s : State) : Except Fault Unit :=
  match s.quote, s.stack with
  | some q, _ => .error (.unterminated q)
  | none, top :: _ => .error (.unclosed top)
  | none, [] => .ok ()

/-- Checks the rest of a text, `offset` bytes of which lie behind. -/
def checkFrom (s : State) (escaped : Bool) (offset : Nat) : List Char → Except Fault Unit
  | [] => s.pending
  | c :: cs =>
    match s.step? escaped c with
    | some next => checkFrom next (c == '\\') (offset + c.utf8Size) cs
    | none => .error (.unexpected c offset)

/-- **Whether brackets and string literals pair up.** -/
def check (cs : List Char) : Except Fault Unit := checkFrom .start false 0 cs

end Balance

end FormLogic.Scan
