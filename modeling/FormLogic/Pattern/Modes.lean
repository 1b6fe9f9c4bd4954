import FormLogic.Text.Blank
import FormLogic.Pattern.CharClass

/-!
# Modes

The modes of a pattern decide how the text of the pattern that follows is read.  A group may
set modes for its inside, and `(?…)` sets them for the rest of the group it stands in.
-/

namespace FormLogic.Pattern

open Text (isBlank)

/-- **The modes in force.** -/
structure Modes where
  ignoreCase : Bool := false
  /-- `^` and `$` hold at every line. -/
  multiLine : Bool := false
  /-- `.` holds of line feeds too. -/
  dotAll : Bool := false
  /-- Lines may end in a carriage return and a line feed. -/
  crlf : Bool := false
  /-- Blanks and comments in the pattern carry no meaning. -/
  extended : Bool := false
  /-- Classes are those of Unicode, not of ASCII. -/
  unicode : Bool := true
deriving DecidableEq, Repr, Inhabited

namespace Modes

/-- Turns the mode of a letter on or off.  The letter `U`, which exchanges greedy and lazy
repetition, makes no difference to whether a text matches. -/
def set? (m : Modes) (letter : Char) (on : Bool) : Option Modes :=
  match letter with
  | 'i' => some { m with ignoreCase := on }
  | 'm' => some { m with multiLine := on }
  | 's' => some { m with dotAll := on }
  | 'R' => some { m with crlf := on }
  | 'x' => some { m with extended := on }
  | 'u' => some { m with unicode := on }
  | 'U' => some m
  | _ => none

/-- What ends a list of mode letters. -/
inductive ListEnd where
  /-- `)`, after at least one letter: the modes hold from here on. -/
  | fromHere
  /-- `:`, the modes hold inside the group that begins. -/
  | inGroup
deriving DecidableEq, Repr

/-- Reads mode letters up to what ends them.  Letters after the one `-` are turned off; no
letter may occur twice, and `-` may not come last. -/
def readList (m : Modes) (seen : List Char) (on : Bool) :
    List Char → Option (Modes × ListEnd × List Char)
  | [] => none
  | c :: cs =>
    let dangling := seen.head? = some '-'
    if c = ')' then if seen.isEmpty ∨ dangling then none else some (m, .fromHere, cs)
    else if c = ':' then if dangling then none else some (m, .inGroup, cs)
    else if c ∈ seen then none
    else if c = '-' then readList m (c :: seen) false cs
    else match m.set? c on with
      | some m => readList m (c :: seen) on cs
      | none => none

/-- The class that a class written in the pattern stands for under the modes. -/
def foldCase (m : Modes) (a : CharClass) : CharClass :=
  if !m.ignoreCase then a else if m.unicode then .folded a else .asciiFolded a

/-- The class or its complement.  Under ASCII modes a complement would hold of parts of
characters, so there is none. -/
def negate? (m : Modes) (negated : Bool) (a : CharClass) : Option CharClass :=
  if negated && !m.unicode then none else some (a.negatedIf negated)

end Modes

/-! ## Blanks in extended mode -/

/-- The pattern after blanks and after comments, which run to the end of their line. -/
def skipBlanks (inComment : Bool) : List Char → List Char
  | [] => []
  | c :: cs =>
    if inComment then skipBlanks (c != '\n') cs
    else if isBlank c then skipBlanks false cs
    else if c = '#' then skipBlanks true cs
    else c :: cs

/-- The pattern from the next character on that carries meaning. -/
def Modes.skip (m : Modes) (cs : List Char) : List Char :=
  if m.extended then skipBlanks false cs else cs

theorem length_skipBlanks_le (inComment : Bool) (cs : List Char) :
    (skipBlanks inComment cs).length ≤ cs.length := by
  induction cs generalizing inComment with
  | nil => simp [skipBlanks]
  | cons c cs ih =>
    unfold skipBlanks
    split
    · exact Nat.le_succ_of_le (ih _)
    · split
      · exact Nat.le_succ_of_le (ih _)
      · split
        · exact Nat.le_succ_of_le (ih _)
        · simp

theorem Modes.length_skip_le (m : Modes) (cs : List Char) :
    (m.skip cs).length ≤ cs.length := by
  unfold Modes.skip
  split
  · exact length_skipBlanks_le _ _
  · simp

end FormLogic.Pattern
