import FormLogic.Text.CharSet
import FormLogic.Pattern.Folding

/-!
# Character classes

A class is a description of a set of characters: ranges, joined, intersected, subtracted,
complemented, or closed under equality up to case.  `contains` is its meaning, and every
operation is the operation on sets that its name says.
-/

namespace FormLogic.Pattern

open Text (CharSet)

/-- **A class of characters.** -/
inductive CharClass where
  | ranges (set : CharSet)
  | union (a b : CharClass)
  | inter (a b : CharClass)
  | diff (a b : CharClass)
  | symmDiff (a b : CharClass)
  | complement (a : CharClass)
  /-- All that equals a member up to case. -/
  | folded (a : CharClass)
  /-- All that equals a member up to the case of ASCII letters. -/
  | asciiFolded (a : CharClass)
deriving Repr, Inhabited

namespace CharClass

/-- Whether a code point belongs to the class. -/
def contains : CharClass → Nat → Bool
  | ranges set, n => set.containsCode n
  | union a b, n => a.contains n || b.contains n
  | inter a b, n => a.contains n && b.contains n
  | diff a b, n => a.contains n && !b.contains n
  | symmDiff a b, n => a.contains n != b.contains n
  | complement a, n => !a.contains n
  | folded a, n => (Folding.orbit n).any fun m => a.contains m
  | asciiFolded a, n => (Folding.asciiOrbit n).any fun m => a.contains m

/-- Whether a character belongs to the class. -/
def has (a : CharClass) (c : Char) : Bool := a.contains c.toNat

/-- The number of ranges that the class is described by. -/
def rangeCount : CharClass → Nat
  | ranges set => set.ranges.length
  | union a b | inter a b | diff a b | symmDiff a b => a.rangeCount + b.rangeCount
  | complement a => a.rangeCount + 1
  | folded a | asciiFolded a => 2 * a.rangeCount

def ofText (s : String) : CharClass := ranges (.ofText s)

def none : CharClass := ranges .empty

def all : CharClass := ranges .all

def char (c : Char) : CharClass := ranges (.singleton c)

/-- The characters from one to another, both included. -/
def between (lo hi : Char) : CharClass := ranges ⟨[(lo.toNat, hi.toNat)]⟩

/-- The class itself or its complement. -/
def negatedIf (negated : Bool) (a : CharClass) : CharClass :=
  if negated then complement a else a

/-- A set with some ranges added and some taken away. -/
def edited (base : CharSet) (added taken : String) : CharClass :=
  diff (union (ranges base) (ofText added)) (ofText taken)

end CharClass

end FormLogic.Pattern
