import FormLogic.Text.Digit

/-!
# Sets of characters

A `CharSet` is a list of ranges of code points.  Large sets of the Unicode character database
are written as text, `41-5A 61-7A AA`, and read by `CharSet.ofText`.
-/

namespace FormLogic.Text

/-- **A set of characters** as ranges of code points, both ends included. -/
structure CharSet where
  ranges : List (Nat × Nat)
deriving DecidableEq, Repr, Inhabited

namespace CharSet

def containsCode (s : CharSet) (n : Nat) : Bool := s.ranges.any fun (lo, hi) => lo ≤ n && n ≤ hi

def contains (s : CharSet) (c : Char) : Bool := s.containsCode c.toNat

def empty : CharSet := ⟨[]⟩

/-- All code points. -/
def all : CharSet := ⟨[(0, 0x10FFFF)]⟩

def singleton (c : Char) : CharSet := ⟨[(c.toNat, c.toNat)]⟩

def union (s t : CharSet) : CharSet := ⟨s.ranges ++ t.ranges⟩

/-- The words of a text between single spaces. -/
def words (s : String) : List (List Char) := go s.toList []
where
  go : List Char → List Char → List (List Char)
    | [], word => [word.reverse]
    | c :: cs, word => if c = ' ' then word.reverse :: go cs [] else go cs (c :: word)

/-- The number written in hexadecimal digits, zero when it is none. -/
def hexWord (cs : List Char) : Nat := (hexValue? cs).getD 0

/-- Reads ranges such as `41-5A` and single code points such as `AA`, all hexadecimal, with a
space between them. -/
def ofText (s : String) : CharSet :=
  ⟨(words s).map fun word =>
    match word.span (· != '-') with
    | (lo, _ :: hi) => (hexWord lo, hexWord hi)
    | (lo, []) => (hexWord lo, hexWord lo)⟩

end CharSet

end FormLogic.Text
