/-!
# Positions in a YAML text

A `Cursor` is the text that is left with its place in lines and columns, which decide about
indentation.  A text holds printable characters, tabs and line breaks; lines end in a line
feed, a carriage return, both together, or one of the three Unicode line ends.
-/

namespace FormLogic.Yaml

/-! ## 1. Characters -/

def isBreak (c : Char) : Bool :=
  c == '\n' || c == '\r' || c == '\x85' || c == '\u2028' || c == '\u2029'

/-- A space or a tab. -/
def isGap (c : Char) : Bool := c == ' ' || c == '\t'

/-- Whether a word ends before this character, or at the end of the text. -/
def endsWord : Option Char → Bool
  | some c => isGap c || isBreak c
  | none => true

/-- What names of anchors, directives and tag handles are made of. -/
def isNameChar (c : Char) : Bool := c.isAlphanum || c == '-' || c == '_'

/-- The mark that may stand at the front of a text. -/
def byteOrderMark : Char := '\uFEFF'

/-- Whether a text may hold the character at all: no control characters but tabs and breaks. -/
def isAllowed (c : Char) : Bool :=
  let n := c.toNat
  n == 0x9 || n == 0xA || n == 0xD || (0x20 ≤ n && n ≤ 0x7E) || n == 0x85
    || (0xA0 ≤ n && n ≤ 0xFFFD) || 0x10000 ≤ n

/-! ## 2. Cursors -/

/-- **A place in a text**: what is left of it, the characters before, and the lines and
columns before, counted from zero. -/
structure Cursor where
  rest : List Char
  index : Nat := 0
  line : Nat := 0
  column : Nat := 0
deriving DecidableEq, Repr

namespace Cursor

/-- The front of a text, after the byte order mark; no cursor when a character is not allowed
in a text. -/
def ofText? (text : List Char) : Option Cursor :=
  let dropMark (cs : List Char) : List Char :=
    if cs.head? = some byteOrderMark then cs.tail else cs
  let text := dropMark (dropMark text)
  if text.all isAllowed then some { rest := text } else none

/-- The next character. -/
def next? (c : Cursor) : Option Char := c.rest.head?

/-- The character `k` after the next. -/
def peek? (c : Cursor) (k : Nat) : Option Char := c.rest[k]?

def atEnd (c : Cursor) : Bool := c.rest.isEmpty

/-- Whether the next character is one of a class. -/
def sees (c : Cursor) (p : Char → Bool) : Bool := c.next?.any p

/-- Whether the next character is a certain one. -/
def isAt (c : Cursor) (x : Char) : Bool := c.next? == some x

/-- `n` characters further on the same line. -/
def advance (c : Cursor) (n : Nat) : Cursor :=
  { c with rest := c.rest.drop n, index := c.index + n, column := c.column + n }

/-- The characters of a class up to the first of another, and the place after them. -/
def takeWhile (c : Cursor) (p : Char → Bool) : List Char × Cursor :=
  let taken := c.rest.takeWhile p
  (taken, c.advance taken.length)

/-- The place after the characters of a class. -/
def skipWhile (c : Cursor) (p : Char → Bool) : Cursor := (c.takeWhile p).2

/-- Takes a line break, and tells what it stands for in a scalar: the line and paragraph
separators stand for themselves, all others for a line feed. -/
def takeBreak (c : Cursor) : List Char × Cursor :=
  let after (n : Nat) : Cursor :=
    { rest := c.rest.drop n, index := c.index + n, line := c.line + 1, column := 0 }
  match c.rest with
  | '\r' :: '\n' :: _ => (['\n'], after 2)
  | '\u2028' :: _ => (['\u2028'], after 1)
  | '\u2029' :: _ => (['\u2029'], after 1)
  | _ => (['\n'], after 1)

/-- Whether `---` or `...` stands here on a line of its own. -/
def atMarker (c : Cursor) (mark : Char) : Bool :=
  c.column == 0 && [mark, mark, mark].isPrefixOf c.rest && endsWord (c.peek? 3)

def atDocumentMarker (c : Cursor) : Bool := c.atMarker '-' || c.atMarker '.'

/-- The place after an optional comment, which runs to the end of its line. -/
def skipComment (c : Cursor) : Cursor :=
  if c.isAt '#' then c.skipWhile (!isBreak ·) else c

/-- The place after the rest of a line that holds nothing but blanks and a comment. -/
def finishLine? (c : Cursor) : Option Cursor :=
  let c := (c.skipWhile isGap).skipComment
  if c.atEnd then some c else if c.sees isBreak then some c.takeBreak.2 else none

end Cursor

end FormLogic.Yaml
