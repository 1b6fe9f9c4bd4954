import FormLogic.Pattern.Modes
import FormLogic.Pattern.Property
import FormLogic.Pattern.Regex

/-!
# Escapes

What a backslash and the characters after it stand for: a character, a condition on a place,
or a set of characters.  A digit after a backslash would refer back to a group and stands for
nothing.
-/

namespace FormLogic.Pattern

open Text (isBlank isAsciiDigit isAsciiAlphanumeric hexDigit? hexValue? decimalValue)

/-- **The smallest piece of a pattern.** -/
inductive Piece where
  /-- A character; `byte` says that it is written as two hexadecimal digits. -/
  | char (c : Char) (byte : Bool)
  | look (condition : Look)
  | set (chars : CharClass)
deriving Repr, Inhabited

/-! ## 1. Numbers and names -/

/-- The text up to the closing brace, without what extended mode leaves out. -/
def readBraced (m : Modes) (cs : List Char) : Option (List Char × List Char) :=
  match _h : m.skip cs with
  | [] => none
  | '\x7d' :: rest => some ([], rest)
  | c :: rest => (readBraced m rest).map fun (text, rest) => (c :: text, rest)
termination_by cs.length
decreasing_by
  have := m.length_skip_le cs
  simp only [_h, List.length_cons] at this
  omega

/-- The character with a code point, when there is one. -/
def scalar? (n : Nat) : Option Char :=
  if n < 0xD800 ∨ (0xDFFF < n ∧ n < 0x110000) then some (Char.ofNat n) else none

/-- As many hexadecimal digits as asked for. -/
def readDigits (m : Modes) : Nat → List Char → Option (List Char × List Char)
  | 0, cs => some ([], cs)
  | n + 1, cs =>
    match m.skip cs with
    | c :: rest =>
      if (hexDigit? c).isSome then
        (readDigits m n rest).map fun (digits, rest) => (c :: digits, rest)
      else none
    | [] => none

/-- A code point after `x`, `u` or `U`: either `width` digits or any number in braces. -/
def readCode (m : Modes) (width : Nat) (cs : List Char) : Option (Piece × List Char) :=
  match m.skip cs with
  | '\x7b' :: rest => do
    let (digits, rest) ← readBraced m rest
    let c ← scalar? (← hexValue? digits)
    return (.char c false, rest)
  | rest => do
    let (digits, rest) ← readDigits m width rest
    let c ← scalar? (← hexValue? digits)
    return (.char c (width == 2), rest)

/-- A decimal number that fits 32 bits, with blanks around it. -/
def readCount (m : Modes) (cs : List Char) : Option (Nat × List Char) :=
  let (digits, rest) := digitsOf (cs.dropWhile isBlank)
  if digits.isEmpty || decimalValue digits ≥ UInt32.size then none
  else some (decimalValue digits, m.skip (rest.dropWhile isBlank))
where
  digitsOf (cs : List Char) : List Char × List Char :=
    match cs with
    | [] => ([], [])
    | c :: cs =>
      if isAsciiDigit c then
        let (digits, rest) := digitsOf (m.skip cs)
        (c :: digits, rest)
      else ([], c :: cs)
  termination_by cs.length
  decreasing_by
    have := m.length_skip_le cs
    simp only [List.length_cons]
    omega

/-! ## 2. Sets -/

/-- The characters of words under the modes. -/
def Modes.word (m : Modes) : CharClass :=
  if m.unicode then Trait.word else .ofText "30-39 41-5A 5F 61-7A"

/-- The sets with a letter of their own: digits, blanks and characters of words. -/
def letterSet (m : Modes) (letter : Char) : CharClass :=
  match letter with
  | 'd' => if m.unicode then .ranges Category.decimalNumber else .ofText "30-39"
  | 's' => if m.unicode then Trait.blank else .ofText "9-D 20"
  | _ => m.word

/-- A property after `p` or `P`: one letter, or a description in braces. -/
def readProperty (m : Modes) (negated : Bool) (cs : List Char) : Option (Piece × List Char) :=
  let found (inverted : Bool) (set : CharClass) : Piece :=
    .set ((m.foldCase set).negatedIf (negated != inverted))
  if !m.unicode then none
  else match m.skip cs with
  | '\x7b' :: rest => do
    let (text, rest) ← readBraced m rest
    let (set, inverted) ← Property.described? text
    return (found inverted set, rest)
  | c :: rest => do return (found false (← Property.named? [c]), rest)
  | [] => none

/-! ## 3. Conditions -/

/-- The word conditions that are named in braces after `\b`. -/
def wordCondition? (m : Modes) (name : List Char) : Option Look :=
  if name = "start".toList then some (.wordStart m.word)
  else if name = "end".toList then some (.wordEnd m.word)
  else if name = "start-half".toList then some (.wordStartHalf m.word)
  else if name = "end-half".toList then some (.wordEndHalf m.word)
  else none

/-- `\b`, and what may follow it in braces.  Braces that do not begin with a letter or a
hyphen are a repetition and left alone. -/
def readBoundary (m : Modes) (cs : List Char) : Option (Piece × List Char) :=
  let named (c : Char) : Bool := ('a' ≤ c && c ≤ 'z') || ('A' ≤ c && c ≤ 'Z') || c == '-'
  match cs with
  | '\x7b' :: inside =>
    match m.skip inside with
    | [] => none
    | c :: _ =>
      if named c then do
        let (name, rest) ← readBraced m inside
        return (.look (← wordCondition? m name), rest)
      else some (.look (.wordBoundary m.word), cs)
  | _ => some (.look (.wordBoundary m.word), cs)

/-! ## 4. All escapes -/

/-- The characters that stand for themselves after a backslash: all of ASCII but letters,
digits and the two angle brackets. -/
def isEscapable (c : Char) : Bool :=
  c.toNat < 128 && !isAsciiAlphanumeric c && c != '<' && c != '>'

/-- **Reads what follows a backslash.** -/
def readEscape (m : Modes) : List Char → Option (Piece × List Char)
  | [] => none
  | c :: cs =>
    if isEscapable c then some (.char c false, cs)
    else match c with
    | 'x' => readCode m 2 cs
    | 'u' => readCode m 4 cs
    | 'U' => readCode m 8 cs
    | 'p' => readProperty m false cs
    | 'P' => readProperty m true cs
    | 'd' | 's' | 'w' => some (.set (letterSet m c), cs)
    | 'D' | 'S' | 'W' => do
      return (.set (← m.negate? true (letterSet m c.toLower)), cs)
    | 'a' => some (.char '\x07' false, cs)
    | 'f' => some (.char '\x0C' false, cs)
    | 't' => some (.char '\t' false, cs)
    | 'n' => some (.char '\n' false, cs)
    | 'r' => some (.char '\r' false, cs)
    | 'v' => some (.char '\x0B' false, cs)
    | 'A' => some (.look .textStart, cs)
    | 'z' => some (.look .textEnd, cs)
    | 'b' => readBoundary m cs
    | 'B' => some (.look (.notWordBoundary m.word), cs)
    | '<' => some (.look (.wordStart m.word), cs)
    | '>' => some (.look (.wordEnd m.word), cs)
    | _ => none

/-- A piece that is not a bracket class: an escape or a character that stands for itself. -/
def readPiece (m : Modes) : List Char → Option (Piece × List Char)
  | [] => none
  | '\\' :: cs => readEscape m cs
  | c :: cs => some (.char c false, cs)

end FormLogic.Pattern
