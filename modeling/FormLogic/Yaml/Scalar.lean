import FormLogic.Text.Digit
import FormLogic.Yaml.Cursor

/-!
# The text of scalars

A scalar is written plainly, in quotes, or as a block.  Plain and quoted scalars may run over
several lines: a single line break becomes a space, and of more than one break the first is
dropped.  Blocks keep their line breaks (`|`) or fold them (`>`).

The readers take the place of the first character and give the text and the place after it;
they give nothing where the scalar is ill formed.  `fuel` bounds the number of rounds, each of
which takes a character.
-/

namespace FormLogic.Yaml

open Text (hexDigit? hexValue? isAsciiDigit)

/-! ## 1. What separates words -/

/-- **The blanks and breaks between two words**: the blanks before the first break, that
break, and the breaks of the blank lines after it. -/
structure Separation where
  blanks : List Char
  first? : Option (List Char)
  others : List Char

/-- What a separation stands for. -/
def Separation.text (s : Separation) : List Char :=
  match s.first? with
  | none => s.blanks
  | some ['\n'] => if s.others.isEmpty then [' '] else s.others
  | some first => first ++ s.others

/-- The breaks of blank lines from the start of a line on.  No tab may stand before column
`indent`. -/
def readBlankLines (indent : Nat) : Nat → Cursor → Option (List Char × Cursor)
  | 0, _ => none
  | fuel + 1, c =>
    let (blanks, c) := c.takeWhile isGap
    if (blanks.take indent).contains '\t' then none
    else if c.sees isBreak then do
      let (first, c) := c.takeBreak
      let (others, c) ← readBlankLines indent fuel c
      return (first ++ others, c)
    else some ([], c)

/-- Reads the blanks and breaks between two words. -/
def readSeparation (indent : Nat) (c : Cursor) : Option (Separation × Cursor) :=
  let (blanks, c) := c.takeWhile isGap
  if c.sees isBreak then do
    let (first, c) := c.takeBreak
    let (others, c) ← readBlankLines indent (c.rest.length + 1) c
    return (⟨[], some first, others⟩, c)
  else some (⟨blanks, none, []⟩, c)

/-! ## 2. Plain scalars -/

/-- The characters that end a plain scalar inside a flow collection. -/
def isFlowIndicator (c : Char) : Bool :=
  c == ',' || c == '[' || c == ']' || c == '\x7b' || c == '\x7d'

/-- A word of a plain scalar.  Inside a flow collection a colon may not touch an indicator. -/
def plainWord (flow : Bool) : List Char → Option (List Char)
  | [] => some []
  | c :: cs =>
    if isGap c || isBreak c then some []
    else if flow && c == ':' && cs.head?.any (fun d => isFlowIndicator d || d == '?') then none
    else if (c == ':' && endsWord cs.head?) || (flow && isFlowIndicator c) then some []
    else (plainWord flow cs).map (c :: ·)

/-- The words of a plain scalar from one on, and whether the scalar ends with a line break.
`text` is what was read, and `between` what separates it from the next word. -/
def plainFrom (flow : Bool) (indent : Nat) :
    Nat → List Char → Separation → Cursor → Option (List Char × Bool × Cursor)
  | 0, _, _, _ => none
  | fuel + 1, text, between, c =>
    let broken := between.first?.isSome
    if c.atDocumentMarker || c.isAt '#' then some (text, broken, c)
    else do
      let word ← plainWord flow c.rest
      let text := if word.isEmpty then text else text ++ between.text ++ word
      let broken := word.isEmpty && broken
      let c := c.advance word.length
      if c.sees fun x => isGap x || isBreak x then
        let (between, c) ← readSeparation indent c
        if !flow && c.column < indent then some (text, between.first?.isSome, c)
        else plainFrom flow indent fuel text between c
      else some (text, broken, c)

/-- **Reads a plain scalar.**  Outside flow collections its lines are indented by `indent`. -/
def readPlain (flow : Bool) (indent : Nat) (c : Cursor) : Option (List Char × Bool × Cursor) :=
  plainFrom flow indent (c.rest.length + 1) [] ⟨[], none, []⟩ c

/-! ## 3. Quoted scalars -/

/-- The character of an escape of one letter. -/
def escaped? : Char → Option Char
  | '0' => some '\x00'
  | 'a' => some '\x07'
  | 'b' => some '\x08'
  | 't' | '\t' => some '\t'
  | 'n' => some '\n'
  | 'v' => some '\x0B'
  | 'f' => some '\x0C'
  | 'r' => some '\r'
  | 'e' => some '\x1B'
  | ' ' => some ' '
  | '"' => some '"'
  | '/' => some '/'
  | '\\' => some '\\'
  | 'N' => some '\x85'
  | '_' => some '\xA0'
  | 'L' => some '\u2028'
  | 'P' => some '\u2029'
  | _ => none

/-- The number of hexadecimal digits of an escape by code point. -/
def escapeWidth? : Char → Option Nat
  | 'x' => some 2
  | 'u' => some 4
  | 'U' => some 8
  | _ => none

/-- The character that a run of hexadecimal digits of a given width stands for. -/
def codePoint? (width : Nat) (digits : List Char) : Option Char :=
  if digits.length < width then none
  else match hexValue? digits with
    | some n => if n < 0xD800 ∨ (0xDFFF < n ∧ n < 0x110000) then some (Char.ofNat n) else none
    | none => none

/-- A word inside quotes: its text, the number of characters it takes, and whether an escaped
line break ends it. -/
structure QuotedWord where
  text : List Char := []
  taken : Nat := 0
  escapedBreak : Bool := false

def QuotedWord.cons (c : Char) (taken : Nat) (w : QuotedWord) : QuotedWord :=
  { w with text := c :: w.text, taken := w.taken + taken }

/-- A word in single quotes, where a quote is written twice. -/
def singleWord : List Char → QuotedWord
  | '\'' :: '\'' :: cs => (singleWord cs).cons '\'' 2
  | '\'' :: _ => {}
  | [] => {}
  | c :: cs => if isGap c || isBreak c then {} else (singleWord cs).cons c 1

/-- A word in double quotes, with escapes. -/
def doubleWord (cs : List Char) : Option QuotedWord :=
  match cs with
  | [] => some {}
  | '"' :: _ => some {}
  | ['\\'] => none
  | '\\' :: e :: rest =>
    if isBreak e then some { taken := 1, escapedBreak := true }
    else match escaped? e, escapeWidth? e with
      | some c, _ => (doubleWord rest).map (·.cons c 2)
      | none, some width => do
        let c ← codePoint? width (rest.take width)
        return (← doubleWord (rest.drop width)).cons c (2 + width)
      | none, none => none
  | c :: rest => if isGap c || isBreak c then some {} else (doubleWord rest).map (·.cons c 1)
termination_by cs.length
decreasing_by all_goals (simp only [List.length_cons, List.length_drop]; omega)

/-- The words of a quoted scalar from one on.  A document marker may not stand in it. -/
def quotedFrom (double : Bool) : Nat → List Char → Cursor → Option (List Char × Cursor)
  | 0, _, _ => none
  | fuel + 1, text, c =>
    if c.atDocumentMarker || c.atEnd then none
    else do
      let word ← if double then doubleWord c.rest else some (singleWord c.rest)
      let text := text ++ word.text
      let c := c.advance word.taken
      if word.escapedBreak then
        let (others, c) ← readBlankLines 0 (c.rest.length + 1) c.takeBreak.2
        quotedFrom double fuel (text ++ others) c
      else if c.isAt (if double then '"' else '\'') then some (text, c.advance 1)
      else
        let (between, c) ← readSeparation 0 c
        quotedFrom double fuel (text ++ between.text) c

/-- **Reads a quoted scalar** from its quote on. -/
def readQuoted (double : Bool) (c : Cursor) : Option (List Char × Cursor) :=
  quotedFrom double (c.rest.length + 1) [] (c.advance 1)

/-! ## 4. Block scalars -/

/-- What happens to the line breaks at the end of a block. -/
inductive Chomping where
  | strip
  | clip
  | keep
deriving DecidableEq, Repr

/-- A chomping indicator. -/
def readChomping? (c : Cursor) : Option (Chomping × Cursor) :=
  match c.next? with
  | some '+' => some (.keep, c.advance 1)
  | some '-' => some (.strip, c.advance 1)
  | _ => none

/-- An indentation indicator: a digit from 1 on.  Nothing is read where no digit stands, and
zero is refused. -/
def readIncrement? (c : Cursor) : Option (Nat × Cursor) :=
  match c.next? with
  | some d =>
    if !isAsciiDigit d then some (0, c)
    else if d = '0' then none
    else some (d.toNat - '0'.toNat, c.advance 1)
  | none => some (0, c)

/-- The indicators after `|` or `>`, in either order. -/
def readBlockHeader? (c : Cursor) : Option (Chomping × Nat × Cursor) :=
  match readChomping? c with
  | some (chomping, c) => do
    let (increment, c) ← readIncrement? c
    return (chomping, increment, c)
  | none => do
    let (increment, c) ← readIncrement? c
    if increment = 0 then return (.clip, 0, c)
    else match readChomping? c with
      | some (chomping, c) => return (chomping, increment, c)
      | none => return (.clip, increment, c)

/-- The breaks of the blank lines in a block, the indentation of the next line, and the
greatest indentation met.  Without an `indent` all spaces at the front of a line are
indentation; a tab may not stand among them. -/
def blockBreaks (indent? : Option Nat) : Nat → Cursor → Option (List Char × Nat × Cursor)
  | 0, _ => none
  | fuel + 1, c =>
    let spaces := (c.rest.takeWhile (· == ' ')).length
    let c := c.advance (match indent? with
      | some indent => min spaces (indent - c.column)
      | none => spaces)
    if c.isAt '\t' && indent?.all (c.column < ·) then none
    else if c.sees isBreak then do
      let (first, after) := c.takeBreak
      let (others, deepest, after) ← blockBreaks indent? fuel after
      return (first ++ others, max c.column deepest, after)
    else some ([], c.column, c)

/-- The lines of a block from one on.  `first` is the break before the line and `others` are
the breaks of the blank lines between; a folded block joins two lines that do not begin with a
blank. -/
def blockLines (folded : Bool) (chomping : Chomping) (indent : Nat) :
    Nat → List Char → Bool → List Char → List Char → Cursor → Option (List Char × Cursor)
  | 0, _, _, _, _, _ => none
  | fuel + 1, text, afterBlank, first, others, c =>
    if c.column = indent ∧ !c.atEnd then
      let blank := c.sees isGap
      let joined :=
        if folded && first == ['\n'] && !afterBlank && !blank then
          if others.isEmpty then [' '] else []
        else first
      let (line, c) := c.takeWhile (!isBreak ·)
      let (first, c) := if c.atEnd then ([], c) else c.takeBreak
      match blockBreaks (some indent) (c.rest.length + 1) c with
      | some (breaks, _, c) =>
        let text := text ++ joined ++ others ++ line
        blockLines folded chomping indent fuel text blank first breaks c
      | none => none
    else
      let tail := match chomping with
        | .strip => []
        | .clip => first
        | .keep => first ++ others
      some (text ++ tail, c)

/-- **Reads a block scalar** from its indicator on; `parent` is the indentation around it. -/
def readBlock (folded : Bool) (parent : Int) (c : Cursor) : Option (List Char × Cursor) := do
  let (chomping, increment, c) ← readBlockHeader? (c.advance 1)
  let c ← c.finishLine?
  let around := (parent + 1).toNat
  let given? : Option Nat := if increment = 0 then none else some (parent.toNat + increment)
  let (breaks, deepest, c) ← blockBreaks given? (c.rest.length + 1) c
  let indent := given?.getD (max 1 (max around deepest))
  blockLines folded chomping indent (c.rest.length + 1) [] false [] breaks c

end FormLogic.Yaml
