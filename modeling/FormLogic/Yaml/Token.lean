import FormLogic.Yaml.Tag

/-!
# Tokens of a YAML text

Indentation and the keys of maps are made explicit: where a line is indented deeper a token
opens a collection, where it is indented less tokens close what was open, and a token is put
in front of a key once the colon after it is met.

A key without an indicator stands on one line and is at most 1024 characters long.  The place
where such a key may have begun is remembered, one for every flow collection that is open.
-/

namespace FormLogic.Yaml

/-- **A token.** -/
inductive Token where
  | directive (d : Directive)
  | documentStart
  | documentEnd
  | blockSequenceStart
  | blockMappingStart
  | blockEnd
  | flowSequenceStart
  | flowSequenceEnd
  | flowMappingStart
  | flowMappingEnd
  | blockEntry
  | flowEntry
  | key
  | value
  | alias (name : List Char)
  | anchor (name : List Char)
  | tag (name : TagName)
  | scalar (text : List Char) (plain : Bool)
deriving DecidableEq, Repr

/-- A place where a key may have begun: the number of tokens before it, its position, and
whether it has to turn out to be a key. -/
structure KeyPlace where
  number : Nat
  index : Nat
  line : Nat
  column : Nat
  required : Bool

/-- **The state between two tokens.**  `indent` is the column of the innermost block
collection, `-1` outside all, and `outer` those around it; `flows` has a place for a key for
every open flow collection, the innermost first, and `place?` is the one outside of them.
Tokens are kept last one first. -/
structure Scanner where
  cursor : Cursor
  tokens : List Token := []
  count : Nat := 0
  indent : Int := -1
  outer : List Int := []
  keyAllowed : Bool := true
  flow : Nat := 0
  places : List (Option KeyPlace) := [none]

namespace Scanner

/-! ## 1. Tokens and indentation -/

def inFlow (s : Scanner) : Bool := s.flow > 0

def push (s : Scanner) (t : Token) : Scanner :=
  { s with tokens := t :: s.tokens, count := s.count + 1 }

/-- Puts a token in front of those from a number on. -/
def insert (s : Scanner) (number : Nat) (t : Token) : Scanner :=
  let later := s.count - number
  { s with tokens := s.tokens.take later ++ t :: s.tokens.drop later, count := s.count + 1 }

/-- The collections that are closed when a line begins at a column: how many, and the
indentation that is left with those around it. -/
def closing (column : Int) (indent : Int) : List Int → Nat × Int × List Int
  | [] => (0, indent, [])
  | next :: outer =>
    if column < indent then
      let (n, indent, outer) := closing column next outer
      (n + 1, indent, outer)
    else (0, indent, next :: outer)

/-- Closes the block collections that are indented deeper than a column. -/
def unroll (s : Scanner) (column : Int) : Scanner :=
  if s.inFlow then s
  else
    let (n, indent, outer) := closing column s.indent s.outer
    { s with
      tokens := List.replicate n .blockEnd ++ s.tokens
      count := s.count + n
      indent := indent
      outer := outer }

/-- Opens a block collection at a column that is deeper than the indentation, in front of the
tokens from a number on. -/
def roll (s : Scanner) (column number : Nat) (opening : Token) : Scanner :=
  if s.inFlow || (column : Int) ≤ s.indent then s
  else { s.insert number opening with indent := column, outer := s.indent :: s.outer }

/-! ## 2. Keys without an indicator -/

/-- Forgets the place of a key, unless it has to be one. -/
def dropPlace? (s : Scanner) : Option Scanner :=
  match s.places with
  | some place :: places =>
    if place.required then none else some { s with places := none :: places }
  | _ => some s

/-- Remembers this place when a key may begin here. -/
def savePlace? (s : Scanner) : Option Scanner :=
  if s.keyAllowed then do
    let s ← s.dropPlace?
    let c := s.cursor
    let place : KeyPlace :=
      { number := s.count, index := c.index, line := c.line, column := c.column
        required := !s.inFlow && s.indent == c.column }
    return { s with places := some place :: s.places.tail }
  else some s

/-- Forgets the places that are on an earlier line or too far back. -/
def dropStale? (s : Scanner) : Option Scanner := do
  let check : Option KeyPlace → Option (Option KeyPlace)
    | none => some none
    | some place =>
      if place.line < s.cursor.line || place.index + 1024 < s.cursor.index then
        if place.required then none else some none
      else some (some place)
  return { s with places := ← s.places.mapM check }

/-! ## 3. Between tokens -/

/-- Skips blanks, comments and breaks.  Outside flow collections a new line may begin a key,
and a tab may not stand where one may begin. -/
def skipBetween : Nat → Scanner → Scanner
  | 0, s => s
  | fuel + 1, s =>
    let tabs := s.inFlow || !s.keyAllowed
    let c := (s.cursor.skipWhile fun x => x == ' ' || (tabs && x == '\t')).skipComment
    if c.sees isBreak then
      skipBetween fuel { s with cursor := c.takeBreak.2, keyAllowed := s.keyAllowed || !s.inFlow }
    else { s with cursor := c }

/-! ## 4. One token -/

/-- The state after an indicator of `n` characters. -/
def take (s : Scanner) (n : Nat) (t : Token) : Scanner :=
  { s with cursor := s.cursor.advance n }.push t

/-- Closes all block collections and forgets the place of a key. -/
def closeBlocks? (s : Scanner) : Option Scanner := do
  return { ← (s.unroll (-1)).dropPlace? with keyAllowed := false }

def directive? (s : Scanner) : Option Scanner := do
  let s ← s.closeBlocks?
  let (d, c) ← readDirective? s.cursor
  return { s with cursor := c }.push (.directive d)

def documentMarker? (s : Scanner) (t : Token) : Option Scanner := do
  return (← s.closeBlocks?).take 3 t

def openFlow? (s : Scanner) (t : Token) : Option Scanner := do
  let s ← s.savePlace?
  return { s with places := none :: s.places, flow := s.flow + 1, keyAllowed := true }.take 1 t

def closeFlow? (s : Scanner) (t : Token) : Option Scanner := do
  let s ← s.dropPlace?
  let s := if s.inFlow then { s with places := s.places.tail, flow := s.flow - 1 } else s
  return { s with keyAllowed := false }.take 1 t

def flowEntry? (s : Scanner) : Option Scanner := do
  return { ← s.dropPlace? with keyAllowed := true }.take 1 .flowEntry

/-- Opens a block collection at an indicator, which has to stand where a key may begin. -/
def openBlock? (s : Scanner) (opening : Token) : Option Scanner :=
  if s.inFlow then some s
  else if s.keyAllowed then some (s.roll s.cursor.column s.count opening)
  else none

def blockEntry? (s : Scanner) : Option Scanner := do
  let s ← (← s.openBlock? .blockSequenceStart).dropPlace?
  return { s with keyAllowed := true }.take 1 .blockEntry

def key? (s : Scanner) : Option Scanner := do
  let s ← (← s.openBlock? .blockMappingStart).dropPlace?
  return { s with keyAllowed := !s.inFlow }.take 1 .key

/-- A colon: it belongs to the key whose place is remembered, or else stands by itself. -/
def value? (s : Scanner) : Option Scanner :=
  match s.places with
  | some place :: places =>
    let s := (s.insert place.number .key).roll place.column place.number .blockMappingStart
    some ({ s with places := none :: places, keyAllowed := false }.take 1 .value)
  | _ => do
    let s ← s.openBlock? .blockMappingStart
    return { s with keyAllowed := !s.inFlow }.take 1 .value

/-- The state after a token that may begin a key. -/
def afterKeyPlace? (s : Scanner) (read? : Cursor → Option (Token × Cursor)) : Option Scanner := do
  let s ← s.savePlace?
  let (t, c) ← read? s.cursor
  return { s with cursor := c, keyAllowed := false }.push t

def block? (s : Scanner) (folded : Bool) : Option Scanner := do
  let s ← s.dropPlace?
  let (text, c) ← readBlock folded s.indent s.cursor
  return { s with cursor := c, keyAllowed := true }.push (.scalar text false)

def quoted? (s : Scanner) (double : Bool) : Option Scanner :=
  s.afterKeyPlace? fun c => (readQuoted double c).map fun (text, c) => (.scalar text false, c)

def plain? (s : Scanner) : Option Scanner := do
  let s ← s.savePlace?
  let (text, broken, c) ← readPlain s.inFlow (s.indent + 1).toNat s.cursor
  return { s with cursor := c, keyAllowed := broken }.push (.scalar text true)

/-- Whether a plain scalar begins with a character, `after` being the next one. -/
def beginsPlain (flow : Bool) (x : Char) (after : Option Char) : Bool :=
  !(isGap x || isBreak x || "-?:,[]\x7b\x7d#&*!|>'\"%@`".toList.contains x)
    || (x == '-' && !after.any isGap)
    || (!flow && (x == '?' || x == ':') && !endsWord after)

/-- **Reads the next token**, which begins with `x`. -/
def token? (s : Scanner) (x : Char) : Option Scanner :=
  let c := s.cursor
  let standsAlone := endsWord (c.peek? 1)
  if c.column = 0 ∧ x = '%' then s.directive?
  else if c.atMarker '-' then s.documentMarker? .documentStart
  else if c.atMarker '.' then s.documentMarker? .documentEnd
  else if x = '[' then s.openFlow? .flowSequenceStart
  else if x = '\x7b' then s.openFlow? .flowMappingStart
  else if x = ']' then s.closeFlow? .flowSequenceEnd
  else if x = '\x7d' then s.closeFlow? .flowMappingEnd
  else if x = ',' then s.flowEntry?
  else if x = '-' ∧ standsAlone then s.blockEntry?
  else if x = '?' ∧ (s.inFlow || standsAlone) then s.key?
  else if x = ':' ∧ (s.inFlow || standsAlone) then s.value?
  else if x = '*' then
    s.afterKeyPlace? fun c => (readAnchor? c).map fun (name, c) => (.alias name, c)
  else if x = '&' then
    s.afterKeyPlace? fun c => (readAnchor? c).map fun (name, c) => (.anchor name, c)
  else if x = '!' then
    s.afterKeyPlace? fun c => (readTag? s.inFlow c).map fun (tag, c) => (.tag tag, c)
  else if x = '|' ∧ !s.inFlow then s.block? false
  else if x = '>' ∧ !s.inFlow then s.block? true
  else if x = '\'' then s.quoted? false
  else if x = '"' then s.quoted? true
  else if beginsPlain s.inFlow x (c.peek? 1) then s.plain?
  else none

/-! ## 5. All tokens -/

/-- The end of the text closes all block collections. -/
def finish? (s : Scanner) : Option (List Token) := do
  return (← s.closeBlocks?).tokens.reverse

/-- Reads the tokens from here on.  Every round takes a character, so `fuel` need only exceed
the length of the text. -/
def run? : Nat → Scanner → Option (List Token)
  | 0, _ => none
  | fuel + 1, s => do
    let s ← (s.skipBetween (s.cursor.rest.length + 1)).dropStale?
    let s := s.unroll s.cursor.column
    match s.cursor.next? with
    | none => s.finish?
    | some x => run? fuel (← s.token? x)

end Scanner

/-- **The tokens of a text.** -/
def tokens? (text : List Char) : Option (List Token) := do
  let c ← Cursor.ofText? text
  Scanner.run? (c.rest.length + 1) { cursor := c }

end FormLogic.Yaml
