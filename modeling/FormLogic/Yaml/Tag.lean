import FormLogic.Yaml.Scalar

/-!
# Tags, anchors and directives

The names that stand in front of a node or of a document: `&anchor`, `*alias`, `!tag`, and the
directives `%YAML` and `%TAG`.
-/

namespace FormLogic.Yaml

open Text (isAsciiDigit decimalValue)

/-! ## 1. Anchors -/

/-- The name after `&` or `*`.  A blank, a break or one of a few indicators follows it. -/
def readAnchor? (c : Cursor) : Option (List Char × Cursor) :=
  let (name, c) := (c.advance 1).takeWhile isNameChar
  let ended := endsWord c.next? || c.sees ("?:,]\x7d%@`".toList.contains ·)
  if name.isEmpty || !ended then none else some (name, c)

/-! ## 2. Text of tags -/

/-- The bytes written as `%XX` for one character, the first of which is `b`: the character and
the number of bytes. -/
def decodeBytes? : List Nat → Option (Char × Nat)
  | b :: bytes =>
    let width := if b < 0x80 then 1 else if b / 0x20 = 0x6 then 2 else if b / 0x10 = 0xE then 3
      else if b / 0x8 = 0x1E then 4 else 0
    let others := bytes.take (width - 1)
    if width = 0 || others.length + 1 < width || others.any (· / 0x40 != 2) then none
    else
      let front := if width = 1 then b else b % (1 <<< (7 - width))
      some (Char.ofNat (others.foldl (fun n b => n * 0x40 + b % 0x40) front), width)
  | [] => none

/-- The bytes of the `%XX` at the front of a text. -/
def escapedBytes : List Char → List Nat
  | '%' :: a :: b :: cs =>
    match Text.hexDigit? a, Text.hexDigit? b with
    | some hi, some lo => (16 * hi + lo) :: escapedBytes cs
    | _, _ => []
  | _ => []

/-- The characters of a tag.  Inside angle brackets there are a few more of them. -/
def isTagChar (verbatim : Bool) (c : Char) : Bool :=
  isNameChar c || ";/?:@&=+$.!~*'()%".toList.contains c || (verbatim && ",[]".toList.contains c)

/-- The longest text of a tag; a character may be written by its bytes as `%XX`. -/
def readTagText? (verbatim : Bool) : Nat → Cursor → Option (List Char × Cursor)
  | 0, _ => none
  | fuel + 1, c =>
    match c.next? with
    | some x =>
      if !isTagChar verbatim x then some ([], c)
      else if x = '%' then do
        let (x, width) ← decodeBytes? ((escapedBytes c.rest).take 4)
        let (text, c) ← readTagText? verbatim fuel (c.advance (3 * width))
        return (x :: text, c)
      else do
        let (text, c) ← readTagText? verbatim fuel (c.advance 1)
        return (x :: text, c)
    | none => some ([], c)

/-- A handle: `!`, a name and `!` again.  The last `!` may be missing. -/
def readHandle? (c : Cursor) : Option (List Char × Cursor) :=
  if !c.isAt '!' then none
  else
    let (name, c) := (c.advance 1).takeWhile isNameChar
    if c.isAt '!' then some ('!' :: name ++ ['!'], c.advance 1) else some ('!' :: name, c)

/-- **A tag as written**: a handle that stands for the beginning of a tag, and the rest.
Without a handle the rest is the whole tag. -/
structure TagName where
  handle : List Char
  suffix : List Char
deriving DecidableEq, Repr

/-- A tag in angle brackets, from its `!` on. -/
def readVerbatimTag? (c : Cursor) : Option (TagName × Cursor) := do
  let (text, c) ← readTagText? true (c.rest.length + 1) (c.advance 2)
  if text.isEmpty || !c.isAt '>' then none else some (⟨[], text⟩, c.advance 1)

/-- A tag with a handle, or one whose handle is a single `!`; a lone `!` is a whole tag. -/
def readShortTag? (c : Cursor) : Option (TagName × Cursor) := do
  let (handle, c) ← readHandle? c
  let (text, c) ← readTagText? false (c.rest.length + 1) c
  if handle.length > 1 ∧ handle.getLast? = some '!' then
    if text.isEmpty then none else some (⟨handle, text⟩, c)
  else
    let suffix := handle.tail ++ text
    some (if suffix.isEmpty then ⟨[], ['!']⟩ else ⟨['!'], suffix⟩, c)

/-- Reads a tag.  A blank or a break follows it, or a comma inside a flow collection. -/
def readTag? (flow : Bool) (c : Cursor) : Option (TagName × Cursor) := do
  let (tag, c) ← if c.peek? 1 = some '<' then readVerbatimTag? c else readShortTag? c
  if endsWord c.next? || (flow && c.isAt ',') then some (tag, c) else none

/-! ## 3. Directives -/

/-- **A line that begins with a percent sign.** -/
inductive Directive where
  | version (major minor : Nat)
  /-- What a handle stands for. -/
  | handle (name lead : List Char)
deriving DecidableEq, Repr

/-- A number of at most nine digits. -/
def readVersionNumber? (c : Cursor) : Option (Nat × Cursor) :=
  let (digits, c) := c.takeWhile isAsciiDigit
  if digits.isEmpty || digits.length > 9 then none else some (decimalValue digits, c)

/-- What follows `%YAML`. -/
def readVersion? (c : Cursor) : Option (Directive × Cursor) := do
  let (major, c) ← readVersionNumber? (c.skipWhile isGap)
  if !c.isAt '.' then none
  else
    let (minor, c) ← readVersionNumber? (c.advance 1)
    return (.version major minor, c)

/-- What follows `%TAG`. -/
def readHandleMeaning? (c : Cursor) : Option (Directive × Cursor) := do
  let (name, c) ← readHandle? (c.skipWhile isGap)
  if name.length > 1 ∧ name.getLast? ≠ some '!' ∨ !c.sees isGap then none
  else
    let c := c.skipWhile isGap
    let (lead, c) ← readTagText? true (c.rest.length + 1) c
    if lead.isEmpty || !endsWord c.next? then none else some (.handle name lead, c)

/-- Reads a directive with the rest of its line. -/
def readDirective? (c : Cursor) : Option (Directive × Cursor) := do
  let (name, c) := (c.advance 1).takeWhile isNameChar
  if !endsWord c.next? then none
  else
    let (directive, c) ←
      if name = "YAML".toList then readVersion? c
      else if name = "TAG".toList then readHandleMeaning? c
      else none
    return (directive, ← c.finishLine?)

end FormLogic.Yaml
