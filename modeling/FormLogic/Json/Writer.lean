import FormLogic.Document

/-!
# Writing JSON text

Compact text: no blank characters, entries in the order of the document, and in strings only
quotes, backslashes and control characters escaped.
-/

namespace FormLogic.Json

/-- The escape of a character that cannot stand in a string as it is. -/
def escape (c : Char) : List Char :=
  if c = '"' then ['\\', '"']
  else if c = '\\' then ['\\', '\\']
  else if c = '\n' then ['\\', 'n']
  else if c = '\r' then ['\\', 'r']
  else if c = '\t' then ['\\', 't']
  else if c = '\x08' then ['\\', 'b']
  else if c = '\x0c' then ['\\', 'f']
  else if c.toNat < 0x20 then
    ['\\', 'u', '0', '0', Nat.digitChar (c.toNat / 16), Nat.digitChar (c.toNat % 16)]
  else [c]

/-- A string in quotes. -/
def writeString (s : String) : List Char := '"' :: s.toList.flatMap escape ++ ['"']

/-- A number with a fraction or an exponent; what is not finite has no JSON text but `null`. -/
def writeDouble : Binary64 → List Char
  | .finite s m => (if s then ['-'] else []) ++ Layout.json.magnitude m
  | _ => ['n', 'u', 'l', 'l']

mutual

/-- **The JSON text of a document.** -/
def write : Document → List Char
  | .null | .unreadable => ['n', 'u', 'l', 'l']
  | .bool true => ['t', 'r', 'u', 'e']
  | .bool false => ['f', 'a', 'l', 's', 'e']
  | .integer i => (if i < 0 then ['-'] else []) ++ Nat.toDigits 10 i.natAbs
  | .double x => writeDouble x
  | .string s => writeString s
  | .list items => '[' :: writeItems items ++ [']']
  | .entries es => '\x7b' :: writeEntries es ++ ['\x7d']

def writeItems : List Document → List Char
  | [] => []
  | [d] => write d
  | d :: ds => write d ++ ',' :: writeItems ds

def writeEntries : List (String × Document) → List Char
  | [] => []
  | [(key, d)] => writeString key ++ ':' :: write d
  | (key, d) :: es => writeString key ++ ':' :: write d ++ ',' :: writeEntries es

end

end FormLogic.Json
