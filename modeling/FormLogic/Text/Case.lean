import FormLogic.Text.CaseTable

/-!
# Upper and lower case

`upper` and `lower` map a text by the full Unicode case mappings.  They are the same in every
language; the only mapping that looks at its surroundings is that of the capital sigma, which
has a form of its own at the end of a word.
-/

namespace FormLogic.Text

/-- The lower-case form of one character.  The capital I with a dot keeps its dot. -/
def lowerChar (c : Char) : List Char :=
  if c.toNat < 128 then [c.toLower]
  else if c = 'İ' then ['i', '\u0307']
  else match CaseRow.lookup? lowerRows c.toNat with
    | some n => [Char.ofNat n]
    | none => [c]

/-- The upper-case form of one character, which may be several. -/
def upperChar (c : Char) : List Char :=
  if c.toNat < 128 then [c.toUpper]
  else match upperExpansions.find? (·.1 == c.toNat) with
    | some (_, image) => image
    | none => match CaseRow.lookup? upperRows c.toNat with
      | some n => [Char.ofNat n]
      | none => [c]

/-- Whether, after characters that case rules look past, a letter with case comes first. -/
def meetsCased (cs : List Char) : Bool :=
  match cs.dropWhile caseIgnorable.contains with
  | c :: _ => cased.contains c
  | [] => false

/-- Lower case of the rest of a text; `before` is the text behind, nearest character first.
A capital sigma that ends a word takes the final form. -/
def lowerFrom (before : List Char) : List Char → List Char
  | [] => []
  | c :: cs =>
    let image :=
      if c = 'Σ' then
        if meetsCased before && !meetsCased cs then ['ς'] else ['σ']
      else lowerChar c
    image ++ lowerFrom (c :: before) cs

def lower (s : String) : String := String.ofList (lowerFrom [] s.toList)

def upper (s : String) : String := String.ofList (s.toList.flatMap upperChar)

end FormLogic.Text
