import FormLogic.Text.Blank

/-!
# Parts of a text

Searching and cutting texts by characters.
-/

namespace FormLogic.Text

/-- Whether `part` occurs in the text. -/
def contains (part : List Char) : List Char → Bool
  | [] => part.isEmpty
  | c :: cs => part.isPrefixOf (c :: cs) || contains part cs

/-- The text with the first occurrence of `part` replaced.  Empty text occurs at the front. -/
def replaceFirst (part image cs : List Char) : List Char :=
  match dropPrefix? part cs with
  | some rest => image ++ rest
  | none =>
    match cs with
    | [] => []
    | c :: rest => c :: replaceFirst part image rest

/-- The characters from one bound to the other, in either order. -/
def between (cs : List Char) (i j : Nat) : List Char :=
  (cs.take (max i j)).drop (min i j)

end FormLogic.Text
