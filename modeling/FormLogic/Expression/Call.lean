import FormLogic.Scan.Split
import FormLogic.Text.Digit

/-!
# Calls

A text is a call when it is an ASCII identifier followed by one parenthesised group that ends
the text: `name(argument, ...)`.
-/

namespace FormLogic

/-- A call with the texts of its arguments. -/
structure Call where
  name : List Char
  arguments : List (List Char)
deriving DecidableEq, Repr

namespace Call

/-- **Reads a call.**  The name ends at the first opening parenthesis, and blank characters
around it do not count. -/
def ofText? (cs : List Char) : Option Call := do
  let name := Text.trim (cs.takeWhile (· != '('))
  if !Text.isIdentifier name then none
  let inside ← Scan.group? (cs.dropWhile (· != '('))
  return ⟨name, Scan.arguments inside⟩

/-- The arguments of a call are shorter than its text. -/
theorem length_lt_of_ofText? {cs a : List Char} {call : Call} (h : ofText? cs = some call)
    (ha : a ∈ call.arguments) : a.length < cs.length := by
  simp only [ofText?, Option.bind_eq_bind, Option.pure_def] at h
  split at h
  · simp at h
  · simp only [Option.bind_eq_some_iff, Option.some.injEq] at h
    obtain ⟨inside, h1, rfl⟩ := h
    have h1 := Scan.length_of_group? h1
    have h2 := Scan.length_le_of_mem_arguments ha
    have h3 := Text.length_dropWhile_le (· != '(') cs
    omega

end Call

end FormLogic
