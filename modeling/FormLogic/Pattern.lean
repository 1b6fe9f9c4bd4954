import FormLogic.Pattern.Reader

/-!
# Testing a text against a pattern

`test` is the yes-or-no question of the `matches` helper.  Its flags are `i`, `m` and `s`,
which set modes for the whole pattern, and `g`, `u` and `y`, which make no difference to a
single test.
-/

namespace FormLogic.Pattern

/-- The modes that flags ask for, each once, in the order of their first occurrence. -/
def flagModes? : List Char → List Char → Option (List Char)
  | [], modes => some modes.reverse
  | c :: cs, modes =>
    if c = 'i' ∨ c = 'm' ∨ c = 's' then flagModes? cs (if c ∈ modes then modes else c :: modes)
    else if c = 'g' ∨ c = 'u' ∨ c = 'y' then flagModes? cs modes
    else none

/-- The expression of a pattern with its flags.  The flags are written in front of the pattern
as modes, so that a pattern may still turn them off. -/
def regex? (pattern flags : String) : Option Regex := do
  let modes ← flagModes? flags.toList []
  Regex.read? <|
    if modes.isEmpty then pattern.toList else ['(', '?'] ++ modes ++ [')'] ++ pattern.toList

/-- **Whether some stretch of a text matches a pattern.**  Nothing matches a pattern that
cannot be read, or one with an unknown flag. -/
def test (pattern flags text : String) : Bool :=
  (regex? pattern flags).any (·.occursIn text.toList)

end FormLogic.Pattern
