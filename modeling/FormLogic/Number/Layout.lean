import FormLogic.Number.Shortest

/-!
# Writing numbers

A `Layout` holds the decisions of an output format: where positional notation ends, whether
a whole number still shows a fraction, and which of two equally near decimals is written.
The language's own text of a number is `Number.format`; `Layout.json` is the layout of JSON
output.
-/

namespace FormLogic

/-- **How a format writes finite numbers.**  The point's position counts the digits before
the decimal point, and is zero or negative when zeros follow the point. -/
structure Layout where
  tie : Tie
  /-- The least position of the point that is written without an exponent. -/
  firstPlain : Int
  /-- The greatest position of the point that is written without an exponent. -/
  lastPlain : Int
  /-- Whether a whole number is written with `.0`. -/
  showFraction : Bool
deriving Repr

namespace Layout

/-- The text of numbers in expressions: plain from `1e-6` up to below `1e21`. -/
def display : Layout := ⟨.up, -5, 21, false⟩

/-- JSON output: plain from `1e-5` up to below `1e16`, a fraction always shown. -/
def json : Layout := ⟨.even, -4, 16, true⟩

/-- Positional notation of digits with the point at a position. -/
def plain (l : Layout) (digits : List Char) (point : Int) : List Char :=
  if point ≤ 0 then
    '0' :: '.' :: (List.replicate (-point).toNat '0' ++ digits)
  else if point.toNat < digits.length then
    digits.take point.toNat ++ '.' :: digits.drop point.toNat
  else
    digits ++ List.replicate (point.toNat - digits.length) '0'
      ++ (if l.showFraction then ['.', '0'] else [])

/-- Notation with an exponent: one digit before the point, and a signed power of ten. -/
def scientific (digits : List Char) (point : Int) : List Char :=
  let exponent := point - 1
  let mantissa := match digits with
    | d :: rest@(_ :: _) => d :: '.' :: rest
    | digits => digits
  mantissa ++ 'e' :: (if exponent < 0 then '-' else '+') :: Nat.toDigits 10 exponent.natAbs

/-- The text of a magnitude. -/
def magnitude (l : Layout) (m : Magnitude) : List Char :=
  if m.significand = 0 then
    if l.showFraction then ['0', '.', '0'] else ['0']
  else
    let d := m.shortest l.tie
    let digits := Nat.toDigits 10 d.digits
    let point := digits.length + d.exponent
    if l.firstPlain ≤ point ∧ point ≤ l.lastPlain then l.plain digits point
    else scientific digits point

end Layout

namespace Number

/-- **The text of a number** in the expression language: `1000`, `12.5`, `1e+21`, `NaN`,
`-Infinity`.  Zero has no sign. -/
def format : Binary64 → List Char
  | .nan => ['N', 'a', 'N']
  | .infinite s => (if s then ['-'] else []) ++ ['I', 'n', 'f', 'i', 'n', 'i', 't', 'y']
  | .finite s m =>
    (if s && m.significand != 0 then ['-'] else []) ++ Layout.display.magnitude m

end Number

end FormLogic
