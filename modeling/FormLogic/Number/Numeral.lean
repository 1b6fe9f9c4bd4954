import FormLogic.Number.Decimal
import FormLogic.Text.Blank
import FormLogic.Text.Digit

/-!
# Reading numbers

Two readers share one scanner for decimal literals, `Numeral.scan?`.

* `Number.lenient?` reads the longest numeric beginning of a text and ignores what follows it
  (`12px` is twelve);
* `Number.strict` reads a whole text or nothing: blank text is zero, hexadecimal integers and
  the infinities are read, anything else is `nan`.

The scanner takes a digit of any script for a digit, but only ASCII digits have a value, so a
literal with a foreign digit is found and then refused.
-/

namespace FormLogic

/-- **A decimal literal as written**: digits around an optional point, and an exponent. -/
structure Numeral where
  whole : List Char
  fraction : List Char
  exponentNegative : Bool
  exponent : List Char
deriving DecidableEq, Repr

namespace Numeral

/-- An optional sign: whether it is a minus, and what follows. -/
def scanSign : List Char → Bool × List Char
  | '-' :: cs => (true, cs)
  | '+' :: cs => (false, cs)
  | cs => (false, cs)

/-- The digits at the front and what follows them. -/
def scanDigits (cs : List Char) : List Char × List Char :=
  (cs.takeWhile Text.isDigit, cs.dropWhile Text.isDigit)

/-- `e` or `E`, an optional sign and digits; nothing is taken when there are no digits. -/
def scanExponent (cs : List Char) : (Bool × List Char) × List Char :=
  match cs with
  | [] => ((false, []), [])
  | c :: rest =>
    if c = 'e' ∨ c = 'E' then
      let (negative, afterSign) := scanSign rest
      let (digits, afterDigits) := scanDigits afterSign
      if digits.isEmpty then ((false, []), cs) else ((negative, digits), afterDigits)
    else
      ((false, []), cs)

/-- The digits around the point: `digits`, `digits.`, `digits.digits` or `.digits`. -/
def scanMantissa? (cs : List Char) : Option ((List Char × List Char) × List Char) :=
  let (whole, rest) := scanDigits cs
  match rest with
  | '.' :: afterPoint =>
    let (fraction, rest) := scanDigits afterPoint
    if whole.isEmpty && fraction.isEmpty then none else some ((whole, fraction), rest)
  | _ => if whole.isEmpty then none else some ((whole, []), rest)

/-- The longest unsigned decimal literal at the front of the text, and what follows it. -/
def scan? (cs : List Char) : Option (Numeral × List Char) := do
  let ((whole, fraction), rest) ← scanMantissa? cs
  let ((negative, exponent), rest) := scanExponent rest
  return (⟨whole, fraction, negative, exponent⟩, rest)

/-- The decimal fraction that the literal stands for, when its digits are ASCII. -/
def value? (n : Numeral) : Option Decimal :=
  if n.whole.all Text.isAsciiDigit && n.fraction.all Text.isAsciiDigit
      && n.exponent.all Text.isAsciiDigit then
    let e : Int := Text.decimalValue n.exponent
    some {
      digits := Text.decimalValue (n.whole ++ n.fraction)
      exponent := (if n.exponentNegative then -e else e) - n.fraction.length }
  else
    none

end Numeral

namespace Number

/-- The name of the infinite number. -/
def infinityName : List Char := ['I', 'n', 'f', 'i', 'n', 'i', 't', 'y']

/-- **Lenient reading.**  After leading blank characters, an optional sign and then
`Infinity` or the longest decimal literal are read, and the rest of the text is ignored.
Text that does not begin so has no number. -/
def lenient? (text : List Char) : Option Binary64 :=
  let (negative, body) := Numeral.scanSign (Text.trimStart text)
  match Text.dropPrefix? infinityName body with
  | some _ => some (.infinite negative)
  | none => do
    let (numeral, _) ← Numeral.scan? body
    return (← numeral.value?).toBinary64 negative

/-- A hexadecimal integer of at most 64 bits, with an optional plus sign. -/
def hexadecimal (digits : List Char) : Binary64 :=
  let digits := match digits with
    | '+' :: rest => rest
    | digits => digits
  match Text.hexValue? digits with
  | some n => if n < UInt64.size then .ofNat n else .nan
  | none => .nan

/-- An optionally signed decimal literal that makes up the whole text. -/
def wholeDecimal (text : List Char) : Binary64 :=
  let (negative, body) := Numeral.scanSign text
  match Numeral.scan? body with
  | some (numeral, []) =>
    match numeral.value? with
    | some d => d.toBinary64 negative
    | none => .nan
  | _ => .nan

/-- **Strict reading.**  The whole trimmed text has to be a number; blank text is zero. -/
def strict (text : List Char) : Binary64 :=
  match Text.trim text with
  | [] => .zero
  | '0' :: 'x' :: digits | '0' :: 'X' :: digits => hexadecimal digits
  | text =>
    let (negative, body) := Numeral.scanSign text
    if body = infinityName then .infinite negative else wholeDecimal text

end Number

end FormLogic
