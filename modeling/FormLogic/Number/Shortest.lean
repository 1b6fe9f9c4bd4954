import FormLogic.Number.Decimal

/-!
# The shortest decimal that reads back

Every finite binary number has a finite decimal expansion, so the numbers that round to a
magnitude lie between two integers on a common power of ten: the `Window` of the magnitude.
`Magnitude.shortest` cuts the expansion to 1, 2, ... digits and takes the first length at
which one of the two neighbours on that grid lies in the window, and of two neighbours the
nearer one.  Seventeen digits always suffice.
-/

namespace FormLogic

/-- Which of two equally near decimals is taken. -/
inductive Tie where
  | up
  | even
deriving DecidableEq, Repr

/-- **The decimals that round to one magnitude**, all counted in units of `10^scale`: the
exact value, the two ends halfway to the neighbouring magnitudes, and whether the ends
themselves still round to it. -/
structure Window where
  lower : Nat
  value : Nat
  upper : Nat
  closed : Bool
  scale : Int
deriving DecidableEq, Repr

namespace Window

/-- The window of a magnitude.  The value is `4 * significand` quarters of a step; half a step
up is two quarters, and half a step down is only one quarter just above a power of two.
A quarter is `2^(exponent - 1076)`, which is an integer times a power of ten because
`2^-k = 5^k * 10^-k`. -/
def ofMagnitude (m : Magnitude) : Window :=
  let quarter := Nat.pow 5 (1076 - m.exponent) <<< (m.exponent - 1076)
  let down := if m.significand = 1 <<< 52 ∧ m.exponent ≠ 0 then 1 else 2
  { lower := (4 * m.significand - down) * quarter
    value := 4 * m.significand * quarter
    upper := (4 * m.significand + 2) * quarter
    closed := m.significand % 2 == 0
    scale := -((1076 - m.exponent : Nat) : Int) }

/-- Whether a decimal on the window's scale rounds to its magnitude. -/
def contains (w : Window) (n : Nat) : Bool :=
  if w.closed then w.lower ≤ n && n ≤ w.upper else w.lower < n && n < w.upper

/-- The number of decimal digits of the exact value. -/
def length (w : Window) : Nat := (Nat.toDigits 10 w.value).length

/-- The nearest decimal of `count` digits in the window, when there is one.  Cutting the
value to `count` digits and adding one in the last place gives its two neighbours. -/
def withDigits? (w : Window) (tie : Tie) (count : Nat) : Option Decimal :=
  let place := w.length - count
  let step := Nat.pow 10 place
  let d := w.value / step
  let decimal (digits : Nat) : Decimal := ⟨digits, place + w.scale⟩
  let down := w.value - d * step
  let up := (d + 1) * step - w.value
  match w.contains (d * step), w.contains ((d + 1) * step) with
  | true, false => some (decimal d)
  | false, true => some (decimal (d + 1))
  | true, true =>
    if down < up then some (decimal d)
    else if up < down then some (decimal (d + 1))
    else match tie with
      | .up => some (decimal (d + 1))
      | .even => some (decimal (d + d % 2))
  | false, false => none

end Window

namespace Decimal

/-- The same decimal without trailing zeros among its digits. -/
def dropZeros (d : Decimal) : Decimal :=
  if h : d.digits ≠ 0 ∧ d.digits % 10 = 0 then
    dropZeros ⟨d.digits / 10, d.exponent + 1⟩
  else
    d
termination_by d.digits
decreasing_by omega

end Decimal

/-- **The fewest digits that read back** as the magnitude, and of those the nearest to it.
The exact expansion, which lies in the window, stands in when no cut does. -/
def Magnitude.shortest (m : Magnitude) (tie : Tie) : Decimal :=
  let w := Window.ofMagnitude m
  let cut := (List.range 17).findSome? fun n => w.withDigits? tie (n + 1)
  (cut.getD ⟨w.value, w.scale⟩).dropZeros

end FormLogic
